import EstimateCompiler.Proofs.Graph.Reordering

/-!
# Which node a metric gets

A metric may have several guesstimates, and an id several metrics. Three rules say what becomes of
them. The node stands in the place of the first guesstimate for its id. Its label is that of the
last metric with the id, and all else is that of the last guesstimate for it. Its name is the one
that was issued for this last guesstimate, and names are issued for all guesstimates in their order:
a name that went to a guesstimate that is replaced later stays taken.

The rules meet in the list of nodes that the guesstimates are made into, one for each. It has the
guesstimates, the names issued and the ids in the same places, so the last node with an id tells
about all three.
-/
namespace EstimateCompiler

/-- The last member of a list with this key, and its place. -/
structure LastAt {α : Type} (key : α → Text) (list : List α) (id : Text) (place : Nat) (a : α) :
    Prop where
  split : ∃ before behind, list = before ++ a :: behind ∧ before.length = place ∧
    id ∉ behind.map key
  key_eq : key a = id

namespace LastAt

variable {α β : Type} {key : α → Text} {list : List α} {id : Text} {place : Nat} {a : α}

theorem of_find? (h : list.reverse.find? (fun a => key a = id) = some a) :
    ∃ place, LastAt key list id place a := by
  obtain ⟨hkey, behind, before, hsplit, hbehind⟩ := List.find?_eq_some_iff_append.1 h
  have hlist : list = before.reverse ++ a :: behind.reverse := by
    rw [← list.reverse_reverse, hsplit]
    simp
  have hlater : id ∉ behind.reverse.map key := by
    intro hmem
    obtain ⟨other, hother, heq⟩ := List.mem_map.1 hmem
    have hne := hbehind other (List.mem_reverse.1 hother)
    simp [heq] at hne
  exact ⟨before.reverse.length, ⟨_, _, hlist, rfl, hlater⟩, by simpa using hkey⟩

theorem getElem? (h : LastAt key list id place a) : list[place]? = some a := by
  obtain ⟨before, behind, rfl, rfl, -⟩ := h.split
  simp

theorem map {f : α → β} {key' : β → Text} (h : LastAt key list id place a)
    (hkey : ∀ a, key' (f a) = key a) : LastAt key' (list.map f) id place (f a) := by
  obtain ⟨before, behind, rfl, rfl, hbehind⟩ := h.split
  refine ⟨⟨before.map f, behind.map f, by simp, by simp, ?_⟩, (hkey a).trans h.key_eq⟩
  have hkeys : (behind.map f).map key' = behind.map key := by
    rw [List.map_map]
    exact List.map_congr_left fun other _ => hkey other
  rwa [hkeys]

end LastAt

/-- The names that are issued for the guesstimates of a model, one after the other. -/
def Model.issued (model : Model) (rules : NamingRules) (reserved : List Text) : List Text :=
  Identifier.freshAll rules reserved (model.guesstimates.filterMap model.label?)

namespace NodeMap

variable {model : Model} {rules : NamingRules} {used : List Text}

theorem map_name_made {guesstimates : List Guesstimate} {list : List Node}
    (h : made model rules used guesstimates = .ok list) :
    list.map Node.name = Identifier.freshAll rules used (guesstimates.filterMap model.label?) := by
  induction guesstimates generalizing used list with
  | nil =>
      cases h
      rfl
  | cons guesstimate rest ih =>
      obtain ⟨metric, later, hmetric, hlater, rfl⟩ := made_cons_eq_ok.1 h
      have hlabel : model.label? guesstimate = some metric.name := by
        rw [Model.label?, hmetric, Option.map_some]
      rw [List.filterMap_cons_some hlabel, Identifier.freshAll, List.map_cons, ih hlater]
      rfl

theorem metric?_of_mem_made {guesstimates : List Guesstimate} {list : List Node}
    (h : made model rules used guesstimates = .ok list) {node : Node} (hnode : node ∈ list) :
    ∃ metric, model.metric? node.id = some metric ∧ node.label = metric.name := by
  induction guesstimates generalizing used list with
  | nil =>
      cases h
      cases hnode
  | cons guesstimate rest ih =>
      obtain ⟨metric, later, hmetric, hlater, rfl⟩ := made_cons_eq_ok.1 h
      rcases List.mem_cons.1 hnode with rfl | hnode
      · have hid : (Node.make metric guesstimate (Identifier.fresh rules used metric.name)).id =
            guesstimate.metric := Model.id_of_metric? hmetric
        exact ⟨metric, by rw [hid, hmetric], rfl⟩
      · exact ih hlater hnode

variable {settings : Settings} {reserved : List Text} {nodes : NodeMap}

/-- The places of the nodes are those of the first guesstimates for their ids. -/
theorem keys_ofModel_eq_eraseDups (h : ofModel model settings reserved = .ok nodes) :
    nodes.keys = (model.guesstimates.map Guesstimate.metric).eraseDups := by
  rw [keys_ofModel h, Model.placed, OrderedMap.keys_ofList, List.map_map]
  rfl

/-- A node has the label of the last metric, and the contents and the name of the last guesstimate
with its id. -/
theorem lastAt_of_get?_ofModel (h : ofModel model settings reserved = .ok nodes) {id : Text}
    {node : Node} (hget : nodes.get? id = some node) :
    (∃ position metric, LastAt Metric.id model.metrics id position metric ∧
      node.label = metric.name) ∧
    ∃ place, LastAt Guesstimate.metric model.guesstimates id place node.guesstimate ∧
      (model.issued settings.naming reserved)[place]? = some node.name := by
  obtain ⟨list, hmade, rfl⟩ := ofModel_eq_ok.1 h
  obtain ⟨hmem, rfl⟩ := mem_of_get?_putAll hget
  constructor
  · obtain ⟨metric, hmetric, hlabel⟩ := metric?_of_mem_made hmade hmem
    obtain ⟨position, hposition⟩ := LastAt.of_find? hmetric
    exact ⟨position, metric, hposition, hlabel⟩
  · rw [get?_putAll, OrderedMap.get?_empty, Option.or_none] at hget
    obtain ⟨place, hplace⟩ := LastAt.of_find? hget
    have hguesstimate : LastAt Guesstimate.metric (list.map Node.guesstimate) node.id place
        node.guesstimate := hplace.map fun _ => rfl
    rw [map_guesstimate_made hmade] at hguesstimate
    refine ⟨place, hguesstimate, ?_⟩
    rw [Model.issued, ← map_name_made hmade, List.getElem?_map, hplace.getElem?, Option.map_some]

/-- The nodes of a model fail on the first guesstimate whose metric is not there. Otherwise there is
a node for each id that has a guesstimate, in the place of the first one, with the label of the last
metric with the id, the contents of the last guesstimate for it, and the name issued for that. -/
theorem first_places_last_contents (model : Model) (settings : Settings) (reserved : List Text) :
    match model.unmatched? with
    | some guesstimate =>
        ofModel model settings reserved = .error (.missingMetric guesstimate.metric)
    | none =>
        ∃ nodes, ofModel model settings reserved = .ok nodes ∧
          nodes.keys = (model.guesstimates.map Guesstimate.metric).eraseDups ∧
          ∀ id ∈ nodes.keys, ∃ metric guesstimate name place position,
            LastAt Metric.id model.metrics id position metric ∧
            LastAt Guesstimate.metric model.guesstimates id place guesstimate ∧
            (model.issued settings.naming reserved)[place]? = some name ∧
            nodes.get? id = some
              { id
                label := metric.name
                name
                kind := guesstimate.kind
                expression := guesstimate.expression
                description := guesstimate.description
                data := guesstimate.data } := by
  cases hunmatched : model.unmatched? with
  | some guesstimate => exact ofModel_of_unmatched hunmatched settings reserved
  | none =>
      obtain ⟨nodes, hnodes⟩ := exists_ofModel hunmatched settings reserved
      refine ⟨nodes, hnodes, keys_ofModel_eq_eraseDups hnodes, fun id hid => ?_⟩
      obtain ⟨node, hget⟩ := Option.isSome_iff_exists.1 ((nodes.mem_keys id).1 hid)
      obtain ⟨⟨position, metric, hmetric, hlabel⟩, place, hguesstimate, hname⟩ :=
        lastAt_of_get?_ofModel hnodes hget
      refine ⟨metric, node.guesstimate, node.name, place, position, hmetric, hguesstimate, hname,
        ?_⟩
      rw [hget, ← hlabel, ← id_of_get?_ofModel hnodes hget]
      rfl

example :
    (ofModel ⟨"", [⟨"a", "Income"⟩, ⟨"b", "Cost"⟩, ⟨"a", "Cost"⟩],
        [⟨"a", .point, some "1", .null, none⟩, ⟨"b", .point, some "2", .null, none⟩,
          ⟨"a", .point, some "3", .null, none⟩]⟩ .standard []).toOption.map OrderedMap.entries =
      some [(("a" : Text), ⟨"a", "Cost", "cost_2_2", .point, some "3", .null, none⟩),
        ("b", ⟨"b", "Cost", "cost_2", .point, some "2", .null, none⟩)] := by
  decide +kernel

end NodeMap

end EstimateCompiler
