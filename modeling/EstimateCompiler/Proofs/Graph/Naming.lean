import EstimateCompiler.Graph
import EstimateCompiler.Proofs.Identifier.Shape
import EstimateCompiler.Proofs.OrderedMap

/-!
# Names of the nodes

The nodes of a model are looked at in two stages: first the nodes that the guesstimates are made
into, one for each and in their order, then the map that they are put into. In the first stage every
node is there, also one that is replaced later, and each has a name that no node before it has and
that is not reserved. In the second stage nodes only disappear, so the names in the map are a choice
of these. The name of a node that was replaced does not come back, since a name belongs to one node
of the first stage only.
-/
namespace EstimateCompiler

/-- The last guesstimate for a metric. -/
def Model.guesstimate? (model : Model) (id : Text) : Option Guesstimate :=
  model.guesstimates.reverse.find? (·.metric = id)

theorem Model.id_of_metric? {model : Model} {id : Text} {metric : Metric}
    (h : model.metric? id = some metric) : metric.id = id := by
  simpa using List.find?_some h

namespace NodeMap

/-- The nodes that guesstimates are made into, while the listed names are used. -/
def made (model : Model) (rules : NamingRules) :
    List Text → List Guesstimate → Except CompileError (List Node)
  | _, [] => .ok []
  | used, guesstimate :: rest =>
      match model.metric? guesstimate.metric with
      | none => .error (.missingMetric guesstimate.metric)
      | some metric =>
          let name := Identifier.fresh rules used metric.name
          (made model rules (name :: used) rest).map (Node.make metric guesstimate name :: ·)

def putAll (nodes : NodeMap) (list : List Node) : NodeMap :=
  list.foldl (fun nodes node => nodes.put node.id node) nodes

variable {model : Model} {rules : NamingRules} {used : List Text}

theorem extend_eq_map_made (nodes : NodeMap) (guesstimates : List Guesstimate) :
    extend model rules used nodes guesstimates =
      (made model rules used guesstimates).map nodes.putAll := by
  induction guesstimates generalizing used nodes with
  | nil => rfl
  | cons guesstimate rest ih =>
      rw [extend, made]
      cases model.metric? guesstimate.metric with
      | none => rfl
      | some metric =>
          simp only [ih]
          cases made model rules (Identifier.fresh rules used metric.name :: used) rest <;> rfl

theorem made_cons_eq_ok {guesstimate : Guesstimate} {rest : List Guesstimate} {list : List Node} :
    made model rules used (guesstimate :: rest) = .ok list ↔
      ∃ metric later, model.metric? guesstimate.metric = some metric ∧
        made model rules (Identifier.fresh rules used metric.name :: used) rest = .ok later ∧
        list = Node.make metric guesstimate (Identifier.fresh rules used metric.name) :: later := by
  rw [made]
  cases model.metric? guesstimate.metric with
  | none => simp
  | some metric =>
      cases hlater : made model rules (Identifier.fresh rules used metric.name :: used) rest with
      | error _ => simp [hlater, Except.map]
      | ok later => simp [hlater, Except.map, eq_comm]

theorem map_id_made {guesstimates : List Guesstimate} {list : List Node}
    (h : made model rules used guesstimates = .ok list) :
    list.map Node.id = guesstimates.map Guesstimate.metric := by
  induction guesstimates generalizing used list with
  | nil =>
      cases h
      rfl
  | cons guesstimate rest ih =>
      obtain ⟨metric, later, hmetric, hlater, rfl⟩ := made_cons_eq_ok.1 h
      rw [List.map_cons, List.map_cons, ih hlater]
      exact congrArg (· :: _) (Model.id_of_metric? hmetric)

/-- Every guesstimate gets a name that is an identifier, is not used and is unlike all others. -/
theorem names_made {guesstimates : List Guesstimate} {list : List Node}
    (h : made model rules used guesstimates = .ok list) :
    (list.map Node.name).Nodup ∧
      ∀ node ∈ list, node.name ∉ used ∧ Identifier.isIdentifier node.name.toList = true := by
  induction guesstimates generalizing used list with
  | nil =>
      cases h
      exact ⟨List.nodup_nil, fun _ hnode => absurd hnode List.not_mem_nil⟩
  | cons guesstimate rest ih =>
      obtain ⟨metric, later, -, hlater, rfl⟩ := made_cons_eq_ok.1 h
      obtain ⟨hnodup, hnames⟩ := ih hlater
      refine ⟨List.nodup_cons.2 ⟨?_, hnodup⟩, ?_⟩
      · intro hname
        obtain ⟨node, hnode, heq⟩ := List.mem_map.1 hname
        exact (hnames node hnode).1 (heq ▸ List.mem_cons_self)
      · intro node hnode
        rcases List.mem_cons.1 hnode with rfl | hnode
        · exact ⟨Identifier.fresh_not_mem rules used metric.name,
            Identifier.isIdentifier_fresh rules used metric.name⟩
        · obtain ⟨hfresh, hshape⟩ := hnames node hnode
          exact ⟨fun hused => hfresh (List.mem_cons_of_mem _ hused), hshape⟩

theorem made_congr {model₁ model₂ : Model} (h : model₁.metrics = model₂.metrics)
    (used : List Text) (guesstimates : List Guesstimate) :
    made model₁ rules used guesstimates = made model₂ rules used guesstimates := by
  induction guesstimates generalizing used with
  | nil => rfl
  | cons guesstimate rest ih =>
      have hmetric : model₁.metric? guesstimate.metric = model₂.metric? guesstimate.metric := by
        rw [Model.metric?, Model.metric?, h]
      simp only [made, hmetric, ih]

theorem made_append {before behind : List Guesstimate} {list : List Node}
    (h : made model rules used (before ++ behind) = .ok list) :
    ∃ first later, made model rules used before = .ok first ∧ list = first ++ later := by
  induction before generalizing used list with
  | nil => exact ⟨[], list, rfl, rfl⟩
  | cons guesstimate rest ih =>
      obtain ⟨metric, tail, hmetric, htail, rfl⟩ := made_cons_eq_ok.1 h
      obtain ⟨first, later, hfirst, rfl⟩ := ih htail
      exact ⟨_, later, made_cons_eq_ok.2 ⟨metric, first, hmetric, hfirst, rfl⟩, rfl⟩

theorem find?_made {guesstimates : List Guesstimate} {list : List Node} {id : Text} {node : Node}
    (h : made model rules used guesstimates = .ok list)
    (hnode : list.reverse.find? (·.id = id) = some node) :
    ∃ guesstimate metric, guesstimates.reverse.find? (·.metric = id) = some guesstimate ∧
      node = Node.make metric guesstimate node.name := by
  induction guesstimates generalizing used list with
  | nil =>
      cases h
      cases hnode
  | cons first rest ih =>
      obtain ⟨metric, later, hmetric, hlater, rfl⟩ := made_cons_eq_ok.1 h
      rw [List.reverse_cons, List.find?_append] at hnode ⊢
      cases hfound : later.reverse.find? (·.id = id) with
      | some last =>
          rw [hfound, Option.some_or, Option.some.injEq] at hnode
          subst hnode
          obtain ⟨guesstimate, metric, hguesstimate, hmake⟩ := ih hlater hfound
          exact ⟨guesstimate, metric, by rw [hguesstimate, Option.some_or], hmake⟩
      | none =>
          have hrest : rest.reverse.find? (·.metric = id) = none := by
            have hids : id ∉ later.map Node.id := by simpa using hfound
            rw [map_id_made hlater] at hids
            simpa using hids
          rw [hfound, Option.none_or] at hnode
          have hid := List.find?_some hnode
          obtain rfl := List.mem_singleton.1 (List.mem_of_find?_eq_some hnode)
          have hfirst : first.metric = id := by
            rw [← Model.id_of_metric? hmetric]
            exact of_decide_eq_true hid
          refine ⟨first, metric, ?_, rfl⟩
          rw [hrest, Option.none_or, List.find?_cons_of_pos (by simpa using hfirst)]

/-- Of the nodes put under an id the last one counts. -/
theorem get?_putAll (nodes : NodeMap) (list : List Node) (id : Text) :
    (nodes.putAll list).get? id = (list.reverse.find? (·.id = id)).or (nodes.get? id) := by
  induction list generalizing nodes with
  | nil => rfl
  | cons node rest ih =>
      have hput : nodes.putAll (node :: rest) = putAll (nodes.put node.id node) rest := rfl
      rw [hput, ih, OrderedMap.get?_put, List.reverse_cons, List.find?_append, Option.or_assoc]
      congr 1
      by_cases hid : node.id = id
      · simp [hid]
      · have hne : id ≠ node.id := fun h => hid h.symm
        simp [hid, hne]

variable {settings : Settings} {reserved : List Text} {nodes : NodeMap}

theorem ofModel_eq_ok :
    ofModel model settings reserved = .ok nodes ↔
      ∃ list, made model settings.naming reserved model.guesstimates = .ok list ∧
        nodes = putAll .empty list := by
  rw [ofModel, extend_eq_map_made]
  cases made model settings.naming reserved model.guesstimates <;> simp [Except.map, eq_comm]

theorem mem_of_get?_putAll {list : List Node} {id : Text} {node : Node}
    (h : (putAll .empty list).get? id = some node) : node ∈ list ∧ node.id = id := by
  rw [get?_putAll, OrderedMap.get?_empty, Option.or_none] at h
  exact ⟨List.mem_reverse.1 (List.mem_of_find?_eq_some h), by simpa using List.find?_some h⟩

theorem id_of_get?_ofModel (h : ofModel model settings reserved = .ok nodes) {id : Text}
    {node : Node} (hnode : nodes.get? id = some node) : node.id = id := by
  obtain ⟨list, -, rfl⟩ := ofModel_eq_ok.1 h
  exact (mem_of_get?_putAll hnode).2

/-- A node of a model is made of the last guesstimate for its metric. -/
theorem guesstimate?_of_get?_ofModel (h : ofModel model settings reserved = .ok nodes) {id : Text}
    {node : Node} (hnode : nodes.get? id = some node) :
    ∃ guesstimate metric, model.guesstimate? id = some guesstimate ∧
      node = Node.make metric guesstimate node.name := by
  obtain ⟨list, hmade, rfl⟩ := ofModel_eq_ok.1 h
  rw [get?_putAll, OrderedMap.get?_empty, Option.or_none] at hnode
  exact find?_made hmade hnode

theorem nodup_names_ofModel (h : ofModel model settings reserved = .ok nodes) :
    (nodes.values.map Node.name).Nodup := by
  obtain ⟨list, hmade, rfl⟩ := ofModel_eq_ok.1 h
  have hids : (putAll .empty list).values.map Node.id = (putAll .empty list).keys :=
    OrderedMap.map_values fun _ _ hnode => (mem_of_get?_putAll hnode).2
  have hvalues : (putAll .empty list).values.Nodup :=
    List.Nodup.of_map Node.id (hids ▸ (putAll .empty list).keys_nodup)
  have hsub : ∀ node ∈ (putAll .empty list).values, node ∈ list := by
    intro node hnode
    obtain ⟨id, hid⟩ := OrderedMap.mem_values.1 hnode
    exact (mem_of_get?_putAll hid).1
  refine List.Nodup.map_on ?_ hvalues
  intro first hfirst second hsecond hname
  exact List.inj_on_of_nodup_map (names_made hmade).1 (hsub first hfirst) (hsub second hsecond)
    hname

theorem name_ofModel (h : ofModel model settings reserved = .ok nodes) {node : Node}
    (hnode : node ∈ nodes.values) :
    node.name ∉ reserved ∧ Identifier.isIdentifier node.name.toList = true := by
  obtain ⟨list, hmade, rfl⟩ := ofModel_eq_ok.1 h
  obtain ⟨id, hid⟩ := OrderedMap.mem_values.1 hnode
  exact (names_made hmade).2 node (mem_of_get?_putAll hid).1

theorem isIdentifier_of_mem_names (h : ofModel model settings reserved = .ok nodes) {name : Text}
    (hname : name ∈ nodes.names.values) : Identifier.isIdentifier name.toList = true := by
  rw [NodeMap.names, OrderedMap.values_map] at hname
  obtain ⟨node, hnode, rfl⟩ := List.mem_map.1 hname
  exact (name_ofModel h hnode).2

theorem name_ne_of_replaced {first later : List Node} {replaced : Node}
    (hnodup : ((first ++ replaced :: later).map Node.name).Nodup)
    (hlater : replaced.id ∈ later.map Node.id) {node : Node}
    (hnode : node ∈ (putAll .empty (first ++ replaced :: later)).values) :
    node.name ≠ replaced.name := by
  intro hname
  obtain ⟨id, hid⟩ := OrderedMap.mem_values.1 hnode
  obtain ⟨hmem, rfl⟩ := mem_of_get?_putAll hid
  have heq : node = replaced := List.inj_on_of_nodup_map hnodup hmem (by simp) hname
  subst heq
  rw [get?_putAll, OrderedMap.get?_empty, Option.or_none, List.reverse_append, List.reverse_cons,
    List.append_assoc, List.find?_append] at hid
  obtain ⟨last, hlast⟩ : ∃ last, later.reverse.find? (·.id = node.id) = some last := by
    rw [← Option.isSome_iff_exists, List.find?_isSome]
    simpa using hlater
  rw [hlast, Option.some_or, Option.some.injEq] at hid
  have hagain : node ∈ later := hid ▸ List.mem_reverse.1 (List.mem_of_find?_eq_some hlast)
  rw [List.map_append, List.map_cons] at hnodup
  have htail := (List.nodup_append.1 hnodup).2.1
  exact (List.nodup_cons.1 htail).1 (List.mem_map_of_mem hagain)

/-- While the guesstimates are gone through, one of them gets a name. If its node is replaced later,
then no node of the model has that name. -/
theorem replaced_name_ofModel (h : ofModel model settings reserved = .ok nodes)
    {before behind : List Guesstimate} {guesstimate : Guesstimate}
    (hsplit : model.guesstimates = before ++ guesstimate :: behind)
    (hlater : guesstimate.metric ∈ behind.map Guesstimate.metric) :
    ∃ earlier replaced,
      ofModel { model with guesstimates := before ++ [guesstimate] } settings reserved =
        .ok earlier ∧
      earlier.get? guesstimate.metric = some replaced ∧
      ∀ node ∈ nodes.values, node.name ≠ replaced.name := by
  obtain ⟨list, hmade, rfl⟩ := ofModel_eq_ok.1 h
  rw [hsplit, List.append_cons] at hmade
  have hnodup := (names_made hmade).1
  have hids := map_id_made hmade
  obtain ⟨first, later, hfirst, rfl⟩ := made_append hmade
  have hfirstIds := map_id_made hfirst
  rw [List.map_append, List.map_append, hfirstIds, List.append_cancel_left_eq] at hids
  rw [List.map_append] at hfirstIds
  obtain ⟨start, single, rfl, -, hsingle⟩ := List.map_eq_append_iff.1 hfirstIds
  obtain ⟨replaced, rfl, hid⟩ := List.map_eq_singleton_iff.1 hsingle
  refine ⟨putAll .empty (start ++ [replaced]), replaced, ?_, ?_, ?_⟩
  · refine ofModel_eq_ok.2 ⟨_, ?_, rfl⟩
    rw [← hfirst]
    apply made_congr
    rfl
  · simp [get?_putAll, hid]
  · intro node hnode
    rw [← List.append_cons] at hnodup hnode
    exact name_ne_of_replaced hnodup (by rwa [hid, hids]) hnode

end NodeMap

end EstimateCompiler
