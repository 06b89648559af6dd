import EstimateCompiler.Proofs.Graph.Resolution

/-!
# Graphs without names

A node is a guesstimate with a label and a name. Forgetting the two gives the guesstimate back, and
so the nodes of a model, without labels and names, are its guesstimates: the last one for each
metric, in the place of the first. Neither the naming rules nor the reserved names have a part in
this.

Names do come into the formulas, one after the other, and each time the result is searched for the
next id. In a formula made of plain text and references nothing depends on what the names are,
though: the ids that it refers to and those that are unknown can be read off the text as it was. So
dependencies and diagnostics are those of the guesstimates.
-/
namespace EstimateCompiler

/-- The node without its label and its name. -/
def Node.guesstimate (node : Node) : Guesstimate :=
  ⟨node.id, node.kind, node.expression, node.description, node.data⟩

/-- The guesstimates by the ids of their metrics, a later one in the place of an earlier one. -/
def Model.placed (model : Model) : OrderedMap Guesstimate :=
  .ofList (model.guesstimates.map fun guesstimate => (guesstimate.metric, guesstimate))

namespace NodeMap

variable {model : Model} {settings : Settings} {reserved : List Text} {nodes : NodeMap}

theorem map_guesstimate_made {rules : NamingRules} {used : List Text}
    {guesstimates : List Guesstimate} {list : List Node}
    (h : made model rules used guesstimates = .ok list) :
    list.map Node.guesstimate = guesstimates := by
  induction guesstimates generalizing used list with
  | nil =>
      cases h
      rfl
  | cons guesstimate rest ih =>
      obtain ⟨metric, later, hmetric, hlater, rfl⟩ := made_cons_eq_ok.1 h
      have hid := Model.id_of_metric? hmetric
      rw [List.map_cons, ih hlater, Node.guesstimate, Node.make, hid]

theorem map_guesstimate_putAll (nodes : NodeMap) (list : List Node) :
    (nodes.putAll list).map Node.guesstimate =
      (list.map Node.guesstimate).foldl (fun m guesstimate => m.put guesstimate.metric guesstimate)
        (nodes.map Node.guesstimate) := by
  induction list generalizing nodes with
  | nil => rfl
  | cons node rest ih =>
      have hput : nodes.putAll (node :: rest) = putAll (nodes.put node.id node) rest := rfl
      rw [hput, ih, OrderedMap.map_put]
      rfl

/-- Without labels and names the nodes of a model are its guesstimates. -/
theorem map_guesstimate_ofModel (h : ofModel model settings reserved = .ok nodes) :
    nodes.map Node.guesstimate = model.placed := by
  obtain ⟨list, hmade, rfl⟩ := ofModel_eq_ok.1 h
  rw [map_guesstimate_putAll, map_guesstimate_made hmade, Model.placed, OrderedMap.ofList,
    List.foldl_map]
  rfl

theorem keys_ofModel (h : ofModel model settings reserved = .ok nodes) :
    nodes.keys = model.placed.keys := by
  rw [← map_guesstimate_ofModel h, OrderedMap.keys_map]

end NodeMap

namespace Guesstimate

def body (guesstimate : Guesstimate) : List Rune := (guesstimate.expression.getD "").toList.drop 1

/-- A mark with a formula behind it. -/
def IsFormula (guesstimate : Guesstimate) : Prop :=
  ∃ (mark : Rune) (formula : Formula),
    guesstimate.expression = some (Text.ofList (mark :: formula.chars))

/-- The ids among the keys that a function refers to. -/
def mentioned (keys : List Text) (guesstimate : Guesstimate) : List Text :=
  if guesstimate.kind = .function then
    keys.filter fun id => Text.occursIn (Reference.token id) guesstimate.body
  else []

/-- The ids that a function refers to and that are not among the keys. -/
def unknown (keys : List Text) (guesstimate : Guesstimate) : List Text :=
  if guesstimate.kind = .function then
    ((Reference.idsSkipping 0 guesstimate.body).filter (· ∉ keys)).eraseDups
  else []

theorem IsFormula.exists_body {guesstimate : Guesstimate} (h : guesstimate.IsFormula) :
    ∃ formula : Formula, guesstimate.body = formula.chars := by
  obtain ⟨mark, formula, hexpression⟩ := h
  refine ⟨formula, ?_⟩
  rw [body, hexpression, Option.getD_some, Text.toList_ofList, List.drop_one, List.tail_cons]

end Guesstimate

/-- What is found in a formula does not depend on the names. -/
theorem Node.resolve_formula {names : OrderedMap Text} {node : Node}
    (hids : ∀ id ∈ names.keys, .char '\x7d' ∉ id.toList)
    (hplain : ∀ name ∈ names.values, .char '\x7b' ∉ name.toList)
    (hformula : node.kind = .function → node.guesstimate.IsFormula) :
    (node.resolve names).ids = node.guesstimate.mentioned names.keys ∧
      (node.resolve names).dangling = node.guesstimate.unknown names.keys := by
  unfold Guesstimate.mentioned Guesstimate.unknown
  by_cases hkind : node.kind = .function
  · obtain ⟨formula, hchars⟩ := (hformula hkind).exists_body
    have hbody : node.body = Text.ofList formula.chars := congrArg Text.ofList hchars
    have hsame : node.guesstimate.kind = .function := hkind
    obtain ⟨htext, -, hremaining⟩ := Reference.resolve_formula hids hplain formula
    rw [if_pos hsame, if_pos hsame, Node.ids_resolve hkind, Node.dangling_resolve hkind, hbody,
      hchars, htext, hremaining, Formula.references_eq_idsSkipping]
    exact ⟨Reference.ids_resolve_formula hids hplain formula, rfl⟩
  · have hother : node.guesstimate.kind ≠ .function := hkind
    rw [if_neg hother, if_neg hother, Node.resolve, if_neg hkind]
    exact ⟨rfl, rfl⟩

namespace Model

def mentions (model : Model) : Edges :=
  model.placed.map (Guesstimate.mentioned model.placed.keys)

def danglingReports (model : Model) : List Diagnostic :=
  model.placed.entries.flatMap fun entry =>
    let ids := entry.2.unknown model.placed.keys
    if ids.isEmpty then [] else [⟨entry.1, .danglingReferences ids⟩]

/-- Functions are formulas, and ids of nodes have no closing brace. -/
structure Plain (model : Model) : Prop where
  ids : ∀ guesstimate ∈ model.guesstimates, guesstimate.metric ∈ model.metrics.map Metric.id →
    .char '\x7d' ∉ guesstimate.metric.toList
  formulas : ∀ guesstimate ∈ model.guesstimates, guesstimate.kind = .function →
    guesstimate.IsFormula

end Model

namespace NodeMap

variable {model : Model} {settings : Settings} {reserved : List Text} {nodes : NodeMap}

/-- A node is one of the guesstimates, and its metric is there. -/
theorem guesstimate_mem_of_get? (h : ofModel model settings reserved = .ok nodes) {id : Text}
    {node : Node} (hnode : nodes.get? id = some node) :
    node.guesstimate ∈ model.guesstimates ∧ id = node.guesstimate.metric ∧
      id ∈ model.metrics.map Metric.id := by
  obtain ⟨list, hmade, rfl⟩ := ofModel_eq_ok.1 h
  obtain ⟨hmem, rfl⟩ := mem_of_get?_putAll hnode
  have hguesstimate : node.guesstimate ∈ model.guesstimates := by
    rw [← map_guesstimate_made hmade]
    exact List.mem_map_of_mem hmem
  refine ⟨hguesstimate, rfl, ?_⟩
  have houtcome := made_outcome model settings.naming reserved model.guesstimates
  rw [hmade] at houtcome
  split at houtcome
  · cases houtcome
  · rename_i hmatched
    have hmetric : node.guesstimate.metric ∈ model.metrics.map Metric.id := by
      simpa using List.find?_eq_none.1 hmatched _ hguesstimate
    exact hmetric

variable (hplain : model.Plain) (h : ofModel model settings reserved = .ok nodes)
include hplain h

theorem not_close_of_mem_keys : ∀ id ∈ nodes.names.keys, .char '\x7d' ∉ id.toList := by
  intro id hid
  rw [keys_names, OrderedMap.mem_keys] at hid
  obtain ⟨node, hnode⟩ := Option.isSome_iff_exists.1 hid
  obtain ⟨hmem, rfl, hmetric⟩ := guesstimate_mem_of_get? h hnode
  exact hplain.ids _ hmem hmetric

theorem resolve_of_plain {id : Text} {node : Node} (hnode : nodes.get? id = some node) :
    (node.resolve nodes.names).ids = node.guesstimate.mentioned model.placed.keys ∧
      (node.resolve nodes.names).dangling = node.guesstimate.unknown model.placed.keys := by
  have hkeys : nodes.names.keys = model.placed.keys := by rw [keys_names, keys_ofModel h]
  rw [← hkeys]
  apply Node.resolve_formula
  · exact not_close_of_mem_keys hplain h
  · intro name hname
    exact (inert_names h name hname).not_open
  · exact hplain.formulas _ (guesstimate_mem_of_get? h hnode).1

theorem edges_of_plain : nodes.edges = model.mentions := by
  have htwoSteps : nodes.edges =
      (nodes.map Node.guesstimate).map (Guesstimate.mentioned model.placed.keys) :=
    OrderedMap.map_eq_map_map fun _ _ hnode => (resolve_of_plain hplain h hnode).1
  rw [htwoSteps, map_guesstimate_ofModel h, Model.mentions]

theorem diagnostics_of_plain : nodes.diagnostics = model.danglingReports := by
  have hentries : model.placed.entries =
      nodes.entries.map fun entry => (entry.1, entry.2.guesstimate) := by
    rw [← map_guesstimate_ofModel h]
    rfl
  rw [NodeMap.diagnostics, Model.danglingReports, hentries, List.flatMap_map]
  refine List.flatMap_congr fun entry hentry => ?_
  rw [Resolution.diagnostics, (resolve_of_plain hplain h (OrderedMap.mem_entries.1 hentry)).2]

end NodeMap

end EstimateCompiler
