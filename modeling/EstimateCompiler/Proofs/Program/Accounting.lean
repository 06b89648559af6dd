import EstimateCompiler.Proofs.Graph.Resolution
import EstimateCompiler.Proofs.Program.Emission
import EstimateCompiler.Proofs.Program.Outcome

/-!
# What a program reports and what it leaves out

The diagnostics of a program come from two passes. The pass over the nodes reports the functions
that still hold a token, in the order of the nodes. The writing of the nodes reports the
guesstimates that cannot be written, in emission order. Nothing else is reported, and every report
is made once.

A node that is not assigned has a report of the second sort, or else it says nothing: a point
without a value, or a function with nothing behind its mark. Whether this is so is read off the
guesstimate as it was before references were resolved and before the target wrote it, because
neither makes a text vanish.
-/
namespace EstimateCompiler

/-- The report about a function that still holds a token. -/
def Node.unresolved? (node : Node) : Option Diagnostic :=
  if node.kind = .function ∧ Reference.HasToken (node.expression.getD "").toList then
    some ⟨node.id, .danglingReferences (Reference.remaining (node.expression.getD ""))⟩
  else none

/-- The report about a guesstimate that cannot be written. -/
def Guesstimate.complaint? (guesstimate : Guesstimate) (id : Text) : Option Diagnostic :=
  match guesstimate.kind with
  | .data => if guesstimate.data.isNone then some ⟨id, .missingData⟩ else none
  | .uniform | .normal | .lognormal =>
      if (Bounds.parse? guesstimate.expression).isNone then
        some ⟨id, .unreadableBounds guesstimate.expression guesstimate.kind⟩
      else none
  | .point | .function => none

def Model.complaint? (model : Model) (id : Text) : Option Diagnostic :=
  (model.guesstimate? id).bind fun guesstimate => guesstimate.complaint? id

/-- A guesstimate that says nothing: a point without a value, or a function with nothing behind its
mark. -/
def Guesstimate.IsSilent (guesstimate : Guesstimate) : Prop :=
  guesstimate.kind = .point ∧ guesstimate.expression.getD "" = "" ∨
    guesstimate.kind = .function ∧ (guesstimate.expression.getD "").length ≤ 1

namespace Diagnostic

/-- The report is about a node that could not be written. -/
def IsComplaint (d : Diagnostic) : Prop :=
  d.tag = "missing_data" ∨ d.tag = "unparsable_distribution_shape"

theorem isComplaint_iff {d : Diagnostic} :
    d.IsComplaint ↔ ∀ ids, d.finding ≠ .danglingReferences ids := by
  obtain ⟨id, finding⟩ := d
  cases finding <;> simp [IsComplaint, tag]

end Diagnostic

theorem Node.diagnostics_resolve_id (names : OrderedMap Text) (node : Node) :
    (node.resolve names).diagnostics node.id = ((node.resolve names).node.unresolved?).toList := by
  rw [Node.diagnostics_resolve]
  unfold Node.unresolved?
  rw [Node.resolve_kind, Node.resolve_id]
  by_cases hkind : node.kind = .function
  · rw [Node.expression_resolve hkind, Option.getD_some, Node.dangling_resolve hkind]
    by_cases htoken : Reference.HasToken (Reference.resolve names node.body).text.toList
    · have hdangles : node.Dangles names := ⟨hkind, htoken⟩
      rw [if_pos hdangles, if_pos ⟨hkind, htoken⟩]
      rfl
    · have hclean : ¬ node.Dangles names := fun hdangles => htoken hdangles.2
      simp [hclean, htoken]
  · have hclean : ¬ node.Dangles names := fun hdangles => hkind hdangles.1
    simp [hclean, hkind]

theorem NodeMap.diagnostics_eq_filterMap {nodes : NodeMap}
    (hids : ∀ id node, nodes.get? id = some node → node.id = id) :
    nodes.diagnostics = nodes.resolved.values.filterMap Node.unresolved? := by
  rw [NodeMap.resolved, OrderedMap.values_map, List.filterMap_map, List.filterMap_eq_flatMap_toList,
    OrderedMap.values, List.flatMap_map, NodeMap.diagnostics]
  refine List.flatMap_congr fun entry hentry => ?_
  rw [← hids entry.1 entry.2 (OrderedMap.mem_entries.1 hentry), Node.diagnostics_resolve_id]
  rfl

theorem Node.complaint?_eq_some_iff {node : Node} {d : Diagnostic} :
    node.complaint? = some d ↔ node.call = .error d := by
  unfold Node.complaint?
  cases node.call <;> simp

/-- What is reported about a node that cannot be written is decided by its guesstimate. -/
theorem Guesstimate.complaint?_make (guesstimate : Guesstimate) (metric : Metric) (name : Text)
    (names : OrderedMap Text) :
    ((Node.make metric guesstimate name).resolve names).node.complaint? =
      guesstimate.complaint? metric.id := by
  obtain ⟨id, kind, expression, description, data⟩ := guesstimate
  ext d
  rw [Node.complaint?_eq_some_iff, Node.call_eq_error_iff]
  cases kind with
  | point | function => simp [Guesstimate.complaint?, Node.make, Node.resolve]
  | data | uniform | normal | lognormal =>
      simp [Guesstimate.complaint?, Node.make, Node.resolve, @eq_comm _ d]

theorem Guesstimate.complaint?_eq_some {guesstimate : Guesstimate} {id : Text} {d : Diagnostic}
    (h : guesstimate.complaint? id = some d) : d.nodeId = id ∧ d.IsComplaint := by
  obtain ⟨metric, kind, expression, description, data⟩ := guesstimate
  cases kind with
  | data =>
      obtain rfl := Option.some.inj (Option.ite_none_right_eq_some.1 h).2
      exact ⟨rfl, .inl rfl⟩
  | uniform | normal | lognormal =>
      obtain rfl := Option.some.inj (Option.ite_none_right_eq_some.1 h).2
      exact ⟨rfl, .inr rfl⟩
  | point | function => cases h

theorem Guesstimate.isVoid_iff (guesstimate : Guesstimate) (id : Text) :
    guesstimate.isVoid = true ↔ (guesstimate.complaint? id).isSome ∨ guesstimate.IsSilent := by
  obtain ⟨metric, kind, expression, description, data⟩ := guesstimate
  cases kind <;> simp [Guesstimate.isVoid, Guesstimate.complaint?, Guesstimate.IsSilent]

namespace Program

variable {target : Target} {settings : Settings} {model : Model} {program : Program}

theorem diagnostics_write (target : Target) (url : Text) (graph : Graph) (order : List Text) :
    (write target url graph order).diagnostics = graph.diagnostics ++
      ((write target url graph order).nodes.map Rendered.node).filterMap Node.complaint? := by
  rw [nodes_write, Target.map_node_renderFrom]
  simp only [write, renderAll_run]
  rfl

theorem eq_write_of_compileFor {nodes : NodeMap}
    (hnodes : NodeMap.ofModel model settings target.reserved = .ok nodes)
    (h : compileFor target settings model = .ok program) :
    nodes.refusal? settings.strict = none ∧
      program = write target model.url nodes.graph program.order := by
  rw [compileFor_of_nodes hnodes] at h
  cases hrefusal : nodes.refusal? settings.strict with
  | some error =>
      rw [hrefusal] at h
      cases h
  | none =>
      rw [hrefusal] at h
      cases hsort : nodes.edges.sort with
      | error error =>
          rw [hsort] at h
          cases h
      | ok order =>
          rw [hsort] at h
          obtain rfl := Except.ok.inj h
          exact ⟨rfl, rfl⟩

namespace Compiled

variable {nodes : NodeMap}

theorem diagnostics_eq (hcompiled : Compiled target settings model program nodes)
    (h : compileFor target settings model = .ok program) :
    program.diagnostics = nodes.diagnostics ++ program.order.filterMap model.complaint? := by
  have hwritten := (eq_write_of_compileFor hcompiled.ofModel h).2
  have hreports : program.diagnostics = nodes.diagnostics ++
      (program.nodes.map Rendered.node).filterMap Node.complaint? := by
    rw [hwritten]
    exact diagnostics_write target model.url nodes.graph program.order
  rw [hreports, ← hcompiled.map_id, List.filterMap_map, List.filterMap_map]
  congr 1
  refine List.filterMap_congr fun r hr => ?_
  obtain ⟨guesstimate, metric, name, log, hlast, heq, -⟩ := hcompiled.exists_guesstimate hr
  have hnode : r.node = ((Node.make metric guesstimate name).resolve nodes.names).node := by
    rw [heq]
    rfl
  have hid : r.node.id = metric.id := by
    rw [hnode]
    exact Node.resolve_id _ _
  rw [Function.comp_apply, Function.comp_apply, Model.complaint?, hlast, Option.bind_some, hid,
    hnode]
  exact guesstimate.complaint?_make metric name nodes.names

theorem not_mem_assigned_iff (h : Compiled target settings model program nodes)
    (htarget : target.Outspoken) {id : Text} (hid : id ∈ program.order) :
    ∃ guesstimate, model.guesstimate? id = some guesstimate ∧
      (id ∉ program.assigned ↔ guesstimate.isVoid = true) := by
  rw [← h.map_id] at hid
  obtain ⟨r, hr, rfl⟩ := List.mem_map.1 hid
  obtain ⟨guesstimate, hlast, hcode⟩ := h.hasCode_iff htarget hr
  refine ⟨guesstimate, hlast, ?_⟩
  rw [h.mem_assigned_iff hr, hcode, Bool.not_eq_false]

/-- A node of the order could not be written exactly if a report says so. -/
theorem exists_complaint_iff (hcompiled : Compiled target settings model program nodes)
    (h : compileFor target settings model = .ok program) {id : Text} (hid : id ∈ program.order) :
    (∃ d ∈ program.diagnostics, d.nodeId = id ∧ d.IsComplaint) ↔ (model.complaint? id).isSome := by
  rw [hcompiled.diagnostics_eq h]
  constructor
  · rintro ⟨d, hd, hnode, hcomplaint⟩
    rcases List.mem_append.1 hd with hpass | hwriting
    · obtain ⟨node, -, -, hfinding⟩ := NodeMap.mem_diagnostics.1 hpass
      exact absurd hfinding (Diagnostic.isComplaint_iff.1 hcomplaint _)
    · obtain ⟨other, -, hother⟩ := List.mem_filterMap.1 hwriting
      obtain ⟨guesstimate, -, hsome⟩ := Option.bind_eq_some_iff.1 hother
      have hsame : other = id := (Guesstimate.complaint?_eq_some hsome).1.symm.trans hnode
      rw [← hsame, hother]
      rfl
  · intro hsome
    obtain ⟨d, hd⟩ := Option.isSome_iff_exists.1 hsome
    obtain ⟨guesstimate, -, hcomplaint⟩ := Option.bind_eq_some_iff.1 hd
    have hmem : d ∈ program.order.filterMap model.complaint? :=
      List.mem_filterMap.2 ⟨id, hid, hd⟩
    exact ⟨d, List.mem_append_right _ hmem, Guesstimate.complaint?_eq_some hcomplaint⟩

end Compiled

/-- The reports of a program in a standard target are one for each function that still holds a
token, in the order of the nodes, and then one for each guesstimate without samples or without
bounds, in emission order. A node of the order is left out exactly if it has a report of the second
sort, or if its guesstimate says nothing. -/
theorem diagnostics_and_omissions_exact (htarget : target ∈ Registry.standard.values)
    (h : compileFor target settings model = .ok program) :
    ∃ graph, Graph.ofModel model settings target.reserved = .ok graph ∧
      program.diagnostics = graph.nodes.values.filterMap Node.unresolved? ++
        program.order.filterMap model.complaint? ∧
      ∀ id ∈ program.order,
        (id ∉ program.assigned ↔
          (∃ d ∈ program.diagnostics, d.nodeId = id ∧ d.IsComplaint) ∨
          ∃ guesstimate, model.guesstimate? id = some guesstimate ∧ guesstimate.IsSilent) := by
  obtain ⟨nodes, hcompiled⟩ := compiled_of_compileFor h
  have hpassed := (eq_write_of_compileFor hcompiled.ofModel h).1
  refine ⟨nodes.graph, Graph.ofModel_eq_ok_iff.2 ⟨nodes, hcompiled.ofModel, hpassed, rfl⟩, ?_, ?_⟩
  · rw [hcompiled.diagnostics_eq h, NodeMap.diagnostics_eq_filterMap]
    · rfl
    · intro id node hget
      exact NodeMap.id_of_get?_ofModel hcompiled.ofModel hget
  · intro id hid
    obtain ⟨guesstimate, hlast, hvoid⟩ :=
      hcompiled.not_mem_assigned_iff (Target.outspoken_of_mem_standard htarget) hid
    rw [hvoid, guesstimate.isVoid_iff id, hcompiled.exists_complaint_iff h hid, Model.complaint?,
      hlast]
    simp

/-- One node of every sort that is reported or left out, and two that are neither. -/
def patchy : Model where
  url := "u"
  metrics := [⟨"a", "Alpha"⟩, ⟨"b", "Beta"⟩, ⟨"c", "Gamma"⟩, ⟨"d", "Delta"⟩, ⟨"e", "Epsilon"⟩,
    ⟨"f", "Total"⟩]
  guesstimates := [
    ⟨"f", .function, some "=$\x7bmetric:z\x7d + $\x7bmetric:e\x7d", .text "", none⟩,
    ⟨"a", .point, some "", .text "", none⟩, ⟨"b", .data, none, .text "", none⟩,
    ⟨"c", .uniform, some "1 - 2", .text "", none⟩, ⟨"d", .function, some "=", .text "", none⟩,
    ⟨"e", .normal, some "1 to 2", .text "", none⟩]

theorem patchy_diagnostics_and_omissions :
    ∃ program, compileFor .python .standard patchy = .ok program ∧
      program.order = ["e", "f", "a", "b", "c", "d"] ∧ program.assigned = ["e", "f"] ∧
      program.diagnostics = [⟨"f", .danglingReferences ["z"]⟩, ⟨"b", .missingData⟩,
        ⟨"c", .unreadableBounds (some "1 - 2") .uniform⟩] ∧
      ∀ id ∈ program.order,
        (id ∉ program.assigned ↔
          (∃ d ∈ program.diagnostics, d.nodeId = id ∧ d.IsComplaint) ∨
          ∃ guesstimate, patchy.guesstimate? id = some guesstimate ∧ guesstimate.IsSilent) := by
  obtain ⟨program, h, horder, hassigned, hdiagnostics⟩ : ∃ program,
      compileFor .python .standard patchy = .ok program ∧
      program.order = ["e", "f", "a", "b", "c", "d"] ∧ program.assigned = ["e", "f"] ∧
      program.diagnostics = [⟨"f", .danglingReferences ["z"]⟩, ⟨"b", .missingData⟩,
        ⟨"c", .unreadableBounds (some "1 - 2") .uniform⟩] :=
    exists_ok_of_any (by decide +kernel)
  have hstandard : Target.python ∈ Registry.standard.values := List.mem_cons_self
  obtain ⟨-, -, -, homissions⟩ := diagnostics_and_omissions_exact hstandard h
  exact ⟨program, h, horder, hassigned, hdiagnostics, homissions⟩

end Program

end EstimateCompiler
