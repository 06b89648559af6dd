import EstimateCompiler.Proofs.Program.Writing
import EstimateCompiler.Proofs.Target.Answers

/-!
# What a program assigns

A program assigns the nodes that have code, in emission order. No name is assigned twice, because
the nodes of a model have different names. As to dependencies, the emission order puts them before
the nodes that need them, and leaving out the nodes without code keeps the order of the others. It
may leave out a dependency, though. Whether a node has code is decided by its guesstimate alone, so
the model tells which assignments are missing: those of the metrics with a void guesstimate. A
formula that needs such a metric is assigned all the same.
-/
namespace EstimateCompiler

theorem Target.Outspoken.hasCode_render {target : Target} (h : target.Outspoken) (edges : Edges)
    (log : List Call) (node : Node) :
    (target.render edges log node).assignment.hasCode = true ↔
      ∃ call, node.call = .ok (some call) ∧ call.isEmpty = false := by
  unfold Assignment.hasCode Rendered.assignment Target.render Target.written
  cases hcall : node.call with
  | error diagnostic => simp
  | ok asked =>
      cases asked with
      | none => simp
      | some call =>
          have hanswer := h log call
          simp only [Call.getD_code, bne_iff_ne, ne_eq, hanswer, Except.ok.injEq,
            Option.some.injEq, exists_eq_left', Bool.not_eq_true]

namespace Program

variable {target : Target} {settings : Settings} {model : Model} {program : Program}

theorem nodup_emitted_names (h : compileFor target settings model = .ok program) :
    (program.emitted.map fun r => r.node.name).Nodup := by
  obtain ⟨nodes, hcompiled⟩ := compiled_of_compileFor h
  have hsub : program.emitted.Sublist program.nodes := List.filter_sublist
  exact hcompiled.nodup_names.sublist (hsub.map _)

/-- Names are identifiers, pairwise different and not reserved. A name that was given to a
guesstimate whose node another one replaced later is not used again. So a program assigns no name
twice. -/
theorem names_distinct_unreserved_identifiers (model : Model) (settings : Settings) :
    (∀ reserved nodes, NodeMap.ofModel model settings reserved = .ok nodes →
      (nodes.values.map Node.name).Nodup ∧
      (∀ node ∈ nodes.values,
        node.name ∉ reserved ∧ Identifier.isIdentifier node.name.toList = true) ∧
      ∀ before guesstimate behind, model.guesstimates = before ++ guesstimate :: behind →
        guesstimate.metric ∈ behind.map Guesstimate.metric →
        ∃ earlier replaced,
          NodeMap.ofModel { model with guesstimates := before ++ [guesstimate] } settings reserved =
            .ok earlier ∧
          earlier.get? guesstimate.metric = some replaced ∧
          ∀ node ∈ nodes.values, node.name ≠ replaced.name) ∧
    (∀ target program, compileFor target settings model = .ok program →
      (program.emitted.map fun r => r.node.name).Nodup) ∧
    ∀ registry name program, compile registry name settings model = .ok program →
      (program.emitted.map fun r => r.node.name).Nodup := by
  refine ⟨?_, fun target program h => nodup_emitted_names h, ?_⟩
  · intro reserved nodes h
    refine ⟨NodeMap.nodup_names_ofModel h, fun node hnode => NodeMap.name_ofModel h hnode, ?_⟩
    intro before guesstimate behind hsplit hlater
    exact NodeMap.replaced_name_ofModel h hsplit hlater
  · intro registry name program h
    obtain ⟨target, -, h⟩ := compileFor_of_compile h
    exact nodup_emitted_names h

/-- Labels that give the same identifier, one that gives a candidate of the others, and a metric
with two guesstimates. -/
def crowded : Model where
  url := ""
  metrics := [⟨"a", "Foo"⟩, ⟨"b", "foo"⟩, ⟨"c", "foo 2"⟩]
  guesstimates := [
    ⟨"a", .point, some "1", .text "", none⟩, ⟨"b", .point, some "2", .text "", none⟩,
    ⟨"c", .point, some "3", .text "", none⟩, ⟨"a", .function, some "=1", .text "", none⟩]

theorem crowded_names_distinct :
    ∃ nodes program,
      NodeMap.ofModel crowded .standard ["foo_2"] = .ok nodes ∧
      nodes.values.map Node.name = ["foo_2_2_3", "foo_2_2", "foo_2_2_2"] ∧
      (nodes.values.map Node.name).Nodup ∧
      (∃ earlier replaced,
        NodeMap.ofModel { crowded with guesstimates := crowded.guesstimates.take 1 } .standard
          ["foo_2"] = .ok earlier ∧
        earlier.get? "a" = some replaced ∧ ∀ node ∈ nodes.values, node.name ≠ replaced.name) ∧
      compileFor .squiggle .standard crowded = .ok program ∧
      compile .standard "squiggle" .standard crowded = .ok program ∧
      (program.emitted.map fun r => r.node.name).Nodup := by
  obtain ⟨nodes, hnodes, hnames⟩ : ∃ nodes,
      NodeMap.ofModel crowded .standard ["foo_2"] = .ok nodes ∧
      nodes.values.map Node.name = ["foo_2_2_3", "foo_2_2", "foo_2_2_2"] :=
    exists_ok_of_any (by decide +kernel)
  obtain ⟨program, hprogram, -⟩ : ∃ program,
      compileFor .squiggle .standard crowded = .ok program ∧ program.diagnostics = [] :=
    exists_ok_of_any (by decide +kernel)
  obtain ⟨hofModel, hcompileFor, -⟩ := names_distinct_unreserved_identifiers crowded .standard
  obtain ⟨hnodup, -, hreplaced⟩ := hofModel _ nodes hnodes
  exact ⟨nodes, program, hnodes, hnames, hnodup, hreplaced [] _ _ rfl (by decide), hprogram,
    hprogram, hcompileFor _ program hprogram⟩

/-- Leaving out some elements keeps the order of the others. -/
theorem idxOf_lt_of_sublist {part whole : List Text} (h : part.Sublist whole)
    (hnodup : whole.Nodup) {first second : Text} (hfirst : first ∈ part)
    (hlt : whole.idxOf first < whole.idxOf second) : part.idxOf first < part.idxOf second := by
  induction h with
  | slnil => cases hfirst
  | @cons part whole a hpart ih =>
      obtain ⟨ha, hnodup⟩ := List.nodup_cons.1 hnodup
      have hne : a ≠ first := fun heq => ha (heq ▸ hpart.subset hfirst)
      have hne₂ : a ≠ second := by
        rintro rfl
        rw [List.idxOf_cons_self] at hlt
        omega
      rw [List.idxOf_cons_ne _ hne, List.idxOf_cons_ne _ hne₂] at hlt
      exact ih hnodup hfirst (by omega)
  | @cons_cons part whole a hpart ih =>
      have hne₂ : a ≠ second := by
        rintro rfl
        rw [List.idxOf_cons_self] at hlt
        omega
      by_cases heq : a = first
      · subst heq
        rw [List.idxOf_cons_self, List.idxOf_cons_ne _ hne₂]
        omega
      · rw [List.idxOf_cons_ne _ heq, List.idxOf_cons_ne _ hne₂] at hlt ⊢
        have hrest := ih (List.nodup_cons.1 hnodup).2
          ((List.mem_cons.1 hfirst).resolve_left (Ne.symm heq)) (by omega)
        omega

def assigned (program : Program) : List Text := program.emitted.map fun r => r.node.id

/-- Every assignment stands behind those of its dependencies. -/
def DefinesBeforeUse (program : Program) : Prop :=
  ∀ r ∈ program.emitted, ∀ dependency ∈ r.dependencies,
    program.assigned.idxOf dependency < program.assigned.idxOf r.node.id

instance (program : Program) : Decidable program.DefinesBeforeUse :=
  inferInstanceAs (Decidable (∀ r ∈ program.emitted, ∀ dependency ∈ r.dependencies,
    program.assigned.idxOf dependency < program.assigned.idxOf r.node.id))

namespace Compiled

variable {nodes : NodeMap}

theorem assigned_sublist (h : Compiled target settings model program nodes) :
    program.assigned.Sublist program.order := by
  have hsub : program.emitted.Sublist program.nodes := List.filter_sublist
  rw [← h.map_id]
  exact hsub.map _

theorem name_ne_empty (h : Compiled target settings model program nodes) :
    ∀ name ∈ nodes.names.values, name ≠ "" := by
  intro name hname hempty
  have hshape := NodeMap.isIdentifier_of_mem_names h.ofModel hname
  rw [hempty] at hshape
  cases hshape

theorem exists_guesstimate (h : Compiled target settings model program nodes) {r : Rendered}
    (hr : r ∈ program.nodes) :
    ∃ guesstimate metric name log,
      model.guesstimate? r.node.id = some guesstimate ∧
      r = target.render nodes.edges log
        ((Node.make metric guesstimate name).resolve nodes.names).node ∧
      r.dependencies = ((Node.make metric guesstimate name).resolve nodes.names).ids := by
  obtain ⟨node, log, hget, heq⟩ := h.eq_render r hr
  obtain ⟨guesstimate, metric, hlast, hmake⟩ :=
    NodeMap.guesstimate?_of_get?_ofModel h.ofModel hget
  have hids : r.dependencies = (node.resolve nodes.names).ids := by
    have hdependencies : r.dependencies = (nodes.edges.get? r.node.id).getD [] := by
      rw [heq]
      rfl
    rw [hdependencies, NodeMap.edges, OrderedMap.get?_map, hget]
    rfl
  rw [hmake] at heq hids
  exact ⟨guesstimate, metric, node.name, log, hlast, heq, hids⟩

theorem hasCode_iff (h : Compiled target settings model program nodes) (htarget : target.Outspoken)
    {r : Rendered} (hr : r ∈ program.nodes) :
    ∃ guesstimate, model.guesstimate? r.node.id = some guesstimate ∧
      (r.assignment.hasCode = true ↔ guesstimate.isVoid = false) := by
  obtain ⟨guesstimate, metric, name, log, hlast, heq, -⟩ := h.exists_guesstimate hr
  refine ⟨guesstimate, hlast, ?_⟩
  rw [heq, htarget.hasCode_render]
  exact Guesstimate.asks_iff h.name_ne_empty metric guesstimate name

theorem dependsOn (h : Compiled target settings model program nodes) {r : Rendered}
    (hr : r ∈ program.nodes) {dependency : Text} (hd : dependency ∈ r.dependencies) :
    nodes.edges.DependsOn r.node.id dependency := by
  obtain ⟨node, log, -, heq⟩ := h.eq_render r hr
  rw [heq] at hd ⊢
  exact hd

theorem exists_dependency (h : Compiled target settings model program nodes) {r : Rendered}
    (hr : r ∈ program.nodes) {dependency : Text} (hd : dependency ∈ r.dependencies) :
    program.order.idxOf dependency < program.order.idxOf r.node.id ∧
      ∃ other ∈ program.nodes, other.node.id = dependency := by
  have hlt := Edges.idxOf_lt_of_sort h.sort (h.dependsOn hr hd)
  refine ⟨hlt, ?_⟩
  have hmem : dependency ∈ program.order :=
    List.idxOf_lt_length_iff.1 (hlt.trans_le List.idxOf_le_length)
  rw [← h.map_id] at hmem
  exact List.mem_map.1 hmem

theorem hasCode_of_mem_dependencies (h : Compiled target settings model program nodes)
    (htarget : target.Outspoken) {r : Rendered} (hr : r ∈ program.nodes) {dependency : Text}
    (hd : dependency ∈ r.dependencies) : r.assignment.hasCode = true := by
  obtain ⟨guesstimate, metric, name, log, -, heq, hids⟩ := h.exists_guesstimate hr
  rw [heq, htarget.hasCode_render, Guesstimate.asks_iff h.name_ne_empty]
  rw [hids] at hd
  exact Guesstimate.isVoid_of_mem_ids hd

theorem mem_assigned_iff (h : Compiled target settings model program nodes) {r : Rendered}
    (hr : r ∈ program.nodes) : r.node.id ∈ program.assigned ↔ r.assignment.hasCode = true := by
  constructor
  · intro hid
    obtain ⟨other, hother, heq⟩ := List.mem_map.1 hid
    obtain ⟨hmem, hcode⟩ := List.mem_filter.1 hother
    have hnodup : (program.nodes.map fun r => r.node.id).Nodup := h.map_id ▸ h.nodup_order
    rwa [List.inj_on_of_nodup_map hnodup hmem hr heq] at hcode
  · intro hcode
    exact List.mem_map_of_mem (List.mem_filter.2 ⟨hr, hcode⟩)

/-- A dependency is assigned before the node exactly if it is assigned at all, and this is so if its
guesstimate is not void. -/
theorem assigned_before_iff (h : Compiled target settings model program nodes)
    (htarget : target.Outspoken) {r : Rendered} (hr : r ∈ program.nodes) {dependency : Text}
    (hd : dependency ∈ r.dependencies) :
    ∃ guesstimate, model.guesstimate? dependency = some guesstimate ∧
      (program.assigned.idxOf dependency < program.assigned.idxOf r.node.id ↔
        guesstimate.isVoid = false) := by
  obtain ⟨hlt, other, hother, rfl⟩ := h.exists_dependency hr hd
  obtain ⟨guesstimate, hlast, hcode⟩ := h.hasCode_iff htarget hother
  refine ⟨guesstimate, hlast, ?_⟩
  rw [← hcode, ← h.mem_assigned_iff hother]
  constructor
  · intro hbefore
    exact List.idxOf_lt_length_iff.1 (hbefore.trans_le List.idxOf_le_length)
  · intro hmem
    exact idxOf_lt_of_sublist h.assigned_sublist h.nodup_order hmem hlt

end Compiled

/-- A program of one of the standard targets defines before use exactly if no node refers to a
metric whose guesstimate is void. For a single reference: the order has the metric first in any
case, and the assignment of the metric is missing if its guesstimate is void. -/
theorem definesBeforeUse_iff_no_void_dependency (htarget : target ∈ Registry.standard.values)
    (h : compileFor target settings model = .ok program) :
    (program.DefinesBeforeUse ↔
      ∀ r ∈ program.nodes, ∀ dependency ∈ r.dependencies,
        ∃ guesstimate, model.guesstimate? dependency = some guesstimate ∧
          guesstimate.isVoid = false) ∧
    ∀ r ∈ program.emitted, ∀ dependency ∈ r.dependencies,
      program.order.idxOf dependency < program.order.idxOf r.node.id ∧
      ∃ guesstimate, model.guesstimate? dependency = some guesstimate ∧
        (program.assigned.idxOf dependency < program.assigned.idxOf r.node.id ↔
          guesstimate.isVoid = false) := by
  obtain ⟨nodes, hcompiled⟩ := compiled_of_compileFor h
  have houtspoken := Target.outspoken_of_mem_standard htarget
  have hnode : ∀ r ∈ program.emitted, r ∈ program.nodes := fun r hr => List.mem_of_mem_filter hr
  refine ⟨⟨?_, ?_⟩, ?_⟩
  · intro hbefore r hr dependency hd
    have hemitted : r ∈ program.emitted :=
      List.mem_filter.2 ⟨hr, hcompiled.hasCode_of_mem_dependencies houtspoken hr hd⟩
    obtain ⟨guesstimate, hlast, hiff⟩ := hcompiled.assigned_before_iff houtspoken hr hd
    exact ⟨guesstimate, hlast, hiff.1 (hbefore r hemitted dependency hd)⟩
  · intro hfull r hr dependency hd
    obtain ⟨guesstimate, hlast, hiff⟩ :=
      hcompiled.assigned_before_iff houtspoken (hnode r hr) hd
    obtain ⟨same, hsame, hvoid⟩ := hfull r (hnode r hr) dependency hd
    rw [hlast, Option.some.injEq] at hsame
    subst hsame
    exact hiff.2 hvoid
  · intro r hr dependency hd
    exact ⟨(hcompiled.exists_dependency (hnode r hr) hd).1,
      hcompiled.assigned_before_iff houtspoken (hnode r hr) hd⟩

/-- A chain of formulas, listed from its end, and a metric without a value that no formula needs. -/
def chained : Model where
  url := "u"
  metrics := [⟨"a", "Note"⟩, ⟨"b", "Price"⟩, ⟨"c", "Double price"⟩, ⟨"d", "Total"⟩]
  guesstimates := [
    ⟨"d", .function, some "=$\x7bmetric:b\x7d + $\x7bmetric:c\x7d", .text "", none⟩,
    ⟨"c", .function, some "=2 * $\x7bmetric:b\x7d", .text "", none⟩,
    ⟨"a", .point, none, .text "", none⟩, ⟨"b", .point, some "3", .text "", none⟩]

theorem chained_definesBeforeUse :
    ∃ program, compileFor .squiggle .standard chained = .ok program ∧
      program.assigned = ["b", "c", "d"] ∧ program.DefinesBeforeUse := by
  obtain ⟨program, h, hassigned, hneeds⟩ : ∃ program,
      compileFor .squiggle .standard chained = .ok program ∧
      program.assigned = ["b", "c", "d"] ∧
      ∀ r ∈ program.nodes, ∀ dependency ∈ r.dependencies, dependency = "b" ∨ dependency = "c" :=
    exists_ok_of_any (by decide +kernel)
  have hstandard : Target.squiggle ∈ Registry.standard.values :=
    List.mem_cons_of_mem _ List.mem_cons_self
  refine ⟨program, h, hassigned, (definesBeforeUse_iff_no_void_dependency hstandard h).1.2 ?_⟩
  intro r hr dependency hd
  rcases hneeds r hr dependency hd with rfl | rfl
  · exact ⟨_, rfl, rfl⟩
  · exact ⟨_, rfl, rfl⟩

/-- A formula that needs a metric without a value. -/
def valueless : Model where
  url := "u"
  metrics := [⟨"a", "Cost"⟩, ⟨"b", "Total"⟩]
  guesstimates := [
    ⟨"a", .point, none, .text "", none⟩,
    ⟨"b", .function, some "=$\x7bmetric:a\x7d + 1", .text "", none⟩]

/-- The cost is used and not defined, and nothing reports it. -/
theorem valueless_not_definesBeforeUse :
    ∃ program, compileFor .squiggle .standard valueless = .ok program ∧
      program.body = "total = cost + 1 // Total" ∧ program.diagnostics = [] ∧
      ¬ program.DefinesBeforeUse :=
  exists_ok_of_any (by decide +kernel)

end Program

end EstimateCompiler
