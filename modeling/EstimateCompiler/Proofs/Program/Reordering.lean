import EstimateCompiler.Proofs.Graph.Reordering
import EstimateCompiler.Proofs.Program.Calls

/-!
# Programs of reordered models

The nodes of a program come in emission order, and the search for this order starts from the order
of the guesstimates. If no labels collide, a reordered model is compiled exactly if the model is.
For a target that does not remember its calls, the program has the same node under every id, and
its body is made of the same lines in another order.

The dependencies of a node are a set. The list that stands for it follows the order of the nodes, so
nodes are compared after this list is sorted.
-/
namespace EstimateCompiler

/-- The node with its dependencies in the order of their characters. -/
def Rendered.canonical (r : Rendered) : Rendered :=
  { r with dependencies := sortIds r.dependencies }

/-- The target is told the same in whatever order the dependencies are. -/
@[simp] theorem Rendered.assignment_canonical (r : Rendered) :
    r.canonical.assignment = r.assignment := by
  have hsorted : sortIds (sortIds r.dependencies) = sortIds r.dependencies :=
    sortIds_congr fun _ => mem_sortIds
  rw [assignment, assignment, canonical, hsorted]

namespace Program

def node? (program : Program) (id : Text) : Option Rendered :=
  program.nodes.find? fun r => r.node.id = id

theorem map_canonical_node? (program : Program) (id : Text) :
    (program.node? id).map Rendered.canonical =
      (program.nodes.map Rendered.canonical).find? fun r => r.node.id = id := by
  rw [node?, List.find?_map]
  rfl

theorem map_canonical_emitted (program : Program) :
    program.emitted.map Rendered.canonical =
      (program.nodes.map Rendered.canonical).filter fun r => r.assignment.hasCode := by
  rw [emitted, List.filter_map]
  simp only [Function.comp_def, Rendered.assignment_canonical]

theorem assignmentLines_eq (target : Target) (program : Program) :
    program.assignmentLines target = ((program.emitted.map Rendered.canonical).map fun r =>
      target.answer [] (.assignment r.assignment)).filter (· ≠ ("" : Text)) := by
  rw [assignmentLines, List.map_map]
  simp only [Function.comp_def, Rendered.assignment_canonical]

variable {target : Target} {settings : Settings} {first second : Model}
  {program program₁ program₂ : Program} {nodes nodes₁ nodes₂ : NodeMap}

namespace Compiled

theorem order_perm (h : Compiled target settings first program nodes) :
    program.order.Perm nodes.keys := by
  have hperm := Edges.perm_keys_of_sort h.sort
  rwa [NodeMap.edges, OrderedMap.keys_map] at hperm

theorem nodup_canonical (h : Compiled target settings first program nodes) :
    ((program.nodes.map Rendered.canonical).map fun r => r.node.id).Nodup := by
  rw [List.map_map]
  have hnodup := h.nodup_order
  rwa [← h.map_id] at hnodup

variable (htarget : target.Stateless) (hplain : first.Plain)
  (h₁ : Compiled target settings first program₁ nodes₁)
  (h₂ : Compiled target settings second program₂ nodes₂) (halike : nodes₁.Alike nodes₂)
include htarget hplain h₁ h₂ halike

theorem exists_canonical_eq {r : Rendered} (hr : r ∈ program₁.nodes) :
    ∃ s ∈ program₂.nodes, s.canonical = r.canonical := by
  obtain ⟨node, log₁, hnode, heq⟩ := h₁.eq_render r hr
  obtain ⟨s, hs, hid⟩ : ∃ s ∈ program₂.nodes, s.node.id = r.node.id := by
    have hmem : r.node.id ∈ program₂.order := by
      rw [h₂.order_perm.mem_iff, ← halike.mem_keys, ← h₁.order_perm.mem_iff, ← h₁.map_id]
      exact List.mem_map_of_mem hr
    rw [← h₂.map_id] at hmem
    exact List.mem_map.1 hmem
  obtain ⟨same, log₂, hsame, hs_eq⟩ := h₂.eq_render s hs
  rw [hid, ← halike, hnode, Option.some.injEq] at hsame
  subst hsame
  have hresolved := (NodeMap.resolve_of_alike hplain h₁.ofModel halike hnode).1
  have hdependencies : ∀ id, sortIds ((nodes₂.edges.get? id).getD []) =
      sortIds ((nodes₁.edges.get? id).getD []) := fun id => sortIds_congr fun d =>
    (NodeMap.dependsOn_iff_of_alike hplain h₁.ofModel halike id d).symm
  refine ⟨s, hs, ?_⟩
  rw [hs_eq, heq, ← hresolved]
  simp only [Rendered.canonical, Target.render, hdependencies, htarget.written]

theorem canonical_perm (hmodels : first.Reordered second) :
    (program₁.nodes.map Rendered.canonical).Perm (program₂.nodes.map Rendered.canonical) := by
  rw [List.perm_ext_iff_of_nodup h₁.nodup_canonical.of_map h₂.nodup_canonical.of_map]
  intro r
  simp only [List.mem_map]
  constructor
  · rintro ⟨s, hs, rfl⟩
    exact exists_canonical_eq htarget hplain h₁ h₂ halike hs
  · rintro ⟨s, hs, rfl⟩
    exact exists_canonical_eq htarget (hmodels.plain hplain) h₂ h₁ halike.symm hs

end Compiled

theorem exists_compileFor_of_reordered (hmodels : first.Reordered second) (hplain : first.Plain)
    (hnames : first.Unambiguous settings.naming target.reserved)
    (h : compileFor target settings first = .ok program) :
    ∃ program, compileFor target settings second = .ok program := by
  have houtcome := compileFor_outcome target settings first
  rw [h] at houtcome
  cases houtcome with
  | @written nodes₁ _ made passed reason =>
      have hmatched : first.unmatched? = none := by
        cases hunmatched : first.unmatched? with
        | none => rfl
        | some guesstimate =>
            rw [NodeMap.ofModel_of_unmatched hunmatched] at made
            cases made
      obtain ⟨nodes₂, hnodes₂⟩ := NodeMap.exists_ofModel (hmodels.unmatched?_eq_none hmatched)
        settings target.reserved
      have halike := NodeMap.alike_of_reordered hmodels hnames made hnodes₂
      have hpassed : settings.strict = false ∨ nodes₂.firstDangling? = none :=
        passed.imp_right (NodeMap.firstDangling?_eq_none_of_alike hplain made halike)
      rcases compileFor_cases hnodes₂ hpassed with ⟨-, hok⟩ | ⟨hcyclic, -⟩
      · exact hok
      · exact absurd (NodeMap.acyclic_of_alike hplain made halike reason) hcyclic

/-- The order of the guesstimates, and that of metrics with different ids, does not decide whether
there is a program. For a target that does not remember its calls it decides the order of the lines
and nothing else. -/
theorem reordering_permutes_lines (hmodels : first.Reordered second) (hplain : first.Plain)
    (hnames : first.Unambiguous settings.naming target.reserved) :
    ((∃ program, compileFor target settings first = .ok program) ↔
      ∃ program, compileFor target settings second = .ok program) ∧
    ∀ program₁ program₂, target.Stateless → compileFor target settings first = .ok program₁ →
      compileFor target settings second = .ok program₂ →
      (∀ id, (program₁.node? id).map Rendered.canonical =
        (program₂.node? id).map Rendered.canonical) ∧
      (program₁.emitted.map Rendered.canonical).Perm (program₂.emitted.map Rendered.canonical) ∧
      program₁.header = program₂.header ∧
      program₁.body = Text.intercalate "\n" (program₁.assignmentLines target) ∧
      program₂.body = Text.intercalate "\n" (program₂.assignmentLines target) ∧
      (program₁.assignmentLines target).Perm (program₂.assignmentLines target) := by
  refine ⟨⟨?_, ?_⟩, ?_⟩
  · rintro ⟨program, h⟩
    exact exists_compileFor_of_reordered hmodels hplain hnames h
  · rintro ⟨program, h⟩
    exact exists_compileFor_of_reordered hmodels.symm (hmodels.plain hplain)
      (hmodels.unambiguous hnames) h
  · intro program₁ program₂ htarget h₁ h₂
    obtain ⟨nodes₁, hcompiled₁⟩ := compiled_of_compileFor h₁
    obtain ⟨nodes₂, hcompiled₂⟩ := compiled_of_compileFor h₂
    have halike := NodeMap.alike_of_reordered hmodels hnames hcompiled₁.ofModel hcompiled₂.ofModel
    have hperm := hcompiled₁.canonical_perm htarget hplain hcompiled₂ halike hmodels
    have hemitted : (program₁.emitted.map Rendered.canonical).Perm
        (program₂.emitted.map Rendered.canonical) := by
      rw [map_canonical_emitted, map_canonical_emitted]
      exact hperm.filter _
    refine ⟨?_, hemitted, ?_, body_of_compileFor htarget h₁, body_of_compileFor htarget h₂, ?_⟩
    · intro id
      rw [map_canonical_node?, map_canonical_node?]
      exact find?_eq_of_perm hcompiled₁.nodup_canonical hperm id
    · rw [header_of_compileFor htarget h₁, header_of_compileFor htarget h₂, hmodels.url]
    · rw [assignmentLines_eq, assignmentLines_eq]
      exact (hemitted.map _).filter _

def difference : Formula :=
  [.reference "b" (by decide), .text [.char '-'] (by decide), .reference "c" (by decide)]

def forward : Model where
  url := "u"
  metrics := [⟨"c", "Cost"⟩, ⟨"b", "Gain"⟩, ⟨"f", "Profit"⟩]
  guesstimates := [
    ⟨"f", .function, some (Text.ofList (.char '=' :: difference.chars)), .text "", none⟩,
    ⟨"c", .point, some "1", .text "", none⟩, ⟨"b", .point, some "2", .text "", none⟩]

def backward : Model :=
  ⟨forward.url, forward.metrics.reverse, forward.guesstimates.reverse⟩

/-- In one order the difference is searched first, and in the other one it comes last. -/
theorem forward_backward_permutes_lines :
    ∃ program₁ program₂,
      compileFor .squiggle .standard forward = .ok program₁ ∧
      compileFor .squiggle .standard backward = .ok program₂ ∧
      program₁.body = "cost = 1 // Cost\ngain = 2 // Gain\nprofit = gain-cost // Profit" ∧
      program₂.body = "gain = 2 // Gain\ncost = 1 // Cost\nprofit = gain-cost // Profit" ∧
      (∀ id, (program₁.node? id).map Rendered.canonical =
        (program₂.node? id).map Rendered.canonical) ∧
      (program₁.emitted.map Rendered.canonical).Perm
        (program₂.emitted.map Rendered.canonical) := by
  have hmodels : forward.Reordered backward :=
    ⟨rfl, (List.reverse_perm _).symm, .inr ⟨by decide, (List.reverse_perm _).symm⟩⟩
  have hplain : forward.Plain := by
    constructor
    · decide +kernel
    · intro guesstimate hmem hkind
      simp only [forward, List.mem_cons, List.not_mem_nil, or_false] at hmem
      rcases hmem with rfl | rfl | rfl
      · exact ⟨'=', difference, rfl⟩
      · cases hkind
      · cases hkind
  have hnames : forward.Unambiguous Settings.standard.naming Target.squiggle.reserved :=
    ⟨by decide, by decide +kernel, by decide +kernel⟩
  obtain ⟨program₁, h₁, hbody₁⟩ : ∃ program, compileFor .squiggle .standard forward = .ok program ∧
      program.body = "cost = 1 // Cost\ngain = 2 // Gain\nprofit = gain-cost // Profit" :=
    exists_ok_of_any (by decide +kernel)
  obtain ⟨program₂, h₂, hbody₂⟩ : ∃ program, compileFor .squiggle .standard backward = .ok program ∧
      program.body = "gain = 2 // Gain\ncost = 1 // Cost\nprofit = gain-cost // Profit" :=
    exists_ok_of_any (by decide +kernel)
  have hstandard : Target.squiggle ∈ Registry.standard.values :=
    List.mem_cons_of_mem _ List.mem_cons_self
  obtain ⟨hnodes, hemitted, -⟩ := (reordering_permutes_lines hmodels hplain hnames).2 program₁
    program₂ (Target.stateless_of_mem_standard hstandard) h₁ h₂
  exact ⟨program₁, program₂, h₁, h₂, hbody₁, hbody₂, hnodes, hemitted⟩

end Program

end EstimateCompiler
