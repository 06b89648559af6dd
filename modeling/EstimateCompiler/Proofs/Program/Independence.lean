import EstimateCompiler.Proofs.Graph.Anonymity
import EstimateCompiler.Proofs.Program.Accounting

/-!
# What does not depend on names

The outline of a program is its emission order, the dependencies of its nodes, its diagnostics and
the ids that it assigns. Labels, naming rules and reserved names decide what the nodes are called,
and names are put into the formulas before these are searched for dependencies and written. None of
it shows in the outline. For a model whose functions are formulas, the outline or the failure is
given here as a function of the guesstimates, of the ids of the metrics and of strictness alone, and
every compilation for a standard target agrees with it.
-/
namespace EstimateCompiler

/-- A program without its texts and names. -/
structure Outline where
  order : List Text
  dependencies : List (Text × List Text)
  diagnostics : List Diagnostic
  assigned : List Text
  deriving DecidableEq, Repr

def Program.outline (program : Program) : Outline where
  order := program.order
  dependencies := program.nodes.map fun r => (r.node.id, r.dependencies)
  diagnostics := program.diagnostics
  assigned := program.assigned

/-- The failure about the first of the reports, if it is about unknown references. -/
def Diagnostic.refusal? : List Diagnostic → Option CompileError
  | ⟨id, .danglingReferences ids⟩ :: _ => some (.danglingReferences id ids)
  | _ => none

namespace Model

def outlineOf (model : Model) (order : List Text) : Outline where
  order := order
  dependencies := order.map fun id => (id, (model.mentions.get? id).getD [])
  diagnostics := model.danglingReports ++ order.filterMap model.complaint?
  assigned := order.filter fun id => (model.guesstimate? id).any fun g => !g.isVoid

def outline (strict : Bool) (model : Model) : Except CompileError Outline :=
  match model.unmatched? with
  | some guesstimate => .error (.missingMetric guesstimate.metric)
  | none =>
      match if strict then Diagnostic.refusal? model.danglingReports else none with
      | some error => .error error
      | none => (model.mentions.sort.mapError .noOrder).map model.outlineOf

/-- The models differ in their addresses and in the labels of their metrics, and in nothing else. -/
structure Relabelled (first second : Model) : Prop where
  guesstimates : first.guesstimates = second.guesstimates
  ids : first.metrics.map Metric.id = second.metrics.map Metric.id

variable {first second : Model}

theorem Relabelled.plain (h : first.Relabelled second) (hplain : first.Plain) : second.Plain where
  ids := by
    rw [← h.guesstimates, ← h.ids]
    exact hplain.ids
  formulas := by
    rw [← h.guesstimates]
    exact hplain.formulas

theorem Relabelled.outline_eq (h : first.Relabelled second) (strict : Bool) :
    first.outline strict = second.outline strict := by
  obtain ⟨url₁, metrics₁, guesstimates₁⟩ := first
  obtain ⟨url₂, metrics₂, guesstimates₂⟩ := second
  obtain ⟨hguesstimates, hids⟩ := h
  cases hguesstimates
  have hunmatched : unmatched? ⟨url₁, metrics₁, guesstimates₁⟩ =
      unmatched? ⟨url₂, metrics₂, guesstimates₁⟩ := by
    simp only [unmatched?] at hids ⊢
    rw [hids]
  rw [outline, outline, hunmatched]
  rfl

end Model

theorem NodeMap.refusal?_eq (nodes : NodeMap) (strict : Bool) :
    nodes.refusal? strict = if strict then Diagnostic.refusal? nodes.diagnostics else none := by
  unfold NodeMap.refusal?
  cases hfirst : nodes.firstDangling? with
  | none =>
      rw [diagnostics_of_firstDangling?_eq_none hfirst]
      rfl
  | some entry =>
      obtain ⟨later, hdiagnostics⟩ := diagnostics_of_firstDangling?_eq_some hfirst
      rw [hdiagnostics]
      rfl

namespace Program

variable {target : Target} {settings : Settings} {model : Model} {program : Program}

namespace Compiled

variable {nodes : NodeMap}

theorem dependencies_eq (h : Compiled target settings model program nodes) :
    program.nodes.map (fun r => (r.node.id, r.dependencies)) =
      program.order.map fun id => (id, (nodes.edges.get? id).getD []) := by
  rw [← h.map_id, List.map_map]
  refine List.map_congr_left fun r hr => ?_
  obtain ⟨node, log, -, heq⟩ := h.eq_render r hr
  rw [heq]
  rfl

theorem assigned_eq (h : Compiled target settings model program nodes)
    (htarget : target.Outspoken) :
    program.assigned =
      program.order.filter fun id => (model.guesstimate? id).any fun g => !g.isVoid := by
  rw [← h.map_id, List.filter_map, assigned, emitted]
  congr 1
  refine List.filter_congr fun r hr => ?_
  obtain ⟨guesstimate, hlast, hcode⟩ := h.hasCode_iff htarget hr
  rw [Function.comp_apply, hlast, Option.any_some, Bool.eq_iff_iff, hcode, Bool.not_eq_true']

end Compiled

theorem outline_of_compileFor (hplain : model.Plain) (htarget : target.Outspoken)
    (h : compileFor target settings model = .ok program) :
    program.outline = model.outlineOf program.order := by
  obtain ⟨nodes, hcompiled⟩ := compiled_of_compileFor h
  rw [outline, Model.outlineOf, hcompiled.dependencies_eq, hcompiled.diagnostics_eq h,
    hcompiled.assigned_eq htarget, NodeMap.edges_of_plain hplain hcompiled.ofModel,
    NodeMap.diagnostics_of_plain hplain hcompiled.ofModel]

/-- A compilation for an outspoken target has the outline of the model, or fails as it does. -/
theorem map_outline_compileFor (hplain : model.Plain) (htarget : target.Outspoken)
    (settings : Settings) :
    (compileFor target settings model).map outline = model.outline settings.strict := by
  rw [Model.outline]
  cases hunmatched : model.unmatched? with
  | some guesstimate =>
      rw [compileFor_of_error (NodeMap.ofModel_of_unmatched hunmatched settings target.reserved)]
      rfl
  | none =>
      obtain ⟨nodes, hnodes⟩ := NodeMap.exists_ofModel hunmatched settings target.reserved
      have hwritten := compileFor_of_nodes hnodes
      rw [NodeMap.refusal?_eq, NodeMap.diagnostics_of_plain hplain hnodes,
        NodeMap.edges_of_plain hplain hnodes] at hwritten
      cases hrefusal :
          if settings.strict then Diagnostic.refusal? model.danglingReports else none with
      | some error =>
          rw [hrefusal] at hwritten
          rw [hwritten]
          rfl
      | none =>
          rw [hrefusal] at hwritten
          cases hsort : model.mentions.sort with
          | error error =>
              rw [hsort] at hwritten
              rw [hwritten]
              rfl
          | ok order =>
              rw [hsort] at hwritten
              have houtline := outline_of_compileFor hplain htarget hwritten
              rw [hwritten]
              exact congrArg Except.ok houtline

/-- Compilations of models that differ in labels and addresses only, for any standard targets and
with any naming rules, have the same outline or fail in the same way. -/
theorem outline_independent_of_naming {first second : Model} (hmodels : first.Relabelled second)
    (hplain : first.Plain) (settings₁ settings₂ : Settings)
    (hstrict : settings₁.strict = settings₂.strict) {target₁ target₂ : Target}
    (htarget₁ : target₁ ∈ Registry.standard.values)
    (htarget₂ : target₂ ∈ Registry.standard.values) :
    (compileFor target₁ settings₁ first).map outline =
      (compileFor target₂ settings₂ second).map outline := by
  calc (compileFor target₁ settings₁ first).map outline
      = first.outline settings₁.strict :=
        map_outline_compileFor hplain (Target.outspoken_of_mem_standard htarget₁) settings₁
    _ = second.outline settings₁.strict := hmodels.outline_eq settings₁.strict
    _ = second.outline settings₂.strict := by rw [hstrict]
    _ = (compileFor target₂ settings₂ second).map outline :=
        (map_outline_compileFor (hmodels.plain hplain)
          (Target.outspoken_of_mem_standard htarget₂) settings₂).symm

/-- A formula with two references, one of them to an id without a node. -/
def smaller : Formula := [
  .text ("min(" : Text).toList (by decide +kernel), .reference "v" (by decide),
  .text [.char ','] (by decide), .reference "z" (by decide), .text [.char ')'] (by decide)]

/-- A function, a point and samples that are absent, with labels of one's choice. -/
def labelled (total value samples : Text) : Model where
  url := total
  metrics := [⟨"v", value⟩, ⟨"d", samples⟩, ⟨"f", total⟩]
  guesstimates := [
    ⟨"f", .function, some (Text.ofList (.char '=' :: smaller.chars)), .text "", none⟩,
    ⟨"v", .point, some "1", .text "", none⟩, ⟨"d", .data, none, .text "", none⟩]

/-- Names of one character before suffixes, and no words for tokens. -/
def terse : Settings := ⟨1, [], false, by decide⟩

/-- In the first model one label is the id of another metric, and in the second one all labels are
the same. -/
theorem labelled_outline_independent :
    ∃ program₁ program₂,
      compileFor .squiggle .standard (labelled "Total" "d" "Samples") = .ok program₁ ∧
      compileFor .python terse (labelled "x" "x" "x") = .ok program₂ ∧
      program₁.nodes.map Rendered.code =
        [some ("1" : Text), some "min(d,$\x7bmetric:z\x7d)", none] ∧
      program₂.nodes.map Rendered.code =
        [some ("1" : Text), some "np.minimum(x_2,$\x7bmetric:z\x7d)", none] ∧
      program₁.outline = program₂.outline := by
  have hmodels : (labelled "Total" "d" "Samples").Relabelled (labelled "x" "x" "x") := ⟨rfl, rfl⟩
  have hplain : (labelled "Total" "d" "Samples").Plain := by
    constructor
    · decide +kernel
    · intro guesstimate hmem hkind
      simp only [labelled, List.mem_cons, List.not_mem_nil, or_false] at hmem
      rcases hmem with rfl | rfl | rfl
      · exact ⟨'=', smaller, rfl⟩
      · cases hkind
      · cases hkind
  have hsquiggle : Target.squiggle ∈ Registry.standard.values :=
    List.mem_cons_of_mem _ List.mem_cons_self
  have hpython : Target.python ∈ Registry.standard.values := List.mem_cons_self
  obtain ⟨program₁, h₁, hcode₁⟩ : ∃ program,
      compileFor .squiggle .standard (labelled "Total" "d" "Samples") = .ok program ∧
      program.nodes.map Rendered.code =
        [some ("1" : Text), some "min(d,$\x7bmetric:z\x7d)", none] :=
    exists_ok_of_any (by decide +kernel)
  obtain ⟨program₂, h₂, hcode₂⟩ : ∃ program,
      compileFor .python terse (labelled "x" "x" "x") = .ok program ∧
      program.nodes.map Rendered.code =
        [some ("1" : Text), some "np.minimum(x_2,$\x7bmetric:z\x7d)", none] :=
    exists_ok_of_any (by decide +kernel)
  have hsame := outline_independent_of_naming hmodels hplain .standard terse rfl hsquiggle hpython
  rw [h₁, h₂] at hsame
  exact ⟨program₁, program₂, h₁, h₂, hcode₁, hcode₂, Except.ok.inj hsame⟩

end Program

end EstimateCompiler
