import EstimateCompiler.Proofs.Graph.Resolution
import EstimateCompiler.Proofs.Program.Outcome
import EstimateCompiler.Proofs.Target.Answers

/-!
# Strict and lenient compilations

Both modes start from the same nodes, and strictness decides about one failure only. Where the
lenient graph has no diagnostics about unknown references, both modes end in the same way, and
otherwise the strict one fails on the node of the first of them.

What a strict compilation writes for a function has no token left. The function passed the check,
and the standard targets make no token out of a text without one. For the target that replaces calls
in the text after the check this takes an argument: the words it puts in have none of the characters
that a token could begin or end with, and cannot stand inside its opening.
-/
namespace EstimateCompiler

namespace Target

/-- A target whose code for a function has tokens only where the function has some. -/
def AddsNoToken (target : Target) : Prop :=
  ∀ log body, Reference.HasToken (target.answer log (.function body)).toList →
    Reference.HasToken body.toList

/-- One call is replaced after the other, and none of the passes makes a token. -/
theorem hasToken_of_foldl_replaceAll {calls : List (List Rune × List Rune)} {text : List Rune}
    (hcalls : ∀ entry ∈ calls, entry.1 ≠ [] ∧ .char '$' ∉ entry.2 ∧ .char ':' ∉ entry.2 ∧
      .char '\x7d' ∉ entry.2 ∧ .char '(' ∈ entry.2)
    (h : Reference.HasToken
      (calls.foldl (fun text entry => Text.replaceAll entry.1 entry.2 text) text)) :
    Reference.HasToken text := by
  induction calls generalizing text with
  | nil => exact h
  | cons entry rest ih =>
      obtain ⟨hpiece, hdollar, hcolon, hbrace, hparen⟩ := hcalls entry List.mem_cons_self
      have hopening : .char '(' ∉ Reference.opening := by decide +kernel
      have hpass := ih (fun other hother => hcalls other (List.mem_cons_of_mem _ hother)) h
      exact Reference.hasToken_of_replaced (Text.replaced_replaceAll hpiece entry.2 text) hdollar
        hcolon hbrace hparen hopening hpass

theorem Python.hasToken_of_vectorize {body : Text}
    (h : Reference.HasToken (vectorize body).toList) : Reference.HasToken body.toList := by
  rw [vectorize, Text.toList_ofList, vectorizeChars] at h
  exact hasToken_of_foldl_replaceAll (by decide +kernel) h

theorem addsNoToken_of_mem_standard {target : Target} (h : target ∈ Registry.standard.values) :
    target.AddsNoToken := by
  have hpython : python.AddsNoToken := fun _ _ => Python.hasToken_of_vectorize
  have hsquiggle : squiggle.AddsNoToken := fun _ _ htoken => htoken
  exact of_mem_standard hpython hsquiggle h

theorem eq_answer_of_code_written {target : Target} {node : Node} (hkind : node.kind = .function)
    {log : List Call} {code : Text} (hcode : (target.written log node).code = some code) :
    code = target.answer log (.function (node.expression.getD "")) := by
  have hcall : node.call = .ok (some (.function (node.expression.getD ""))) := by
    rw [Node.call, hkind]
  simp only [written, hcall] at hcode
  rw [← Call.getD_code (.function (node.expression.getD "")) (target.answer log _), hcode,
    Option.getD_some]

end Target

/-- The first diagnostic of a graph that is about unknown references. -/
def Graph.firstDangling? (graph : Graph) : Option Diagnostic :=
  graph.diagnostics.find? fun d => d.tag = "dangling_reference"

theorem NodeMap.firstDangling?_graph (nodes : NodeMap) :
    nodes.graph.firstDangling? = nodes.firstDangling?.map fun entry =>
      ⟨entry.1, .danglingReferences (entry.2.resolve nodes.names).dangling⟩ := by
  rw [Graph.firstDangling?, NodeMap.graph]
  cases hfirst : nodes.firstDangling? with
  | none =>
      rw [diagnostics_of_firstDangling?_eq_none hfirst]
      rfl
  | some entry =>
      obtain ⟨later, hdiagnostics⟩ := diagnostics_of_firstDangling?_eq_some hfirst
      rw [hdiagnostics]
      rfl

namespace Program

variable {target : Target} {settings : Settings} {model : Model}

theorem compileFor_strict_of_quiet
    (hquiet : ∀ graph,
      Graph.ofModel model { settings with strict := false } target.reserved = .ok graph →
        graph.firstDangling? = none) :
    compileFor target { settings with strict := true } model =
      compileFor target { settings with strict := false } model := by
  cases hnodes : NodeMap.ofModel model settings target.reserved with
  | error error =>
      have hfailed : ∀ strict, compileFor target { settings with strict } model = .error error :=
        fun _ => compileFor_of_error hnodes
      rw [hfailed, hfailed]
  | ok nodes =>
      have hmade : ∀ strict,
          NodeMap.ofModel model { settings with strict } target.reserved = .ok nodes :=
        fun _ => hnodes
      have hclean := hquiet nodes.graph (Graph.ofModel_of_nodes hnodes)
      rw [NodeMap.firstDangling?_graph, Option.map_eq_none_iff] at hclean
      have hpassed : ∀ strict, nodes.refusal? strict = none :=
        fun _ => NodeMap.refusal?_eq_none_iff.2 (.inr hclean)
      rw [compileFor_of_nodes (hmade true), compileFor_of_nodes (hmade false), hpassed, hpassed]

theorem compileFor_strict_of_firstDangling? {graph : Graph} {d : Diagnostic}
    (hgraph : Graph.ofModel model { settings with strict := false } target.reserved = .ok graph)
    (hfirst : graph.firstDangling? = some d) :
    ∃ ids, d.finding = .danglingReferences ids ∧
      compileFor target { settings with strict := true } model =
        .error (.danglingReferences d.nodeId ids) := by
  obtain ⟨nodes, hnodes, -, rfl⟩ := Graph.ofModel_eq_ok_iff.1 hgraph
  rw [NodeMap.firstDangling?_graph] at hfirst
  obtain ⟨entry, hdangling, rfl⟩ := Option.map_eq_some_iff.1 hfirst
  have hmade : NodeMap.ofModel model { settings with strict := true } target.reserved = .ok nodes :=
    hnodes
  exact ⟨_, rfl, compileFor_of_dangling hmade rfl hdangling⟩

theorem not_hasToken_of_compileFor {program : Program} (htarget : target.AddsNoToken)
    (hstrict : settings.strict = true) (h : compileFor target settings model = .ok program)
    {r : Rendered} (hr : r ∈ program.nodes) (hkind : r.node.kind = .function) {code : Text}
    (hcode : r.code = some code) : ¬ Reference.HasToken code.toList := by
  obtain ⟨nodes, hcompiled⟩ := compiled_of_compileFor h
  obtain ⟨node, log, hget, hrender⟩ := hcompiled.eq_render r hr
  have hclean : nodes.firstDangling? = none := by
    have houtcome := compileFor_outcome target settings model
    rw [h] at houtcome
    cases houtcome with
    | written made passed reason =>
        obtain rfl := Except.ok.inj (hcompiled.ofModel.symm.trans made)
        exact passed.resolve_left (by simp [hstrict])
  have hresolved : (node.resolve nodes.names).node.kind = .function := by
    rwa [hrender] at hkind
  have hfunction : node.kind = .function := (Node.resolve_kind _ _).symm.trans hresolved
  rw [hrender] at hcode
  have hanswer := Target.eq_answer_of_code_written hresolved hcode
  rw [Node.expression_resolve hfunction, Option.getD_some] at hanswer
  intro htoken
  rw [hanswer] at htoken
  exact NodeMap.not_dangles_of_firstDangling?_eq_none hclean hget
    ⟨hfunction, htarget log _ htoken⟩

/-- Strict and lenient compilations end in the same way, unless the lenient graph has a diagnostic
about unknown references. Then the strict one fails on the node of the first. Functions that a
strict compilation writes in a standard target have no tokens. -/
theorem strict_agrees_with_lenient (settings : Settings) (model : Model) :
    (∀ target : Target,
      ((∀ graph, Graph.ofModel model { settings with strict := false } target.reserved = .ok graph →
          graph.firstDangling? = none) →
        compileFor target { settings with strict := true } model =
          compileFor target { settings with strict := false } model) ∧
      ∀ graph d, Graph.ofModel model { settings with strict := false } target.reserved = .ok graph →
        graph.firstDangling? = some d →
        ∃ ids, d.finding = .danglingReferences ids ∧
          compileFor target { settings with strict := true } model =
            .error (.danglingReferences d.nodeId ids)) ∧
    (∀ (registry : Registry) (name : Text),
      (registry.get? name = none →
        compile registry name { settings with strict := true } model =
          compile registry name { settings with strict := false } model) ∧
      ∀ target, registry.get? name = some target → ∀ strict,
        compile registry name { settings with strict } model =
          compileFor target { settings with strict } model) ∧
    ∀ target ∈ Registry.standard.values, ∀ program,
      compileFor target { settings with strict := true } model = .ok program →
      ∀ r ∈ program.nodes, r.node.kind = .function → ∀ code, r.code = some code →
        ¬ Reference.HasToken code.toList := by
  refine ⟨fun target => ⟨?_, ?_⟩, fun registry name => ⟨?_, ?_⟩, ?_⟩
  · exact compileFor_strict_of_quiet
  · intro graph d hgraph hfirst
    exact compileFor_strict_of_firstDangling? hgraph hfirst
  · intro hget
    rw [compile_of_get?_eq_none hget, compile_of_get?_eq_none hget]
  · intro target hget strict
    exact compile_of_get? hget _ model
  · intro target htarget program hprogram r hr hkind code hcode
    exact not_hasToken_of_compileFor (Target.addsNoToken_of_mem_standard htarget) rfl hprogram hr
      hkind hcode

def capped (formula : Text) : Model where
  url := ""
  metrics := [⟨"a", "Alpha"⟩, ⟨"f", "Total"⟩]
  guesstimates := [
    ⟨"a", .point, some "1", .text "", none⟩, ⟨"f", .function, some formula, .text "", none⟩]

/-- The call inside of the formula has a dollar sign in front and a brace behind; replacing it does
not bring them together. -/
theorem capped_strict_agrees :
    compileFor .python { Settings.standard with strict := true }
        (capped "=min($\x7bmetric:a\x7d, $\x7bmetric:z\x7d)") =
      .error (.danglingReferences "f" ["z"]) ∧
    ∃ program r,
      compileFor .python .standard (capped "=min($\x7bmetric:a\x7d, $min(\x7bmetric:z\x7d))") =
        .ok program ∧
      compileFor .python { Settings.standard with strict := true }
        (capped "=min($\x7bmetric:a\x7d, $min(\x7bmetric:z\x7d))") = .ok program ∧
      r ∈ program.nodes ∧ r.node.kind = .function ∧
      r.code = some "np.minimum(alpha, $np.minimum(\x7bmetric:z\x7d))" ∧
      ¬ Reference.HasToken ("np.minimum(alpha, $np.minimum(\x7bmetric:z\x7d))" : Text).toList := by
  have htarget : Target.python ∈ Registry.standard.values := List.mem_cons_self
  constructor
  · obtain ⟨graph, hgraph, hfirst⟩ : ∃ graph,
        Graph.ofModel (capped "=min($\x7bmetric:a\x7d, $\x7bmetric:z\x7d)") .standard
          Target.python.reserved = .ok graph ∧
        graph.firstDangling? = some ⟨"f", .danglingReferences ["z"]⟩ :=
      exists_ok_of_any (by decide +kernel)
    obtain ⟨ids, hids, hfailed⟩ :=
      ((strict_agrees_with_lenient .standard _).1 .python).2 graph _ hgraph hfirst
    rw [hfailed, ← Finding.danglingReferences.inj hids]
  · obtain ⟨graph, hgraph, hquiet⟩ : ∃ graph,
        Graph.ofModel (capped "=min($\x7bmetric:a\x7d, $min(\x7bmetric:z\x7d))") .standard
          Target.python.reserved = .ok graph ∧ graph.firstDangling? = none :=
      exists_ok_of_any (by decide +kernel)
    obtain ⟨program, hprogram, hcode⟩ : ∃ program,
        compileFor .python .standard (capped "=min($\x7bmetric:a\x7d, $min(\x7bmetric:z\x7d))") =
          .ok program ∧
        ∃ r ∈ program.nodes, r.node.kind = .function ∧
          r.code = some "np.minimum(alpha, $np.minimum(\x7bmetric:z\x7d))" :=
      exists_ok_of_any (by decide +kernel)
    obtain ⟨r, hr, hkind, hcode⟩ := hcode
    obtain ⟨hmodes, -, hclean⟩ := strict_agrees_with_lenient .standard
      (capped "=min($\x7bmetric:a\x7d, $min(\x7bmetric:z\x7d))")
    have hstrict := (hmodes .python).1 fun same hsame =>
      Except.ok.inj (hgraph.symm.trans hsame) ▸ hquiet
    refine ⟨program, r, hprogram, hstrict.trans hprogram, hr, hkind, hcode, ?_⟩
    exact hclean .python htarget program (hstrict.trans hprogram) r hr hkind _ hcode

end Program

end EstimateCompiler
