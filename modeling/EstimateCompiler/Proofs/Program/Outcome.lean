import EstimateCompiler.Proofs.Graph.Outcome
import EstimateCompiler.Proofs.Program.Writing

/-!
# When a model is compiled

The stages of a compilation fail in a fixed order: an unknown target, a guesstimate without a
metric, in strict mode a function with an unknown reference, and a cycle. Nothing else fails. In
particular no dependency is without an entry, because the dependencies of a node are nodes, and a
node of whatever kind is asked about, is silent, or has a report.
-/
namespace EstimateCompiler

theorem Call.distribution_eq_error_iff {make : Text → Text → Call} {node : Node} {d : Diagnostic} :
    Call.distribution make node = .error d ↔ Bounds.parse? node.expression = none ∧
      d = ⟨node.id, .unreadableBounds node.expression node.kind⟩ := by
  unfold Call.distribution
  cases Bounds.parse? node.expression <;> simp [eq_comm]

/-- The reports about nodes that cannot be written, over all kinds. -/
theorem Node.call_eq_error_iff {node : Node} {d : Diagnostic} :
    node.call = .error d ↔
      node.kind = .data ∧ node.data = none ∧ d = ⟨node.id, .missingData⟩ ∨
      node.kind ∈ [.uniform, .normal, .lognormal] ∧ Bounds.parse? node.expression = none ∧
        d = ⟨node.id, .unreadableBounds node.expression node.kind⟩ := by
  unfold Node.call
  cases hkind : node.kind with
  | point | function => simp
  | data => cases node.data <;> simp [eq_comm]
  | uniform | normal | lognormal => simp [Call.distribution_eq_error_iff, hkind]

namespace Program

variable {target : Target} {settings : Settings} {model : Model}

theorem compileFor_of_error {error : CompileError}
    (h : NodeMap.ofModel model settings target.reserved = .error error) :
    compileFor target settings model = .error error := by
  rw [compileFor, Graph.ofModel_of_error h]
  rfl

/-- A compilation of nodes that are there is refused, or ends as the search for an order does. -/
theorem compileFor_of_nodes {nodes : NodeMap}
    (h : NodeMap.ofModel model settings target.reserved = .ok nodes) :
    compileFor target settings model =
      match nodes.refusal? settings.strict with
      | some error => .error error
      | none => (nodes.edges.sort.mapError .noOrder).map (write target model.url nodes.graph) := by
  rw [compileFor, Graph.ofModel_of_nodes h]
  cases nodes.refusal? settings.strict with
  | some error => rfl
  | none =>
      change (nodes.edges.sort.mapError CompileError.noOrder >>= fun order =>
        pure (write target model.url nodes.graph order)) = _
      cases nodes.edges.sort <;> rfl

theorem compile_of_get? {registry : Registry} {name : Text}
    (h : registry.get? name = some target) (settings : Settings) (model : Model) :
    compile registry name settings model = compileFor target settings model := by
  rw [compile, Registry.find, h]
  rfl

theorem compile_of_get?_eq_none {registry : Registry} {name : Text}
    (h : registry.get? name = none) (settings : Settings) (model : Model) :
    compile registry name settings model =
      .error (.unknownTarget name registry.available) := by
  rw [compile, Registry.find, h]
  rfl

theorem sort_edges_cases (nodes : NodeMap) :
    (nodes.edges.Acyclic ∧ ∃ order, nodes.edges.sort = .ok order) ∨
      ¬ nodes.edges.Acyclic ∧ ∃ cycle, nodes.edges.sort = .error (.cyclic cycle) := by
  cases hsort : nodes.edges.sort with
  | ok order =>
      have hacyclic := Edges.acyclic_of_idxOf_lt fun _ _ hd => Edges.idxOf_lt_of_sort hsort hd
      exact .inl ⟨hacyclic, order, rfl⟩
  | error error =>
      have hjustified := Edges.justifies_of_sort hsort
      cases error with
      | broken id =>
          obtain ⟨habsent, key, -, hkey⟩ := hjustified
          exact absurd (nodes.closed_edges key id hkey) habsent
      | cyclic cycle =>
          refine .inr ⟨fun hacyclic => ?_, cycle, rfl⟩
          exact hjustified.not_closed_and_acyclic ⟨nodes.closed_edges, hacyclic⟩

section Nodes
variable {nodes : NodeMap} (hnodes : NodeMap.ofModel model settings target.reserved = .ok nodes)
include hnodes

theorem compileFor_of_dangling {id : Text} {node : Node} (hstrict : settings.strict = true)
    (hfirst : nodes.firstDangling? = some (id, node)) :
    compileFor target settings model =
      .error (.danglingReferences id (node.resolve nodes.names).dangling) := by
  rw [compileFor_of_nodes hnodes, NodeMap.refusal?, if_pos hstrict, hfirst]
  rfl

/-- Nodes that are not refused give a program, unless they depend on each other in a cycle. -/
theorem compileFor_cases (hpassed : settings.strict = false ∨ nodes.firstDangling? = none) :
    (nodes.edges.Acyclic ∧ ∃ program, compileFor target settings model = .ok program) ∨
      ¬ nodes.edges.Acyclic ∧
        ∃ cycle, compileFor target settings model = .error (.noOrder (.cyclic cycle)) := by
  rw [compileFor_of_nodes hnodes, NodeMap.refusal?_eq_none_iff.2 hpassed]
  rcases sort_edges_cases nodes with ⟨hacyclic, order, hsort⟩ | ⟨hcyclic, cycle, hsort⟩
  · rw [hsort]
    exact .inl ⟨hacyclic, _, rfl⟩
  · rw [hsort]
    exact .inr ⟨hcyclic, cycle, rfl⟩

end Nodes

/-- What a compilation ends with, and why: each failure stands for its reason and for the absence of
those that come before. -/
inductive Outcome (target : Target) (settings : Settings) (model : Model) :
    Except CompileError Program → Prop where
  | missing {guesstimate : Guesstimate} (first : model.unmatched? = some guesstimate) :
      Outcome target settings model (.error (.missingMetric guesstimate.metric))
  | dangling {nodes : NodeMap} {id : Text} {node : Node}
      (made : NodeMap.ofModel model settings target.reserved = .ok nodes)
      (strict : settings.strict = true) (first : nodes.firstDangling? = some (id, node)) :
      Outcome target settings model
        (.error (.danglingReferences id (node.resolve nodes.names).dangling))
  | cyclic {nodes : NodeMap} {cycle : Cycle}
      (made : NodeMap.ofModel model settings target.reserved = .ok nodes)
      (passed : settings.strict = false ∨ nodes.firstDangling? = none)
      (reason : ¬ nodes.edges.Acyclic) :
      Outcome target settings model (.error (.noOrder (.cyclic cycle)))
  | written {nodes : NodeMap} {program : Program}
      (made : NodeMap.ofModel model settings target.reserved = .ok nodes)
      (passed : settings.strict = false ∨ nodes.firstDangling? = none)
      (reason : nodes.edges.Acyclic) : Outcome target settings model (.ok program)

theorem compileFor_outcome (target : Target) (settings : Settings) (model : Model) :
    Outcome target settings model (compileFor target settings model) := by
  cases hunmatched : model.unmatched? with
  | some guesstimate =>
      rw [compileFor_of_error (NodeMap.ofModel_of_unmatched hunmatched settings target.reserved)]
      exact .missing hunmatched
  | none =>
      obtain ⟨nodes, hnodes⟩ := NodeMap.exists_ofModel hunmatched settings target.reserved
      by_cases hpassed : settings.strict = false ∨ nodes.firstDangling? = none
      · rcases compileFor_cases hnodes hpassed with ⟨hacyclic, _, hok⟩ | ⟨hcyclic, _, hfailed⟩
        · rw [hok]
          exact .written hnodes hpassed hacyclic
        · rw [hfailed]
          exact .cyclic hnodes hpassed hcyclic
      · obtain ⟨hstrict, hdangling⟩ := not_or.1 hpassed
        have hstrict : settings.strict = true := by simpa using hstrict
        obtain ⟨⟨id, node⟩, hfirst⟩ := Option.ne_none_iff_exists'.1 hdangling
        rw [compileFor_of_dangling hnodes hstrict hfirst]
        exact .dangling hnodes hstrict hfirst

theorem compile_eq_unknownTarget_iff {registry : Registry} {name asked : Text}
    {available : List Text} :
    compile registry name settings model = .error (.unknownTarget asked available) ↔
      name ∉ registry.keys ∧ asked = name ∧ available = registry.available := by
  rw [OrderedMap.mem_keys]
  cases hget : registry.get? name with
  | none =>
      rw [compile_of_get?_eq_none hget]
      simp [eq_comm]
  | some target =>
      have houtcome := compileFor_outcome target settings model
      rw [compile_of_get? hget]
      refine iff_of_false ?_ (by simp)
      intro hfailed
      rw [hfailed] at houtcome
      cases houtcome

theorem compileFor_eq_missingMetric_iff {id : Text} :
    compileFor target settings model = .error (.missingMetric id) ↔
      ∃ guesstimate, model.unmatched? = some guesstimate ∧ guesstimate.metric = id := by
  constructor
  · intro hfailed
    have houtcome := compileFor_outcome target settings model
    rw [hfailed] at houtcome
    cases houtcome with
    | missing first => exact ⟨_, first, rfl⟩
  · rintro ⟨guesstimate, hunmatched, rfl⟩
    exact compileFor_of_error (NodeMap.ofModel_of_unmatched hunmatched settings target.reserved)

theorem compileFor_eq_dangling_iff {nodes : NodeMap}
    (hnodes : NodeMap.ofModel model settings target.reserved = .ok nodes) {id : Text}
    {ids : List Text} :
    compileFor target settings model = .error (.danglingReferences id ids) ↔
      settings.strict = true ∧ ∃ node, nodes.firstDangling? = some (id, node) ∧
        ids = (node.resolve nodes.names).dangling := by
  constructor
  · intro hfailed
    have houtcome := compileFor_outcome target settings model
    rw [hfailed] at houtcome
    cases houtcome with
    | dangling made strict first =>
        obtain rfl := Except.ok.inj (hnodes.symm.trans made)
        exact ⟨strict, _, first, rfl⟩
  · rintro ⟨hstrict, node, hfirst, rfl⟩
    exact compileFor_of_dangling hnodes hstrict hfirst

/-- The failures of a compilation, in the order in which they come up. A node that cannot be written
is no failure: it has a report, for absent samples or unreadable bounds and never for its kind. -/
theorem compile_fails_exactly (settings : Settings) (model : Model) :
    (∀ (registry : Registry) (name : Text),
      (∀ asked available,
        compile registry name settings model = .error (.unknownTarget asked available) ↔
          name ∉ registry.keys ∧ asked = name ∧ available = registry.available) ∧
      ∀ target, registry.get? name = some target →
        compile registry name settings model = compileFor target settings model) ∧
    ∀ target : Target,
      (∀ id, compileFor target settings model = .error (.missingMetric id) ↔
        ∃ guesstimate, model.unmatched? = some guesstimate ∧ guesstimate.metric = id) ∧
      (model.unmatched? = none →
        ∃ nodes graph, NodeMap.ofModel model settings target.reserved = .ok nodes ∧
          Graph.ofModel model { settings with strict := false } target.reserved = .ok graph ∧
          (∀ id ids, compileFor target settings model = .error (.danglingReferences id ids) ↔
            settings.strict = true ∧ ∃ node, nodes.firstDangling? = some (id, node) ∧
              ids = (node.resolve nodes.names).dangling) ∧
          (settings.strict = false ∨ nodes.firstDangling? = none →
            ((∃ cycle, compileFor target settings model = .error (.noOrder (.cyclic cycle))) ↔
              ¬ graph.edges.Acyclic) ∧
            ((∃ program, compileFor target settings model = .ok program) ↔
              graph.edges.Acyclic))) ∧
      (∀ asked available,
        compileFor target settings model ≠ .error (.unknownTarget asked available)) ∧
      (∀ id, compileFor target settings model ≠ .error (.noOrder (.broken id))) ∧
      ∀ (node : Node) (d : Diagnostic), node.call = .error d ↔
        node.kind = .data ∧ node.data = none ∧ d = ⟨node.id, .missingData⟩ ∨
        node.kind ∈ [.uniform, .normal, .lognormal] ∧ Bounds.parse? node.expression = none ∧
          d = ⟨node.id, .unreadableBounds node.expression node.kind⟩ := by
  refine ⟨fun registry name => ⟨fun _ _ => compile_eq_unknownTarget_iff,
    fun target h => compile_of_get? h settings model⟩, ?_⟩
  intro target
  have houtcome := compileFor_outcome target settings model
  refine ⟨fun _ => compileFor_eq_missingMetric_iff, ?_, ?_, ?_,
    fun _ _ => Node.call_eq_error_iff⟩
  · intro hmatched
    obtain ⟨nodes, hnodes⟩ := NodeMap.exists_ofModel hmatched settings target.reserved
    have hgraph : Graph.ofModel model { settings with strict := false } target.reserved =
        .ok nodes.graph := Graph.ofModel_of_nodes hnodes
    refine ⟨nodes, nodes.graph, hnodes, hgraph, fun _ _ => compileFor_eq_dangling_iff hnodes, ?_⟩
    intro hpassed
    change (_ ↔ ¬ nodes.edges.Acyclic) ∧ (_ ↔ nodes.edges.Acyclic)
    rcases compileFor_cases hnodes hpassed with ⟨hacyclic, program, hok⟩ | ⟨hcyclic, cycle, hfailed⟩
    · simp [hok, hacyclic]
    · simp [hfailed, hcyclic]
  · intro asked available hfailed
    rw [hfailed] at houtcome
    cases houtcome
  · intro id hfailed
    rw [hfailed] at houtcome
    cases houtcome

/-- Two formulas that need each other, the second of which refers to an id without a node. -/
def knotted : Model where
  url := ""
  metrics := [⟨"a", "Alpha"⟩, ⟨"b", "Beta"⟩]
  guesstimates := [
    ⟨"a", .function, some "=$\x7bmetric:b\x7d", .text "", none⟩,
    ⟨"b", .function, some "=$\x7bmetric:a\x7d + $\x7bmetric:z\x7d", .text "", none⟩]

/-- The unknown reference comes before the cycle in strict mode, and does not count in lenient
mode. -/
theorem knotted_fails_exactly :
    (∃ nodes node,
      NodeMap.ofModel knotted { Settings.standard with strict := true } [] = .ok nodes ∧
      nodes.firstDangling? = some (("b" : Text), node) ∧
      (node.resolve nodes.names).dangling = ["z"]) ∧
    (∃ graph, Graph.ofModel knotted .standard [] = .ok graph ∧ ¬ graph.edges.Acyclic) ∧
    compileFor .squiggle { Settings.standard with strict := true } knotted =
      .error (.danglingReferences "b" ["z"]) ∧
    compileFor .squiggle .standard knotted = .error (.noOrder (.cyclic ⟨"a", ["b", "a"]⟩)) := by
  have hmatched : knotted.unmatched? = none := rfl
  have hstrict : compileFor .squiggle { Settings.standard with strict := true } knotted =
      .error (.danglingReferences "b" ["z"]) := by decide +kernel
  have hlenient : compileFor .squiggle .standard knotted =
      .error (.noOrder (.cyclic ⟨"a", ["b", "a"]⟩)) := by decide +kernel
  obtain ⟨nodes, _, hnodes, -, hdangling, -⟩ :=
    ((compile_fails_exactly { Settings.standard with strict := true } knotted).2 .squiggle).2.1
      hmatched
  obtain ⟨_, graph, -, hgraph, -, hcyclic⟩ :=
    ((compile_fails_exactly .standard knotted).2 .squiggle).2.1 hmatched
  obtain ⟨-, node, hfirst, hids⟩ := (hdangling "b" ["z"]).1 hstrict
  exact ⟨⟨nodes, node, hnodes, hfirst, hids.symm⟩,
    ⟨graph, hgraph, (hcyclic (.inl rfl)).1.1 ⟨_, hlenient⟩⟩, hstrict, hlenient⟩

end Program

end EstimateCompiler
