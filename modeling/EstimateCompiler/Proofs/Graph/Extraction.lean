import EstimateCompiler.Graph
import EstimateCompiler.Proofs.Except
import EstimateCompiler.Proofs.OrderedMap

/-!
# What a pass over the nodes leaves

A pass that gets through has resolved every node by itself, with the names that the nodes had before
the pass: nodes, dependencies and diagnostics are given node by node, in the order of the nodes. Of
a node nothing changes but the expression.
-/
namespace EstimateCompiler

section Resolve
variable (names : OrderedMap Text) (node : Node)

@[simp] theorem Node.resolve_id : (node.resolve names).node.id = node.id := by
  unfold Node.resolve
  split <;> rfl

@[simp] theorem Node.resolve_name : (node.resolve names).node.name = node.name := by
  unfold Node.resolve
  split <;> rfl

@[simp] theorem Node.resolve_kind : (node.resolve names).node.kind = node.kind := by
  unfold Node.resolve
  split <;> rfl

variable {names node}

theorem Node.mem_ids_resolve {id : Text} :
    id ∈ (node.resolve names).ids ↔
      node.kind = .function ∧ id ∈ (Reference.resolve names node.body).ids := by
  unfold Node.resolve
  split
  · simp [*]
  · simp [*]

end Resolve

theorem extractEntries_of_ok {strict : Bool} {names : OrderedMap Text}
    {entries : List (Text × Node)} {found : Extracted}
    (h : (extractEntries strict names entries).2 = .ok found) :
    (extractEntries strict names entries).1 =
        entries.map (fun entry => (entry.1, (entry.2.resolve names).node)) ∧
      found.edges = entries.map (fun entry => (entry.1, (entry.2.resolve names).ids)) := by
  induction entries generalizing found with
  | nil =>
      simp only [extractEntries, Except.ok.injEq] at h
      subst h
      exact ⟨rfl, rfl⟩
  | cons entry rest ih =>
      simp only [extractEntries] at h ⊢
      split at h
      · cases h
      · rename_i hgoesOn
        cases hrest : (extractEntries strict names rest).2 with
        | error e => simp [hrest, Except.map] at h
        | ok later =>
            obtain ⟨hnodes, hedges⟩ := ih hrest
            simp only [hrest, Except.map, Except.ok.injEq] at h
            subst h
            rw [if_neg hgoesOn]
            exact ⟨congrArg _ hnodes, congrArg _ hedges⟩

/-- The nodes with their references resolved. -/
def NodeMap.resolved (nodes : NodeMap) : NodeMap :=
  nodes.map fun node => (node.resolve nodes.names).node

def NodeMap.edges (nodes : NodeMap) : Edges :=
  nodes.map fun node => (node.resolve nodes.names).ids

/-- A pass that gets through leaves the nodes resolved, and the ids that they refer to as their
dependencies. -/
theorem NodeMap.extract_of_ok {strict : Bool} {nodes : NodeMap} {edges : Edges}
    {diagnostics : List Diagnostic}
    (h : (nodes.extract strict).outcome = .ok (edges, diagnostics)) :
    (nodes.extract strict).nodes = nodes.resolved ∧ edges = nodes.edges := by
  simp only [NodeMap.extract] at h
  split at h
  · cases h
  · rename_i found hfound
    simp only [Except.ok.injEq, Prod.mk.injEq] at h
    obtain ⟨hnodes, hedges⟩ := extractEntries_of_ok hfound
    refine ⟨OrderedMap.ext_entries hnodes, ?_⟩
    rw [← h.1]
    exact OrderedMap.ext_entries hedges

theorem Graph.of_ofModel {model : Model} {settings : Settings} {reserved : List Text}
    {graph : Graph} (h : Graph.ofModel model settings reserved = .ok graph) :
    ∃ nodes : NodeMap, NodeMap.ofModel model settings reserved = .ok nodes ∧
      graph.nodes = nodes.resolved ∧ graph.edges = nodes.edges := by
  obtain ⟨nodes, hnodes, h⟩ := bind_eq_ok.1 h
  obtain ⟨⟨edges, diagnostics⟩, hpass, h⟩ := bind_eq_ok.1 h
  simp only [pure, Except.pure, Except.ok.injEq] at h
  subst h
  exact ⟨nodes, hnodes, NodeMap.extract_of_ok hpass⟩

end EstimateCompiler
