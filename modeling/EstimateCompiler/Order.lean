import EstimateCompiler.Failure
import EstimateCompiler.OrderedMap

/-!
# Emission order

Every node comes after the nodes that it depends on. The search is depth first: it starts from the
keys in their order and visits the dependencies of a node in the same order, ids without an entry
last. A node is fresh until it is visited, then open while its dependencies are visited, and then
finished; nodes are emitted in the order in which they finish. A dependency on an open node closes a
cycle, and one that is neither fresh nor open nor finished has no entry.

The search is a loop over the fresh keys, the stack of open nodes and the finished nodes. Every step
lowers the work that is left: a dependency is passed, a node is finished, or a fresh node is opened,
which is counted with all its dependencies beforehand.
-/
namespace EstimateCompiler

abbrev Edges := OrderedMap (List Text)

/-- Ids in the order of their characters, each once. -/
def sortIds (ids : List Text) : List Text := ids.eraseDups.mergeSort fun a b => decide (a ≤ b)

namespace Order

/-- The dependencies of a node in the order of the visit: those with an entry in the order of the
keys, then the others in the order of their characters. -/
def visited (edges : Edges) (id : Text) : List Text :=
  let dependencies := (edges.get? id).getD []
  edges.keys.filter (· ∈ dependencies) ++ sortIds (dependencies.filter (· ∉ edges.keys))

/-- An open node and its dependencies that are still to be visited. -/
structure Frame where
  id : Text
  pending : List Text
  deriving DecidableEq, Repr

/-- The steps that open nodes ask for if no node is opened. -/
def work : List Frame → Nat
  | [] => 0
  | frame :: stack => frame.pending.length + 1 + work stack

/-- The steps that fresh nodes ask for, from their opening to their end. -/
def freshWork (edges : Edges) : List Text → Nat
  | [] => 0
  | id :: fresh => (visited edges id).length + 2 + freshWork edges fresh

theorem freshWork_erase (edges : Edges) {fresh : List Text} {id : Text} (h : id ∈ fresh) :
    freshWork edges (fresh.erase id) + ((visited edges id).length + 2) = freshWork edges fresh := by
  induction fresh with
  | nil => cases h
  | cons head rest ih =>
      by_cases hid : head = id
      · subst hid
        simp only [List.erase_cons_head, freshWork]
        omega
      · have hrest : id ∈ rest := by
          rcases List.mem_cons.1 h with rfl | h
          · exact absurd rfl hid
          · exact h
        have := ih hrest
        rw [List.erase_cons_tail (by simpa using hid)]
        simp only [freshWork]
        omega

/-- The cycle that a dependency on an open node closes. The stack starts with the innermost node. -/
def cycleAt (stack : List Frame) (id : Text) : Cycle :=
  ⟨id, ((stack.map Frame.id).takeWhile (· ≠ id)).reverse ++ [id]⟩

/-- The loop of the search. The finished nodes are listed from the last one on. -/
def search (edges : Edges) (fresh : List Text) (stack : List Frame) (finished : List Text) :
    Except OrderError (List Text) :=
  match stack, fresh with
  | [], [] => .ok finished.reverse
  | [], root :: fresh => search edges fresh [⟨root, visited edges root⟩] finished
  | ⟨id, []⟩ :: stack, fresh => search edges fresh stack (id :: finished)
  | ⟨id, dependency :: pending⟩ :: stack, fresh =>
      if dependency ∈ fresh then
        search edges (fresh.erase dependency)
          (⟨dependency, visited edges dependency⟩ :: ⟨id, pending⟩ :: stack) finished
      else if dependency ∈ (⟨id, pending⟩ :: stack).map Frame.id then
        .error (.cyclic (cycleAt (⟨id, pending⟩ :: stack) dependency))
      else if dependency ∈ finished then
        search edges fresh (⟨id, pending⟩ :: stack) finished
      else .error (.broken dependency)
termination_by freshWork edges fresh + work stack
decreasing_by
  · simp only [freshWork, work]
    omega
  · simp only [work, List.length_nil]
    omega
  · rename_i h
    have := freshWork_erase edges h
    simp only [work, List.length_cons]
    omega
  · simp only [work, List.length_cons]
    omega

end Order

def Edges.sort (edges : Edges) : Except OrderError (List Text) :=
  Order.search edges edges.keys [] []

end EstimateCompiler
