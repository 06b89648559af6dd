import EstimateCompiler.Proofs.Order.Dependency

/-!
# What the search for an emission order finds

The loop of the search is followed through one invariant. Every key is fresh, open or finished, and
only one of them; the finished nodes are settled; an open node still has to visit each dependency
that is neither finished nor on its way to be finished by an open node further in; and every open
node is a dependency of the next one out. A step of each sort keeps the invariant, a finished run
leaves nothing but finished nodes, and a run that breaks off does it at a dependency that proves the
failure. From this the two main statements follow: the result lists the keys with dependencies
first, and there is a result exactly if the dependencies stay among the keys without a cycle.
-/
namespace EstimateCompiler.Order

/-- Every open node, from the innermost on, has only dependencies that are pending, finished or open
further in. What is pending is a dependency. -/
def Suspended (edges : Edges) : List Text → List Frame → Prop
  | _, [] => True
  | settled, frame :: stack =>
      (∀ d, edges.DependsOn frame.id d → d ∈ frame.pending ∨ d ∈ settled) ∧
        (∀ d ∈ frame.pending, edges.DependsOn frame.id d) ∧
        Suspended edges (frame.id :: settled) stack

structure Reached (edges : Edges) (fresh : List Text) (stack : List Frame)
    (finished : List Text) : Prop where
  perm : (fresh ++ (stack.map Frame.id ++ finished)).Perm edges.keys
  settled : edges.Settled finished
  suspended : Suspended edges finished stack
  isChain : (stack.map Frame.id).IsChain fun inner outer => edges.DependsOn outer inner

variable {edges : Edges} {fresh finished pending : List Text} {stack : List Frame}
variable {id dependency : Text}

theorem Suspended.mono {settled larger : List Text} (h : Suspended edges settled stack)
    (hsub : settled ⊆ larger) : Suspended edges larger stack := by
  induction stack generalizing settled larger with
  | nil => trivial
  | cons frame stack ih =>
      obtain ⟨hall, hpending, hrest⟩ := h
      refine ⟨fun d hd => (hall d hd).imp_right fun hd => hsub hd, hpending, ih hrest ?_⟩
      exact List.cons_subset_cons _ hsub

theorem Suspended.push {settled : List Text}
    (h : Suspended edges (id :: settled) stack) :
    Suspended edges settled (⟨id, visited edges id⟩ :: stack) :=
  ⟨fun _ hd => .inl (Edges.mem_visited.2 hd), fun _ hd => Edges.mem_visited.1 hd, h⟩

theorem Suspended.pass {settled : List Text}
    (h : Suspended edges settled (⟨id, dependency :: pending⟩ :: stack))
    (hd : dependency ∈ settled) : Suspended edges settled (⟨id, pending⟩ :: stack) := by
  obtain ⟨hall, hpending, hrest⟩ := h
  refine ⟨fun d hdep => ?_, fun d hdep => hpending d (List.mem_cons_of_mem _ hdep), hrest⟩
  rcases hall d hdep with hmem | hmem
  · rcases List.mem_cons.1 hmem with rfl | hmem
    · exact .inr hd
    · exact .inl hmem
  · exact .inr hmem

theorem Reached.start (edges : Edges) : Reached edges edges.keys [] [] :=
  ⟨by simp, trivial, trivial, .nil⟩

theorem Reached.root (h : Reached edges (id :: fresh) [] finished) :
    Reached edges fresh [⟨id, visited edges id⟩] finished := by
  refine ⟨?_, h.settled, Suspended.push trivial, .singleton _⟩
  exact List.perm_middle.trans h.perm

theorem Reached.finish (h : Reached edges fresh (⟨id, []⟩ :: stack) finished) :
    Reached edges fresh stack (id :: finished) := by
  obtain ⟨hall, -, hrest⟩ := h.suspended
  refine ⟨?_, ⟨fun d hd => (hall d hd).resolve_left List.not_mem_nil, h.settled⟩, hrest, ?_⟩
  · exact (List.perm_middle.append_left fresh).trans h.perm
  · exact h.isChain.tail

theorem Reached.dependsOn
    (h : Reached edges fresh (⟨id, dependency :: pending⟩ :: stack) finished) :
    edges.DependsOn id dependency :=
  h.suspended.2.1 dependency List.mem_cons_self

theorem Reached.descend
    (h : Reached edges fresh (⟨id, dependency :: pending⟩ :: stack) finished)
    (hfresh : dependency ∈ fresh) :
    Reached edges (fresh.erase dependency)
      (⟨dependency, visited edges dependency⟩ :: ⟨id, pending⟩ :: stack) finished := by
  refine ⟨?_, h.settled, Suspended.push ?_, ?_⟩
  · have hmoved := List.perm_cons_erase hfresh
    exact List.perm_middle.trans ((hmoved.symm.append_right _).trans h.perm)
  · have hlarger : Suspended edges (dependency :: finished)
        (⟨id, dependency :: pending⟩ :: stack) := h.suspended.mono (List.subset_cons_self _ _)
    exact hlarger.pass List.mem_cons_self
  · exact .cons_cons h.dependsOn h.isChain

theorem Reached.pass (h : Reached edges fresh (⟨id, dependency :: pending⟩ :: stack) finished)
    (hfinished : dependency ∈ finished) :
    Reached edges fresh (⟨id, pending⟩ :: stack) finished :=
  ⟨h.perm, h.settled, h.suspended.pass hfinished, h.isChain⟩

theorem Reached.nodup (h : Reached edges fresh stack finished) :
    (fresh ++ (stack.map Frame.id ++ finished)).Nodup :=
  h.perm.nodup_iff.2 edges.keys_nodup

theorem Reached.mem_keys_iff (h : Reached edges fresh stack finished) (key : Text) :
    key ∈ edges.keys ↔ key ∈ fresh ∨ key ∈ stack.map Frame.id ∨ key ∈ finished := by
  rw [← h.perm.mem_iff, List.mem_append, List.mem_append]

/-- A dependency on an open node closes a cycle through the nodes that are open further in. -/
theorem Reached.isCycle (h : Reached edges fresh (⟨id, dependency :: pending⟩ :: stack) finished)
    (hopen : dependency ∈ (⟨id, pending⟩ :: stack : List Frame).map Frame.id) :
    edges.IsCycle (cycleAt (⟨id, pending⟩ :: stack) dependency).path := by
  have hnodup : (id :: stack.map Frame.id).Nodup :=
    (List.nodup_append.1 (List.nodup_append.1 h.nodup).2.1).1
  refine Edges.isCycle_of_isChain h.isChain hnodup (fun key hkey => ?_) rfl h.dependsOn hopen
  exact (h.mem_keys_iff key).2 (.inr (.inl hkey))

/-- What a run from a reached state ends with: an order of the keys, or a failure that the
dependencies justify. -/
theorem search_spec (h : Reached edges fresh stack finished) :
    match search edges fresh stack finished with
    | .ok order => order.Perm edges.keys ∧ edges.Settled order.reverse
    | .error error => edges.Justifies error := by
  fun_induction search edges fresh stack finished with
  | case1 finished =>
      refine ⟨?_, by simpa using h.settled⟩
      exact (List.reverse_perm _).trans (by simpa using h.perm)
  | case2 finished root fresh ih => exact ih h.root
  | case3 finished id stack fresh ih => exact ih h.finish
  | case4 finished id dependency pending stack fresh hfresh ih => exact ih (h.descend hfresh)
  | case5 finished id dependency pending stack fresh hfresh hopen =>
      exact h.isCycle hopen
  | case6 finished id dependency pending stack fresh hfresh hopen hfinished ih =>
      exact ih (h.pass hfinished)
  | case7 finished id dependency pending stack fresh hfresh hopen hfinished =>
      refine ⟨fun hkey => ?_, id, h.dependsOn.mem_keys, h.dependsOn⟩
      rcases (h.mem_keys_iff dependency).1 hkey with hkey | hkey | hkey
      · exact hfresh hkey
      · exact hopen hkey
      · exact hfinished hkey

end EstimateCompiler.Order

namespace EstimateCompiler.Edges

theorem sort_spec (edges : Edges) :
    match edges.sort with
    | .ok order => order.Perm edges.keys ∧ edges.Settled order.reverse
    | .error error => edges.Justifies error :=
  Order.search_spec (Order.Reached.start edges)

variable {edges : Edges} {order : List Text}

theorem perm_keys_of_sort (h : edges.sort = .ok order) : order.Perm edges.keys := by
  have hspec := sort_spec edges
  rw [h] at hspec
  exact hspec.1

theorem idxOf_lt_of_sort (h : edges.sort = .ok order) {id dependency : Text}
    (hd : edges.DependsOn id dependency) : order.idxOf dependency < order.idxOf id := by
  have hspec := sort_spec edges
  rw [h] at hspec
  have hnodup : order.reverse.Nodup :=
    List.nodup_reverse.2 (hspec.1.nodup_iff.2 edges.keys_nodup)
  have hid : id ∈ order.reverse := List.mem_reverse.2 (hspec.1.mem_iff.2 hd.mem_keys)
  simpa using hspec.2.idxOf_lt hnodup hid hd

theorem justifies_of_sort {error : OrderError} (h : edges.sort = .error error) :
    edges.Justifies error := by
  have hspec := sort_spec edges
  rwa [h] at hspec

/-- An emission order lists every key once, and every dependency before the ids that depend on
it. -/
theorem sort_perm_and_dependencies_first (h : edges.sort = .ok order) :
    order.Perm edges.keys ∧
      ∀ id dependencies, edges.get? id = some dependencies →
        ∀ dependency ∈ dependencies, order.idxOf dependency < order.idxOf id := by
  refine ⟨perm_keys_of_sort h, ?_⟩
  intro id dependencies hid dependency hmem
  have hd : edges.DependsOn id dependency := by
    unfold DependsOn
    rw [hid]
    exact hmem
  exact idxOf_lt_of_sort h hd

/-- Two nodes that share a dependency, a second root, and a key that comes before what it needs. -/
def shared : Edges :=
  .ofList [("d", ["c", "b", "c"]), ("b", ["a"]), ("c", ["a"]), ("a", []), ("e", ["b"])]

theorem shared_sort_dependencies_first :
    shared.sort = .ok ["a", "b", "c", "d", "e"] ∧
      (["a", "b", "c", "d", "e"] : List Text).Perm shared.keys ∧
      List.idxOf ("c" : Text) ["a", "b", "c", "d", "e"] <
        List.idxOf ("d" : Text) ["a", "b", "c", "d", "e"] := by
  have hsort : shared.sort = .ok ["a", "b", "c", "d", "e"] := by decide +kernel
  obtain ⟨hperm, hbefore⟩ := sort_perm_and_dependencies_first hsort
  exact ⟨hsort, hperm, hbefore "d" ["c", "b", "c"] (by decide +kernel) "c" (by decide)⟩

/-- There is an emission order exactly if every dependency has an entry and there is no cycle. A
failure names a dependency without an entry, or a cycle with its path. -/
theorem sort_ok_iff_and_failure_justified (edges : Edges) :
    ((∃ order, edges.sort = .ok order) ↔ edges.Closed ∧ edges.Acyclic) ∧
      ∀ error, edges.sort = .error error → edges.Justifies error := by
  refine ⟨⟨?_, ?_⟩, fun error h => justifies_of_sort h⟩
  · rintro ⟨order, h⟩
    have hbefore : ∀ id d, edges.DependsOn id d → order.idxOf d < order.idxOf id :=
      fun _ _ hd => idxOf_lt_of_sort h hd
    exact ⟨closed_of_idxOf_lt (perm_keys_of_sort h) hbefore, acyclic_of_idxOf_lt hbefore⟩
  · intro hgood
    cases h : edges.sort with
    | ok order => exact ⟨order, rfl⟩
    | error error => exact absurd hgood (justifies_of_sort h).not_closed_and_acyclic

/-- A root that leads into a cycle which it is not a part of. -/
def entangled : Edges := .ofList [("r", ["a"]), ("a", ["b"]), ("b", ["c"]), ("c", ["a", "z"])]

theorem entangled_sort_justified :
    entangled.sort = .error (.cyclic ⟨"a", ["b", "c", "a"]⟩) ∧
      entangled.IsCycle ["a", "b", "c", "a"] := by
  have hsort : entangled.sort = .error (.cyclic ⟨"a", ["b", "c", "a"]⟩) := by decide +kernel
  exact ⟨hsort, (sort_ok_iff_and_failure_justified entangled).2 _ hsort⟩

end EstimateCompiler.Edges
