import EstimateCompiler.Proofs.Order.Recursion
import EstimateCompiler.Proofs.Order.Search

/-!
# The search as a recursion

The loop of the search keeps a stack of open nodes with the dependencies that they still have to
visit. A frame of the stack is a call of the recursion that has not come back: from a progress of
the recursion the loop runs as the recursion visits what the innermost frame has pending, and it
goes on from the progress in which that visit ends. This holds whichever way the visit ends, so the
loop and the recursion break off at the same dependency, and a cycle that the stack closes is the
one that the path closes.

The loop is also taken apart into rounds, and every round lowers the work that is left. So there are
at most as many rounds as the keys have dependencies, and two more for each key.
-/
namespace EstimateCompiler.Order

variable {edges : Edges} {fresh finished pending : List Text} {stack : List Frame}
variable {id dependency : Text}

structure State where
  fresh : List Text
  stack : List Frame
  finished : List Text

/-- One round of the loop: the state from which it goes on, or how it ends. -/
def State.next (edges : Edges) (s : State) : State ⊕ Except OrderError (List Text) :=
  match s.stack, s.fresh with
  | [], [] => .inr (.ok s.finished.reverse)
  | [], root :: fresh => .inl ⟨fresh, [⟨root, visited edges root⟩], s.finished⟩
  | ⟨id, []⟩ :: stack, fresh => .inl ⟨fresh, stack, id :: s.finished⟩
  | ⟨id, dependency :: pending⟩ :: stack, fresh =>
      if dependency ∈ fresh then
        .inl ⟨fresh.erase dependency,
          ⟨dependency, visited edges dependency⟩ :: ⟨id, pending⟩ :: stack, s.finished⟩
      else if dependency ∈ id :: stack.map Frame.id then
        .inr (.error (.cyclic (cycleAt (⟨id, pending⟩ :: stack) dependency)))
      else if dependency ∈ s.finished then .inl ⟨fresh, ⟨id, pending⟩ :: stack, s.finished⟩
      else .inr (.error (.broken dependency))

/-- The loop ends from a state after a number of rounds that go on. -/
inductive Ends (edges : Edges) : Nat → State → Except OrderError (List Text) → Prop where
  | now {s : State} {outcome : Except OrderError (List Text)} :
      s.next edges = .inr outcome → Ends edges 0 s outcome
  | later {s t : State} {rounds : Nat} {outcome : Except OrderError (List Text)} :
      s.next edges = .inl t → Ends edges rounds t outcome → Ends edges (rounds + 1) s outcome

def State.left (edges : Edges) (s : State) : Nat := freshWork edges s.fresh + work s.stack

/-- A round that goes on and lowers the work may be put in front. -/
theorem exists_ends_of_next {s t : State} {outcome : Except OrderError (List Text)}
    (hnext : s.next edges = .inl t) (hleft : t.left edges < s.left edges)
    (h : ∃ rounds ≤ t.left edges, Ends edges rounds t outcome) :
    ∃ rounds ≤ s.left edges, Ends edges rounds s outcome := by
  obtain ⟨rounds, hrounds, hends⟩ := h
  exact ⟨rounds + 1, hrounds.trans_lt hleft, .later hnext hends⟩

/-- The loop ends as the search does, in no more rounds than there is work. -/
theorem ends_search (edges : Edges) (fresh : List Text) (stack : List Frame)
    (finished : List Text) :
    ∃ rounds ≤ (State.mk fresh stack finished).left edges,
      Ends edges rounds ⟨fresh, stack, finished⟩ (search edges fresh stack finished) := by
  fun_induction search edges fresh stack finished with
  | case1 finished => exact ⟨0, Nat.zero_le _, .now rfl⟩
  | case2 finished root fresh ih =>
      refine exists_ends_of_next rfl ?_ ih
      simp only [State.left, freshWork, work]
      omega
  | case3 finished id stack fresh ih =>
      refine exists_ends_of_next rfl ?_ ih
      simp only [State.left, work, List.length_nil]
      omega
  | case4 finished id dependency pending stack fresh hfresh ih =>
      refine exists_ends_of_next (if_pos hfresh) ?_ ih
      have hwork := freshWork_erase edges hfresh
      simp only [State.left, work, List.length_cons]
      omega
  | case5 finished id dependency pending stack fresh hfresh hopen =>
      exact ⟨0, Nat.zero_le _, .now ((if_neg hfresh).trans (if_pos hopen))⟩
  | case6 finished id dependency pending stack fresh hfresh hopen hfinished ih =>
      refine exists_ends_of_next ((if_neg hfresh).trans ?_) ?_ ih
      · exact (if_neg hopen).trans (if_pos hfinished)
      · simp only [State.left, work, List.length_cons]
        omega
  | case7 finished id dependency pending stack fresh hfresh hopen hfinished =>
      refine ⟨0, Nat.zero_le _, .now ((if_neg hfresh).trans ?_)⟩
      exact (if_neg hopen).trans (if_neg hfinished)

theorem search_root :
    search edges (id :: fresh) [] finished =
      search edges fresh [⟨id, visited edges id⟩] finished := by
  rw [search]

theorem search_finish :
    search edges fresh (⟨id, []⟩ :: stack) finished =
      search edges fresh stack (id :: finished) := by
  rw [search]

theorem search_descend (hfresh : dependency ∈ fresh) :
    search edges fresh (⟨id, dependency :: pending⟩ :: stack) finished =
      search edges (fresh.erase dependency)
        (⟨dependency, visited edges dependency⟩ :: ⟨id, pending⟩ :: stack) finished := by
  rw [search, if_pos hfresh]

theorem search_cyclic (hfresh : dependency ∉ fresh)
    (hopen : dependency ∈ id :: stack.map Frame.id) :
    search edges fresh (⟨id, dependency :: pending⟩ :: stack) finished =
      .error (.cyclic (cycleAt (⟨id, pending⟩ :: stack) dependency)) := by
  rw [search, if_neg hfresh]
  exact if_pos hopen

theorem search_pass (hfresh : dependency ∉ fresh) (hopen : dependency ∉ id :: stack.map Frame.id)
    (hfinished : dependency ∈ finished) :
    search edges fresh (⟨id, dependency :: pending⟩ :: stack) finished =
      search edges fresh (⟨id, pending⟩ :: stack) finished := by
  rw [search, if_neg hfresh]
  exact (if_neg hopen).trans (if_pos hfinished)

theorem search_broken (hfresh : dependency ∉ fresh) (hopen : dependency ∉ id :: stack.map Frame.id)
    (hfinished : dependency ∉ finished) :
    search edges fresh (⟨id, dependency :: pending⟩ :: stack) finished =
      .error (.broken dependency) := by
  rw [search, if_neg hfresh]
  exact (if_neg hopen).trans (if_neg hfinished)

end EstimateCompiler.Order

namespace EstimateCompiler.DepthFirst
open EstimateCompiler.Order

variable {edges : Edges}

/-- The stack has the path from its inner end on, and closes the same cycle. -/
theorem cycleAt_eq {path : List Text} {stack : List Frame} {id : Text} (hnodup : path.Nodup)
    (hpath : path.reverse = stack.map Frame.id) (hid : id ∈ path) :
    cycleAt stack id = ⟨id, (path.dropWhile (· ≠ id)).tail ++ [id]⟩ := by
  obtain ⟨outer, inner, rfl, houter⟩ := List.eq_append_cons_of_mem hid
  have hinner : id ∉ inner := (List.nodup_cons.1 (List.nodup_append.1 hnodup).2.1).1
  have hstack : stack.map Frame.id = inner.reverse ++ id :: outer.reverse := by simp [← hpath]
  have hne : ∀ ids : List Text, id ∉ ids → ∀ x ∈ ids, decide (x ≠ id) = true := by
    intro ids hids x hx
    exact decide_eq_true fun h => hids (h ▸ hx)
  rw [cycleAt, hstack, List.takeWhile_append_of_pos (hne _ (by simpa using hinner)),
    List.dropWhile_append_of_pos (hne _ houter)]
  simp

theorem Coloured.mem_stack_iff {path ids : List Text} {p : Progress} {id : Text}
    (h : Coloured edges path p) (hpath : path.reverse = ids) :
    id ∈ ids ↔ p.marks.get? id = some .opened := by
  rw [← hpath, List.mem_reverse, h.opened]

/-- From a progress of the recursion, the loop works off the innermost frame as the recursion visits
what the frame has pending. -/
theorem search_eq_visit {path pending : List Text} {p : Progress} {id : Text}
    {stack : List Frame} (h : Coloured edges path p)
    (hpath : path.reverse = id :: stack.map Frame.id) :
    search edges (p.unmet edges) (⟨id, pending⟩ :: stack) p.order.reverse = (do
      let q ← visit edges path pending p
      search edges (q.unmet edges) stack (id :: q.order.reverse)) := by
  -- along the recursion, for any stack below the frame: a descent puts the present frame there
  induction path, pending, p using visit_induction edges generalizing id stack with
  | nil path p =>
      rw [visit_nil, search_finish]
      rfl
  | finished path d ids p hkey hmark ih =>
      have hopen : d ∉ id :: stack.map Frame.id := by
        rw [h.mem_stack_iff hpath, hmark]
        simp
      have hfinished : d ∈ p.order.reverse := List.mem_reverse.2 ((h.finished d).1 hmark)
      rw [search_pass (Progress.not_mem_unmet hmark) hopen hfinished, visit_finished hkey hmark]
      exact ih h hpath
  | opened path d ids p hkey hmark =>
      have hstack : path.reverse = (⟨id, ids⟩ :: stack : List Frame).map Frame.id := hpath
      rw [search_cyclic (Progress.not_mem_unmet hmark) ((h.mem_stack_iff hpath).2 hmark),
        cycleAt_eq h.nodup hstack ((h.opened d).1 hmark), visit_opened hkey hmark]
      rfl
  | unmet path d ids p hkey hmark ihInner ihOuter =>
      have hopening := h.opening hkey hmark
      have hdescend : (path ++ [d]).reverse =
          d :: (⟨id, ids⟩ :: stack : List Frame).map Frame.id := by simp [hpath]
      rw [search_descend (Progress.mem_unmet.2 ⟨hkey, hmark⟩), visited_eq_ranked,
        ← Progress.unmet_opening, visit_unmet hkey hmark, bind_assoc]
      refine (ihInner hopening hdescend).trans ?_
      cases hq : visit edges (path ++ [d]) (ranked edges d) (p.opening d) with
      | error e => rfl
      | ok q =>
          have hcovers := covers_of_visit hopening hq
          have houter := ihOuter q hq hcovers.finishing.coloured hpath
          rw [hcovers.coloured.unmet_finishing_last, Progress.reverse_finishing] at houter
          exact houter
  | broken path d ids p hkey =>
      have hmark : p.marks.get? d = none := by
        rw [Option.eq_none_iff_forall_ne_some]
        exact fun mark hmark => hkey (h.mem_keys d mark hmark)
      rw [search_broken, visit_broken hkey]
      · rfl
      · exact fun hd => hkey (Progress.mem_unmet.1 hd).1
      · rw [h.mem_stack_iff hpath, hmark]
        simp
      · rw [List.mem_reverse, ← h.finished, hmark]
        simp

/-- Where the keys in front have ended, the unmet keys are found among the others. -/
theorem Coloured.unmet_eq_filter {before roots : List Text} {p : Progress}
    (h : Coloured edges [] p) (hkeys : edges.keys = before ++ roots)
    (hbefore : ∀ id ∈ before, id ∈ p.order) :
    p.unmet edges = roots.filter fun id => (p.marks.get? id).isNone := by
  have hnone : before.filter (fun id => (p.marks.get? id).isNone) = [] := by
    rw [List.filter_eq_nil_iff]
    intro id hid
    simp [(h.finished id).2 (hbefore id hid)]
  rw [Progress.unmet, hkeys, List.filter_append, hnone, List.nil_append]

/-- With an empty stack, the loop takes the next unmet key, which is the next root that the
recursion does not pass over. -/
theorem search_eq_visit_roots {before roots : List Text} {p : Progress}
    (h : Coloured edges [] p) (hkeys : edges.keys = before ++ roots)
    (hbefore : ∀ id ∈ before, id ∈ p.order) :
    search edges (p.unmet edges) [] p.order.reverse =
      Progress.order <$> visit edges [] roots p := by
  -- a key in front that was finished early is passed over by the recursion and no longer unmet
  induction roots generalizing before p with
  | nil =>
      rw [h.unmet_eq_filter hkeys hbefore, visit_nil, List.filter_nil, search,
        List.reverse_reverse]
      rfl
  | cons root roots ih =>
      have hkey : root ∈ edges.keys := by simp [hkeys]
      have hnext : edges.keys = (before ++ [root]) ++ roots := by simp [hkeys]
      cases hmark : p.marks.get? root with
      | none =>
          have hunmet : p.unmet edges = root :: (p.opening root).unmet edges := by
            rw [Progress.unmet_opening, h.unmet_eq_filter hkeys hbefore,
              List.filter_cons_of_pos (by simp [hmark]), List.erase_cons_head]
          have hopening := h.opening hkey hmark
          rw [hunmet, search_root, visited_eq_ranked, visit_unmet hkey hmark, map_bind]
          refine (search_eq_visit hopening rfl).trans ?_
          cases hq : visit edges ([] ++ [root]) (ranked edges root) (p.opening root) with
          | error e => rfl
          | ok q =>
              have hcovers := covers_of_visit hopening hq
              have hfinished : ∀ id ∈ before ++ [root], id ∈ (q.finishing root).order := by
                intro id hid
                rw [hcovers.finishing.mem_order]
                rcases List.mem_append.1 hid with hid | hid
                · exact .inl (hbefore id hid)
                · exact .inr ⟨id, hid, .refl⟩
              have hrest := ih hcovers.finishing.coloured hnext hfinished
              rw [hcovers.coloured.unmet_finishing_last, Progress.reverse_finishing] at hrest
              exact hrest
      | some mark =>
          cases mark with
          | opened => exact absurd ((h.opened root).1 hmark) List.not_mem_nil
          | finished =>
              rw [visit_finished hkey hmark]
              refine ih h hnext fun id hid => ?_
              rcases List.mem_append.1 hid with hid | hid
              · exact hbefore id hid
              · rw [List.mem_singleton.1 hid]
                exact (h.finished root).1 hmark

end EstimateCompiler.DepthFirst

namespace EstimateCompiler.Edges

theorem sort_eq_order (edges : Edges) : edges.sort = DepthFirst.order edges := by
  have hunmet : DepthFirst.Progress.start.unmet edges = edges.keys :=
    List.filter_eq_self.2 fun _ _ => rfl
  have hroots := DepthFirst.search_eq_visit_roots (.start edges) (List.nil_append _).symm
    (List.forall_mem_nil _)
  rw [hunmet] at hroots
  exact hroots

/-- Both maps have the same keys in the same order, and a key has the same dependencies in both,
however they are listed. -/
structure SameSets (edges₁ edges₂ : Edges) : Prop where
  keys : edges₁.keys = edges₂.keys
  dependsOn : ∀ id dependency, edges₁.DependsOn id dependency ↔ edges₂.DependsOn id dependency

namespace SameSets

variable {edges₁ edges₂ : Edges}

theorem visited_eq (h : edges₁.SameSets edges₂) (id : Text) :
    Order.visited edges₁ id = Order.visited edges₂ id := by
  have hmem : ∀ d, d ∈ (edges₁.get? id).getD [] ↔ d ∈ (edges₂.get? id).getD [] := h.dependsOn id
  have hkeys : (edges₁.keys.filter fun d => d ∈ (edges₁.get? id).getD []) =
      edges₂.keys.filter fun d => d ∈ (edges₂.get? id).getD [] := by
    rw [h.keys]
    exact List.filter_congr fun d _ => by rw [decide_eq_decide, hmem]
  rw [Order.visited, Order.visited, hkeys]
  congr 1
  refine sortIds_congr fun d => ?_
  rw [List.mem_filter, List.mem_filter, hmem, h.keys]

theorem search_eq (h : edges₁.SameSets edges₂) (fresh : List Text) (stack : List Order.Frame)
    (finished : List Text) :
    Order.search edges₁ fresh stack finished = Order.search edges₂ fresh stack finished := by
  fun_induction Order.search edges₁ fresh stack finished with
  | case1 finished => rw [Order.search]
  | case2 finished root fresh ih => rw [ih, Order.search_root, h.visited_eq]
  | case3 finished id stack fresh ih => rw [ih, Order.search_finish]
  | case4 finished id d pending stack fresh hfresh ih =>
      rw [ih, Order.search_descend hfresh, h.visited_eq]
  | case5 finished id d pending stack fresh hfresh hopen =>
      rw [Order.search_cyclic hfresh hopen]
  | case6 finished id d pending stack fresh hfresh hopen hfinished ih =>
      rw [ih, Order.search_pass hfresh hopen hfinished]
  | case7 finished id d pending stack fresh hfresh hopen hfinished =>
      rw [Order.search_broken hfresh hopen hfinished]

theorem sort_eq (h : edges₁.SameSets edges₂) : edges₁.sort = edges₂.sort := by
  rw [Edges.sort, Edges.sort, h.keys]
  exact h.search_eq _ _ _

end SameSets

/-- Dependencies that are listed anew, with the same members. -/
theorem sameSets_map (edges : Edges) {relist : List Text → List Text}
    (h : ∀ ids id, id ∈ relist ids ↔ id ∈ ids) : SameSets (edges.map relist) edges := by
  refine ⟨OrderedMap.keys_map _ _, fun id dependency => ?_⟩
  rw [DependsOn, DependsOn, OrderedMap.get?_map]
  cases edges.get? id with
  | none => rfl
  | some ids => exact h ids dependency

/-- The loop of the search ends within its work for the fresh keys. It ends as the recursion does,
in the same order or with the same failure, and only the sets of dependencies count for it. -/
theorem sort_ends_as_recursion (edges : Edges) :
    (∃ rounds ≤ Order.freshWork edges edges.keys,
      Order.Ends edges rounds ⟨edges.keys, [], []⟩ edges.sort) ∧
    edges.sort = DepthFirst.order edges ∧
    ∀ other : Edges, other.SameSets edges → other.sort = edges.sort := by
  refine ⟨?_, sort_eq_order edges, fun other h => h.sort_eq⟩
  exact Order.ends_search edges edges.keys [] []

/-- A cycle and two missing entries. The cycle has the ids that are listed last, and it is met
first. -/
def contested : Edges :=
  .ofList [("r", ["y", "b", "a"]), ("a", ["c"]), ("b", ["z", "a"]), ("c", ["a", "z"])]

theorem contested_sort_ends_as_recursion :
    DepthFirst.order contested = .error (.cyclic ⟨"a", ["c", "a"]⟩) ∧
      Edges.sort (contested.map fun ids => ids.reverse ++ ids) =
        .error (.cyclic ⟨"a", ["c", "a"]⟩) := by
  have hsort : contested.sort = .error (.cyclic ⟨"a", ["c", "a"]⟩) := by decide +kernel
  obtain ⟨-, hrecursion, hsets⟩ := sort_ends_as_recursion contested
  refine ⟨hrecursion.symm.trans hsort, (hsets _ ?_).trans hsort⟩
  exact sameSets_map contested fun ids id => by simp

end EstimateCompiler.Edges
