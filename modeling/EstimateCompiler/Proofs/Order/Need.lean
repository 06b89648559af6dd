import EstimateCompiler.Proofs.Order.Simulation
import EstimateCompiler.Proofs.OrderedMap
import Mathlib.Data.Set.Card

/-!
# Nothing is emitted before it is needed

An emission order may move a key to the front, but only for a key that needs it. The recursion
visits the keys in their order, and when it is through with the first of them it has emitted what
they reach and nothing else. So what the first keys need stands in front of everything else, for any
number of keys.

Where every dependency already stands before the keys that have it, the first keys need nothing but
themselves, and the order of the keys is kept. In particular the emission order is kept if it is
made the order of the keys.
-/
namespace EstimateCompiler

theorem DepthFirst.visit_append (edges : Edges) (path ids₁ ids₂ : List Text) (p : Progress) :
    visit edges path (ids₁ ++ ids₂) p = (do
      let q ← visit edges path ids₁ p
      visit edges path ids₂ q) := by
  induction path, ids₁, p using visit_induction edges with
  | nil path p =>
      rw [visit_nil]
      rfl
  | finished path id ids p hkey hmark ih =>
      rw [List.cons_append, visit_finished hkey hmark, visit_finished hkey hmark, ih]
  | opened path id ids p hkey hmark =>
      rw [List.cons_append, visit_opened hkey hmark, visit_opened hkey hmark]
      rfl
  | unmet path id ids p hkey hmark ihInner ihOuter =>
      rw [List.cons_append, visit_unmet hkey hmark, visit_unmet hkey hmark, bind_assoc]
      cases hq : visit edges (path ++ [id]) (ranked edges id) (p.opening id) with
      | error e => rfl
      | ok q => exact ihOuter q hq
  | broken path id ids p hkey =>
      rw [List.cons_append, visit_broken hkey, visit_broken hkey]
      rfl

theorem eq_of_mem_take {l₁ l₂ : List Text} (hlength : l₁.length = l₂.length)
    (h₁ : l₁.Nodup) (h₂ : l₂.Nodup) (h : ∀ i x, x ∈ l₁.take i ↔ x ∈ l₂.take i) : l₁ = l₂ := by
  induction l₁ generalizing l₂ with
  | nil => exact (List.eq_nil_of_length_eq_zero hlength.symm).symm
  | cons a l₁ ih =>
      cases l₂ with
      | nil => cases hlength
      | cons b l₂ =>
          have hab : a = b := by simpa using h 1 a
          subst hab
          obtain ⟨ha₁, h₁⟩ := List.nodup_cons.1 h₁
          obtain ⟨ha₂, h₂⟩ := List.nodup_cons.1 h₂
          rw [ih (Nat.succ.inj hlength) h₁ h₂ fun i x => ?_]
          have hx := h (i + 1) x
          rw [List.take_succ_cons, List.take_succ_cons, List.mem_cons, List.mem_cons] at hx
          by_cases hxa : x = a
          · subst hxa
            exact iff_of_false (fun hmem => ha₁ (List.mem_of_mem_take hmem))
              (fun hmem => ha₂ (List.mem_of_mem_take hmem))
          · simpa [hxa] using hx

theorem ncard_mem {ids : List Text} (h : ids.Nodup) : {id | id ∈ ids}.ncard = ids.length := by
  have hset : {id | id ∈ ids} = (ids.toFinset : Set Text) := by
    ext id
    simp
  rw [hset, Set.ncard_coe_finset, List.toFinset_card_of_nodup h]

namespace Edges

variable {edges : Edges} {order : List Text}

/-- What the first keys need: these keys, and all that they reach along dependencies. -/
def needed (edges : Edges) (i : Nat) : Set Text :=
  {id | ∃ key ∈ edges.keys.take i, Relation.ReflTransGen edges.DependsOn key id}

theorem nodup_of_sort (h : edges.sort = .ok order) : order.Nodup :=
  (perm_keys_of_sort h).nodup_iff.2 edges.keys_nodup

/-- What the first keys need is emitted in front. -/
theorem exists_isPrefix_needed (h : edges.sort = .ok order) (i : Nat) :
    ∃ front, front <+: order ∧ edges.needed i = {id | id ∈ front} := by
  rw [sort_eq_order, DepthFirst.order, ← List.take_append_drop i edges.keys,
    DepthFirst.visit_append] at h
  obtain ⟨whole, hwhole, rfl⟩ := map_eq_ok.1 h
  obtain ⟨first, hfirst, hrest⟩ := bind_eq_ok.1 hwhole
  have hcovers := DepthFirst.covers_of_visit (.start edges) hfirst
  have hlater := DepthFirst.covers_of_visit hcovers.coloured hrest
  refine ⟨first.order, hlater.isPrefix, ?_⟩
  ext id
  have hstart : id ∉ DepthFirst.Progress.start.order := List.not_mem_nil
  exact ((hcovers.mem_order id).trans (or_iff_right hstart)).symm

theorem take_needed (h : edges.sort = .ok order) (i : Nat) :
    {id | id ∈ order.take (edges.needed i).ncard} = edges.needed i := by
  obtain ⟨front, hfront, hneeded⟩ := exists_isPrefix_needed h i
  have hnodup : front.Nodup := (nodup_of_sort h).sublist hfront.sublist
  rw [hneeded, ncard_mem hnodup, ← List.prefix_iff_eq_take.1 hfront]

/-- Every dependency stands among the keys before the ids that have it. -/
def Ordered (edges : Edges) : Prop :=
  ∀ id dependency, edges.DependsOn id dependency →
    edges.keys.idxOf dependency < edges.keys.idxOf id

theorem ordered_iff : edges.Ordered ↔ ∀ entry ∈ edges.entries, ∀ dependency ∈ entry.2,
    edges.keys.idxOf dependency < edges.keys.idxOf entry.1 := by
  constructor
  · intro h entry hentry dependency hmem
    refine h entry.1 dependency ?_
    rwa [DependsOn, OrderedMap.mem_entries.1 hentry]
  · intro h id dependency hd
    obtain ⟨dependencies, hid⟩ := Option.isSome_iff_exists.1 ((edges.mem_keys id).1 hd.mem_keys)
    rw [DependsOn, hid] at hd
    exact h (id, dependencies) (OrderedMap.mem_entries.2 hid) dependency hd

instance : Decidable edges.Ordered := decidable_of_iff _ ordered_iff.symm

theorem needed_of_ordered (h : edges.Ordered) (i : Nat) :
    edges.needed i = {id | id ∈ edges.keys.take i} := by
  ext id
  constructor
  · rintro ⟨key, hkey, hreach⟩
    induction hreach with
    | refl => exact hkey
    | @tail id d _ hstep ih =>
        have hid : id ∈ edges.keys := List.mem_of_mem_take ih
        have hlt := h id d hstep
        have hd : d ∈ edges.keys :=
          List.idxOf_lt_length_iff.1 (hlt.trans (List.idxOf_lt_length_of_mem hid))
        exact (List.mem_take_iff_idxOf_lt hd).2 (hlt.trans ((List.mem_take_iff_idxOf_lt hid).1 ih))
  · intro hid
    exact ⟨id, hid, .refl⟩

theorem sort_of_ordered (h : edges.Ordered) : edges.sort = .ok edges.keys := by
  cases hsort : edges.sort with
  | error error =>
      -- a failure has a cycle or a missing entry, and places that go down rule out both
      have hgood : edges.Closed ∧ edges.Acyclic :=
        ⟨closed_of_idxOf_lt (.refl _) h, acyclic_of_idxOf_lt h⟩
      exact absurd hgood (justifies_of_sort hsort).not_closed_and_acyclic
  | ok order =>
      have hlength : order.length = edges.keys.length := (perm_keys_of_sort hsort).length_eq
      rw [eq_of_mem_take hlength (nodup_of_sort hsort) edges.keys_nodup fun i x => ?_]
      have htake := take_needed hsort i
      have hnodup : (edges.keys.take i).Nodup := edges.keys_nodup.sublist (List.take_sublist _ _)
      rw [needed_of_ordered h, ncard_mem hnodup, List.length_take, ← hlength,
        ← List.take_eq_take_min] at htake
      exact Set.ext_iff.1 htake x

theorem ordered_rekeyed (h : edges.sort = .ok order) : Ordered (edges.rekeyed order) := by
  intro id dependency hd
  have hperm := perm_keys_of_sort h
  rw [DependsOn, OrderedMap.alike_rekeyed hperm id] at hd
  rw [OrderedMap.keys_rekeyed hperm]
  exact idxOf_lt_of_sort h hd

/-- In an emission order, what the first keys need comes first. So keys that all stand behind their
dependencies keep their order, and sorting again by an emission order changes nothing. -/
theorem sort_emits_by_need (edges : Edges) :
    (∀ order, edges.sort = .ok order →
      (∀ i, {id | id ∈ order.take (edges.needed i).ncard} = edges.needed i) ∧
        Edges.sort (edges.rekeyed order) = .ok order) ∧
    (edges.Ordered → edges.sort = .ok edges.keys) := by
  refine ⟨fun order h => ⟨take_needed h, ?_⟩, sort_of_ordered⟩
  have hkeys := OrderedMap.keys_rekeyed (perm_keys_of_sort h)
  rw [sort_of_ordered (ordered_rekeyed h), hkeys]

/-- Keys that stand behind their dependencies, some of them not right behind. -/
def stacked : Edges := .ofList [("x", []), ("a", []), ("c", ["a", "x"]), ("b", ["a"])]

theorem shared_stacked_emit_by_need :
    (shared.sort = .ok ["a", "b", "c", "d", "e"] ∧
      {id | id ∈ (["a", "b", "c", "d", "e"] : List Text).take (shared.needed 2).ncard} =
        shared.needed 2 ∧
      Edges.sort (shared.rekeyed ["a", "b", "c", "d", "e"]) = .ok ["a", "b", "c", "d", "e"]) ∧
    stacked.Ordered ∧ stacked.sort = .ok stacked.keys := by
  have hsort : shared.sort = .ok ["a", "b", "c", "d", "e"] := by decide +kernel
  have hordered : stacked.Ordered := by decide +kernel
  obtain ⟨hneeded, hagain⟩ := (sort_emits_by_need shared).1 _ hsort
  exact ⟨⟨hsort, hneeded 2, hagain⟩, hordered, (sort_emits_by_need stacked).2 hordered⟩

end Edges

end EstimateCompiler
