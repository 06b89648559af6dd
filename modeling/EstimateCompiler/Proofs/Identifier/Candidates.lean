import EstimateCompiler.Identifier
import Mathlib.Data.Finset.Card
import Mathlib.Order.Bounds.Basic
import Mathlib.Order.Monotone.Basic

/-!
# Which name a label gets

The names that are tried for a label are one sequence, whatever names are used: `foo`, `foo_2`,
`foo_2_2`, `foo_2_2_3` and so on, each with a number behind the one before it. They get longer and
longer, so they are pairwise different. The search goes along them from the first one and stops at
the first that is not used; since all names before that one are used, it stops after no more steps
than there are used names.
-/
namespace EstimateCompiler.Identifier

/-- The names that are tried in place of a name. -/
def candidate (name : Text) : Nat → Text
  | 0 => name
  | 1 => name ++ "_2"
  | j + 2 => candidate name (j + 1) ++ "_" ++ natText (j + 2)

theorem candidate_succ (name : Text) (j : Nat) :
    candidate name (j + 1) = candidate name j ++ suffix (j + 1) := by
  cases j with
  | zero =>
      have hsuffix : suffix 1 = "_2" := by decide +kernel
      rw [candidate, hsuffix, candidate]
  | succ j =>
      have hmax : max (j + 2) 2 = j + 2 := Nat.max_eq_left (Nat.le_add_left 2 j)
      rw [candidate, suffix, hmax, Text.append_assoc]

theorem length_candidate_strictMono (name : Text) :
    StrictMono fun j => (candidate name j).length := by
  apply strictMono_nat_of_lt_succ
  intro j
  have hpos := suffix_length_pos (j + 1)
  rw [candidate_succ, Text.length_append]
  omega

theorem candidate_injective (name : Text) : Function.Injective (candidate name) := by
  intro i j h
  exact (length_candidate_strictMono name).injective (congrArg Text.length h)

/-- The search from a candidate on ends at the first one from there on that is not used. -/
theorem freshFrom_isLeast (used : List Text) (name : Text) {j : Nat} {start : Text}
    (hstart : start = candidate name j) :
    ∃ k, IsLeast {i | j ≤ i ∧ candidate name i ∉ used} k ∧
      freshFrom used j start = candidate name k := by
  fun_induction freshFrom used j start with
  | case1 j start hused ih =>
      obtain ⟨k, ⟨⟨hjk, hfree⟩, hleast⟩, hk⟩ := ih (by rw [candidate_succ, hstart])
      refine ⟨k, ⟨⟨by omega, hfree⟩, fun i hi => ?_⟩, hk⟩
      have hne : i ≠ j := by
        rintro rfl
        exact hi.2 (hstart ▸ hused)
      have hji := hi.1
      exact hleast ⟨by omega, hi.2⟩
  | case2 j start hused =>
      exact ⟨j, ⟨⟨le_rfl, hstart ▸ hused⟩, fun i hi => hi.1⟩, hstart⟩

theorem le_card_of_candidates_used {used : List Text} {name : Text} {k : Nat}
    (h : ∀ j < k, candidate name j ∈ used) : k ≤ used.toFinset.card := by
  have hsubset : (Finset.range k).image (candidate name) ⊆ used.toFinset := by
    intro x hx
    obtain ⟨j, hj, rfl⟩ := Finset.mem_image.1 hx
    exact List.mem_toFinset.2 (h j (Finset.mem_range.1 hj))
  have hcard := Finset.card_le_card hsubset
  rwa [Finset.card_image_of_injective _ (candidate_injective name), Finset.card_range] at hcard

/-- A label gets the first of its candidates that is not used, and it is found after no more steps
than there are used names. -/
theorem fresh_is_least_candidate (rules : NamingRules) (used : List Text) (label : Text) :
    ∃ k, IsLeast {j | candidate (base rules label) j ∉ used} k ∧
      fresh rules used label = candidate (base rules label) k ∧ k ≤ used.toFinset.card := by
  obtain ⟨k, ⟨hfree, hleast⟩, hk⟩ := freshFrom_isLeast used (base rules label) (j := 0) rfl
  refine ⟨k, ⟨hfree.2, fun j hj => hleast ⟨j.zero_le, hj⟩⟩, hk, ?_⟩
  apply le_card_of_candidates_used
  intro j hj
  by_contra hused
  exact absurd (hleast ⟨j.zero_le, hused⟩) (Nat.not_le.2 hj)

example : fresh (.ofPairs 30 []) ["a", "a_2", "a_2_2_3", "a_2_2_3_4"] "A" = "a_2_2" := by
  decide +kernel

end EstimateCompiler.Identifier
