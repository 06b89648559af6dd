import EstimateCompiler.Proofs.Order.Dependency
import EstimateCompiler.Proofs.Reference.Token
import Mathlib.Order.Bounds.Basic

/-!
# What is found in a text

The search for tokens meets the first place at which a token begins, takes it up to the first
closing brace, and goes on behind it. So everything between an opening and the next closing brace
belongs to one id, other openings included, and a token that begins in there is not met. `Matches`
says this of a text and the list of what is met, with the positions.

The ids that remain in a text are those of its matches, each once, in the order of their first
matches. They need not be the ids of all tokens in the text. Still there is one exactly if the text
has a token of whatever id.
-/
namespace EstimateCompiler.Reference

/-- The tokens that the search meets in a text, with their positions counted from `pos` on. Before
the first one no token begins, whatever its id. -/
inductive Matches : Nat → List Rune → List (Nat × Text) → Prop where
  | done {pos : Nat} {text : List Rune} (absent : ¬ HasToken text) : Matches pos text []
  | next {pos : Nat} {before rest : List Rune} {id : Text} {found : List (Nat × Text)}
      (first : ∀ other, Text.Clear (token other) before (token id ++ rest))
      (closed : .char '\x7d' ∉ id.toList)
      (later : Matches (pos + before.length + (token id).length) rest found) :
      Matches pos (before ++ (token id ++ rest)) ((pos + before.length, id) :: found)

theorem opens_of_isPrefix {id : Text} {text : List Rune} (h : token id <+: text) :
    ∃ behind, text = opening ++ behind ∧ .char '\x7d' ∈ behind := by
  obtain ⟨rest, rfl⟩ := h
  exact ⟨_, token_append id rest, by simp⟩

theorem exists_first_token {text : List Rune} (h : HasToken text) :
    ∃ before id rest, text = before ++ (token id ++ rest) ∧ .char '\x7d' ∉ id.toList ∧
      ∀ other, Text.Clear (token other) before (token id ++ rest) := by
  induction text with
  | nil => exact absurd h not_hasToken_nil
  | cons c cs ih =>
      by_cases hopens : ∃ behind, c :: cs = opening ++ behind ∧ .char '\x7d' ∈ behind
      · obtain ⟨behind, heq, hclosed⟩ := hopens
        obtain ⟨id, rest, hid, htoken⟩ := token_of_opening hclosed
        exact ⟨[], id, rest, heq.trans htoken, hid, fun _ => trivial⟩
      · have hlater := (hasToken_cons.1 h).resolve_left hopens
        obtain ⟨before, id, rest, rfl, hid, hclear⟩ := ih hlater
        refine ⟨c :: before, id, rest, rfl, hid, fun other => ⟨?_, hclear other⟩⟩
        intro hfront
        exact hopens (opens_of_isPrefix hfront)

/-- Before a brace every opening begins a token, so a stretch without tokens has no opening. -/
theorem clear_opening {stretch rest : List Rune} (hbrace : .char '\x7d' ∈ rest)
    (h : ∀ other, Text.Clear (token other) stretch rest) : Text.Clear opening stretch rest := by
  induction stretch with
  | nil => trivial
  | cons c cs ih =>
      refine ⟨?_, ih fun other => (h other).2⟩
      rintro ⟨behind, hbehind⟩
      have hmem : .char '\x7d' ∈ opening ++ behind := by simp [hbehind, hbrace]
      have hclosed := (List.mem_append.1 hmem).resolve_left (by decide)
      obtain ⟨other, more, -, htoken⟩ := token_of_opening hclosed
      exact (h other).1 ⟨more, htoken.symm.trans hbehind⟩

theorem exists_matches (pos : Nat) (text : List Rune) :
    ∃ found, Matches pos text found ∧ found.map Prod.snd = idsSkipping 0 text := by
  induction hlength : text.length using Nat.strongRecOn generalizing pos text with
  | ind n ih =>
      by_cases htoken : HasToken text
      · obtain ⟨before, id, rest, rfl, hid, hclear⟩ := exists_first_token htoken
        have hshorter : rest.length < n := by
          have hpos := List.length_pos_of_ne_nil (token_ne_nil id)
          rw [← hlength, List.length_append, List.length_append]
          omega
        obtain ⟨found, hfound, hids⟩ := ih _ hshorter _ rest rfl
        have hbrace : .char '\x7d' ∈ token id ++ rest := by simp [token]
        refine ⟨_, .next hclear hid hfound, ?_⟩
        rw [idsSkipping_clear_append (clear_opening hbrace hclear), idsSkipping_token_append hid,
          List.map_cons, hids]
      · exact ⟨[], .done htoken, (idsSkipping_eq_nil_iff.2 htoken).symm⟩

namespace Matches

variable {pos : Nat} {text : List Rune} {found : List (Nat × Text)}

theorem le_of_mem (h : Matches pos text found) {entry : Nat × Text} (hentry : entry ∈ found) :
    pos ≤ entry.1 := by
  induction h with
  | done => cases hentry
  | next first closed later ih =>
      rcases List.mem_cons.1 hentry with rfl | hlater
      · exact Nat.le_add_right _ _
      · have hle := ih hlater
        omega

/-- Matches do not overlap, so they come in the order of their positions. -/
theorem pairwise_lt (h : Matches pos text found) : found.Pairwise fun a b => a.1 < b.1 := by
  induction h with
  | done => exact .nil
  | @next pos before rest id found first closed later ih =>
      refine List.pairwise_cons.2 ⟨fun entry hentry => ?_, ih⟩
      have hle := later.le_of_mem hentry
      have hlength := List.length_pos_of_ne_nil (token_ne_nil id)
      omega

end Matches

/-- The first id is matched before the second one. -/
def MatchedBefore (found : List (Nat × Text)) (a b : Text) : Prop :=
  ∀ p q, IsLeast {pos | (pos, a) ∈ found} p → IsLeast {pos | (pos, b) ∈ found} q → p < q

theorem matches_others {found : List (Nat × Text)} {id other : Text} (hne : other ≠ id)
    (pos : Nat) :
    {p | (p, other) ∈ found.filter fun entry => !entry.2 == id} =
      {p | (p, other) ∈ (pos, id) :: found} := by
  ext p
  simp [hne]

/-- Leaving out repetitions keeps the ids in the order of their first matches. -/
theorem pairwise_eraseDups {found : List (Nat × Text)}
    (h : found.Pairwise fun a b => a.1 < b.1) :
    (found.map Prod.snd).eraseDups.Pairwise (MatchedBefore found) := by
  -- each round takes one id away with all its matches
  induction hlength : found.length using Nat.strongRecOn generalizing found with
  | ind n ih =>
      cases found with
      | nil => exact .nil
      | cons entry rest =>
          obtain ⟨pos, id⟩ := entry
          obtain ⟨hbefore, hrest⟩ := List.pairwise_cons.1 h
          have hothers : (rest.map Prod.snd).filter (fun other => !other == id) =
              (rest.filter fun entry => !entry.2 == id).map Prod.snd := by
            rw [List.filter_map]
            rfl
          have hne : ∀ other ∈ ((rest.map Prod.snd).filter fun other => !other == id).eraseDups,
              other ≠ id := by
            intro other hother
            simpa using (List.mem_filter.1 (List.mem_eraseDups.1 hother)).2
          have hshorter : (rest.filter fun entry => !entry.2 == id).length < n := by
            have hle := List.length_filter_le (fun entry => !entry.2 == id) rest
            rw [← hlength, List.length_cons]
            omega
          have hlater := ih _ hshorter (hrest.filter _) rfl
          rw [← hothers] at hlater
          rw [List.map_cons, List.eraseDups_cons]
          refine List.pairwise_cons.2 ⟨?_, hlater.imp_of_mem ?_⟩
          · intro other hother p q hp hq
            have hle : p ≤ pos := hp.2 List.mem_cons_self
            have hmatch : (q, other) ∈ rest := by simpa [hne other hother] using hq.1
            exact hle.trans_lt (hbefore _ hmatch)
          · intro a b ha hb hab p q hp hq
            rw [← matches_others (hne a ha)] at hp
            rw [← matches_others (hne b hb)] at hq
            exact hab p q hp hq

/-- The ids that remain in a text are those of its matches: each once, without a closing brace, with
its token in the text, and in the order of the first matches. None remains exactly if the text has
no token of any id whatever. -/
theorem remaining_in_order_of_first_match (text : Text) :
    (remaining text).Nodup ∧
    (∀ id ∈ remaining text, .char '\x7d' ∉ id.toList ∧ token id <:+: text.toList) ∧
    (∃ found, Matches 0 text.toList found ∧
      (∀ id, id ∈ remaining text ↔ ∃ pos, (pos, id) ∈ found) ∧
      (remaining text).Pairwise (MatchedBefore found)) ∧
    (remaining text = [] ↔ ∀ id, ¬ token id <:+: text.toList) := by
  obtain ⟨found, hfound, hids⟩ := exists_matches 0 text.toList
  have hremaining : remaining text = (found.map Prod.snd).eraseDups := by rw [remaining, hids]
  refine ⟨nodup_eraseDups _, fun id => token_infix_of_mem_remaining, ⟨found, hfound, ?_, ?_⟩, ?_⟩
  · intro id
    rw [hremaining, List.mem_eraseDups]
    simp
  · rw [hremaining]
    exact pairwise_eraseDups hfound.pairwise_lt
  · rw [remaining_eq_nil_iff]
    exact not_exists

example : remaining ("$\x7bmetric:b$\x7bmetric:a\x7d $\x7bmetric:c\x7d" ++
    "$\x7bmetric:b$\x7bmetric:a\x7d $\x7bmetric:d") = ["b$\x7bmetric:a", "c"] := by
  decide +kernel

end EstimateCompiler.Reference
