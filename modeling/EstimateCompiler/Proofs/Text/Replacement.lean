import EstimateCompiler.Text.Substitution
import Mathlib.Data.List.Infix

/-!
# How a replacement goes through a text

A replacement of a piece that is not empty passes a text from left to right. In front of an
occurrence it puts the word and goes on behind the occurrence; in front of anything else it keeps
one character. `Replaced` says this as a relation between the text and the result, without the count
of characters that the loop carries, and whatever is to be known about replacements is shown along
it.

Two questions are asked about them. One is what stays as it is: a stretch in which no occurrence
begins. The other is what the result can hold that the text did not: a list that stands at the front
of the result and that no word can be a part of stands at the front of the text as well, and what is
left of both is again a replacement.
-/
namespace EstimateCompiler.Text

/-- The second text is the first one with every occurrence of the piece replaced by the word, from
left to right. -/
inductive Replaced (piece word : List Rune) : List Rune → List Rune → Prop where
  | done : Replaced piece word [] []
  | hit {text result : List Rune} (later : Replaced piece word text result) :
      Replaced piece word (piece ++ text) (word ++ result)
  | pass {c : Rune} {text result : List Rune} (front : ¬ piece <+: c :: text)
      (later : Replaced piece word text result) : Replaced piece word (c :: text) (c :: result)

variable {piece word text result : List Rune}

theorem replaceSkipping_length_append (skipped text : List Rune) :
    replaceSkipping piece word skipped.length (skipped ++ text) =
      replaceSkipping piece word 0 text := by
  induction skipped with
  | nil => rfl
  | cons c cs ih => exact ih

theorem replaceAll_nil (hpiece : piece ≠ []) : replaceAll piece word [] = [] := by
  rw [replaceAll, if_neg (by simpa using hpiece), replaceSkipping]

theorem replaceAll_append (hpiece : piece ≠ []) (text : List Rune) :
    replaceAll piece word (piece ++ text) = word ++ replaceAll piece word text := by
  obtain ⟨c, cs, rfl⟩ := List.exists_cons_of_ne_nil hpiece
  have hfront : (c :: cs).isPrefixOf (c :: (cs ++ text)) = true :=
    List.isPrefixOf_iff_prefix.2 (List.prefix_append (c :: cs) text)
  rw [replaceAll, replaceAll, if_neg (by simp), if_neg (by simp), List.cons_append, replaceSkipping,
    if_pos hfront, List.length_cons, Nat.add_sub_cancel, replaceSkipping_length_append]

theorem replaceAll_cons (hpiece : piece ≠ []) {c : Rune} {text : List Rune}
    (hfront : ¬ piece <+: c :: text) :
    replaceAll piece word (c :: text) = c :: replaceAll piece word text := by
  rw [replaceAll, replaceAll, if_neg (by simpa using hpiece), if_neg (by simpa using hpiece),
    replaceSkipping, if_neg (by rwa [List.isPrefixOf_iff_prefix])]

theorem replaced_replaceAll (hpiece : piece ≠ []) (word text : List Rune) :
    Replaced piece word text (replaceAll piece word text) := by
  -- the text gets shorter with every step, by one character or by the piece
  induction hlength : text.length using Nat.strongRecOn generalizing text with
  | ind n ih =>
      cases text with
      | nil =>
          rw [replaceAll_nil hpiece]
          exact .done
      | cons c rest =>
          by_cases hfront : piece <+: c :: rest
          · obtain ⟨behind, hbehind⟩ := hfront
            have hpos := List.length_pos_of_ne_nil hpiece
            have hshorter : behind.length < n := by
              rw [← hlength, ← hbehind, List.length_append]
              omega
            rw [← hbehind, replaceAll_append hpiece]
            exact .hit (ih behind.length hshorter behind rfl)
          · have hshorter : rest.length < n := by
              rw [← hlength, List.length_cons]
              omega
            rw [replaceAll_cons hpiece hfront]
            exact .pass hfront (ih rest.length hshorter rest rfl)

namespace Replaced

theorem mem_text (h : Replaced piece word text result) {c : Rune} (hc : c ∈ result)
    (hword : c ∉ word) : c ∈ text := by
  induction h with
  | done => exact hc
  | hit later ih =>
      have hlater := (List.mem_append.1 hc).resolve_left hword
      exact List.mem_append_right _ (ih hlater)
  | pass front later ih =>
      rcases List.mem_cons.1 hc with rfl | hc
      · exact List.mem_cons_self
      · exact List.mem_cons_of_mem _ (ih hc)

/-- A character at the front of the result that the word does not have was passed. -/
theorem of_cons {c : Rune} {cs : List Rune} (h : Replaced piece word text (c :: cs))
    (hne : word ≠ []) (hc : c ∉ word) :
    ∃ rest, text = c :: rest ∧ ¬ piece <+: c :: rest ∧ Replaced piece word rest cs := by
  generalize hresult : c :: cs = result at h
  cases h with
  | done => cases hresult
  | hit later =>
      obtain ⟨d, ds, rfl⟩ := List.exists_cons_of_ne_nil hne
      cases hresult
      exact absurd List.mem_cons_self hc
  | pass front later =>
      cases hresult
      exact ⟨_, rfl, front, later⟩

/-- A list that neither lies in a word nor has room for one is passed over unchanged. -/
theorem split_of_isPrefix (h : Replaced piece word text result) {front : List Rune}
    {last foreign : Rune} (hlast : front.getLast? = some last) (hword : last ∉ word)
    (hforeign : foreign ∈ word) (hfront : foreign ∉ front) (hresult : front <+: result) :
    ∃ rest rest', text = front ++ rest ∧ result = front ++ rest' ∧
      Replaced piece word rest rest' := by
  induction h generalizing front with
  | done =>
      rw [List.prefix_nil.1 hresult] at hlast
      cases hlast
  | @hit text result later ih =>
      have hword' : word <+: word ++ result := List.prefix_append word result
      rcases List.prefix_or_prefix_of_prefix hresult hword' with hin | hout
      · exact absurd (hin.subset (List.mem_of_getLast? hlast)) hword
      · exact absurd (hout.subset hforeign) hfront
  | @pass c text result hpass later ih =>
      cases front with
      | nil => cases hlast
      | cons d ds =>
          obtain ⟨rfl, hds⟩ := List.cons_prefix_cons.1 hresult
          cases ds with
          | nil => exact ⟨text, result, rfl, rfl, later⟩
          | cons e es =>
              rw [List.getLast?_cons_cons] at hlast
              obtain ⟨rest, rest', rfl, rfl, hrest⟩ :=
                ih hlast (fun h => hfront (List.mem_cons_of_mem _ h)) hds
              exact ⟨rest, rest', rfl, rfl, hrest⟩

end Replaced

/-- No occurrence of the piece begins in the stretch, which has the rest behind it. -/
def Clear (piece : List Rune) : List Rune → List Rune → Prop
  | [], _ => True
  | c :: cs, rest => ¬ piece <+: c :: (cs ++ rest) ∧ Clear piece cs rest

theorem Clear.of_isPrefix {start stretch rest : List Rune} (h : Clear start stretch rest)
    (hstart : start <+: piece) : Clear piece stretch rest := by
  induction stretch with
  | nil => trivial
  | cons c cs ih => exact ⟨fun hpiece => h.1 (hstart.trans hpiece), ih h.2⟩

theorem Clear.replaceAll_append {stretch rest : List Rune} (h : Clear piece stretch rest)
    (hpiece : piece ≠ []) :
    replaceAll piece word (stretch ++ rest) = stretch ++ replaceAll piece word rest := by
  induction stretch with
  | nil => rfl
  | cons c cs ih => rw [List.cons_append, replaceAll_cons hpiece h.1, ih h.2, List.cons_append]

theorem Clear.infix_append_iff {stretch rest : List Rune} (h : Clear piece stretch rest) :
    piece <:+: stretch ++ rest ↔ piece <:+: rest := by
  induction stretch with
  | nil => rfl
  | cons c cs ih =>
      rw [List.cons_append, List.infix_cons_iff, ih h.2]
      exact or_iff_right h.1

/-- A list whose first character is not in the word lies behind the word. -/
theorem infix_of_infix_append {c : Rune} {cs word rest : List Rune} (hc : c ∉ word)
    (h : c :: cs <:+: word ++ rest) : c :: cs <:+: rest := by
  induction word with
  | nil => exact h
  | cons d ds ih =>
      rw [List.mem_cons, not_or] at hc
      rcases List.infix_cons_iff.1 h with hfront | hlater
      · exact absurd (List.cons_prefix_cons.1 hfront).1 hc.1
      · exact ih hc.2 hlater

end EstimateCompiler.Text
