import EstimateCompiler.Text.Basic

/-!
# Finding and replacing pieces of text

Replacement goes from left to right, and occurrences do not overlap: after one the search goes on
behind it. The loop counts the characters of an occurrence that are still to be passed over, so it
recurses on the text alone.
-/
namespace EstimateCompiler.Text

def occursIn (piece : List Rune) : List Rune → Bool
  | [] => piece.isEmpty
  | c :: cs => piece.isPrefixOf (c :: cs) || occursIn piece cs

/-- Replacement of a piece that is not empty, while `skip` characters of the last occurrence are
still to be passed over. -/
def replaceSkipping (piece word : List Rune) : Nat → List Rune → List Rune
  | _, [] => []
  | skip + 1, _ :: cs => replaceSkipping piece word skip cs
  | 0, c :: cs =>
      if piece.isPrefixOf (c :: cs) then
        word ++ replaceSkipping piece word (piece.length - 1) cs
      else c :: replaceSkipping piece word 0 cs

/-- Every occurrence of `piece` becomes `word`. The empty piece occurs before every character and
at the end. -/
def replaceAll (piece word text : List Rune) : List Rune :=
  if piece.isEmpty then text.flatMap (fun c => word ++ [c]) ++ word
  else replaceSkipping piece word 0 text

/-- The first occurrence of the character becomes `word`. -/
def replaceFirst (c : Rune) (word : List Rune) : List Rune → List Rune
  | [] => []
  | d :: cs => if d = c then word ++ cs else d :: replaceFirst c word cs

/-- The text before and the text behind the last occurrence of `piece`. -/
def splitLast? (piece : List Rune) : List Rune → Option (List Rune × List Rune)
  | [] => if piece.isEmpty then some ([], []) else none
  | c :: cs =>
      match splitLast? piece cs with
      | some (before, behind) => some (c :: before, behind)
      | none =>
          if piece.isPrefixOf (c :: cs) then some ([], (c :: cs).drop piece.length) else none

/-- A piece occurs in a text exactly if it is a contiguous part of it. -/
theorem occursIn_iff {piece text : List Rune} : occursIn piece text = true ↔ piece <:+: text := by
  induction text with
  | nil => simp [occursIn]
  | cons c cs ih => simp [occursIn, List.infix_cons_iff, ih]

theorem replaceSkipping_of_not_occursIn {piece text : List Rune} (word : List Rune)
    (h : occursIn piece text = false) : replaceSkipping piece word 0 text = text := by
  induction text with
  | nil => rfl
  | cons c cs ih =>
      simp only [occursIn, Bool.or_eq_false_iff] at h
      simp [replaceSkipping, h.1, ih h.2]

theorem replaceAll_of_not_occursIn {piece text : List Rune} (word : List Rune)
    (h : occursIn piece text = false) : replaceAll piece word text = text := by
  have hne : piece.isEmpty = false := by
    cases piece with
    | nil => cases text <;> simp [occursIn] at h
    | cons _ _ => rfl
  simp [replaceAll, hne, replaceSkipping_of_not_occursIn word h]

theorem eq_of_splitLast? {piece text before behind : List Rune}
    (h : splitLast? piece text = some (before, behind)) : text = before ++ piece ++ behind := by
  induction text generalizing before with
  | nil =>
      simp only [splitLast?] at h
      split at h
      · rename_i hp
        simp only [Option.some.injEq, Prod.mk.injEq] at h
        simp [← h.1, ← h.2, List.isEmpty_iff.1 hp]
      · cases h
  | cons c cs ih =>
      simp only [splitLast?] at h
      split at h
      · rename_i later _ hlater
        simp only [Option.some.injEq, Prod.mk.injEq] at h
        obtain ⟨rfl, rfl⟩ := h
        simp [ih hlater]
      · split at h
        · rename_i hp
          obtain ⟨rest, hrest⟩ := List.isPrefixOf_iff_prefix.1 hp
          simp only [Option.some.injEq, Prod.mk.injEq] at h
          obtain ⟨rfl, rfl⟩ := h
          simp [← hrest]
        · cases h

theorem splitLast?_isSome {piece text : List Rune} :
    (splitLast? piece text).isSome = occursIn piece text := by
  induction text with
  | nil => cases piece <;> rfl
  | cons c cs ih =>
      simp only [splitLast?, occursIn, ← ih]
      cases hcs : splitLast? piece cs with
      | some split => simp
      | none => cases piece.isPrefixOf (c :: cs) <;> simp

example : replaceAll ['a', 'a'] ['b'] ['a', 'a', 'a', 'c'] = ['b', 'a', 'c'] := by decide

example : replaceAll [] ['-'] ['a', 'b'] = ['-', 'a', '-', 'b', '-'] := by decide

example : splitLast? [','] ['a', ',', 'b', ',', 'c'] =
    some ((['a', ',', 'b'] : List Rune), (['c'] : List Rune)) := by decide

end EstimateCompiler.Text
