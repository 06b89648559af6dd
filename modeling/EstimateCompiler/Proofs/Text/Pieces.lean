import EstimateCompiler.Proofs.Text.Replacement

/-!
# Pieces of a text

The pieces of a text are what stands between the marks in it; an empty text has none. Between line
feeds they are its lines, and between commas its items. Texts that are put together with marks
between them have the pieces of all of them, one after the other. A stretch without a mark stays in
the piece that it stands in, so it lengthens the first piece of what is behind it and leaves the
others as they are.
-/
namespace EstimateCompiler.Text

/-- What stands between the marks of a text that is not empty. -/
def pieces (mark : Rune) (text : List Rune) : List (List Rune) :=
  if text = [] then [] else text.splitOn mark

abbrev lines (text : List Rune) : List (List Rune) := pieces (.char '\n') text

abbrev items (text : List Rune) : List (List Rune) := pieces (.char ',') text

variable {mark : Rune}

theorem splitOn_append_of_not_mem {front : List Rune} (hfront : mark ∉ front) (text : List Rune) :
    (front ++ text).splitOn mark =
      (front ++ (text.splitOn mark).headD []) :: (text.splitOn mark).tail := by
  induction front with
  | nil =>
      have hne : text.splitOn mark ≠ [] := List.splitOn_ne_nil _ _
      obtain ⟨first, later, heq⟩ := List.exists_cons_of_ne_nil hne
      rw [List.nil_append, heq]
      rfl
  | cons c cs ih =>
      rw [List.mem_cons, not_or] at hfront
      have hc : (c == mark) = false := beq_false_of_ne (Ne.symm hfront.1)
      rw [List.cons_append, List.splitOn_cons_eq_if_modifyHead, hc, ih hfront.2]
      rfl

theorem length_splitOn (mark : Rune) (text : List Rune) :
    (text.splitOn mark).length = text.count mark + 1 := by
  induction text with
  | nil => rfl
  | cons c cs ih =>
      rw [List.splitOn_cons_eq_if_modifyHead, List.count_cons]
      split
      · rw [List.length_cons, ih]
      · rw [List.length_modifyHead, ih]

theorem splitOn_intercalate {texts : List (List Rune)} (h : texts ≠ []) :
    ([mark].intercalate texts).splitOn mark = texts.flatMap (List.splitOn mark) := by
  induction texts with
  | nil => exact absurd rfl h
  | cons first rest ih =>
      cases rest with
      | nil => rw [List.intercalate_singleton, List.flatMap_singleton]
      | cons second later =>
          have hlater := ih (List.cons_ne_nil second later)
          rw [List.intercalate_cons_cons, List.append_assoc, List.singleton_append,
            List.splitOn_append_cons_self, hlater]
          rfl

/-- Texts with marks between them have the pieces of each of them. -/
theorem pieces_intercalate {texts : List (List Rune)} (hne : ∀ text ∈ texts, text ≠ []) :
    pieces mark ([mark].intercalate texts) = texts.flatMap (List.splitOn mark) := by
  cases texts with
  | nil => rfl
  | cons first rest =>
      have hfirst : first ≠ [] := hne first List.mem_cons_self
      have hwhole : [mark].intercalate (first :: rest) ≠ [] := by
        cases rest with
        | nil => rwa [List.intercalate_singleton]
        | cons second later => simp [hfirst]
      rw [pieces, if_neg hwhole, splitOn_intercalate (List.cons_ne_nil first rest)]

end EstimateCompiler.Text
