import EstimateCompiler.Bounds
import Mathlib.Data.List.TakeWhile
import Mathlib.Logic.ExistsUnique

/-!
# The texts that give bounds

Bounds come in two forms, `[x,y]` and `x to y`, where `x` and `y` are any texts. Most texts can be
written in a form in more than one way, since `x` and `y` may hold commas, brackets and the word
`to` themselves. One way stands out: the one in which `y` does not hold the mark that parts the two.
There is exactly one such way whenever there is any, and it is the one that the parser takes. The
brackets come first, so a text is read as `x to y` only if it cannot be read in brackets.

Neither form goes over the end of a line.
-/
namespace EstimateCompiler

namespace Text

section LastOccurrence
variable {piece text before behind before' behind' : List Rune}

theorem not_infix_of_splitLast? (hpiece : piece ≠ [])
    (h : splitLast? piece text = some (before, behind)) :
    ¬ piece <:+: (piece ++ behind).tail := by
  induction text generalizing before with
  | nil =>
      rw [splitLast?, List.isEmpty_eq_false_iff.2 hpiece] at h
      cases h
  | cons c cs ih =>
      rw [splitLast?] at h
      split at h
      next first last hlater =>
        cases h
        exact ih hlater
      next hlater =>
        obtain ⟨hfront, heq⟩ := Option.ite_none_right_eq_some.1 h
        obtain ⟨rest, hrest⟩ := List.isPrefixOf_iff_prefix.1 hfront
        cases heq
        rw [← hrest, List.drop_left, hrest, List.tail_cons, ← occursIn_iff, ← splitLast?_isSome,
          hlater]
        decide

/-- No occurrence begins behind the last one. -/
theorem length_le_of_last (heq : before ++ piece ++ behind = before' ++ piece ++ behind')
    (hlast : ¬ piece <:+: (piece ++ behind).tail) : before'.length ≤ before.length := by
  rw [List.append_assoc, List.append_assoc, List.append_eq_append_iff] at heq
  rcases heq with ⟨middle, rfl, hmiddle⟩ | ⟨middle, rfl, -⟩
  · cases middle with
    | nil => rw [List.append_nil]
    | cons c cs =>
        rw [hmiddle, List.cons_append, List.tail_cons] at hlast
        exact absurd ⟨cs, behind', List.append_assoc _ _ _⟩ hlast
  · rw [List.length_append]
    omega

/-- A text is split around the occurrence of the piece behind whose first character no other one
begins. -/
theorem splitLast?_eq_some_iff (hpiece : piece ≠ []) :
    splitLast? piece text = some (before, behind) ↔
      text = before ++ piece ++ behind ∧ ¬ piece <:+: (piece ++ behind).tail := by
  constructor
  · intro h
    exact ⟨eq_of_splitLast? h, not_infix_of_splitLast? hpiece h⟩
  · rintro ⟨rfl, hlast⟩
    have hoccurs : (splitLast? piece (before ++ piece ++ behind)).isSome = true := by
      rw [splitLast?_isSome, occursIn_iff]
      exact ⟨before, behind, rfl⟩
    obtain ⟨⟨first, last⟩, hsplit⟩ := Option.isSome_iff_exists.1 hoccurs
    have heq := eq_of_splitLast? hsplit
    have hle := length_le_of_last heq hlast
    have hge := length_le_of_last heq.symm (not_infix_of_splitLast? hpiece hsplit)
    -- both are last occurrences, so neither begins behind the other
    rw [List.append_assoc, List.append_assoc] at heq
    obtain ⟨rfl, hrest⟩ := List.append_inj heq (Nat.le_antisymm hge hle)
    rw [hsplit, List.append_cancel_left hrest]

end LastOccurrence

/-- The core is the text without the blanks at its two ends. -/
structure Stripped (text core : List Rune) : Prop where
  around : ∃ front back, text = front ++ core ++ back ∧
    (∀ c ∈ front, isBlank c = true) ∧ ∀ c ∈ back, isBlank c = true
  first : ∀ c, core.head? = some c → isBlank c = false
  last : ∀ c, core.getLast? = some c → isBlank c = false

theorem dropWhile_core {p : Rune → Bool} {front core : List Rune} (hfront : ∀ c ∈ front, p c = true)
    (hcore : ∀ c, core.head? = some c → p c = false) : (front ++ core).dropWhile p = core := by
  rw [List.dropWhile_append_of_pos hfront]
  cases core with
  | nil => rfl
  | cons c cs => rw [List.dropWhile_cons_of_neg (by simp [hcore c rfl])]

theorem exists_front (p : Rune → Bool) (text : List Rune) :
    ∃ front, front ++ text.dropWhile p = text ∧ ∀ c ∈ front, p c = true :=
  ⟨text.takeWhile p, List.takeWhile_append_dropWhile, fun _ hc => List.mem_takeWhile_imp hc⟩

theorem stripped_strip (text : List Rune) : Stripped text (strip text) := by
  obtain ⟨front, hfront, hfrontBlank⟩ := exists_front isBlank text
  obtain ⟨back, hback, hbackBlank⟩ := exists_front isBlank (text.dropWhile isBlank).reverse
  have hrest : strip text ++ back.reverse = text.dropWhile isBlank := by
    rw [strip, trim, ← List.reverse_append, hback, List.reverse_reverse]
  refine ⟨⟨front, back.reverse, ?_, hfrontBlank, ?_⟩, ?_, ?_⟩
  · rw [List.append_assoc, hrest, hfront]
  · intro c hc
    exact hbackBlank c (List.mem_reverse.1 hc)
  · intro c hc
    have hhead : (text.dropWhile isBlank).head? = some c := by
      rw [← hrest, List.head?_append, hc, Option.some_or]
    simpa [hhead] using List.head?_dropWhile_not isBlank text
  · intro c hc
    rw [strip, trim, List.getLast?_reverse] at hc
    simpa [hc] using List.head?_dropWhile_not isBlank (text.dropWhile isBlank).reverse

/-- Only one core is left of a text. -/
theorem Stripped.eq_strip {text core : List Rune} (h : Stripped text core) : core = strip text := by
  obtain ⟨front, back, rfl, hfront, hback⟩ := h.around
  have hblank : ∀ c ∈ back.reverse, isBlank c = true := fun c hc => hback c (List.mem_reverse.1 hc)
  have hlast : ∀ c, core.reverse.head? = some c → isBlank c = false := by
    intro c hc
    rw [List.head?_reverse] at hc
    exact h.last c hc
  have hdropped : ((front ++ core ++ back).dropWhile isBlank).reverse.dropWhile isBlank =
      core.reverse := by
    cases core with
    | nil =>
        have hall : ∀ c ∈ front ++ [] ++ back, isBlank c = true := by
          intro c hc
          rw [List.append_nil, List.mem_append] at hc
          exact hc.elim (hfront c) (hback c)
        rw [List.dropWhile_eq_nil_iff.2 hall]
        rfl
    | cons c cs =>
        have hfirst : ∀ d, (c :: cs ++ back).head? = some d → isBlank d = false := h.first
        rw [List.append_assoc, dropWhile_core hfront hfirst, List.reverse_append,
          dropWhile_core hblank hlast]
  rw [strip, trim, hdropped, List.reverse_reverse]

end Text

namespace Bounds

/-- The two forms that bounds are written in. -/
inductive Form where
  | bracketed
  | spelled
  deriving DecidableEq, Repr

namespace Form

def mark : Form → List Rune
  | .bracketed => [.char ',']
  | .spelled => [.char 't', .char 'o']

/-- What stands around the operands and their mark. -/
def enclosed : Form → List Rune → List Rune
  | .bracketed, inner => [.char '['] ++ inner ++ [.char ']']
  | .spelled, inner => inner

def written (form : Form) (operands : List Rune × List Rune) : List Rune :=
  form.enclosed (operands.1 ++ form.mark ++ operands.2)

/-- The text has this form, with some operands or other. -/
def Fits (form : Form) (text : List Rune) : Prop := ∃ operands, text = form.written operands

/-- The text has this form with these operands, and its mark is not in the second one again. -/
def Cuts (form : Form) (text : List Rune) (operands : List Rune × List Rune) : Prop :=
  text = form.written operands ∧ ¬ form.mark <:+: operands.2

instance (form : Form) (text : List Rune) (operands : List Rune × List Rune) :
    Decidable (form.Cuts text operands) :=
  decidable_of_iff (text = form.written operands ∧ Text.occursIn form.mark operands.2 = false) (by
    rw [Cuts, ← Text.occursIn_iff, Bool.not_eq_true])

/-- A text is read in brackets if it has any. -/
def Applies : Form → List Rune → Prop
  | .bracketed, text => bracketed.Fits text
  | .spelled, text => ¬ bracketed.Fits text ∧ spelled.Fits text

def operands? : Form → List Rune → Option (List Rune × List Rune)
  | .bracketed => bracketed?
  | .spelled => spelled?

theorem mark_ne_nil (form : Form) : form.mark ≠ [] := by
  cases form <;> exact List.cons_ne_nil _ _

theorem infix_tail_mark_append (form : Form) (behind : List Rune) :
    form.mark <:+: (form.mark ++ behind).tail ↔ form.mark <:+: behind := by
  cases form with
  | bracketed => rfl
  | spelled =>
      change [.char 't', .char 'o'] <:+: .char 'o' :: behind ↔ [.char 't', .char 'o'] <:+: behind
      simp [List.infix_cons_iff]

theorem splitLast?_mark (form : Form) {text : List Rune} {operands : List Rune × List Rune} :
    Text.splitLast? form.mark text = some operands ↔
      text = operands.1 ++ form.mark ++ operands.2 ∧ ¬ form.mark <:+: operands.2 := by
  obtain ⟨before, behind⟩ := operands
  rw [Text.splitLast?_eq_some_iff form.mark_ne_nil, form.infix_tail_mark_append]

theorem operands?_enclosed (form : Form) (inner : List Rune) :
    form.operands? (form.enclosed inner) = Text.splitLast? form.mark inner := by
  cases form with
  | bracketed =>
      have hlast : (inner ++ [Rune.char ']']).getLast? = some (.char ']') := List.getLast?_concat
      rw [enclosed, List.append_assoc, List.singleton_append, operands?, bracketed?, if_pos hlast,
        List.dropLast_concat]
      rfl
  | spelled => rfl

theorem exists_enclosed_of_operands? {form : Form} {text : List Rune}
    {operands : List Rune × List Rune} (h : form.operands? text = some operands) :
    ∃ inner, text = form.enclosed inner := by
  cases form with
  | bracketed =>
      rw [operands?] at h
      unfold bracketed? at h
      split at h
      next cs =>
        have hlast := (Option.ite_none_right_eq_some.1 h).1
        obtain ⟨inner, rfl⟩ := List.getLast?_eq_some_iff.1 hlast
        exact ⟨inner, rfl⟩
      next => cases h
  | spelled => exact ⟨text, rfl⟩

/-- The operands are those around the last mark. -/
theorem operands?_eq_some_iff (form : Form) {text : List Rune} {operands : List Rune × List Rune} :
    form.operands? text = some operands ↔ form.Cuts text operands := by
  constructor
  · intro h
    obtain ⟨inner, rfl⟩ := exists_enclosed_of_operands? h
    rw [operands?_enclosed, splitLast?_mark] at h
    exact ⟨congrArg form.enclosed h.1, h.2⟩
  · rintro ⟨rfl, hlast⟩
    rw [written, operands?_enclosed, splitLast?_mark]
    exact ⟨rfl, hlast⟩

/-- A text that has a form can be cut in it. -/
theorem fits_iff (form : Form) {text : List Rune} :
    form.Fits text ↔ ∃ operands, form.operands? text = some operands := by
  constructor
  · rintro ⟨⟨x, y⟩, rfl⟩
    rw [written, operands?_enclosed, ← Option.isSome_iff_exists, Text.splitLast?_isSome,
      Text.occursIn_iff]
    exact ⟨x, y, rfl⟩
  · rintro ⟨operands, h⟩
    exact ⟨operands, (form.operands?_eq_some_iff.1 h).1⟩

theorem existsUnique_cuts {form : Form} {text : List Rune} (h : form.Fits text) :
    ∃! operands, form.Cuts text operands := by
  obtain ⟨operands, hoperands⟩ := form.fits_iff.1 h
  refine ⟨operands, form.operands?_eq_some_iff.1 hoperands, fun other hother => ?_⟩
  rw [form.operands?_eq_some_iff.2 hother] at hoperands
  exact Option.some.inj hoperands

theorem applies_of_fits {form : Form} {text : List Rune} (h : form.Fits text) :
    ∃ applied : Form, applied.Applies text := by
  by_cases hbracketed : bracketed.Fits text
  · exact ⟨.bracketed, hbracketed⟩
  · cases form with
    | bracketed => exact absurd h hbracketed
    | spelled => exact ⟨.spelled, hbracketed, h⟩

theorem Applies.fits {form : Form} {text : List Rune} (h : form.Applies text) : form.Fits text := by
  cases form with
  | bracketed => exact h
  | spelled => exact h.2

end Form

variable {form : Form} {text : Text} {operands : List Rune × List Rune} {bounds : Bounds}

theorem fits_of_parse? (h : parse? (some text) = some bounds) :
    .char '\n' ∉ text.toList ∧ ∃ form : Form, form.Fits text.toList := by
  rw [parse?, Option.getD_some, ofChars?, Option.ite_none_left_eq_some] at h
  obtain ⟨hline, h⟩ := h
  obtain ⟨operands, hoperands, -⟩ := Option.map_eq_some_iff.1 h
  refine ⟨hline, ?_⟩
  rcases Option.or_eq_some_iff.1 hoperands with hbracketed | ⟨-, hspelled⟩
  · exact ⟨.bracketed, Form.bracketed.fits_iff.2 ⟨operands, hbracketed⟩⟩
  · exact ⟨.spelled, Form.spelled.fits_iff.2 ⟨operands, hspelled⟩⟩

theorem parse?_of_cuts (hline : .char '\n' ∉ text.toList) (happlies : form.Applies text.toList)
    (hcuts : form.Cuts text.toList operands) : parse? (some text) = some (ofOperands operands) := by
  have hoperands := form.operands?_eq_some_iff.2 hcuts
  rw [parse?, Option.getD_some, ofChars?, if_neg hline]
  cases form with
  | bracketed =>
      have hbracketed : bracketed? text.toList = some operands := hoperands
      rw [hbracketed, Option.some_or, Option.map_some]
  | spelled =>
      have hspelled : spelled? text.toList = some operands := hoperands
      have hbracketed : bracketed? text.toList = none := by
        rw [Option.eq_none_iff_forall_ne_some]
        intro other hother
        exact happlies.1 (Form.bracketed.fits_iff.2 ⟨other, hother⟩)
      rw [hbracketed, Option.none_or, hspelled, Option.map_some]

theorem ofOperands_eq_iff :
    ofOperands operands = bounds ↔
      Text.Stripped operands.1 bounds.low.toList ∧ Text.Stripped operands.2 bounds.high.toList := by
  constructor
  · rintro rfl
    simp only [ofOperands, Text.toList_ofList]
    exact ⟨Text.stripped_strip operands.1, Text.stripped_strip operands.2⟩
  · rintro ⟨hlow, hhigh⟩
    rw [ofOperands, ← hlow.eq_strip, ← hhigh.eq_strip, Text.ofList_toList, Text.ofList_toList]

/-- Bounds are read from the texts on one line that have one of the forms, and from nothing else.
In the form that applies there is one way to cut the text so that the mark is not in the second
operand again, and the bounds are the operands of this cut without the blanks at their ends. -/
theorem reads_exactly_the_forms :
    parse? none = none ∧
    ∀ text : Text,
      ((∃ bounds, parse? (some text) = some bounds) ↔
        .char '\n' ∉ text.toList ∧ ∃ form : Form, form.Fits text.toList) ∧
      ∀ form : Form, .char '\n' ∉ text.toList → form.Applies text.toList →
        (∃! operands, form.Cuts text.toList operands) ∧
        ∀ operands, form.Cuts text.toList operands → ∀ bounds,
          (parse? (some text) = some bounds ↔
            Text.Stripped operands.1 bounds.low.toList ∧
              Text.Stripped operands.2 bounds.high.toList) := by
  refine ⟨rfl, fun text => ⟨⟨fun ⟨bounds, h⟩ => fits_of_parse? h, ?_⟩, ?_⟩⟩
  · rintro ⟨hline, form, hfits⟩
    obtain ⟨applied, happlies⟩ := Form.applies_of_fits hfits
    obtain ⟨operands, hcuts, -⟩ := Form.existsUnique_cuts happlies.fits
    exact ⟨_, parse?_of_cuts hline happlies hcuts⟩
  · intro form hline happlies
    refine ⟨Form.existsUnique_cuts happlies.fits, fun operands hcuts bounds => ?_⟩
    rw [parse?_of_cuts hline happlies hcuts, Option.some.injEq, ofOperands_eq_iff]

/-- A `to` and a second bracket inside of brackets, and an open bracket with a `to` in a word. -/
theorem crammed_read_exactly :
    parse? (some "[1 to 2, [3, 4 ]") = some ⟨"1 to 2, [3", "4"⟩ ∧
      parse? (some "[1, 2 to 3 tons") = some ⟨"[1, 2 to 3", "ns"⟩ := by
  have hclosed : Form.bracketed.Cuts ("[1 to 2, [3, 4 ]" : Text).toList
      (("1 to 2, [3" : Text).toList, (" 4 " : Text).toList) := by decide
  have hopen : Form.spelled.Cuts ("[1, 2 to 3 tons" : Text).toList
      (("[1, 2 to 3 " : Text).toList, ("ns" : Text).toList) := by decide
  have hunclosed : ¬ Form.bracketed.Fits ("[1, 2 to 3 tons" : Text).toList := by
    rw [Form.fits_iff, ← Option.isSome_iff_exists]
    decide
  obtain ⟨-, hread⟩ := reads_exactly_the_forms
  constructor
  · have hcut := (hread "[1 to 2, [3, 4 ]").2 .bracketed (by decide) ⟨_, hclosed.1⟩
    exact (hcut.2 _ hclosed _).2 (ofOperands_eq_iff.1 (by decide))
  · have hcut := (hread "[1, 2 to 3 tons").2 .spelled (by decide) ⟨hunclosed, _, hopen.1⟩
    exact (hcut.2 _ hopen _).2 (ofOperands_eq_iff.1 (by decide))

end Bounds

end EstimateCompiler
