import EstimateCompiler.Json.Reader
import EstimateCompiler.Proofs.Decimal.Numeral

/-!
# Reading integers back

The text of an integer is read as this integer, and as nothing longer, if what stands behind it can
be no part of a number. A list of integers between brackets, with commas between them, is scanned
into one token for each bracket, comma and integer, and the reader makes an array of them. The scan
counts positions and the reader keeps a stack, so both are followed from an arbitrary position and
with arbitrary items read before.
-/
namespace EstimateCompiler.Json

/-- What cannot go on with a number that ends in front of it. -/
def EndsNumber (rest : List Rune) : Prop :=
  ∀ c ∈ rest.head?, c.isDigit = false ∧ c ≠ '.' ∧ c ≠ 'e' ∧ c ≠ 'E'

theorem natOfDigits_natChars (n : Nat) : natOfDigits (natChars n) = n := by
  rw [natOfDigits, natChars, List.foldl_map]
  exact Nat.ofDigitChars_ten_toDigits

section Ends
variable {rest : List Rune} (h : EndsNumber rest)
include h

theorem takeWhile_append_of_endsNumber {ds : List Rune} (hds : ∀ d ∈ ds, d.isDigit = true) :
    (ds ++ rest).takeWhile Rune.isDigit = ds := by
  rw [List.takeWhile_append_of_pos hds]
  cases rest with
  | nil => simp
  | cons c cs => simp [(h c rfl).1]

theorem fractionDigits_of_endsNumber : fractionDigits rest = [] := by
  cases rest with
  | nil => rfl
  | cons c cs =>
      unfold fractionDigits
      split
      next heq =>
        cases heq
        exact absurd rfl (h '.' rfl).2.1
      next => rfl

theorem exponentAt_of_endsNumber : exponentAt rest = (0, 0) := by
  cases rest with
  | nil => rfl
  | cons c cs =>
      have hmark : ¬ (c = 'e' ∨ c = 'E') := not_or.2 (h c rfl).2.2
      simp [exponentAt, hmark]

theorem wholeDigits_natChars (n : Nat) : wholeDigits (natChars n ++ rest) = natChars n := by
  unfold wholeDigits
  split
  next heq =>
    have hlead : (natChars n).head? = some (.char '0') := by
      rw [← List.head?_append_of_ne_nil _ (isDigits_natChars n).ne_nil, heq]
      rfl
    exact ((isWhole_natChars n).lead hlead).symm
  next => exact takeWhile_append_of_endsNumber h (isDigits_natChars n).isDigit

theorem unsignedNumber?_natChars (negative : Bool) (n : Nat) :
    unsignedNumber? negative (natChars n ++ rest) =
      some (.integer (if negative then -n else n), (natChars n).length) := by
  have hne : natChars n ≠ [] := (isDigits_natChars n).ne_nil
  have hvalue : natOfDigits (natChars n) = n := natOfDigits_natChars n
  unfold unsignedNumber?
  simp [wholeDigits_natChars h, hne, fractionDigits_of_endsNumber h, exponentAt_of_endsNumber h,
    hvalue]

end Ends

/-- An integer begins with a digit, or with a minus sign and a digit. -/
theorem intChars_cases (n : Int) :
    (∃ d ds, d.isDigit = true ∧ intChars n = d :: ds) ∨
      ∃ d ds, d.isDigit = true ∧ intChars n = .char '-' :: d :: ds := by
  have hdigits (k : Nat) : ∃ d ds, d.isDigit = true ∧ natChars k = d :: ds := by
    obtain ⟨d, ds, hds⟩ := List.exists_cons_of_ne_nil (isDigits_natChars k).ne_nil
    exact ⟨d, ds, (isDigits_natChars k).isDigit d (hds ▸ List.mem_cons_self), hds⟩
  cases n with
  | ofNat k => exact .inl (hdigits k)
  | negSucc k =>
      obtain ⟨d, ds, hd, hds⟩ := hdigits (k + 1)
      exact .inr ⟨d, ds, hd, by rw [intChars, hds]⟩

theorem numberAt?_intChars (n : Int) {rest : List Rune} (h : EndsNumber rest) :
    numberAt? (intChars n ++ rest) = some (.integer n, (intChars n).length) := by
  cases n with
  | ofNat k =>
      unfold numberAt?
      split
      next heq =>
        obtain ⟨d, ds, hds⟩ := List.exists_cons_of_ne_nil (isDigits_natChars k).ne_nil
        have hd : d.isDigit = true := (isDigits_natChars k).isDigit d (hds ▸ List.mem_cons_self)
        rw [intChars, hds, List.cons_append] at heq
        rw [(List.cons.inj heq).1] at hd
        exact absurd hd (by decide)
      next => exact unsignedNumber?_natChars h false k
  | negSucc k =>
      rw [intChars, List.cons_append, numberAt?, unsignedNumber?_natChars h true (k + 1)]
      rfl

/-- A word has no digit among its first two characters, and an integer has one. -/
theorem find?_words_intChars (n : Int) (rest : List Rune) :
    (words.find? fun word => word.1.isPrefixOf (intChars n ++ rest)) = none := by
  have hword : ∀ word ∈ words, 2 ≤ word.1.length ∧ (word.1.take 2).any Rune.isDigit = false := by
    decide
  have hint : ((intChars n ++ rest).take 2).any Rune.isDigit = true := by
    rcases intChars_cases n with ⟨d, ds, hd, hn⟩ | ⟨d, ds, hd, hn⟩ <;> simp [hn, hd]
  refine List.find?_eq_none.2 fun word hmem hprefix => ?_
  obtain ⟨behind, hbehind⟩ := List.isPrefixOf_iff_prefix.1 hprefix
  obtain ⟨hlength, hdigit⟩ := hword word hmem
  rw [← hbehind, List.take_append_of_le_length hlength, hdigit] at hint
  cases hint

theorem literalAt?_intChars (n : Int) {rest : List Rune} (h : EndsNumber rest) :
    literalAt? (intChars n ++ rest) = some (.number (.integer n), (intChars n).length) := by
  rw [literalAt?, find?_words_intChars, numberAt?_intChars n h]
  rfl

theorem scanFrom_length_append (pos : Nat) (skipped text : List Rune) :
    scanFrom pos skipped.length (skipped ++ text) = scanFrom (pos + skipped.length) 0 text := by
  induction skipped generalizing pos with
  | nil => rfl
  | cons c cs ih =>
      rw [List.length_cons, List.cons_append, scanFrom, ih]
      congr 1
      omega

theorem scanFrom_token {pos : Nat} {c : Rune} {cs rest : List Rune} {token : Token}
    (hspace : isSpace c = false)
    (htoken : tokenAt pos c (cs ++ rest) = (token, (c :: cs).length))
    (hends : token.endsScan = false) :
    scanFrom pos 0 (c :: cs ++ rest) =
      ⟨pos, token⟩ :: scanFrom (pos + (c :: cs).length) 0 rest := by
  rw [List.cons_append, scanFrom, if_neg (by simp [hspace]), htoken]
  simp only [hends, Bool.false_eq_true, if_false, List.length_cons, Nat.add_sub_cancel,
    scanFrom_length_append]
  congr 2
  omega

theorem tokenAt_of_number {c : Rune} (h : c.isDigit = true ∨ c = '-') (pos : Nat) (cs : List Rune)
    {v : Json} {length : Nat} (hliteral : literalAt? (c :: cs) = some (v, length)) :
    tokenAt pos c cs = (.literal v, length) := by
  unfold tokenAt
  split
  case h_8 => rw [hliteral]
  all_goals exact absurd h (by decide)

theorem scanFrom_intChars (pos : Nat) (n : Int) {rest : List Rune} (h : EndsNumber rest) :
    scanFrom pos 0 (intChars n ++ rest) =
      ⟨pos, .literal (.number (.integer n))⟩ :: scanFrom (pos + (intChars n).length) 0 rest := by
  obtain ⟨c, cs, hn, hc⟩ : ∃ c cs, intChars n = c :: cs ∧ (c.isDigit = true ∨ c = '-') := by
    rcases intChars_cases n with ⟨d, ds, hd, hn⟩ | ⟨d, ds, -, hn⟩
    · exact ⟨d, ds, hn, .inl hd⟩
    · exact ⟨'-', d :: ds, hn, .inr rfl⟩
  have hspace : isSpace c = false := by
    unfold isSpace
    rw [Bool.eq_false_iff]
    intro hspace
    simp only [Bool.or_eq_true, beq_iff_eq] at hspace
    rcases hspace with ((rfl | rfl) | rfl) | rfl <;> exact absurd hc (by decide)
  have hliteral := literalAt?_intChars n h
  rw [hn] at hliteral ⊢
  exact scanFrom_token hspace (tokenAt_of_number hc pos _ hliteral) rfl

/-- Further integers of a list, each behind a comma. -/
def furtherChars (ns : List Int) : List Rune := ns.flatMap fun n => .char ',' :: intChars n

theorem intercalate_intChars (n : Int) (ns : List Int) :
    [.char ','].intercalate ((n :: ns).map intChars) = intChars n ++ furtherChars ns := by
  induction ns generalizing n with
  | nil => simp [furtherChars]
  | cons second rest ih =>
      have hlater := ih second
      rw [List.map_cons] at hlater
      simp [furtherChars, hlater]

theorem endsNumber_furtherChars (ns : List Int) : EndsNumber (furtherChars ns ++ [.char ']']) := by
  intro c hc
  cases ns with
  | nil =>
      cases hc
      decide
  | cons n rest =>
      cases hc
      decide

/-- Behind an item the reader takes in all further integers and closes the array. -/
theorem readTokens_furtherChars (stop pos : Nat) (done : List Json) (v : Json) (ns : List Int) :
    readTokens stop [.items done] (.rest v) (scanFrom pos 0 (furtherChars ns ++ [.char ']'])) =
      .ok (.array (done.reverse ++ v :: ns.map fun n => .number (.integer n))) := by
  induction ns generalizing pos done v with
  | nil =>
      have hclose : readTokens stop [.items done] (.rest v) (scanFrom pos 0 [.char ']']) =
          .ok (.array (v :: done).reverse) := rfl
      simpa [furtherChars] using hclose
  | cons n rest ih =>
      have hcomma : scanFrom pos 0 (furtherChars (n :: rest) ++ [.char ']']) =
          ⟨pos, .comma⟩ ::
            scanFrom (pos + 1) 0 (intChars n ++ (furtherChars rest ++ [.char ']'])) := by
        simp only [furtherChars, List.flatMap_cons, List.append_assoc, List.cons_append]
        rfl
      rw [hcomma, scanFrom_intChars _ n (endsNumber_furtherChars rest)]
      have hlater := ih (pos + 1 + (intChars n).length) (v :: done) (.number (.integer n))
      rw [List.reverse_cons, List.append_assoc] at hlater
      exact hlater

/-- A list of integers is read back as it was written. -/
theorem readChars_integers (ns : List Int) :
    readChars (.char '[' :: [.char ','].intercalate (ns.map intChars) ++ [.char ']']) =
      .ok (.array (ns.map fun n => .number (.integer n))) := by
  cases ns with
  | nil => rfl
  | cons n rest =>
      rw [intercalate_intChars, List.cons_append, List.append_assoc, readChars, if_neg (by simp)]
      have hopen (stop : Nat) (cs : List Rune) :
          readTokens stop [] .value (scan (.char '[' :: cs)) =
            readTokens stop [] .firstItem (scanFrom 1 0 cs) := rfl
      rw [hopen, scanFrom_intChars _ n (endsNumber_furtherChars rest)]
      exact readTokens_furtherChars _ _ [] (.number (.integer n)) rest

end EstimateCompiler.Json
