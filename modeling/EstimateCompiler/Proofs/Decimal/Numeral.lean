import EstimateCompiler.Decimal.Number
import Mathlib.Data.List.Basic

/-!
# Numerals

A numeral is an optional minus sign, digits without a zero in front or a zero alone, an optional
fraction and an optional exponent. Every integer is written as a numeral, and so is every finite
real, positionally or with an exponent. For the whole part of a positional numeral it takes that a
shortest decimal has no leading zero to be followed by others: its digits are not zero, because the
interval around a positive number does not reach down to zero.

Numbers that are not finite are written as words.
-/
namespace EstimateCompiler

structure IsDigits (ds : List Rune) : Prop where
  ne_nil : ds ≠ []
  isDigit : ∀ d ∈ ds, d.isDigit = true

/-- Digits without a zero in front, or a zero alone. -/
structure IsWhole (ds : List Rune) : Prop extends IsDigits ds where
  lead : ds.head? = some (.char '0') → ds = [.char '0']

inductive IsFraction : List Rune → Prop where
  | absent : IsFraction []
  | digits {ds : List Rune} (h : IsDigits ds) : IsFraction ('.' :: ds)

inductive IsExponent : List Rune → Prop where
  | absent : IsExponent []
  | digits {mark : Rune} {sign ds : List Rune} (hmark : mark = 'e' ∨ mark = 'E')
      (hsign : sign = [] ∨ sign = [.char '+'] ∨ sign = [.char '-']) (h : IsDigits ds) :
      IsExponent (mark :: (sign ++ ds))

inductive IsUnsigned : List Rune → Prop where
  | parts {whole fraction exponent : List Rune} (hwhole : IsWhole whole)
      (hfraction : IsFraction fraction) (hexponent : IsExponent exponent) :
      IsUnsigned (whole ++ fraction ++ exponent)

/-- An optional minus sign, digits, an optional fraction and an optional exponent. -/
inductive IsNumeral : List Rune → Prop where
  | unsigned {text : List Rune} (h : IsUnsigned text) : IsNumeral text
  | negative {text : List Rune} (h : IsUnsigned text) : IsNumeral ('-' :: text)

def isNumeralChar (c : Rune) : Bool :=
  c.isDigit || c ∈ [.char '-', .char '+', .char '.', .char 'e', .char 'E']

theorem IsDigits.isNumeralChar_of_mem {ds : List Rune} (h : IsDigits ds) {c : Rune} (hc : c ∈ ds) :
    isNumeralChar c = true := by
  simp [isNumeralChar, h.isDigit c hc]

theorem IsExponent.isNumeralChar_of_mem {exponent : List Rune} (h : IsExponent exponent) {c : Rune}
    (hc : c ∈ exponent) : isNumeralChar c = true := by
  cases h with
  | absent => cases hc
  | digits hmark hsign h =>
      rcases List.mem_cons.1 hc with rfl | hc
      · rcases hmark with rfl | rfl <;> rfl
      · rcases List.mem_append.1 hc with hc | hc
        · have hsigns : c = '+' ∨ c = '-' := by
            rcases hsign with rfl | rfl | rfl <;> simp_all
          rcases hsigns with rfl | rfl <;> rfl
        · exact h.isNumeralChar_of_mem hc

theorem IsUnsigned.isNumeralChar_of_mem {text : List Rune} (h : IsUnsigned text) {c : Rune}
    (hc : c ∈ text) : isNumeralChar c = true := by
  cases h with
  | parts hwhole hfraction hexponent =>
      rw [List.mem_append, List.mem_append] at hc
      rcases hc with (hc | hc) | hc
      · exact hwhole.isNumeralChar_of_mem hc
      · cases hfraction with
        | absent => cases hc
        | digits h =>
            rcases List.mem_cons.1 hc with rfl | hc
            · rfl
            · exact h.isNumeralChar_of_mem hc
      · exact hexponent.isNumeralChar_of_mem hc

theorem IsNumeral.isNumeralChar_of_mem {text : List Rune} (h : IsNumeral text) {c : Rune}
    (hc : c ∈ text) : isNumeralChar c = true := by
  cases h with
  | unsigned h => exact h.isNumeralChar_of_mem hc
  | negative h =>
      rcases List.mem_cons.1 hc with rfl | hc
      · rfl
      · exact h.isNumeralChar_of_mem hc

theorem IsNumeral.ne_nil {text : List Rune} (h : IsNumeral text) : text ≠ [] := by
  cases h with
  | unsigned h =>
      cases h with
      | parts hwhole => simp [hwhole.ne_nil]
  | negative => exact List.cons_ne_nil _ _

theorem isDigits_natChars (n : Nat) : IsDigits (natChars n) where
  ne_nil := by simp [natChars, Nat.toDigits_ne_nil]
  isDigit _ hd := isDigit_of_mem_natChars hd

theorem head?_natChars {n : Nat} (h : n ≠ 0) : (natChars n).head? ≠ some (.char '0') := by
  induction n using Nat.strongRecOn with
  | ind n ih =>
      by_cases hn : n < 10
      · have hdigits : ∀ d < 10, d ≠ 0 → (natChars d).head? ≠ some (.char '0') := by decide
        exact hdigits n hn h
      · have hfront := ih (n / 10) (by omega) (by omega)
        have hne : natChars (n / 10) ≠ [] := (isDigits_natChars _).ne_nil
        have happend : natChars n = natChars (n / 10) ++ [.char (n % 10).digitChar] := by
          rw [natChars, Nat.toDigits_of_base_le (by decide) (by omega), List.map_append]
          rfl
        rwa [happend, List.head?_append_of_ne_nil _ hne]

theorem isWhole_natChars (n : Nat) : IsWhole (natChars n) where
  toIsDigits := isDigits_natChars n
  lead hzero := by
    by_cases hn : n = 0
    · rw [hn]
      rfl
    · exact absurd hzero (head?_natChars hn)

theorem isUnsigned_natChars (n : Nat) : IsUnsigned (natChars n) := by
  simpa using IsUnsigned.parts (isWhole_natChars n) .absent .absent

theorem isNumeral_intChars (n : Int) : IsNumeral (intChars n) := by
  cases n with
  | ofNat n => exact .unsigned (isUnsigned_natChars n)
  | negSucc n => exact .negative (isUnsigned_natChars (n + 1))

namespace Binary64

theorem unscale_pos (base : Nat) (hbase : 0 < base) (exponent : Int) :
    0 < (unscale base exponent 1 1).1 ∧ 0 < (unscale base exponent 1 1).2 := by
  have hpow (k : Nat) : 0 < base ^ k := Nat.pow_pos hbase
  unfold unscale
  split
  · simpa using hpow exponent.toNat
  · simpa using hpow (-exponent).toNat

/-- The interval around a positive number does not reach down to zero. -/
theorem Rounding.low_around_pos {m : Nat} (hm : m ≠ 0) (e : Int) : 0 < (around m e).low := by
  have hunit := (unscale_pos 2 (by decide) (2 - e)).1
  have hbelow : 0 < 4 * m - if m = leastMantissa ∧ minExponent < e then 1 else 2 := by
    split <;> omega
  exact Nat.mul_pos hbelow hunit

theorem Rounding.admits_zero {r : Rounding} (hlow : 0 < r.low) {scale : Nat} (hscale : 0 < scale)
    (num : Nat) : r.admits 0 num scale = false := by
  have hpos : r.low * scale ≠ 0 := Nat.ne_of_gt (Nat.mul_pos hlow hscale)
  unfold Rounding.admits
  simp [hpos]

theorem Rounding.ne_zero_of_nearest? {r : Rounding} (hlow : 0 < r.low) {k : Int} {digits : Nat}
    (h : r.nearest? k = some digits) : digits ≠ 0 := by
  have hscale := (unscale_pos 10 (by decide) (-k)).2
  rintro rfl
  unfold Rounding.nearest? at h
  simp only at h
  have hzero := Rounding.admits_zero hlow hscale (unscale 10 (-k) 1 1).1
  split at h
  next hq _ =>
    split at h
    · simp at h
    · rw [Option.some.inj h, hzero] at hq
      cases hq
  next hq _ =>
    rw [Option.some.inj h, hzero] at hq
    cases hq
  next => simp at h
  next => cases h

theorem eq_of_dropZeros_eq_zero {fuel : Nat} {d : Decimal} (h : (dropZeros fuel d).digits = 0) :
    d.digits = 0 ∧ dropZeros fuel d = d := by
  induction fuel generalizing d with
  | zero => exact ⟨h, rfl⟩
  | succ fuel ih =>
      unfold dropZeros at h ⊢
      split at h
      next hdrop =>
        have hzero := (ih h).1
        simp only at hzero
        omega
      next hkeep => exact ⟨h, if_neg hkeep⟩

/-- The digits of a shortest decimal are zero only if the decimal is a plain zero. -/
theorem exponent_shortest {m : Nat} (hm : m ≠ 0) {e : Int} (h : (shortest m e).digits = 0) :
    (shortest m e).exponent = 0 := by
  unfold shortest at h ⊢
  simp only at h ⊢
  obtain ⟨hzero, heq⟩ := eq_of_dropZeros_eq_zero h
  rw [heq]
  generalize hfound : List.findSome? _ _ = found at hzero ⊢
  cases found with
  | none => rfl
  | some d =>
      obtain ⟨places, -, hplaces⟩ := List.exists_of_findSome?_eq_some hfound
      obtain ⟨digits, hdigits, rfl⟩ := Option.map_eq_some_iff.1 hplaces
      exact absurd hzero (Rounding.ne_zero_of_nearest? (Rounding.low_around_pos hm e) hdigits)

end Binary64

theorem isDigits_replicate_append {ds : List Rune} (h : IsDigits ds) (k : Nat) :
    IsDigits (List.replicate k (.char '0') ++ ds) where
  ne_nil := by simp [h.ne_nil]
  isDigit d hd := by
    rcases List.mem_append.1 hd with hd | hd
    · rw [List.eq_of_mem_replicate hd]
      rfl
    · exact h.isDigit d hd

/-- The digits in front of the point. Zeros fill up what the digits do not reach. -/
theorem isWhole_take_append {ds : List Rune} (h : IsWhole ds) (k : Nat)
    (hzero : ds = [.char '0'] → k = 0) :
    IsWhole (ds.take (k + 1) ++ List.replicate (k + 1 - ds.length) (.char '0')) := by
  obtain ⟨d, rest, rfl⟩ := List.exists_cons_of_ne_nil h.ne_nil
  refine ⟨⟨by simp, ?_⟩, ?_⟩
  · intro c hc
    rcases List.mem_append.1 hc with hc | hc
    · exact h.isDigit c (List.mem_of_mem_take hc)
    · rw [List.eq_of_mem_replicate hc]
      rfl
  · intro hlead
    have hd : d = '0' := by simpa using hlead
    have halone := h.lead (by rw [hd]; rfl)
    rw [halone, hzero halone]
    rfl

theorem isExponent_exponentChars (e : Int) : IsExponent (.char 'e' :: exponentChars e) := by
  have hdigits : IsDigits (if (natChars e.natAbs).length < 2 then .char '0' :: natChars e.natAbs
      else natChars e.natAbs) := by
    split
    · exact isDigits_replicate_append (isDigits_natChars _) 1
    · exact isDigits_natChars _
  have hsign : [if e < 0 then Rune.char '-' else .char '+'] = [] ∨
      [if e < 0 then Rune.char '-' else .char '+'] = [.char '+'] ∨
      [if e < 0 then Rune.char '-' else .char '+'] = [.char '-'] := by
    split <;> simp
  exact .digits (.inl rfl) hsign hdigits

theorem isUnsigned_scientificChars {ds : List Rune} (h : IsDigits ds) (top : Int) :
    IsUnsigned (scientificChars ds top) := by
  obtain ⟨d, rest, rfl⟩ := List.exists_cons_of_ne_nil h.ne_nil
  have hone : IsWhole [d] := by
    refine ⟨⟨by simp, fun c hc => h.isDigit c ?_⟩, fun hlead => ?_⟩
    · rw [List.mem_singleton.1 hc]
      exact List.mem_cons_self
    · rw [Option.some.inj hlead]
  have hexponent := isExponent_exponentChars top
  unfold scientificChars
  simp only
  split
  next => simpa using IsUnsigned.parts hone .absent hexponent
  next hmore =>
    have hrest : IsDigits rest :=
      ⟨by simpa using hmore, fun c hc => h.isDigit c (List.mem_cons_of_mem _ hc)⟩
    simpa using IsUnsigned.parts hone (.digits hrest) hexponent

theorem isUnsigned_positionalChars {ds : List Rune} (h : IsWhole ds) {top : Int}
    (hzero : ds = [.char '0'] → top = 0) : IsUnsigned (positionalChars ds top) := by
  unfold positionalChars
  split
  next =>
    have hwhole : IsWhole [.char '0'] := isWhole_natChars 0
    have hfraction := isDigits_replicate_append h.toIsDigits (-top - 1).toNat
    simpa using IsUnsigned.parts hwhole (.digits hfraction) .absent
  next =>
    have hwhole := isWhole_take_append h top.toNat fun halone => by rw [hzero halone]; rfl
    have hfraction : IsDigits (if (ds.drop (top.toNat + 1)).isEmpty then [.char '0']
        else ds.drop (top.toNat + 1)) := by
      split
      next => exact isDigits_natChars 0
      next hmore =>
        exact ⟨by simpa using hmore, fun c hc => h.isDigit c (List.mem_of_mem_drop hc)⟩
    simpa using IsUnsigned.parts hwhole (.digits hfraction) .absent

theorem isUnsigned_shortest {m : Nat} (hm : m ≠ 0) (e : Int) :
    IsUnsigned (Binary64.shortest m e).chars := by
  unfold Binary64.Decimal.chars
  simp only
  split
  next =>
    refine isUnsigned_positionalChars (isWhole_natChars _) fun halone => ?_
    have hdigits : (Binary64.shortest m e).digits = 0 := by
      by_contra hne
      exact head?_natChars hne (by rw [halone]; rfl)
    rw [Binary64.exponent_shortest hm hdigits, halone]
    rfl
  next => exact isUnsigned_scientificChars (isDigits_natChars _) _

def Number.isFinite : Number → Bool
  | .real (.infinite _) | .real .notANumber => false
  | _ => true

theorem isNumeral_sample {n : Number} (h : n.isFinite = true) : IsNumeral (n.chars .samples) := by
  cases n with
  | integer n => exact isNumeral_intChars n
  | real x =>
      cases x with
      | finite negative m e =>
          have hdigits : IsUnsigned (if m = 0 then [.char '0', .char '.', .char '0']
              else (Binary64.shortest m e).chars) := by
            split
            next => exact .parts (isWhole_natChars 0) (.digits (isDigits_natChars 0)) .absent
            next hm => exact isUnsigned_shortest hm e
          cases negative with
          | false => exact .unsigned hdigits
          | true => exact .negative hdigits
      | infinite | notANumber => cases h

/-- The words for the numbers that are not finite. -/
def boundlessWords : List (List Rune) := [
  ['N', 'a', 'N'],
  ['I', 'n', 'f', 'i', 'n', 'i', 't', 'y'],
  ['-', 'I', 'n', 'f', 'i', 'n', 'i', 't', 'y']]

theorem sample_mem_boundlessWords {n : Number} (h : n.isFinite = false) :
    n.chars .samples ∈ boundlessWords := by
  cases n with
  | integer n => cases h
  | real x =>
      cases x with
      | finite negative m e => cases h
      | infinite negative => cases negative <;> decide +kernel
      | notANumber => decide +kernel

/-- Among the samples in a program exactly the finite numbers are written as numerals. -/
theorem isNumeral_sample_iff (n : Number) : IsNumeral (n.chars .samples) ↔ n.isFinite = true := by
  refine ⟨fun hnumeral => ?_, isNumeral_sample⟩
  by_contra hfinite
  have hword := sample_mem_boundlessWords (Bool.eq_false_iff.2 hfinite)
  have hletters : ∀ word ∈ boundlessWords, word.all isNumeralChar = false := by decide
  have hall : (n.chars .samples).all isNumeralChar = true :=
    List.all_eq_true.2 fun c hc => hnumeral.isNumeralChar_of_mem hc
  exact Bool.false_ne_true ((hletters _ hword).symm.trans hall)

/-- A character that is in no numeral and in none of the words is in no sample. -/
theorem not_mem_sample {c : Rune} (hnumeral : isNumeralChar c = false)
    (hwords : ∀ word ∈ boundlessWords, c ∉ word) (n : Number) : c ∉ n.chars .samples := by
  intro hc
  cases hfinite : n.isFinite with
  | true =>
      have hchar := (isNumeral_sample hfinite).isNumeralChar_of_mem hc
      exact Bool.false_ne_true (hnumeral.symm.trans hchar)
  | false => exact hwords _ (sample_mem_boundlessWords hfinite) hc

theorem sample_ne_nil (n : Number) : n.chars .samples ≠ [] := by
  cases hfinite : n.isFinite with
  | true => exact (isNumeral_sample hfinite).ne_nil
  | false =>
      have hwords : ∀ word ∈ boundlessWords, word ≠ [] := by decide
      exact hwords _ (sample_mem_boundlessWords hfinite)

end EstimateCompiler
