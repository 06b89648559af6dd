/-!
# Numbers of double precision

A finite number is a sign, a mantissa and a power of two. A decimal is read as the nearest such
number, a half going to the even mantissa; beyond the largest one it is infinite. Everything is
exact arithmetic on natural numbers, so a value can be compared, printed and evaluated in proofs.

Every decimal in an interval around a number reads back as it. The interval reaches half way to the
two neighbours, ends included exactly when the mantissa is even. Of the decimals in it those with
the fewest digits are looked for, and of these the nearest one is taken: on the grid of a given
number of digits only the two grid points around the number can be nearest.
-/
namespace EstimateCompiler

/-- A double precision number. The finite ones are `mantissa * 2 ^ exponent` with a sign; their
mantissa has 53 bits, or fewer at the least exponent -1074. -/
inductive Binary64 where
  | finite (negative : Bool) (mantissa : Nat) (exponent : Int)
  | infinite (negative : Bool)
  | notANumber
  deriving DecidableEq, Repr

namespace Binary64

def leastMantissa : Nat := Nat.pow 2 52

def minExponent : Int := -1074

def maxExponent : Int := 971

/-- The quotient rounded to the nearest number, a half going to the even one. -/
def roundHalfEven (num den : Nat) : Nat :=
  let q := num / den
  let r := num % den
  if 2 * r < den ∨ (2 * r = den ∧ q % 2 = 0) then q else q + 1

/-- A quotient divided by a power of a base, as a quotient. -/
def unscale (base : Nat) (exponent : Int) (num den : Nat) : Nat × Nat :=
  if 0 ≤ exponent then (num, den * Nat.pow base exponent.toNat)
  else (num * Nat.pow base (-exponent).toNat, den)

/-- The exponent at which a positive quotient has a mantissa of 53 bits, or the least one. -/
def exponentOf (num den : Nat) : Int :=
  let guess : Int := (num.log2 : Int) - (den.log2 : Int) - 52
  let (n, d) := unscale 2 guess num den
  max minExponent (if n < d * leastMantissa then guess - 1 else guess)

def ofQuotient (negative : Bool) (num den : Nat) : Binary64 :=
  if num = 0 then .finite negative 0 minExponent
  else
    let e := exponentOf num den
    let (n, d) := unscale 2 e num den
    let m := roundHalfEven n d
    let (m, e) := if m = 2 * leastMantissa then (leastMantissa, e + 1) else (m, e)
    if maxExponent < e then .infinite negative else .finite negative m e

/-- The number nearest to `digits * 10 ^ exponent`. Powers far outside the range of the format are
settled by the size of the decimal alone. -/
def ofDecimal (negative : Bool) (digits : Nat) (exponent : Int) : Binary64 :=
  let size : Int := (Nat.toDigits 10 digits).length + exponent
  if digits = 0 ∨ size < -330 then .finite negative 0 minExponent
  else if 310 < size then .infinite negative
  else
    let (num, den) := unscale 10 (-exponent) digits 1
    ofQuotient negative num den

def isZero : Binary64 → Bool
  | .finite _ m _ => m == 0
  | _ => false

example : ofDecimal false 1 0 = .finite false leastMantissa (-52) := by decide +kernel

example : ofDecimal false 5 (-324) = .finite false 1 (-1074) := by decide +kernel

example : ofDecimal true 17976931348623159 292 = .infinite true := by decide +kernel

structure Decimal where
  digits : Nat
  exponent : Int
  deriving DecidableEq, Repr

/-- The interval of decimals that read back as a number, in quarters of the last place: its value
and its two ends over one denominator. -/
structure Rounding where
  low : Nat
  value : Nat
  high : Nat
  den : Nat
  closed : Bool
  deriving DecidableEq, Repr

/-- The interval around `m * 2 ^ e`. Below a power of two the neighbours are closer. -/
def Rounding.around (m : Nat) (e : Int) : Rounding :=
  let below := if m = leastMantissa ∧ minExponent < e then 1 else 2
  let (unit, den) := unscale 2 (2 - e) 1 1
  { low := (4 * m - below) * unit, value := 4 * m * unit, high := (4 * m + 2) * unit, den,
    closed := m % 2 == 0 }

/-- Whether the decimal `digits * num / scale` is in the interval. -/
def Rounding.admits (r : Rounding) (digits num scale : Nat) : Bool :=
  let point := digits * num * r.den
  if r.closed then r.low * scale ≤ point && point ≤ r.high * scale
  else r.low * scale < point && point < r.high * scale

/-- The power of ten of the leading digit of a positive quotient. -/
def leadingPower (num den : Nat) : Int :=
  if den ≤ num then (Nat.toDigits 10 (num / den)).length - 1
  else -(((List.range 400).find? fun j => den ≤ num * Nat.pow 10 j).getD 400 : Nat)

/-- The point of the grid `10 ^ k` that is nearest to the number, if the interval holds one of the
two around it; a tie goes to the even one. -/
def Rounding.nearest? (r : Rounding) (k : Int) : Option Nat :=
  let (num, scale) := unscale 10 (-k) 1 1
  let q := r.value * scale / (r.den * num)
  let rest := r.value * scale % (r.den * num)
  let up := r.den * num < 2 * rest ∨ (2 * rest = r.den * num ∧ q % 2 = 1)
  match r.admits q num scale, r.admits (q + 1) num scale with
  | true, true => some (if up then q + 1 else q)
  | true, false => some q
  | false, true => some (q + 1)
  | false, false => none

/-- A decimal without zeros at its end. The fuel is the number of zeros that can be dropped. -/
def dropZeros : Nat → Decimal → Decimal
  | 0, d => d
  | fuel + 1, d =>
      if d.digits % 10 = 0 ∧ d.digits ≠ 0 then dropZeros fuel ⟨d.digits / 10, d.exponent + 1⟩ else d

/-- The shortest decimal that reads back as `m * 2 ^ e`, for a positive mantissa. -/
def shortest (m : Nat) (e : Int) : Decimal :=
  let r := Rounding.around m e
  let top := leadingPower r.value r.den
  let found := (List.range 17).findSome? fun (places : Nat) =>
    (r.nearest? (top - places)).map fun digits => Decimal.mk digits (top - places)
  dropZeros 17 (found.getD ⟨0, 0⟩)

example : shortest 3602879701896397 (-55) = ⟨1, -1⟩ := by decide +kernel

example : shortest 1 (-1074) = ⟨5, -324⟩ := by decide +kernel

end Binary64

end EstimateCompiler
