import EstimateCompiler.Decimal.Binary64
import EstimateCompiler.Text.CharClass

/-!
# Numbers of a document and their text

A document holds integers of any size and double precision numbers, and keeps them apart: `1` and
`1.0` are different numbers. An integer is written by its decimal digits. A finite real is written
by its shortest decimal, positionally while the power of ten of its leading digit is from -4 to 15
and with an exponent otherwise, and it always shows that it is not an integer.

An integer that is typed by people may have blanks around it and a sign, and single underscores
between its digits. The digits may be those of any script; every script with decimal digits has its
ten digits in a row, so the table lists the zeros. The ASCII separators from U+001C to U+001F do not
count as blanks here, and a number of more than 4300 digits is refused. The integers of a document
have no such bound, so that all of them can be read back as they are written.
-/
namespace EstimateCompiler

/-- The words for the numbers that have no digits. -/
structure NumberWords where
  notANumber : Text
  infinity : Text
  deriving DecidableEq, Repr

def NumberWords.display : NumberWords := ⟨"nan", "inf"⟩

def NumberWords.samples : NumberWords := ⟨"NaN", "Infinity"⟩

def natChars (n : Nat) : List Rune := (Nat.toDigits 10 n).map .char

theorem isDigit_of_mem_natChars {n : Nat} {d : Rune} (h : d ∈ natChars n) : d.isDigit = true := by
  obtain ⟨c, hc, rfl⟩ := List.mem_map.1 h
  exact Nat.isDigit_of_mem_toDigits (by decide) (by decide) hc

def natOfDigits (ds : List Rune) : Nat := ds.foldl (fun n d => 10 * n + (d.toNat - 48)) 0

/-- An integer in decimal, with a minus sign if it is negative. -/
def intChars : Int → List Rune
  | .ofNat n => natChars n
  | .negSucc n => .char '-' :: natChars (n + 1)

/-- An exponent: its sign and at least two digits. -/
def exponentChars (e : Int) : List Rune :=
  let ds := natChars e.natAbs
  (if e < 0 then .char '-' else .char '+') :: (if ds.length < 2 then .char '0' :: ds else ds)

/-- A decimal without a point, whose leading digit stands at the power `top` of ten. -/
def scientificChars (ds : List Rune) (top : Int) : List Rune :=
  match ds with
  | [] => []
  | d :: rest =>
      (if rest.isEmpty then [d] else d :: .char '.' :: rest) ++ .char 'e' :: exponentChars top

/-- A decimal with its point, at least one digit standing on both sides of it. -/
def positionalChars (ds : List Rune) (top : Int) : List Rune :=
  if top < 0 then .char '0' :: .char '.' :: List.replicate (-top - 1).toNat (.char '0') ++ ds
  else
    let whole := top.toNat + 1
    let fraction := ds.drop whole
    ds.take whole ++ List.replicate (whole - ds.length) (.char '0') ++
      .char '.' :: (if fraction.isEmpty then [.char '0'] else fraction)

def Binary64.Decimal.chars (d : Binary64.Decimal) : List Rune :=
  let ds := natChars d.digits
  let top : Int := d.exponent + ds.length - 1
  if -4 ≤ top ∧ top < 16 then positionalChars ds top else scientificChars ds top

def Binary64.chars (words : NumberWords) : Binary64 → List Rune
  | .finite negative m e =>
      (if negative then [.char '-'] else []) ++
        if m = 0 then [.char '0', .char '.', .char '0'] else (shortest m e).chars
  | .infinite negative => (if negative then [.char '-'] else []) ++ words.infinity.toList
  | .notANumber => words.notANumber.toList

inductive Number where
  | integer (n : Int)
  | real (x : Binary64)
  deriving DecidableEq, Repr

namespace Number

def chars (words : NumberWords) : Number → List Rune
  | .integer n => intChars n
  | .real x => x.chars words

def display (n : Number) : Text := Text.ofList (n.chars .display)

def isZero : Number → Bool
  | .integer n => n == 0
  | .real x => x.isZero

end Number

def intText (n : Int) : Text := Text.ofList (intChars n)

def natText (n : Nat) : Text := Text.ofList (natChars n)

def groupThousands : List Rune → List Rune
  | [] => []
  | d :: ds =>
      if ds.length % 3 = 0 ∧ ds ≠ [] then d :: .char ',' :: groupThousands ds
      else d :: groupThousands ds

example : (Number.real (.ofDecimal false 1 16)).display = "1e+16" := by decide +kernel

example : (Number.real (.ofDecimal true 100 0)).display = "-100.0" := by decide +kernel

example : groupThousands ['1', '3', '7', '2'] = ['1', ',', '3', '7', '2'] := by decide

namespace Text

def digitZeros : List Nat := [
  0x30, 0x660, 0x6F0, 0x7C0, 0x966, 0x9E6, 0xA66, 0xAE6, 0xB66, 0xBE6, 0xC66, 0xCE6, 0xD66,
  0xDE6, 0xE50, 0xED0, 0xF20, 0x1040, 0x1090, 0x17E0, 0x1810, 0x1946, 0x19D0, 0x1A80, 0x1A90,
  0x1B50, 0x1BB0, 0x1C40, 0x1C50, 0xA620, 0xA8D0, 0xA900, 0xA9D0, 0xA9F0, 0xAA50, 0xABF0, 0xFF10,
  0x104A0, 0x10D30, 0x11066, 0x110F0, 0x11136, 0x111D0, 0x112F0, 0x11450, 0x114D0, 0x11650,
  0x116C0, 0x11730, 0x118E0, 0x11950, 0x11C50, 0x11D50, 0x11DA0, 0x16A60, 0x16AC0, 0x16B50,
  0x1D7CE, 0x1D7D8, 0x1D7E2, 0x1D7EC, 0x1D7F6, 0x1E140, 0x1E2F0, 0x1E950, 0x1FBF0]

/-- The value of a decimal digit of any script. -/
def digitValue? (c : Rune) : Option Nat :=
  (digitZeros.find? fun start => start ≤ c.toNat && c.toNat < start + 10).map (c.toNat - ·)

example : digitValue? '7' = some 7 ∧ digitValue? '٣' = some 3 ∧ digitValue? 'x' = none := by decide

end Text

namespace Integer

def isPadding (c : Rune) : Bool := Text.isBlank c && !(0x1C ≤ c.toNat && c.toNat ≤ 0x1F)

/-- The values of digits with single underscores between them. The flag says that a digit must
follow. -/
def digitValues? : Bool → List Rune → Option (List Nat)
  | needed, [] => if needed then none else some []
  | needed, c :: cs =>
      if c = '_' then if needed then none else digitValues? true cs
      else do
        let d ← Text.digitValue? c
        let ds ← digitValues? false cs
        return d :: ds

def natural? (cs : List Rune) : Option Nat := do
  let ds ← digitValues? true cs
  if ds.length ≤ 4300 then some (ds.foldl (fun n d => 10 * n + d) 0) else none

def parse? (text : Text) : Option Int :=
  match Text.trim isPadding text.toList with
  | '-' :: cs => (natural? cs).map fun n => -(n : Int)
  | '+' :: cs => (natural? cs).map Int.ofNat
  | cs => (natural? cs).map Int.ofNat

example : parse? " -1_000 " = some (-1000) := by decide +kernel

example : parse? "1__0" = none ∧ parse? "_1" = none ∧ parse? "+" = none := by decide +kernel

end Integer

end EstimateCompiler
