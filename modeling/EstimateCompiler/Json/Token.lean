import EstimateCompiler.Json.Value

/-!
# Tokens of a JSON text

A JSON text is cut into tokens, each with the position of its first character. Scanning never fails
as a whole: a token that is at fault stands in the list with its fault and ends it, and so does a
character that starts no token. Which message such a token earns depends on what was expected in
its place, so the decision is left to the reader.

Every scanner looks at the characters ahead and says how many of them it takes. The loops then count
these off, so all of them recurse on the text.
-/
namespace EstimateCompiler.Json

inductive Fault where
  | byteOrderMark
  | expectedValue
  | expectedName
  | expectedColon
  | expectedComma
  | extraData
  | unterminatedText
  | controlCharacter
  | unknownEscape
  | badCodeEscape
  deriving DecidableEq, Repr

def Fault.message : Fault → Text
  | .byteOrderMark => "Unexpected UTF-8 BOM (decode using utf-8-sig)"
  | .expectedValue => "Expecting value"
  | .expectedName => "Expecting property name enclosed in double quotes"
  | .expectedColon => "Expecting ':' delimiter"
  | .expectedComma => "Expecting ',' delimiter"
  | .extraData => "Extra data"
  | .unterminatedText => "Unterminated string starting at"
  | .controlCharacter => "Invalid control character at"
  | .unknownEscape => "Invalid \\escape"
  | .badCodeEscape => "Invalid \\uXXXX escape"

/-- A token. A faulty token carries its fault and the position of the fault. -/
inductive Token where
  | openArray
  | closeArray
  | openObject
  | closeObject
  | comma
  | colon
  | text (s : Text)
  | literal (v : Json)
  | faulty (fault : Fault) (pos : Nat)
  | stray
  deriving DecidableEq, Repr

structure Located where
  pos : Nat
  token : Token
  deriving DecidableEq, Repr

def isSpace (c : Rune) : Bool := c == ' ' || c == '\t' || c == '\n' || c == '\r'

def hexValue? (c : Rune) : Option Nat :=
  if c.isDigit then some (c.toNat - 48)
  else if 'a' ≤ c ∧ c ≤ 'f' then some (c.toNat - 87)
  else if 'A' ≤ c ∧ c ≤ 'F' then some (c.toNat - 55)
  else none

def hexCode? (cs : List Rune) : Option Nat :=
  (cs.take 4).foldl (fun acc c => do return 16 * (← acc) + (← hexValue? c)) (some 0)

/-- The character that a code escape stands for and the number of characters it takes behind its
`u`. The four digits must not end the text. Two escaped halves stand for one character, and the
second must not end the text either; a half that is alone stands for itself. -/
def codeEscape (pos : Nat) (cs : List Rune) : Except (Fault × Nat) (Rune × Nat) :=
  if cs.length ≤ 4 then .error (.badCodeEscape, pos)
  else
    match hexCode? cs with
    | none => .error (.badCodeEscape, pos)
    | some high =>
        let behind := cs.drop 4
        if 0xD800 ≤ high ∧ high ≤ 0xDBFF ∧ 6 < behind.length ∧
            List.isPrefixOf [.char '\\', .char 'u'] behind then
          match hexCode? (behind.drop 2) with
          | none => .error (.badCodeEscape, pos + 6)
          | some low =>
              if 0xDC00 ≤ low ∧ low ≤ 0xDFFF then
                .ok (Rune.ofNat (0x10000 + (high - 0xD800) * 0x400 + (low - 0xDC00)), 10)
              else .ok (Rune.ofNat high, 4)
        else .ok (Rune.ofNat high, 4)

def letterEscape? : Rune → Option Rune
  | '\x22' => some (.char '\x22')
  | '\\' => some (.char '\\')
  | '/' => some (.char '/')
  | 'b' => some (.char '\x08')
  | 'f' => some (.char '\x0c')
  | 'n' => some (.char '\n')
  | 'r' => some (.char '\r')
  | 't' => some (.char '\t')
  | _ => none

/-- The character that an escape stands for and the number of characters it takes behind the
backslash at `pos`. -/
def escape (start pos : Nat) : List Rune → Except (Fault × Nat) (Rune × Nat)
  | [] => .error (.unterminatedText, start)
  | 'u' :: cs => (codeEscape (pos + 1) cs).map fun (c, length) => (c, length + 1)
  | c :: _ =>
      match letterEscape? c with
      | some d => .ok (d, 1)
      | none => .error (.unknownEscape, pos)

/-- The characters of a text behind its opening quote at `start`, and the position behind its
closing quote, while `skip` characters of an escape are still to be passed over. -/
def textChars (start : Nat) : Nat → Nat → List Rune → Except (Fault × Nat) (List Rune × Nat)
  | _, _, [] => .error (.unterminatedText, start)
  | pos, skip + 1, _ :: cs => textChars start (pos + 1) skip cs
  | pos, 0, c :: cs =>
      if c = '\x22' then .ok ([], pos + 1)
      else if c = '\\' then
        match escape start pos cs with
        | .error fault => .error fault
        | .ok (d, length) =>
            (textChars start (pos + 1) length cs).map fun (ds, stop) => (d :: ds, stop)
      else if c.toNat < 0x20 then .error (.controlCharacter, pos)
      else (textChars start (pos + 1) 0 cs).map fun (ds, stop) => (c :: ds, stop)

def fractionDigits : List Rune → List Rune
  | '.' :: cs => cs.takeWhile Rune.isDigit
  | _ => []

/-- An exponent behind its letter: whether it is negative, its digits and its length. -/
def signedDigits : List Rune → Bool × List Rune × Nat
  | '-' :: cs => (true, cs.takeWhile Rune.isDigit, 1)
  | '+' :: cs => (false, cs.takeWhile Rune.isDigit, 1)
  | cs => (false, cs.takeWhile Rune.isDigit, 0)

def exponentAt : List Rune → Int × Nat
  | c :: cs =>
      let (negative, digits, sign) := signedDigits cs
      if (c = 'e' ∨ c = 'E') ∧ digits ≠ [] then
        let n : Int := natOfDigits digits
        (if negative then -n else n, 1 + sign + digits.length)
      else (0, 0)
  | [] => (0, 0)

/-- The digits of a whole part: a zero alone, or digits that start with another one. -/
def wholeDigits : List Rune → List Rune
  | '0' :: _ => ['0']
  | cs => cs.takeWhile Rune.isDigit

/-- The longest number at the start of an unsigned text, and its length. It is an integer if it has
neither a fraction nor an exponent. -/
def unsignedNumber? (negative : Bool) (cs : List Rune) : Option (Number × Nat) :=
  let whole := wholeDigits cs
  if whole.isEmpty then none
  else
    let behind := cs.drop whole.length
    let fraction := fractionDigits behind
    let pointed := if fraction.isEmpty then 0 else 1 + fraction.length
    let (power, length) := exponentAt (behind.drop pointed)
    if pointed = 0 ∧ length = 0 then
      let n : Int := natOfDigits whole
      some (.integer (if negative then -n else n), whole.length)
    else
      let digits := natOfDigits (whole ++ fraction)
      some (.real (.ofDecimal negative digits (power - fraction.length)),
        whole.length + pointed + length)

def numberAt? : List Rune → Option (Number × Nat)
  | '-' :: cs => (unsignedNumber? true cs).map fun (n, length) => (n, length + 1)
  | cs => unsignedNumber? false cs

def words : List (List Rune × Json) := [
  (['n', 'u', 'l', 'l'], .null),
  (['t', 'r', 'u', 'e'], .bool true),
  (['f', 'a', 'l', 's', 'e'], .bool false),
  (['N', 'a', 'N'], .number (.real .notANumber)),
  (['I', 'n', 'f', 'i', 'n', 'i', 't', 'y'], .number (.real (.infinite false))),
  (['-', 'I', 'n', 'f', 'i', 'n', 'i', 't', 'y'], .number (.real (.infinite true)))]

/-- The literal at the start of a text, a word or a number, and its length. -/
def literalAt? (cs : List Rune) : Option (Json × Nat) :=
  match words.find? fun word => word.1.isPrefixOf cs with
  | some (word, value) => some (value, word.length)
  | none => (numberAt? cs).map fun (n, length) => (.number n, length)

/-- The token that starts with the character `c` at `pos`, and its length. -/
def tokenAt (pos : Nat) (c : Rune) (cs : List Rune) : Token × Nat :=
  match c with
  | '[' => (.openArray, 1)
  | ']' => (.closeArray, 1)
  | '\x7b' => (.openObject, 1)
  | '\x7d' => (.closeObject, 1)
  | ',' => (.comma, 1)
  | ':' => (.colon, 1)
  | '\x22' =>
      match textChars pos (pos + 1) 0 cs with
      | .ok (ds, stop) => (.text (Text.ofList ds), stop - pos)
      | .error (fault, place) => (.faulty fault place, 1)
  | _ =>
      match literalAt? (c :: cs) with
      | some (v, length) => (.literal v, length)
      | none => (.stray, 1)

def Token.endsScan : Token → Bool
  | .faulty _ _ | .stray => true
  | _ => false

/-- The tokens of a text from `pos` on, while `skip` characters of the last one are still to be
passed over. -/
def scanFrom : Nat → Nat → List Rune → List Located
  | _, _, [] => []
  | pos, skip + 1, _ :: cs => scanFrom (pos + 1) skip cs
  | pos, 0, c :: cs =>
      if isSpace c then scanFrom (pos + 1) 0 cs
      else
        let (token, length) := tokenAt pos c cs
        if token.endsScan then [⟨pos, token⟩]
        else ⟨pos, token⟩ :: scanFrom (pos + 1) (length - 1) cs

def scan (cs : List Rune) : List Located := scanFrom 0 0 cs

end EstimateCompiler.Json
