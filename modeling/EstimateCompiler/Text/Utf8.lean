import EstimateCompiler.Decimal.Number

/-!
# Text from bytes

Bytes are read as UTF-8. A character is a lead byte and up to three continuation bytes, the first of
which has a smaller range behind some lead bytes. The first fault ends the reading. It is reported
with its position and with the bytes of the character that were still right. The halves of
characters are never read, and cannot be written.

A carriage return ends a line, alone or with the line feed behind it. Text that is read has line
feeds only.
-/
namespace EstimateCompiler.Text

def lineFeeds : List Rune → List Rune
  | [] => []
  | '\r' :: '\n' :: cs => .char '\n' :: lineFeeds cs
  | '\r' :: cs => .char '\n' :: lineFeeds cs
  | c :: cs => c :: lineFeeds cs

example : lineFeeds ['a', '\r', '\n', '\r', 'b'] = ['a', '\n', '\n', 'b'] := by decide

namespace Utf8

inductive Reason where
  | start
  | continuation
  | truncated
  deriving DecidableEq, Repr

def Reason.message : Reason → Text
  | .start => "invalid start byte"
  | .continuation => "invalid continuation byte"
  | .truncated => "unexpected end of data"

/-- A fault: the position of the lead byte, the lead byte, and how many bytes were right. -/
structure DecodeError where
  reason : Reason
  pos : Nat
  byte : UInt8
  length : Nat
  deriving DecidableEq, Repr

def DecodeError.message (e : DecodeError) : Text :=
  "'utf-8' codec can't decode " ++
    (if e.length = 1 then
      "byte 0x" ++ Text.ofList (hexDigits 2 e.byte.toNat) ++ " in position " ++ natText e.pos
    else
      "bytes in position " ++ natText e.pos ++ "-" ++ natText (e.pos + e.length - 1)) ++
    ": " ++ e.reason.message

def tail : Nat × Nat := (0x80, 0xBF)

/-- The bits of a lead byte and the ranges of the continuation bytes behind it. -/
def lead? (b : Nat) : Option (Nat × List (Nat × Nat)) :=
  if b < 0x80 then some (b, [])
  else if b < 0xC2 then none
  else if b < 0xE0 then some (b - 0xC0, [tail])
  else if b < 0xF0 then
    let second := if b = 0xE0 then (0xA0, 0xBF) else if b = 0xED then (0x80, 0x9F) else tail
    some (b - 0xE0, [second, tail])
  else if b < 0xF5 then
    let second := if b = 0xF0 then (0x90, 0xBF) else if b = 0xF4 then (0x80, 0x8F) else tail
    some (b - 0xF0, [second, tail, tail])
  else none

/-- The code point of a character from its bits so far and the bytes behind, `length` bytes of it
having been read. -/
def continueWith : List (Nat × Nat) → Nat → Nat → List UInt8 → Except (Reason × Nat) Nat
  | [], code, _, _ => .ok code
  | _ :: _, _, length, [] => .error (.truncated, length)
  | (low, high) :: ranges, code, length, b :: bytes =>
      if low ≤ b.toNat ∧ b.toNat ≤ high then
        continueWith ranges (64 * code + (b.toNat - 0x80)) (length + 1) bytes
      else .error (.continuation, length)

/-- The characters of bytes from `pos` on, while `skip` bytes of the last character are still to be
passed over. -/
def decodeFrom : Nat → Nat → List UInt8 → Except DecodeError (List Rune)
  | _, _, [] => .ok []
  | pos, skip + 1, _ :: bytes => decodeFrom (pos + 1) skip bytes
  | pos, 0, b :: bytes =>
      match lead? b.toNat with
      | none => .error ⟨.start, pos, b, 1⟩
      | some (bits, ranges) =>
          match continueWith ranges bits 1 bytes with
          | .error (reason, length) => .error ⟨reason, pos, b, length⟩
          | .ok code =>
              (decodeFrom (pos + 1) ranges.length bytes).map (.char (Char.ofNat code) :: ·)

def decode (bytes : List UInt8) : Except DecodeError Text :=
  (decodeFrom 0 0 bytes).map Text.ofList

/-- Halves without bytes: the position and the code of the first, and how many stand together. -/
structure EncodeError where
  pos : Nat
  code : Nat
  length : Nat
  deriving DecidableEq, Repr

def EncodeError.message (e : EncodeError) : Text :=
  "'utf-8' codec can't encode " ++
    (if e.length = 1 then
      "character '\\u" ++ Text.ofList (hexDigits 4 e.code) ++ "' in position " ++ natText e.pos
    else
      "characters in position " ++ natText e.pos ++ "-" ++ natText (e.pos + e.length - 1)) ++
    ": surrogates not allowed"

def encodeFrom : Nat → List Rune → Except EncodeError (List UInt8)
  | _, [] => .ok []
  | pos, .char c :: cs => (encodeFrom (pos + 1) cs).map (String.utf8EncodeChar c ++ ·)
  | pos, .half n :: cs => .error ⟨pos, 0xD800 + n, 1 + (cs.takeWhile Rune.isHalf).length⟩

def encode (text : Text) : Except EncodeError (List UInt8) := encodeFrom 0 text.toList

theorem exists_half_of_encodeFrom {text : List Rune} {pos : Nat} {e : EncodeError}
    (h : encodeFrom pos text = .error e) : ∃ n, .half n ∈ text := by
  induction text generalizing pos e with
  | nil => cases h
  | cons r text ih =>
      cases r with
      | half n => exact ⟨n, List.mem_cons_self⟩
      | char c =>
          rw [encodeFrom] at h
          cases hlater : encodeFrom (pos + 1) text with
          | ok bytes =>
              rw [hlater] at h
              cases h
          | error later =>
              obtain ⟨n, hn⟩ := ih hlater
              exact ⟨n, List.mem_cons_of_mem _ hn⟩

/-- Only halves keep a text from being encoded. -/
theorem exists_half_of_encode {text : Text} {e : EncodeError} (h : encode text = .error e) :
    ∃ n, .half n ∈ text.toList := exists_half_of_encodeFrom h

/-- The bytes of a text without halves. -/
def bytes (text : String) : List UInt8 := text.toUTF8.toList

example : (decode [0x61, 0xC3, 0xA9]).toOption = some "aé" := by decide +kernel

example : decodeFrom 0 0 [0x61, 0xE2, 0x82] = .error ⟨.truncated, 1, 0xE2, 2⟩ := rfl

end Utf8

end EstimateCompiler.Text
