import EstimateCompiler.Text.Utf8
import Mathlib.Tactic.SplitIfs

/-!
# Reading what was encoded

The bytes of a text are read as the text. A character has a lead byte, whose range tells how many
bytes there are, and the other bytes lie in the ranges that belong to this lead byte. So the reading
takes in the code of the character and goes on behind its bytes.
-/
namespace EstimateCompiler.Text.Utf8

theorem decodeFrom_skip (pos : Nat) (skipped rest : List UInt8) :
    decodeFrom pos skipped.length (skipped ++ rest) = decodeFrom (pos + skipped.length) 0 rest := by
  induction skipped generalizing pos with
  | nil => rfl
  | cons b bytes ih =>
      rw [List.length_cons, List.cons_append, decodeFrom, ih, Nat.add_right_comm, Nat.add_assoc]

/-- A lead byte and bytes that continue it are read as one character. -/
theorem decodeFrom_append {b : UInt8} {bytes : List UInt8} {bits code : Nat}
    {ranges : List (Nat × Nat)} (hlead : lead? b.toNat = some (bits, ranges))
    (hlength : bytes.length = ranges.length) {rest : List UInt8}
    (hcode : continueWith ranges bits 1 (bytes ++ rest) = .ok code) (pos : Nat) :
    decodeFrom pos 0 (b :: bytes ++ rest) =
      (decodeFrom (pos + 1 + bytes.length) 0 rest).map (.char (Char.ofNat code) :: ·) := by
  rw [List.cons_append, decodeFrom, hlead]
  simp only [hcode]
  rw [← hlength, decodeFrom_skip]

theorem toNat_byte {n : Nat} (h : n < 256) : (UInt8.ofNat n).toNat = n :=
  UInt8.toNat_ofNat_of_lt' h

theorem continueWith_byte {range : Nat × Nat} {n : Nat} (hbyte : n < 256)
    (hrange : range.1 ≤ n ∧ n ≤ range.2) (ranges : List (Nat × Nat)) (code length : Nat)
    (bytes : List UInt8) :
    continueWith (range :: ranges) code length (UInt8.ofNat n :: bytes) =
      continueWith ranges (64 * code + (n - 0x80)) (length + 1) bytes := by
  rw [continueWith, toNat_byte hbyte, if_pos hrange]

theorem continueWith_tail {n : Nat} (h : n < 64) (ranges : List (Nat × Nat)) (code length : Nat)
    (bytes : List UInt8) :
    continueWith (tail :: ranges) code length (UInt8.ofNat (n + 128) :: bytes) =
      continueWith ranges (64 * code + n) (length + 1) bytes := by
  have hrange : tail.1 ≤ n + 128 ∧ n + 128 ≤ tail.2 := by
    simp only [tail]
    omega
  rw [continueWith_byte (by omega) hrange, Nat.add_sub_cancel]

theorem lead?_two {b : Nat} (hlow : 0xC2 ≤ b) (hhigh : b < 0xE0) :
    lead? b = some (b - 0xC0, [tail]) := by
  rw [lead?, if_neg (by omega), if_neg (by omega), if_pos hhigh]

theorem second_range {b first last low high n : Nat} (hn : 0x80 ≤ n) (hn' : n ≤ 0xBF)
    (hleast : b = first → low ≤ n) (hmost : b = last → n ≤ high) :
    (if b = first then (low, 0xBF) else if b = last then (0x80, high) else tail).1 ≤ n ∧
      n ≤ (if b = first then (low, 0xBF) else if b = last then (0x80, high) else tail).2 := by
  split_ifs with hfirst hlast
  · exact ⟨hleast hfirst, hn'⟩
  · exact ⟨hn, hmost hlast⟩
  · exact ⟨hn, hn'⟩

/-- Behind a lead byte of three, the second byte rules out codes that need fewer bytes and the codes
of halves. -/
theorem exists_lead?_three {b : Nat} (hlow : 0xE0 ≤ b) (hhigh : b < 0xF0) :
    ∃ second, lead? b = some (b - 0xE0, [second, tail]) ∧
      ∀ n, 0x80 ≤ n → n ≤ 0xBF → (b = 0xE0 → 0xA0 ≤ n) → (b = 0xED → n ≤ 0x9F) →
        second.1 ≤ n ∧ n ≤ second.2 := by
  rw [lead?, if_neg (by omega), if_neg (by omega), if_neg (by omega), if_pos hhigh]
  exact ⟨_, rfl, fun n hn hn' hleast hmost => second_range hn hn' hleast hmost⟩

/-- Behind a lead byte of four, the second byte rules out codes that need fewer bytes and codes
beyond the last character. -/
theorem exists_lead?_four {b : Nat} (hlow : 0xF0 ≤ b) (hhigh : b < 0xF5) :
    ∃ second, lead? b = some (b - 0xF0, [second, tail, tail]) ∧
      ∀ n, 0x80 ≤ n → n ≤ 0xBF → (b = 0xF0 → 0x90 ≤ n) → (b = 0xF4 → n ≤ 0x8F) →
        second.1 ≤ n ∧ n ≤ second.2 := by
  rw [lead?, if_neg (by omega), if_neg (by omega), if_neg (by omega), if_neg (by omega),
    if_pos hhigh]
  exact ⟨_, rfl, fun n hn hn' hleast hmost => second_range hn hn' hleast hmost⟩

/-- The bytes of the character with the given code. -/
def spelling (v : Nat) : List UInt8 :=
  if v ≤ 127 then [UInt8.ofNat v]
  else if v ≤ 2047 then [UInt8.ofNat (v / 64 % 32 + 192), UInt8.ofNat (v % 64 + 128)]
  else if v ≤ 65535 then
    [UInt8.ofNat (v / 4096 % 16 + 224), UInt8.ofNat (v / 64 % 64 + 128), UInt8.ofNat (v % 64 + 128)]
  else
    [UInt8.ofNat (v / 262144 % 8 + 240), UInt8.ofNat (v / 4096 % 64 + 128),
      UInt8.ofNat (v / 64 % 64 + 128), UInt8.ofNat (v % 64 + 128)]

theorem utf8EncodeChar_eq_spelling (c : Char) : String.utf8EncodeChar c = spelling c.toNat := rfl

/-- The lead byte of a character announces its other bytes, and they give its code back. -/
theorem exists_lead_spelling {v : Nat} (hvalid : v.isValidChar) (rest : List UInt8) :
    ∃ b bytes bits ranges, spelling v = b :: bytes ∧ lead? b.toNat = some (bits, ranges) ∧
      bytes.length = ranges.length ∧ continueWith ranges bits 1 (bytes ++ rest) = .ok v := by
  have hrange : v < 0xD800 ∨ 0xDFFF < v ∧ v < 0x110000 := hvalid
  rw [spelling]
  split_ifs with hone htwo hthree
  · refine ⟨_, _, v, [], rfl, ?_, rfl, rfl⟩
    rw [toNat_byte (by omega), lead?, if_pos (by omega)]
  · have hlead := lead?_two (b := v / 64 % 32 + 192) (by omega) (by omega)
    refine ⟨_, _, _, [tail], rfl, by rw [toNat_byte (by omega), hlead], rfl, ?_⟩
    rw [List.cons_append, continueWith_tail (by omega), continueWith]
    exact congrArg Except.ok (by omega)
  · obtain ⟨second, hlead, hsecond⟩ :=
      exists_lead?_three (b := v / 4096 % 16 + 224) (by omega) (by omega)
    refine ⟨_, _, _, [second, tail], rfl, by rw [toNat_byte (by omega), hlead], rfl, ?_⟩
    rw [List.cons_append,
      continueWith_byte (by omega) (hsecond _ (by omega) (by omega) (by omega) (by omega)),
      List.cons_append, continueWith_tail (by omega), continueWith]
    exact congrArg Except.ok (by omega)
  · obtain ⟨second, hlead, hsecond⟩ :=
      exists_lead?_four (b := v / 262144 % 8 + 240) (by omega) (by omega)
    refine ⟨_, _, _, [second, tail, tail], rfl, by rw [toNat_byte (by omega), hlead], rfl, ?_⟩
    rw [List.cons_append,
      continueWith_byte (by omega) (hsecond _ (by omega) (by omega) (by omega) (by omega)),
      List.cons_append, continueWith_tail (by omega),
      List.cons_append, continueWith_tail (by omega), continueWith]
    exact congrArg Except.ok (by omega)

/-- The bytes of a character are read as the character. -/
theorem decodeFrom_utf8EncodeChar (c : Char) (pos : Nat) (rest : List UInt8) :
    ∃ next, decodeFrom pos 0 (String.utf8EncodeChar c ++ rest) =
      (decodeFrom next 0 rest).map (.char c :: ·) := by
  obtain ⟨b, bytes, bits, ranges, hbytes, hlead, hlength, hcode⟩ :=
    exists_lead_spelling c.valid rest
  refine ⟨pos + 1 + bytes.length, ?_⟩
  rw [utf8EncodeChar_eq_spelling, show spelling c.toNat = b :: bytes from hbytes,
    decodeFrom_append hlead hlength hcode, show Char.ofNat c.val.toNat = c from Char.ofNat_toNat c]

theorem decodeFrom_of_encodeFrom {text : List Rune} {start : Nat} {bytes : List UInt8}
    (h : encodeFrom start text = .ok bytes) (pos : Nat) : decodeFrom pos 0 bytes = .ok text := by
  induction text generalizing start bytes pos with
  | nil =>
      cases h
      rfl
  | cons r text ih =>
      cases r with
      | half n => cases h
      | char c =>
          rw [encodeFrom] at h
          cases hlater : encodeFrom (start + 1) text with
          | error e =>
              rw [hlater] at h
              cases h
          | ok later =>
              rw [hlater] at h
              cases h
              obtain ⟨next, hread⟩ := decodeFrom_utf8EncodeChar c pos later
              rw [hread, ih hlater next]
              rfl

/-- Text that could be encoded is read back from its bytes. -/
theorem decode_of_encode {text : Text} {bytes : List UInt8} (h : encode text = .ok bytes) :
    decode bytes = .ok text := by
  rw [decode, decodeFrom_of_encodeFrom h 0]
  rfl

end EstimateCompiler.Text.Utf8
