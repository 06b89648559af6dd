import EstimateCompiler.Text.Utf8

/-!
# Where a command prints and writes

The system decides what becomes of a text that is printed. On standard output there may be no way to
show it, and terminal styling may be left out; all that is known is that styling begins with the
escape character, and that ASCII without it is printed as it is. On standard error a text is always
shown somehow.

The command itself prints in UTF-8. A control sequence that styles a terminal is the escape
character, an opening bracket, any parameters from `0` to `?`, then any intermediates from the space
to `/`, and one final character from `@` to `~`. The three classes are disjoint, so a
sequence can be read in one way only. Unless the output is a terminal, sequences are left out of
what is printed. One that is broken off before its final character is ordinary text.
-/
namespace EstimateCompiler.Command

/-- ASCII without the escape character. -/
def Plain (text : Text) : Prop := ∀ c ∈ text.toList, c.toNat < 0x80 ∧ c ≠ .char '\x1b'

instance (text : Text) : Decidable (Plain text) := List.decidableBAll _ _

structure Platform where
  /-- what a text shows on standard output, or why it cannot be printed -/
  print : Text → Except Text Text
  /-- what a text shows on standard error -/
  note : Text → Text
  eq_of_print : ∀ {text shown : Text}, print text = .ok shown → .char '\x1b' ∉ text.toList →
    shown = text
  print_plain : ∀ {text : Text}, Plain text → print text = .ok text

namespace Platform

/-- What the lines show on standard output, and why the first of them that cannot be printed could
not. Nothing is printed behind it. -/
def printLines (platform : Platform) : List Text → Text × Option Text
  | [] => ("", none)
  | line :: rest =>
      match platform.print (line ++ "\n") with
      | .error reason => ("", some reason)
      | .ok shown => (shown ++ (platform.printLines rest).1, (platform.printLines rest).2)

def noteLines (platform : Platform) (lines : List Text) : Text :=
  Text.join (lines.map fun line => platform.note (line ++ "\n"))

end Platform

end EstimateCompiler.Command

namespace EstimateCompiler.Text

def isStylingParameter (c : Rune) : Bool := '0' ≤ c ∧ c ≤ '?'

def isStylingIntermediate (c : Rune) : Bool := ' ' ≤ c ∧ c ≤ '/'

def isStylingFinal (c : Rune) : Bool := '@' ≤ c ∧ c ≤ '~'

/-- The text behind a control sequence that starts at its parameters. -/
def afterStyling? (cs : List Rune) : Option (List Rune) :=
  match (cs.dropWhile isStylingParameter).dropWhile isStylingIntermediate with
  | c :: rest => if isStylingFinal c then some rest else none
  | [] => none

theorem afterStyling?_length {cs rest : List Rune} (h : afterStyling? cs = some rest) :
    rest.length < cs.length := by
  unfold afterStyling? at h
  have hd := ((List.dropWhile_sublist isStylingIntermediate).trans
    (List.dropWhile_sublist isStylingParameter (l := cs))).length_le
  split at h
  · rename_i c tail heq
    rw [heq] at hd
    split at h
    · injection h with h
      rw [← h]
      exact hd
    · cases h
  · cases h

def unstyledChars : List Rune → List Rune
  | [] => []
  | [c] => [c]
  | c :: d :: cs =>
      if c = '\x1b' ∧ d = '[' then
        match _found : afterStyling? cs with
        | some rest => unstyledChars rest
        | none => c :: unstyledChars (d :: cs)
      else c :: unstyledChars (d :: cs)
termination_by cs => cs.length
decreasing_by
  · have := afterStyling?_length _found
    simp only [List.length_cons]
    omega
  · simp
  · simp

def unstyled (text : Text) : Text := Text.ofList (unstyledChars text.toList)

theorem unstyledChars_eq_self {cs : List Rune} (h : .char '\x1b' ∉ cs) : unstyledChars cs = cs := by
  induction cs with
  | nil => rw [unstyledChars]
  | cons c cs ih =>
      rw [List.mem_cons, not_or] at h
      cases cs with
      | nil => rw [unstyledChars]
      | cons d cs => rw [unstyledChars, if_neg fun hstart => h.1 hstart.1.symm, ih h.2]

/-- A text without the escape character has no styling. -/
theorem unstyled_eq_self {text : Text} (h : .char '\x1b' ∉ text.toList) : unstyled text = text := by
  rw [unstyled, unstyledChars_eq_self h, Text.ofList_toList]

end EstimateCompiler.Text

namespace EstimateCompiler.Command

/-- A half as the code that stands for it, and any other character as itself. -/
def spelledHalf : Rune → List Rune
  | .char c => [.char c]
  | .half n => Text.escapedCode (0xD800 + n)

theorem exists_encode {text : Text} (h : Plain text) :
    ∃ bytes, Text.Utf8.encode text = .ok bytes := by
  cases hencode : Text.Utf8.encode text with
  | ok bytes => exact ⟨bytes, rfl⟩
  | error e =>
      obtain ⟨n, hn⟩ := Text.Utf8.exists_half_of_encode hencode
      have hcode : 0xD800 + n.val < 0x80 := (h _ hn).1
      omega

/-- A system that prints in UTF-8, with terminals or with none behind its two outputs. Styling is
shown on a terminal only. -/
def Platform.utf8 (terminal noteTerminal : Bool) : Platform where
  print text :=
    let shown := if terminal then text else Text.unstyled text
    match Text.Utf8.encode shown with
    | .error e => .error e.message
    | .ok _ => .ok shown
  note text := Text.ofList
    ((if noteTerminal then text else Text.unstyled text).toList.flatMap spelledHalf)
  eq_of_print := by
    intro text shown h hescape
    simp only [Text.unstyled_eq_self hescape, ite_self] at h
    split at h <;> cases h
    rfl
  print_plain := by
    intro text h
    obtain ⟨bytes, hbytes⟩ := exists_encode h
    have hescape : .char '\x1b' ∉ text.toList := fun hmem => (h _ hmem).2 rfl
    simp only [Text.unstyled_eq_self hescape, ite_self, hbytes]

def Platform.piped : Platform := .utf8 false false

end EstimateCompiler.Command
