import EstimateCompiler.Decimal.Number
import EstimateCompiler.OrderedMap
import EstimateCompiler.Text.LetterCase
import EstimateCompiler.Text.Substitution

/-!
# Identifiers for labels, and the settings of a compilation

A label becomes an identifier in small steps: lower case, special tokens spelled out as words, runs
of blanks made one space, everything but ASCII letters, digits and the underscore replaced by an
underscore, and the result cut to a length. It is never empty and never starts with a digit.

An identifier that is already used gets suffixes until it is fresh. A suffix is put behind the
candidate before it, so the candidates of `foo` are `foo`, `foo_2`, `foo_2_2`, `foo_2_2_3`. The
search ends because a candidate is longer than the one before, and only finitely many used names
are at least as long.

The settings of a compilation say how long an identifier may be before suffixes, which tokens of a
label are spelled out, and whether a reference to an unknown metric is a failure. The length is at
least one.
-/
namespace EstimateCompiler

/-- How labels are made into identifiers: the length to cut at, and the words for special tokens in
the order in which they are spelled out. -/
structure NamingRules where
  maxLength : Int
  replacements : OrderedMap Text

namespace NamingRules

def defaultLength : Int := 30

def defaultReplacements : List (Text × Text) := [("%", "perc")]

/-- Rules with the given words, a repeated token having its last word in its first place. -/
def ofPairs (maxLength : Int) (pairs : List (Text × Text)) : NamingRules :=
  ⟨maxLength, .ofList pairs⟩

end NamingRules

namespace Identifier

def isWordChar (c : Rune) : Bool := c.isAlphanum || c == '_'

/-- The text with every token replaced by its word between spaces. -/
def spellOut (replacements : List (Text × Text)) (cs : List Rune) : List Rune :=
  replacements.foldl (fun text entry =>
    Text.replaceAll entry.1.toList (.char ' ' :: entry.2.toList ++ [.char ' ']) text) cs

/-- The first `n` characters; a negative `n` leaves out that many characters at the end. -/
def cut (n : Int) (cs : List Rune) : List Rune :=
  if 0 ≤ n then cs.take n.toNat else cs.take (cs.length - (-n).toNat)

/-- A text of word characters made an identifier: not empty, and no digit in front. -/
def asIdentifier : List Rune → List Rune
  | [] => ['_']
  | c :: cs => if c.isDigit then .char '_' :: c :: cs else c :: cs

/-- The identifier of a label, before it is compared with other names. -/
def baseChars (rules : NamingRules) (label : List Rune) : List Rune :=
  let spelled := Text.squeeze (spellOut rules.replacements.entries (Text.lower label))
  asIdentifier (cut rules.maxLength (spelled.map fun c => if isWordChar c then c else '_'))

def base (rules : NamingRules) (label : Text) : Text :=
  Text.ofList (baseChars rules label.toList)

/-- The suffix that makes candidate number `j` from the one before. -/
def suffix (j : Nat) : Text := "_" ++ natText (max j 2)

theorem suffix_length_pos (j : Nat) : 0 < (suffix j).length := by
  simp only [suffix, Text.length_append]
  have : ("_" : Text).length = 1 := rfl
  omega

theorem countP_lt_countP {α : Type} {p q : α → Bool} {l : List α}
    (hqp : ∀ x, q x = true → p x = true) {a : α} (ha : a ∈ l) (hp : p a = true)
    (hq : q a = false) : l.countP q < l.countP p := by
  induction l with
  | nil => cases ha
  | cons b l ih =>
      have hle : l.countP q ≤ l.countP p := List.countP_mono_left fun x _ => hqp x
      simp only [List.countP_cons]
      rcases List.mem_cons.1 ha with rfl | h
      · simp only [hp, hq, if_true, Bool.false_eq_true, if_false]
        omega
      · have hlt := ih h
        have hb := hqp b
        by_cases h₁ : q b = true
        · simp only [h₁, hb h₁, if_true]
          omega
        · simp only [h₁, Bool.false_eq_true, if_false]
          omega

/-- The first candidate from number `j` on, which is `name`, that is not used. -/
def freshFrom (used : List Text) (j : Nat) (name : Text) : Text :=
  if name ∈ used then freshFrom used (j + 1) (name ++ suffix (j + 1)) else name
termination_by used.countP fun u => name.length ≤ u.length
decreasing_by
  rename_i h
  have hpos := suffix_length_pos (j + 1)
  refine countP_lt_countP (fun u hu => ?_) h (by simp) ?_
  · simp only [decide_eq_true_eq, Text.length_append] at hu ⊢
    omega
  · simp only [decide_eq_false_iff_not, Text.length_append]
    omega

theorem freshFrom_not_mem (used : List Text) (j : Nat) (name : Text) :
    freshFrom used j name ∉ used := by
  fun_induction freshFrom used j name with
  | case1 _ _ _ ih => exact ih
  | case2 _ _ h => exact h

def fresh (rules : NamingRules) (used : List Text) (label : Text) : Text :=
  freshFrom used 0 (base rules label)

theorem fresh_not_mem (rules : NamingRules) (used : List Text) (label : Text) :
    fresh rules used label ∉ used :=
  freshFrom_not_mem used 0 (base rules label)

/-- Names for labels one after the other, each counting as used for the labels behind it. -/
def freshAll (rules : NamingRules) : List Text → List Text → List Text
  | _, [] => []
  | used, label :: labels =>
      let name := fresh rules used label
      name :: freshAll rules (name :: used) labels

end Identifier

structure Settings where
  maxNameLength : Int
  replacements : List (Text × Text)
  strict : Bool
  positive : 1 ≤ maxNameLength
  deriving DecidableEq

structure LengthError where
  length : Int
  deriving DecidableEq, Repr

def LengthError.message (e : LengthError) : Text :=
  "max_name_length must be positive, got " ++ intText e.length

namespace Settings

def make (maxNameLength : Int) (replacements : List (Text × Text)) (strict : Bool) :
    Except LengthError Settings :=
  if h : 1 ≤ maxNameLength then .ok ⟨maxNameLength, replacements, strict, h⟩
  else .error ⟨maxNameLength⟩

def standard : Settings :=
  ⟨NamingRules.defaultLength, NamingRules.defaultReplacements, false, by decide⟩

def naming (s : Settings) : NamingRules := .ofPairs s.maxNameLength s.replacements

end Settings

end EstimateCompiler
