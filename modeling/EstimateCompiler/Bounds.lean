import EstimateCompiler.Text.CharClass
import EstimateCompiler.Text.Substitution

/-!
# Bounds of a distribution

Bounds are written `[low, high]` or `low to high`, on one line. The first form is tried first; it is
cut at its last comma. The second form is cut at its last `to`. The operands are any texts and lose
the blanks around them.
-/
namespace EstimateCompiler

structure Bounds where
  low : Text
  high : Text
  deriving DecidableEq, Repr

namespace Bounds

def ofOperands (operands : List Rune × List Rune) : Bounds :=
  ⟨Text.ofList (Text.strip operands.1), Text.ofList (Text.strip operands.2)⟩

def bracketed? : List Rune → Option (List Rune × List Rune)
  | '[' :: cs => if cs.getLast? = some (.char ']') then Text.splitLast? [','] cs.dropLast else none
  | _ => none

def spelled? (cs : List Rune) : Option (List Rune × List Rune) := Text.splitLast? ['t', 'o'] cs

def ofChars? (cs : List Rune) : Option Bounds :=
  if .char '\n' ∈ cs then none else ((bracketed? cs).or (spelled? cs)).map ofOperands

/-- The bounds in an expression; an absent one has none. -/
def parse? (expression : Option Text) : Option Bounds :=
  ofChars? (expression.getD "").toList

example : parse? (some "[1, 2]") = some ⟨"1", "2"⟩ := by decide +kernel

example : parse? (some "1 to 2 to 3") = some ⟨"1 to 2", "3"⟩ := by decide +kernel

end Bounds

end EstimateCompiler
