import EstimateCompiler.OrderedMap
import EstimateCompiler.Text.Substitution

/-!
# References between metrics

A formula refers to a metric by a token with its id between braces. A formula is otherwise opaque
text: resolving replaces the tokens of known ids, one id after the other in the order of the map,
by the names that the map gives them. What is left of the tokens then refers to nothing.
-/
namespace EstimateCompiler.Reference

def opening : List Rune := ['$', '\x7b', 'm', 'e', 't', 'r', 'i', 'c', ':']

def token (id : Text) : List Rune := opening ++ id.toList ++ [.char '\x7d']

/-- A text with the tokens of the listed ids replaced by names, and the ids that it referred to. -/
def resolveChars : List (Text × Text) → List Rune → List Rune × List Text
  | [], text => (text, [])
  | (id, name) :: rest, text =>
      if Text.occursIn (token id) text then
        let (resolved, ids) := resolveChars rest (Text.replaceAll (token id) name.toList text)
        (resolved, id :: ids)
      else resolveChars rest text

structure Resolved where
  text : Text
  ids : List Text
  deriving DecidableEq, Repr

def resolve (names : OrderedMap Text) (text : Text) : Resolved :=
  let (resolved, ids) := resolveChars names.entries text.toList
  ⟨Text.ofList resolved, ids⟩

/-- The ids of the tokens in a text from left to right, while `skip` characters of the last token
are still to be passed over. A token reaches to the first closing brace. -/
def idsSkipping : Nat → List Rune → List Text
  | _, [] => []
  | skip + 1, _ :: cs => idsSkipping skip cs
  | 0, c :: cs =>
      let behind := (c :: cs).drop opening.length
      if opening.isPrefixOf (c :: cs) ∧ .char '\x7d' ∈ behind then
        let id := behind.takeWhile (· ≠ .char '\x7d')
        Text.ofList id :: idsSkipping (opening.length + id.length) cs
      else idsSkipping 0 cs

/-- The ids of the tokens in a text, each once, in the order of their first token. -/
def remaining (text : Text) : List Text := (idsSkipping 0 text.toList).eraseDups

end EstimateCompiler.Reference
