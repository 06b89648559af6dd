import EstimateCompiler.Decimal.Number

/-!
# JSON values

The values of a JSON document. Integers and reals are different numbers, and the fields of an object
keep the order of the document. Equality of values is decidable.

Ids, names, expressions and messages show values as text. A text shows as itself where it stands
alone and in quotes where it is part of a value or of a message. The empty value and the two truth
values have words with a capital.
-/
namespace EstimateCompiler

inductive Json where
  | null
  | bool (b : Bool)
  | number (n : Number)
  | text (s : Text)
  | array (items : List Json)
  | object (fields : List (Text × Json))
  deriving Repr, Inhabited

namespace Json

mutual

def same : Json → Json → Bool
  | .null, .null => true
  | .bool a, .bool b => a == b
  | .number a, .number b => decide (a = b)
  | .text a, .text b => decide (a = b)
  | .array a, .array b => sameItems a b
  | .object a, .object b => sameFields a b
  | _, _ => false

def sameItems : List Json → List Json → Bool
  | [], [] => true
  | a :: as, b :: bs => same a b && sameItems as bs
  | _, _ => false

def sameFields : List (Text × Json) → List (Text × Json) → Bool
  | [], [] => true
  | (k, a) :: as, (l, b) :: bs => decide (k = l) && same a b && sameFields as bs
  | _, _ => false

end

mutual

theorem eq_of_same : ∀ {a b : Json}, same a b = true → a = b
  | .null, b, h => by cases b <;> simp_all [same]
  | .bool _, b, h => by cases b <;> simp_all [same]
  | .number _, b, h => by cases b <;> simp_all [same]
  | .text _, b, h => by cases b <;> simp_all [same]
  | .array as, b, h => by
      cases b with
      | array bs => exact congrArg _ (eq_of_sameItems (by simpa [same] using h))
      | _ => simp [same] at h
  | .object as, b, h => by
      cases b with
      | object bs => exact congrArg _ (eq_of_sameFields (by simpa [same] using h))
      | _ => simp [same] at h

theorem eq_of_sameItems : ∀ {as bs : List Json}, sameItems as bs = true → as = bs
  | [], bs, h => by cases bs <;> simp_all [sameItems]
  | a :: as, [], h => by simp [sameItems] at h
  | a :: as, b :: bs, h => by
      simp only [sameItems, Bool.and_eq_true] at h
      rw [eq_of_same h.1, eq_of_sameItems h.2]

theorem eq_of_sameFields : ∀ {as bs : List (Text × Json)}, sameFields as bs = true → as = bs
  | [], bs, h => by cases bs <;> simp_all [sameFields]
  | (k, a) :: as, [], h => by simp [sameFields] at h
  | (k, a) :: as, (l, b) :: bs, h => by
      simp only [sameFields, Bool.and_eq_true, decide_eq_true_eq] at h
      rw [h.1.1, eq_of_same h.1.2, eq_of_sameFields h.2]

end

mutual

theorem same_refl : ∀ a : Json, same a a = true
  | .null => rfl
  | .bool _ => by simp [same]
  | .number _ => by simp [same]
  | .text _ => by simp [same]
  | .array as => by simpa [same] using sameItems_refl as
  | .object as => by simpa [same] using sameFields_refl as

theorem sameItems_refl : ∀ as : List Json, sameItems as as = true
  | [] => rfl
  | a :: as => by simp [sameItems, same_refl a, sameItems_refl as]

theorem sameFields_refl : ∀ as : List (Text × Json), sameFields as as = true
  | [] => rfl
  | (k, a) :: as => by simp [sameFields, same_refl a, sameFields_refl as]

end

instance : DecidableEq Json := fun a b =>
  decidable_of_iff (same a b = true) ⟨eq_of_same, fun h => h ▸ same_refl a⟩

def field? (key : Text) : Json → Option Json
  | .object fields => fields.lookup key
  | _ => none

/-- Whether a value counts as nothing: null, false, a zero, and whatever has no content. -/
def isVoid : Json → Bool
  | .null => true
  | .bool b => !b
  | .number n => n.isZero
  | .text s => s.isEmpty
  | .array items => items.isEmpty
  | .object fields => fields.isEmpty

mutual

/-- A value inside a message or another value. -/
def quoted : Json → Text
  | .null => "None"
  | .bool b => if b then "True" else "False"
  | .number n => n.display
  | .text s => Text.quote s
  | .array items => "[" ++ quotedItems items ++ "]"
  | .object fields => "\x7b" ++ quotedFields fields ++ "\x7d"

def quotedItems : List Json → Text
  | [] => ""
  | [v] => quoted v
  | v :: vs => quoted v ++ ", " ++ quotedItems vs

def quotedFields : List (Text × Json) → Text
  | [] => ""
  | [(k, v)] => Text.quote k ++ ": " ++ quoted v
  | (k, v) :: rest => Text.quote k ++ ": " ++ quoted v ++ ", " ++ quotedFields rest

end

def display : Json → Text
  | .text s => s
  | v => quoted v

example : (Json.array [.number (.integer 1), .text "a"]).display = "[1, 'a']" := by decide +kernel

end Json

end EstimateCompiler
