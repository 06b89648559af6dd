/-!
# Texts

A text is a sequence of characters. Besides the characters of Unicode there are the surrogate codes,
which are halves of characters in one encoding and none by themselves. A text in which a character
is written by the codes of its halves may have only one of them, so a half counts as a character of
its own. It has neither case nor meaning, and there are no bytes for it.

Characters and texts are ordered by their codes.
-/
namespace EstimateCompiler

/-- A character of a text: one of Unicode, or a surrogate code that is alone. -/
inductive Rune where
  | char (c : Char)
  | half (n : Fin 0x800)
  deriving DecidableEq, Repr

instance : Coe Char Rune := ⟨Rune.char⟩

instance : Coe (List Char) (List Rune) := ⟨List.map Rune.char⟩

namespace Rune

def toNat : Rune → Nat
  | .char c => c.toNat
  | .half n => 0xD800 + n

def ofNat (n : Nat) : Rune :=
  if h : 0xD800 ≤ n ∧ n < 0xE000 then .half ⟨n - 0xD800, by omega⟩ else .char (Char.ofNat n)

instance : LE Rune := ⟨fun a b => a.toNat ≤ b.toNat⟩

instance (a b : Rune) : Decidable (a ≤ b) := Nat.decLe a.toNat b.toNat

def isDigit : Rune → Bool
  | .char c => c.isDigit
  | .half _ => false

def isHalf : Rune → Bool
  | .char _ => false
  | .half _ => true

/-- How many bytes of a file name the character takes. A half stands for a byte that is none of a
character. -/
def size : Rune → Nat
  | .char c => c.utf8Size
  | .half _ => 1

def isUpper : Rune → Bool
  | .char c => c.isUpper
  | .half _ => false

def isLower : Rune → Bool
  | .char c => c.isLower
  | .half _ => false

def isAlpha (c : Rune) : Bool := c.isUpper || c.isLower

def isAlphanum (c : Rune) : Bool := c.isAlpha || c.isDigit

theorem toNat_char_ne_half (c : Char) (n : Fin 0x800) : toNat (.char c) ≠ toNat (.half n) := by
  have hvalid : c.toNat < 0xD800 ∨ 0xDFFF < c.toNat ∧ c.toNat < 0x110000 := c.valid
  have hhalf : n.val < 0x800 := n.isLt
  simp only [toNat]
  omega

theorem toNat_inj {a b : Rune} : a.toNat = b.toNat ↔ a = b := by
  refine ⟨fun h => ?_, congrArg toNat⟩
  cases a with
  | char c =>
      cases b with
      | char d => rw [Char.toNat_inj.1 h]
      | half n => exact absurd h (toNat_char_ne_half c n)
  | half m =>
      cases b with
      | char d => exact absurd h.symm (toNat_char_ne_half d m)
      | half n => rw [Fin.ext (Nat.add_left_cancel h)]

end Rune

structure Text where
  ofList ::
  toList : List Rune
  deriving DecidableEq, Repr

namespace Text

def ofString (text : String) : Text := ⟨text.toList.map .char⟩

instance : Coe String Text := ⟨ofString⟩

instance : Append Text := ⟨fun a b => ⟨a.toList ++ b.toList⟩⟩

def length (text : Text) : Nat := text.toList.length

def size (text : Text) : Nat := text.toList.foldl (fun n c => n + c.size) 0

def isEmpty (text : Text) : Bool := text.toList.isEmpty

def join (texts : List Text) : Text := ⟨texts.flatMap toList⟩

def intercalate (separator : Text) (texts : List Text) : Text :=
  ⟨separator.toList.intercalate (texts.map toList)⟩

/-- The text with a replacement for every half. -/
def toString (text : Text) : String :=
  String.ofList (text.toList.map fun
    | .char c => c
    | .half _ => '\ufffd')

/-- Whether the first text comes before the second one or is the same, by the codes. -/
def precedes : List Rune → List Rune → Bool
  | [], _ => true
  | _ :: _, [] => false
  | c :: cs, d :: ds => c.toNat < d.toNat || (c == d && precedes cs ds)

instance : LE Text := ⟨fun a b => precedes a.toList b.toList = true⟩

instance (a b : Text) : Decidable (a ≤ b) :=
  inferInstanceAs (Decidable (precedes a.toList b.toList = true))

@[simp] theorem toList_ofList (cs : List Rune) : (ofList cs).toList = cs := rfl

@[simp] theorem ofList_toList (text : Text) : ofList text.toList = text := rfl

theorem toList_inj {a b : Text} : a.toList = b.toList ↔ a = b := by
  cases a
  cases b
  simp

theorem toList_injective : Function.Injective toList := fun _ _ => toList_inj.1

theorem ofList_inj {cs ds : List Rune} : ofList cs = ofList ds ↔ cs = ds := by simp

@[simp] theorem ofString_inj {a b : String} : ofString a = ofString b ↔ a = b := by
  rw [← toList_inj, ofString, ofString, toList_ofList, toList_ofList,
    List.map_inj_right fun _ _ h => Rune.char.inj h, String.toList_inj]

@[simp] theorem toList_ofString (text : String) : (ofString text).toList = text.toList.map .char :=
  rfl

theorem toList_eq_nil_iff {text : Text} : text.toList = [] ↔ text = "" := toList_inj (b := "")

theorem isEmpty_iff {text : Text} : text.isEmpty = true ↔ text = "" := by
  rw [isEmpty, List.isEmpty_iff, toList_eq_nil_iff]

@[simp] theorem length_toList (text : Text) : text.toList.length = text.length := rfl

@[simp] theorem toList_append {a b : Text} : (a ++ b).toList = a.toList ++ b.toList := rfl

@[simp] theorem length_append {a b : Text} : (a ++ b).length = a.length + b.length :=
  List.length_append

theorem append_assoc (a b c : Text) : a ++ b ++ c = a ++ (b ++ c) := by simp [← toList_inj]

@[simp] theorem append_empty (text : Text) : text ++ "" = text := by simp [← toList_inj]

@[simp] theorem append_eq_empty_iff {a b : Text} : a ++ b = "" ↔ a = "" ∧ b = "" := by
  simp [← toList_inj]

@[simp] theorem join_cons (text : Text) (texts : List Text) :
    join (text :: texts) = text ++ join texts := rfl

theorem toList_intercalate {separator : Text} {texts : List Text} :
    (separator.intercalate texts).toList = separator.toList.intercalate (texts.map toList) := rfl

theorem precedes_total (cs ds : List Rune) : precedes cs ds = true ∨ precedes ds cs = true := by
  induction cs generalizing ds with
  | nil => exact .inl rfl
  | cons c cs ih =>
      cases ds with
      | nil => exact .inr rfl
      | cons d ds =>
          simp only [precedes, Bool.or_eq_true, decide_eq_true_eq, Bool.and_eq_true, beq_iff_eq]
          rcases Nat.lt_trichotomy c.toNat d.toNat with hlt | heq | hgt
          · exact .inl (.inl hlt)
          · obtain rfl := Rune.toNat_inj.1 heq
            exact (ih ds).imp (fun h => .inr ⟨rfl, h⟩) fun h => .inr ⟨rfl, h⟩
          · exact .inr (.inl hgt)

theorem precedes_trans {cs ds es : List Rune} (hcd : precedes cs ds = true)
    (hde : precedes ds es = true) : precedes cs es = true := by
  induction cs generalizing ds es with
  | nil => rfl
  | cons c cs ih =>
      cases ds with
      | nil => cases hcd
      | cons d ds =>
          cases es with
          | nil => cases hde
          | cons e es =>
              simp only [precedes, Bool.or_eq_true, decide_eq_true_eq, Bool.and_eq_true,
                beq_iff_eq] at hcd hde ⊢
              rcases hcd with hcd | ⟨rfl, hcd⟩
              · rcases hde with hde | ⟨rfl, hde⟩
                · exact .inl (Nat.lt_trans hcd hde)
                · exact .inl hcd
              · rcases hde with hde | ⟨rfl, hde⟩
                · exact .inl hde
                · exact .inr ⟨rfl, ih hcd hde⟩

theorem eq_of_precedes {cs ds : List Rune} (hcd : precedes cs ds = true)
    (hdc : precedes ds cs = true) : cs = ds := by
  induction cs generalizing ds with
  | nil =>
      cases ds with
      | nil => rfl
      | cons d ds => cases hdc
  | cons c cs ih =>
      cases ds with
      | nil => cases hcd
      | cons d ds =>
          simp only [precedes, Bool.or_eq_true, decide_eq_true_eq, Bool.and_eq_true,
            beq_iff_eq] at hcd hdc
          rcases hcd with hcd | ⟨rfl, hcd⟩
          · rcases hdc with hdc | ⟨rfl, -⟩
            · exact absurd hcd (Nat.lt_asymm hdc)
            · exact absurd hcd (Nat.lt_irrefl _)
          · rcases hdc with hdc | ⟨-, hdc⟩
            · exact absurd hdc (Nat.lt_irrefl _)
            · rw [ih hcd hdc]

theorem le_total (a b : Text) : a ≤ b ∨ b ≤ a := precedes_total a.toList b.toList

theorem le_trans {a b c : Text} (hab : a ≤ b) (hbc : b ≤ c) : a ≤ c := precedes_trans hab hbc

theorem le_antisymm {a b : Text} (hab : a ≤ b) (hba : b ≤ a) : a = b :=
  toList_inj.1 (eq_of_precedes hab hba)

end Text

end EstimateCompiler
