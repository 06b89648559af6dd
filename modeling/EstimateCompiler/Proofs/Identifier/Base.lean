import EstimateCompiler.Proofs.Identifier.Shape
import EstimateCompiler.Proofs.Text.Replacement
import Mathlib.Data.Int.Order.Basic

/-!
# Letters and length of an identifier

The identifier of a label has the length that it is cut to, and an underscore more if the cut text
begins with a digit. Its letters are those of the label in lower case and those of the words for
special tokens. So it has no capital if the words have none, whatever the tokens are: the empty
token, which occurs everywhere, and tokens that occur in the words put in before are no exceptions.
-/
namespace EstimateCompiler

theorem Text.mem_of_mem_replaceAll {piece word text : List Rune} {c : Rune}
    (h : c ∈ replaceAll piece word text) : c ∈ word ∨ c ∈ text := by
  by_cases hpiece : piece = []
  · subst hpiece
    rw [replaceAll, List.isEmpty_nil, if_pos rfl, List.mem_append, List.mem_flatMap] at h
    rcases h with ⟨d, hd, h⟩ | h
    · rcases List.mem_append.1 h with h | h
      · exact .inl h
      · exact .inr (List.mem_singleton.1 h ▸ hd)
    · exact .inl h
  · rw [or_iff_not_imp_left]
    exact (replaced_replaceAll hpiece word text).mem_text h

theorem Text.mem_of_mem_squeezeAfter {afterBlank : Bool} {text : List Rune} {c : Rune}
    (h : c ∈ squeezeAfter afterBlank text) : c = ' ' ∨ c ∈ text := by
  induction text generalizing afterBlank with
  | nil => cases h
  | cons d rest ih =>
      rw [squeezeAfter] at h
      split at h
      · split at h
        · exact (ih h).imp_right (List.mem_cons_of_mem _)
        · rcases List.mem_cons.1 h with rfl | h
          · exact .inl rfl
          · exact (ih h).imp_right (List.mem_cons_of_mem _)
      · rcases List.mem_cons.1 h with rfl | h
        · exact .inr List.mem_cons_self
        · exact (ih h).imp_right (List.mem_cons_of_mem _)

namespace Identifier

theorem isUpper_of_mem_spellOut {replacements : List (Text × Text)} {text : List Rune}
    (hwords : ∀ entry ∈ replacements, ∀ c ∈ entry.2.toList, c.isUpper = false)
    (htext : ∀ c ∈ text, c.isUpper = false) :
    ∀ c ∈ spellOut replacements text, c.isUpper = false := by
  induction replacements generalizing text with
  | nil => exact htext
  | cons entry rest ih =>
      refine ih (fun other hother => hwords other (List.mem_cons_of_mem _ hother)) fun c hc => ?_
      rcases Text.mem_of_mem_replaceAll hc with hc | hc
      · rw [List.cons_append, List.mem_cons, List.mem_append, List.mem_singleton] at hc
        rcases hc with rfl | hc | rfl
        · rfl
        · exact hwords entry List.mem_cons_self c hc
        · rfl
      · exact htext c hc

theorem isUpper_wordChar {c : Rune} (h : c.isUpper = false) : (wordChar c).isUpper = false := by
  unfold wordChar
  split
  · exact h
  · rfl

theorem mem_of_mem_asIdentifier {cs : List Rune} {c : Rune} (h : c ∈ asIdentifier cs) :
    c = '_' ∨ c ∈ cs := by
  cases cs with
  | nil => exact .inl (List.mem_singleton.1 h)
  | cons d rest =>
      rw [asIdentifier] at h
      split at h
      · exact List.mem_cons.1 h
      · exact .inr h

/-- The text that is made an identifier: word characters only, and cut. -/
def cutChars (rules : NamingRules) (label : List Rune) : List Rune :=
  cut rules.maxLength
    ((Text.squeeze (spellOut rules.replacements.entries (Text.lower label))).map wordChar)

theorem baseChars_eq (rules : NamingRules) (label : List Rune) :
    baseChars rules label = asIdentifier (cutChars rules label) := rfl

theorem mem_of_mem_cutChars {rules : NamingRules} {label : List Rune} {c : Rune}
    (h : c ∈ cutChars rules label) :
    ∃ d ∈ Text.squeeze (spellOut rules.replacements.entries (Text.lower label)),
      wordChar d = c := by
  have hstart := cut_prefix rules.maxLength
    ((Text.squeeze (spellOut rules.replacements.entries (Text.lower label))).map wordChar)
  exact List.mem_map.1 (hstart.subset h)

theorem isUpper_of_mem_baseChars {rules : NamingRules}
    (hwords : ∀ entry ∈ rules.replacements.entries, ∀ c ∈ entry.2.toList, c.isUpper = false)
    {label : List Rune} {c : Rune} (hc : c ∈ baseChars rules label) : c.isUpper = false := by
  rw [baseChars_eq] at hc
  rcases mem_of_mem_asIdentifier hc with rfl | hc
  · rfl
  · obtain ⟨d, hd, rfl⟩ := mem_of_mem_cutChars hc
    apply isUpper_wordChar
    rcases Text.mem_of_mem_squeezeAfter hd with rfl | hd
    · rfl
    · exact isUpper_of_mem_spellOut hwords (fun _ h => Text.isUpper_of_mem_lower h) d hd

theorem isUpper_defaultReplacements :
    ∀ entry ∈ (OrderedMap.ofList NamingRules.defaultReplacements).entries,
      ∀ c ∈ entry.2.toList, c.isUpper = false := by
  intro entry hentry c hc
  have hentries :
      (OrderedMap.ofList NamingRules.defaultReplacements).entries =
        [(("%" : Text), ("perc" : Text))] := rfl
  rw [hentries, List.mem_singleton] at hentry
  subst hentry
  have hall : ("perc" : Text).toList.all (fun c => !c.isUpper) = true := by decide
  simpa using List.all_eq_true.1 hall c hc

theorem length_cut_le {n : Int} (hn : 1 ≤ n) (cs : List Rune) : ((cut n cs).length : Int) ≤ n := by
  have hle := List.length_take_le n.toNat cs
  rw [cut, if_pos (by omega)]
  omega

theorem asIdentifier_of_digit {cs : List Rune} (h : cs.head?.any Rune.isDigit = true) :
    asIdentifier cs = .char '_' :: cs := by
  cases cs with
  | nil => cases h
  | cons c rest => exact if_pos h

theorem length_asIdentifier_le {cs : List Rune} (h : ¬ cs.head?.any Rune.isDigit = true) :
    (asIdentifier cs).length ≤ max 1 cs.length := by
  cases cs with
  | nil => exact Nat.le_max_left 1 0
  | cons c rest =>
      have hkept : asIdentifier (c :: rest) = c :: rest := if_neg h
      rw [hkept]
      exact Nat.le_max_right 1 _

theorem length_base_le {rules : NamingRules} (hlength : 1 ≤ rules.maxLength) (label : Text) :
    if (cutChars rules label.toList).head?.any Rune.isDigit then
      (base rules label).toList = .char '_' :: cutChars rules label.toList ∧
        ((base rules label).length : Int) ≤ rules.maxLength + 1
    else ((base rules label).length : Int) ≤ rules.maxLength := by
  have hcut : ((cutChars rules label.toList).length : Int) ≤ rules.maxLength :=
    length_cut_le hlength _
  have hbase : (base rules label).toList = asIdentifier (cutChars rules label.toList) := by
    rw [base, Text.toList_ofList, baseChars_eq]
  rw [← Text.length_toList, hbase]
  split
  · rename_i hdigit
    rw [asIdentifier_of_digit hdigit, List.length_cons]
    exact ⟨rfl, by omega⟩
  · rename_i hdigit
    have hle := length_asIdentifier_le hdigit
    omega

/-- The identifier of a label is one, whatever the rules are; with the default words its letters are
small; and it is no longer than the length that it is cut to, but for the underscore in front of a
digit. -/
theorem base_small_and_bounded (rules : NamingRules) (label : Text) :
    isIdentifier (base rules label).toList = true ∧
    (rules.replacements = .ofList NamingRules.defaultReplacements →
      ∀ c ∈ (base rules label).toList, c.isAlpha = true → c.isLower = true) ∧
    (1 ≤ rules.maxLength →
      if (cutChars rules label.toList).head?.any Rune.isDigit then
        (base rules label).toList = .char '_' :: cutChars rules label.toList ∧
          ((base rules label).length : Int) ≤ rules.maxLength + 1
      else ((base rules label).length : Int) ≤ rules.maxLength) := by
  refine ⟨?_, fun hdefault c hc halpha => ?_, fun hlength => length_base_le hlength label⟩
  · rw [base, Text.toList_ofList]
    exact isIdentifier_baseChars rules label.toList
  · have hupper : c.isUpper = false := by
      rw [base, Text.toList_ofList] at hc
      exact isUpper_of_mem_baseChars (hdefault ▸ isUpper_defaultReplacements) hc
    have hletter : (c.isUpper || c.isLower) = true := halpha
    rwa [hupper, Bool.false_or] at hletter

/-- A label with a digit in front that is cut behind the word for a token. -/
theorem cut_base_small_and_bounded :
    base (.ofPairs 6 NamingRules.defaultReplacements) "7% Growth" = "_7_perc" ∧
      Rune.isLower 'p' = true ∧
      ((base (.ofPairs 6 NamingRules.defaultReplacements) "7% Growth").length : Int) ≤ 6 + 1 := by
  have hbase : base (.ofPairs 6 NamingRules.defaultReplacements) "7% Growth" = "_7_perc" := by
    decide +kernel
  have hdigit : (cutChars (.ofPairs 6 NamingRules.defaultReplacements)
      ("7% Growth" : Text).toList).head?.any Rune.isDigit = true := by decide +kernel
  obtain ⟨-, hsmall, hbounded⟩ :=
    base_small_and_bounded (.ofPairs 6 NamingRules.defaultReplacements) "7% Growth"
  have hlength := hbounded (by decide)
  rw [if_pos hdigit] at hlength
  refine ⟨hbase, hsmall rfl 'p' ?_ (by decide), hlength.2⟩
  rw [hbase]
  decide

end Identifier

end EstimateCompiler
