import EstimateCompiler.Identifier

/-!
# The shape of identifiers

Whatever the label and whatever the words for special tokens are, a name is an identifier: a small
letter or an underscore, and then letters, digits and underscores of ASCII. The tail follows from
the step that replaces every other character. The front needs an argument over all steps, since a
word for a token may well be written in capitals. Lower case leaves no capital at all; a word is put
in between two spaces, so it never comes to stand in front; and every later step keeps the first
character or makes it an underscore.
-/
namespace EstimateCompiler.Text

theorem isUpper_iff {c : Rune} : c.isUpper = true ↔ 65 ≤ c.toNat ∧ c.toNat ≤ 90 := by
  cases c with
  | char c =>
      change decide (65 ≤ c.toNat ∧ c.toNat ≤ 90) = true ↔ _
      exact decide_eq_true_iff
  | half n =>
      simp only [Rune.isUpper, Rune.toNat, Bool.false_eq_true, false_iff]
      omega

theorem isUpper_ofNat {n : Nat} (h : 90 < n) : (Rune.ofNat n).isUpper = false := by
  rw [Rune.ofNat]
  split
  · rfl
  · rw [Bool.eq_false_iff, Ne, isUpper_iff]
    by_cases hvalid : n.isValidChar
    · rw [Char.ofNat, dif_pos hvalid]
      change ¬ (65 ≤ n ∧ n ≤ 90)
      omega
    · rw [Char.ofNat, dif_neg hvalid]
      decide

theorem lowerRuns_shift : ∀ run ∈ lowerRuns, (90 : Int) < run.first + run.shift := by
  decide +kernel

theorem lowerExpansions_codes :
    ∀ entry ∈ lowerExpansions, ∀ code ∈ entry.2, 90 < code := by decide

theorem isUpper_of_mem_lowerChar {c d : Rune} (h : d ∈ lowerChar c) : d.isUpper = false := by
  unfold lowerChar mapCase at h
  split at h
  next codes hcodes =>
    obtain ⟨before, behind, htable, -⟩ := List.lookup_eq_some_iff.1 hcodes
    have hentry : (c.toNat, codes) ∈ lowerExpansions := by
      rw [htable]
      exact List.mem_append_right _ List.mem_cons_self
    obtain ⟨code, hcode, rfl⟩ := List.mem_map.1 h
    exact isUpper_ofNat (lowerExpansions_codes _ hentry code hcode)
  next =>
    split at h
    next run hrun =>
      have hmem := List.mem_of_find?_eq_some hrun
      have hcontains := List.find?_some hrun
      have hshift := lowerRuns_shift run hmem
      simp only [CaseRun.contains, Bool.and_eq_true, decide_eq_true_eq] at hcontains
      rw [List.mem_singleton.1 h]
      apply isUpper_ofNat
      omega
    next hnone =>
      have hfirst := List.find?_eq_none.1 hnone ⟨0x41, 0x5A, 1, 32⟩ (by decide)
      simp only [CaseRun.contains, Bool.and_eq_true, decide_eq_true_eq, Nat.mod_one,
        beq_self_eq_true, and_true] at hfirst
      rw [List.mem_singleton.1 h, Bool.eq_false_iff, Ne, isUpper_iff]
      exact hfirst

theorem isUpper_of_mem_lowerAfter {before cs : List Rune} {d : Rune}
    (h : d ∈ lowerAfter before cs) : d.isUpper = false := by
  induction cs generalizing before with
  | nil => cases h
  | cons c cs ih =>
      rw [lowerAfter, List.mem_append] at h
      rcases h with h | h
      · split at h
        · rw [List.mem_singleton.1 h]
          split <;> decide
        · exact isUpper_of_mem_lowerChar h
      · exact ih h

theorem isUpper_of_mem_lower {cs : List Rune} {d : Rune} (h : d ∈ lower cs) : d.isUpper = false :=
  isUpper_of_mem_lowerAfter h

/-- The first character, if there is one, is no capital of ASCII. -/
def StartsLow (cs : List Rune) : Prop := ∀ c, cs.head? = some c → c.isUpper = false

theorem startsLow_nil : StartsLow [] := by
  intro c h
  cases h

@[simp] theorem startsLow_cons {c : Rune} {cs : List Rune} :
    StartsLow (c :: cs) ↔ c.isUpper = false := by
  simp [StartsLow]

theorem startsLow_lower (cs : List Rune) : StartsLow (lower cs) :=
  fun _ h => isUpper_of_mem_lower (List.mem_of_head? h)

/-- A word that begins with a space does not bring a capital to the front. -/
theorem StartsLow.replaceSkipping {text : List Rune} (h : StartsLow text)
    (piece word : List Rune) : StartsLow (replaceSkipping piece (.char ' ' :: word) 0 text) := by
  cases text with
  | nil => exact h
  | cons c cs =>
      rw [Text.replaceSkipping]
      split
      · exact startsLow_cons.2 (by decide)
      · exact startsLow_cons.2 (startsLow_cons.1 h)

theorem StartsLow.replaceAll {text : List Rune} (h : StartsLow text) (piece word : List Rune) :
    StartsLow (replaceAll piece (.char ' ' :: word) text) := by
  unfold Text.replaceAll
  split
  · cases text with
    | nil => exact startsLow_cons.2 (by decide)
    | cons c cs => exact startsLow_cons.2 (by decide)
  · exact h.replaceSkipping piece word

theorem StartsLow.squeeze {text : List Rune} (h : StartsLow text) : StartsLow (squeeze text) := by
  cases text with
  | nil => exact h
  | cons c cs =>
      rw [Text.squeeze, squeezeAfter]
      split
      · exact startsLow_cons.2 (by decide)
      · exact startsLow_cons.2 (startsLow_cons.1 h)

end EstimateCompiler.Text

namespace EstimateCompiler.Identifier

/-- Whether a text is an identifier: a small letter or an underscore, and then letters, digits and
underscores. -/
def isIdentifier : List Rune → Bool
  | [] => false
  | c :: cs => (c.isLower || c == '_') && cs.all isWordChar

theorem startsLow_spellOut (replacements : List (Text × Text)) {text : List Rune}
    (h : Text.StartsLow text) : Text.StartsLow (spellOut replacements text) := by
  induction replacements generalizing text with
  | nil => exact h
  | cons entry rest ih => exact ih (h.replaceAll entry.1.toList (entry.2.toList ++ [Rune.char ' ']))

def wordChar (c : Rune) : Rune := if isWordChar c then c else '_'

theorem isWordChar_wordChar (c : Rune) : isWordChar (wordChar c) = true := by
  unfold wordChar
  split
  · assumption
  · rfl

theorem startsLow_map_wordChar {text : List Rune} (h : Text.StartsLow text) :
    Text.StartsLow (text.map wordChar) := by
  cases text with
  | nil => exact h
  | cons c cs =>
      rw [List.map_cons, Text.startsLow_cons, wordChar]
      split
      · exact Text.startsLow_cons.1 h
      · decide

theorem cut_prefix (n : Int) (cs : List Rune) : cut n cs <+: cs := by
  unfold cut
  split <;> exact List.take_prefix _ _

theorem startsLow_of_prefix {cs text : List Rune} (hstart : cs <+: text)
    (h : Text.StartsLow text) : Text.StartsLow cs := by
  obtain ⟨rest, rfl⟩ := hstart
  cases cs with
  | nil => exact Text.startsLow_nil
  | cons c cs => exact Text.startsLow_cons.2 (Text.startsLow_cons.1 h)

theorem isIdentifier_asIdentifier {cs : List Rune} (hlow : Text.StartsLow cs)
    (hword : ∀ c ∈ cs, isWordChar c = true) : isIdentifier (asIdentifier cs) = true := by
  cases cs with
  | nil => rfl
  | cons c cs =>
      have hrest : cs.all isWordChar = true :=
        List.all_eq_true.2 fun d hd => hword d (List.mem_cons_of_mem _ hd)
      have hc := hword c List.mem_cons_self
      rw [asIdentifier]
      split
      · simp [isIdentifier, hc, hrest]
      · rename_i hdigit
        have hupper := Text.startsLow_cons.1 hlow
        change (c.isUpper || c.isLower || c.isDigit || c == '_') = true at hc
        rw [hupper, Bool.eq_false_iff.2 hdigit] at hc
        simpa [isIdentifier, hrest] using hc

/-- Every label gives an identifier, whatever the rules are. -/
theorem isIdentifier_baseChars (rules : NamingRules) (label : List Rune) :
    isIdentifier (baseChars rules label) = true := by
  have hspelled : Text.StartsLow
      (Text.squeeze (spellOut rules.replacements.entries (Text.lower label))) :=
    (startsLow_spellOut _ (Text.startsLow_lower label)).squeeze
  have hcut := cut_prefix rules.maxLength
    ((Text.squeeze (spellOut rules.replacements.entries (Text.lower label))).map wordChar)
  apply isIdentifier_asIdentifier
  · exact startsLow_of_prefix hcut (startsLow_map_wordChar hspelled)
  · intro c hc
    obtain ⟨d, -, rfl⟩ := List.mem_map.1 (hcut.subset hc)
    exact isWordChar_wordChar d

theorem isIdentifier_append {name tail : List Rune} (h : isIdentifier name = true)
    (htail : ∀ c ∈ tail, isWordChar c = true) : isIdentifier (name ++ tail) = true := by
  cases name with
  | nil => cases h
  | cons c cs =>
      simp only [isIdentifier, List.cons_append, List.all_append, Bool.and_eq_true] at h ⊢
      exact ⟨h.1, h.2, List.all_eq_true.2 htail⟩

theorem isWordChar_of_mem_suffix (j : Nat) {c : Rune} (h : c ∈ (suffix j).toList) :
    isWordChar c = true := by
  simp only [suffix, natText, Text.toList_append, List.mem_append] at h
  rcases h with h | h
  · rw [List.mem_singleton.1 h]
    decide
  · have hdigit := isDigit_of_mem_natChars h
    simp [isWordChar, Rune.isAlphanum, hdigit]

theorem isIdentifier_freshFrom (used : List Text) (j : Nat) (name : Text)
    (h : isIdentifier name.toList = true) : isIdentifier (freshFrom used j name).toList = true := by
  fun_induction freshFrom used j name with
  | case1 j name hused ih =>
      apply ih
      rw [Text.toList_append]
      exact isIdentifier_append h fun c hc => isWordChar_of_mem_suffix (j + 1) hc
  | case2 => exact h

theorem isIdentifier_fresh (rules : NamingRules) (used : List Text) (label : Text) :
    isIdentifier (fresh rules used label).toList = true := by
  apply isIdentifier_freshFrom
  rw [base, Text.toList_ofList]
  exact isIdentifier_baseChars rules label.toList

end EstimateCompiler.Identifier
