import EstimateCompiler.Proofs.Text.Replacement

/-!
# Replacements in turn

A table lists pieces of text and the words that are put in their places. Its entries are replaced
one after the other, so a later replacement goes through what the earlier ones have put in. In
general the order then matters: a word can hold a piece, or make one together with the text around
it.

Two lists are apart if they cannot overlap in a text. In an independent table the pieces are apart
from each other and from all words. Such replacements do not meet: in front of a piece they put its
word, and in front of anything else they keep one character, whatever their order. And a piece that
is apart from its own word is gone after its replacement.
-/
namespace EstimateCompiler.Text

/-- Neither list is the start of the other one, so they cannot stand at the same place. -/
def Differ (first second : List Rune) : Prop :=
  ¬ first <+: second ∧ ¬ second <+: first

instance (first second : List Rune) : Decidable (Differ first second) :=
  inferInstanceAs (Decidable (¬ first <+: second ∧ ¬ second <+: first))

theorem Differ.symm {first second : List Rune} (h : Differ first second) : Differ second first :=
  And.symm h

theorem Differ.not_isPrefix_append {first second : List Rune} (h : Differ first second)
    (rest : List Rune) : ¬ first <+: second ++ rest := by
  intro hfirst
  rcases List.prefix_or_prefix_of_prefix hfirst (List.prefix_append second rest) with hin | hout
  · exact h.1 hin
  · exact h.2 hout

/-- No occurrence of the piece begins in the stretch, whatever stands behind it. -/
def NeverBeginsIn (piece stretch : List Rune) : Prop :=
  ∀ rest ∈ stretch.tails, rest ≠ [] → Differ piece rest

instance (piece stretch : List Rune) : Decidable (NeverBeginsIn piece stretch) :=
  inferInstanceAs (Decidable (∀ rest ∈ stretch.tails, rest ≠ [] → Differ piece rest))

/-- The lists cannot overlap in a text: neither begins where the other one stands. -/
def Apart (first second : List Rune) : Prop :=
  NeverBeginsIn first second ∧ NeverBeginsIn second first

instance (first second : List Rune) : Decidable (Apart first second) :=
  inferInstanceAs (Decidable (NeverBeginsIn first second ∧ NeverBeginsIn second first))

theorem neverBeginsIn_cons {piece stretch : List Rune} {c : Rune} :
    NeverBeginsIn piece (c :: stretch) ↔
      Differ piece (c :: stretch) ∧ NeverBeginsIn piece stretch := by
  simp [NeverBeginsIn]

theorem NeverBeginsIn.clear {piece stretch : List Rune} (h : NeverBeginsIn piece stretch)
    (rest : List Rune) : Clear piece stretch rest := by
  induction stretch with
  | nil => trivial
  | cons c cs ih =>
      obtain ⟨hdiffer, hlater⟩ := neverBeginsIn_cons.1 h
      exact ⟨hdiffer.not_isPrefix_append rest, ih hlater⟩

namespace Replaced

variable {piece word text result : List Rune}

/-- What stands at the front of the result and meets no word stands at the front of the text. -/
theorem isPrefix_text (h : Replaced piece word text result) {front : List Rune}
    (hword : NeverBeginsIn word front) (hfront : front <+: result) : front <+: text := by
  induction h generalizing front with
  | done => exact hfront
  | @hit text result later ih =>
      cases front with
      | nil => exact List.nil_prefix
      | cons c cs =>
          have hdiffer := (neverBeginsIn_cons.1 hword).1
          exact absurd hfront (hdiffer.symm.not_isPrefix_append result)
  | pass hpass later ih =>
      cases front with
      | nil => exact List.nil_prefix
      | cons c cs =>
          obtain ⟨rfl, hcs⟩ := List.cons_prefix_cons.1 hfront
          exact List.cons_prefix_cons.2 ⟨rfl, ih (neverBeginsIn_cons.1 hword).2 hcs⟩

/-- What is put in behind a character completes no list that is apart from the word. -/
theorem isPrefix_cons (h : Replaced piece word text result) {list : List Rune}
    (hword : NeverBeginsIn word list) {c : Rune} (hlist : list <+: c :: result) :
    list <+: c :: text := by
  cases list with
  | nil => exact List.nil_prefix
  | cons d ds =>
      obtain ⟨rfl, hds⟩ := List.cons_prefix_cons.1 hlist
      exact List.cons_prefix_cons.2 ⟨rfl, h.isPrefix_text (neverBeginsIn_cons.1 hword).2 hds⟩

/-- A piece that is apart from its word is gone. -/
theorem not_infix_result (h : Replaced piece word text result) (hpiece : piece ≠ [])
    (hapart : Apart piece word) : ¬ piece <:+: result := by
  induction h with
  | done => rwa [List.infix_nil]
  | hit later ih => rwa [(hapart.1.clear _).infix_append_iff]
  | pass front later ih =>
      rw [List.infix_cons_iff, not_or]
      exact ⟨fun hfront => front (later.isPrefix_cons hapart.2 hfront), ih⟩

end Replaced

/-- The pieces of the table replaced by their words, one entry after the other. -/
def replaceInTurn (table : List (List Rune × List Rune)) (text : List Rune) : List Rune :=
  table.foldl (fun text entry => replaceAll entry.1 entry.2 text) text

/-- No piece of the table overlaps with another one or with a word. -/
structure Independent (table : List (List Rune × List Rune)) : Prop where
  pieces_ne_nil : ∀ entry ∈ table, entry.1 ≠ []
  pieces_apart : ∀ entry ∈ table, ∀ other ∈ table, entry ≠ other → Apart entry.1 other.1
  words_apart : ∀ entry ∈ table, ∀ other ∈ table, Apart entry.1 other.2

variable {table : List (List Rune × List Rune)} {text : List Rune}

theorem replaceInTurn_cons_table (entry : List Rune × List Rune) :
    replaceInTurn (entry :: table) text = replaceInTurn table (replaceAll entry.1 entry.2 text) :=
  List.foldl_cons ..

theorem replaceInTurn_append_table (before after : List (List Rune × List Rune)) :
    replaceInTurn (before ++ after) text = replaceInTurn after (replaceInTurn before text) :=
  List.foldl_append ..

theorem replaceInTurn_eq_self (h : ∀ entry ∈ table, ¬ entry.1 <:+: text) :
    replaceInTurn table text = text := by
  induction table with
  | nil => rfl
  | cons entry table ih =>
      obtain ⟨hentry, htable⟩ := List.forall_mem_cons.1 h
      have habsent : occursIn entry.1 text = false := by rwa [← Bool.not_eq_true, occursIn_iff]
      rw [replaceInTurn_cons_table, replaceAll_of_not_occursIn _ habsent, ih htable]

theorem replaceInTurn_append {stretch : List Rune}
    (h : ∀ entry ∈ table, entry.1 ≠ [] ∧ NeverBeginsIn entry.1 stretch) (text : List Rune) :
    replaceInTurn table (stretch ++ text) = stretch ++ replaceInTurn table text := by
  induction table generalizing text with
  | nil => rfl
  | cons entry table ih =>
      obtain ⟨⟨hpiece, hstretch⟩, htable⟩ := List.forall_mem_cons.1 h
      rw [replaceInTurn_cons_table, replaceInTurn_cons_table,
        (hstretch.clear text).replaceAll_append hpiece, ih htable]

namespace Independent

theorem subset (h : Independent table) {part : List (List Rune × List Rune)}
    (hpart : part ⊆ table) : Independent part where
  pieces_ne_nil entry hentry := h.pieces_ne_nil entry (hpart hentry)
  pieces_apart entry hentry other hother :=
    h.pieces_apart entry (hpart hentry) other (hpart hother)
  words_apart entry hentry other hother := h.words_apart entry (hpart hentry) other (hpart hother)

theorem replaceInTurn_nil (h : Independent table) : replaceInTurn table [] = [] :=
  replaceInTurn_eq_self fun entry hentry hinfix =>
    h.pieces_ne_nil entry hentry (List.infix_nil.1 hinfix)

theorem replaceInTurn_piece (h : Independent table) {entry : List Rune × List Rune}
    (hentry : entry ∈ table) (text : List Rune) :
    replaceInTurn table (entry.1 ++ text) = entry.2 ++ replaceInTurn table text := by
  obtain ⟨before, after, htable, hfirst⟩ := List.eq_append_cons_of_mem hentry
  have hbefore : ∀ other ∈ before, other.1 ≠ [] ∧ NeverBeginsIn other.1 entry.1 := by
    intro other hother
    have hmem : other ∈ table := htable ▸ List.mem_append_left _ hother
    have hne : other ≠ entry := fun heq => hfirst (heq ▸ hother)
    exact ⟨h.pieces_ne_nil other hmem, (h.pieces_apart other hmem entry hentry hne).1⟩
  have hafter : ∀ other ∈ after, other.1 ≠ [] ∧ NeverBeginsIn other.1 entry.2 := by
    intro other hother
    have hmem : other ∈ table :=
      htable ▸ List.mem_append_right _ (List.mem_cons_of_mem _ hother)
    exact ⟨h.pieces_ne_nil other hmem, (h.words_apart other hmem entry hentry).1⟩
  rw [htable, replaceInTurn_append_table, replaceInTurn_append_table, replaceInTurn_cons_table,
    replaceInTurn_cons_table, replaceInTurn_append hbefore,
    replaceAll_append (h.pieces_ne_nil entry hentry), replaceInTurn_append hafter]

theorem replaceInTurn_cons (h : Independent table) {c : Rune} {text : List Rune}
    (hfront : ∀ entry ∈ table, ¬ entry.1 <+: c :: text) :
    replaceInTurn table (c :: text) = c :: replaceInTurn table text := by
  induction table generalizing text with
  | nil => rfl
  | cons entry table ih =>
      obtain ⟨hentry, htable⟩ := List.forall_mem_cons.1 hfront
      have hpiece := h.pieces_ne_nil entry List.mem_cons_self
      have hreplaced := replaced_replaceAll hpiece entry.2 text
      rw [replaceInTurn_cons_table, replaceInTurn_cons_table, replaceAll_cons hpiece hentry]
      refine ih (h.subset (List.subset_cons_self _ _)) fun other hother hcall => ?_
      have hapart := h.words_apart other (List.mem_cons_of_mem _ hother) entry List.mem_cons_self
      exact htable other hother (hreplaced.isPrefix_cons hapart.2 hcall)

end Independent

end EstimateCompiler.Text
