import EstimateCompiler.Target.Standard
import Mathlib.Data.List.Basic
import Mathlib.Logic.Function.Basic

/-!
# Suffixes of large numbers

A bound may have letters for thousands, millions and billions. The first of each sort becomes a
multiplication, one sort after the other, so that the later letters are looked for in a text whose
places have moved. No multiplication has one of the letters, and the letters are distinct. So the
result can be read off the text as it was: at each place stands either the first occurrence of its
character, which is spelled out, or a character that is kept.
-/
namespace EstimateCompiler

namespace Text

/-- The first occurrences of the listed characters replaced by their words, one entry after the
other. -/
def replaceFirstInTurn (table : List (Rune × List Rune)) (text : List Rune) : List Rune :=
  table.foldl (fun text entry => replaceFirst entry.1 entry.2 text) text

/-- Every character spelled out where it stands first and kept where it stands again. -/
def spellFirsts (word : Rune → List Rune) (text : List Rune) : List Rune :=
  (text.mapIdx fun i c => if text.idxOf c = i then word c else [c]).flatten

/-- The table has the words of the characters that are not spelled as themselves, and no word has a
listed character. -/
structure Spells (table : List (Rune × List Rune)) (word : Rune → List Rune) : Prop where
  distinct : (table.map Prod.fst).Nodup
  listed : ∀ entry ∈ table, word entry.1 = entry.2
  unlisted : ∀ c, c ∉ table.map Prod.fst → word c = [c]
  inert : ∀ entry ∈ table, ∀ other ∈ table, entry.1 ∉ other.2

variable {table : List (Rune × List Rune)} {word : Rune → List Rune}

theorem replaceFirstInTurn_append_table (before after : List (Rune × List Rune))
    (text : List Rune) :
    replaceFirstInTurn (before ++ after) text =
      replaceFirstInTurn after (replaceFirstInTurn before text) :=
  List.foldl_append ..

theorem replaceFirstInTurn_nil (table : List (Rune × List Rune)) :
    replaceFirstInTurn table [] = [] := by
  induction table with
  | nil => rfl
  | cons entry table ih => exact ih

theorem replaceFirstInTurn_cons {c : Rune} (h : c ∉ table.map Prod.fst) (text : List Rune) :
    replaceFirstInTurn table (c :: text) = c :: replaceFirstInTurn table text := by
  induction table generalizing text with
  | nil => rfl
  | cons entry table ih =>
      rw [List.map_cons, List.mem_cons, not_or] at h
      rw [replaceFirstInTurn, List.foldl_cons, replaceFirst, if_neg h.1]
      exact ih h.2 _

theorem replaceFirstInTurn_append {stretch : List Rune} (h : ∀ entry ∈ table, entry.1 ∉ stretch)
    (text : List Rune) :
    replaceFirstInTurn table (stretch ++ text) = stretch ++ replaceFirstInTurn table text := by
  induction stretch with
  | nil => rfl
  | cons c cs ih =>
      have hc : c ∉ table.map Prod.fst := by
        intro hmem
        obtain ⟨entry, hentry, rfl⟩ := List.mem_map.1 hmem
        exact h entry hentry List.mem_cons_self
      have hcs : ∀ entry ∈ table, entry.1 ∉ cs :=
        fun entry hentry => List.not_mem_of_not_mem_cons (h entry hentry)
      rw [List.cons_append, replaceFirstInTurn_cons hc, ih hcs, List.cons_append]

/-- Behind its first character a text is spelled as if that character had no word any more. -/
theorem spellFirsts_cons (word : Rune → List Rune) (c : Rune) (text : List Rune) :
    spellFirsts word (c :: text) = word c ++ spellFirsts (Function.update word c [c]) text := by
  have hlater : ∀ i d, (if (c :: text).idxOf d = i + 1 then word d else [d]) =
      if text.idxOf d = i then Function.update word c [c] d else [d] := by
    intro i d
    by_cases hd : d = c
    · rw [hd, List.idxOf_cons_self, if_neg (Nat.succ_ne_zero i).symm, Function.update_self,
        ite_self]
    · simp only [List.idxOf_cons_ne _ (Ne.symm hd), Nat.succ_eq_add_one, Nat.add_right_cancel_iff,
        Function.update_of_ne hd]
  rw [spellFirsts, List.mapIdx_cons, List.flatten_cons, List.idxOf_cons_self, if_pos rfl]
  simp only [hlater, spellFirsts]

namespace Spells

theorem perm (h : Spells table word) {order : List (Rune × List Rune)} (horder : order.Perm table) :
    Spells order word where
  distinct := (horder.map Prod.fst).nodup_iff.2 h.distinct
  listed entry hentry := h.listed entry (horder.subset hentry)
  unlisted c hc := h.unlisted c fun hmem => hc ((horder.map Prod.fst).mem_iff.2 hmem)
  inert entry hentry other hother :=
    h.inert entry (horder.subset hentry) other (horder.subset hother)

theorem remove {entry : Rune × List Rune} {before after : List (Rune × List Rune)}
    (h : Spells (before ++ entry :: after) word) :
    Spells (before ++ after) (Function.update word entry.1 [entry.1]) := by
  have hfront : Spells (entry :: (before ++ after)) word := h.perm List.perm_middle.symm
  obtain ⟨hfirst, hdistinct⟩ := List.nodup_cons.1 hfront.distinct
  have hne : ∀ other ∈ before ++ after, other.1 ≠ entry.1 :=
    fun other hother heq => hfirst (heq ▸ List.mem_map_of_mem hother)
  refine ⟨hdistinct, ?_, ?_, ?_⟩
  · intro other hother
    rw [Function.update_of_ne (hne other hother)]
    exact hfront.listed other (List.mem_cons_of_mem _ hother)
  · intro c hc
    by_cases heq : c = entry.1
    · rw [heq, Function.update_self]
    · rw [Function.update_of_ne heq]
      refine hfront.unlisted c fun hmem => ?_
      rcases List.mem_cons.1 hmem with hmem | hmem
      · exact heq hmem
      · exact hc hmem
  · intro other hother another hanother
    exact hfront.inert other (List.mem_cons_of_mem _ hother) another
      (List.mem_cons_of_mem _ hanother)

/-- A listed character at the front becomes its word, and its entry has nothing more to do. -/
theorem replaceFirstInTurn_listed {entry : Rune × List Rune}
    {before after : List (Rune × List Rune)} (h : Spells (before ++ entry :: after) word)
    (text : List Rune) :
    replaceFirstInTurn (before ++ entry :: after) (entry.1 :: text) =
      entry.2 ++ replaceFirstInTurn (before ++ after) text := by
  have hfront : Spells (entry :: (before ++ after)) word := h.perm List.perm_middle.symm
  have hbefore : entry.1 ∉ before.map Prod.fst := by
    have hfirst := (List.nodup_cons.1 hfront.distinct).1
    rw [List.map_append, List.mem_append, not_or] at hfirst
    exact hfirst.1
  have hafter : ∀ other ∈ after, other.1 ∉ entry.2 :=
    fun other hother => hfront.inert other
      (List.mem_cons_of_mem _ (List.mem_append_right _ hother)) entry List.mem_cons_self
  calc
    _ = replaceFirstInTurn after (replaceFirst entry.1 entry.2
          (replaceFirstInTurn before (entry.1 :: text))) := replaceFirstInTurn_append_table ..
    _ = replaceFirstInTurn after (entry.2 ++ replaceFirstInTurn before text) := by
          rw [replaceFirstInTurn_cons hbefore, replaceFirst, if_pos rfl]
    _ = entry.2 ++ replaceFirstInTurn (before ++ after) text := by
          rw [replaceFirstInTurn_append hafter, replaceFirstInTurn_append_table]

/-- Replacing one entry after the other spells out every first occurrence. -/
theorem replaceFirstInTurn_eq (h : Spells table word) (text : List Rune) :
    replaceFirstInTurn table text = spellFirsts word text := by
  -- the table loses an entry whenever its character has been met
  induction text generalizing table word with
  | nil => exact replaceFirstInTurn_nil table
  | cons c text ih =>
      rw [spellFirsts_cons]
      by_cases hc : c ∈ table.map Prod.fst
      · obtain ⟨entry, hentry, rfl⟩ := List.mem_map.1 hc
        obtain ⟨before, after, rfl⟩ := List.append_of_mem hentry
        rw [h.replaceFirstInTurn_listed, ih h.remove, h.listed entry hentry]
      · have hword := h.unlisted c hc
        rw [replaceFirstInTurn_cons hc, ih h, Function.update_eq_self_iff.2 hword.symm, hword,
          List.singleton_append]

end Spells

end Text

namespace Target.Python

/-- What a character of a bound stands for where it occurs first. -/
def magnitude : Rune → List Rune
  | 'K' => (" * 1_000" : Text).toList
  | 'M' => (" * 1_000_000" : Text).toList
  | 'B' => (" * 1_000_000_000" : Text).toList
  | c => [c]

theorem spells_suffixes : Text.Spells suffixes magnitude where
  distinct := by decide
  listed := by decide +kernel
  unlisted c hc := by
    simp only [suffixes, List.map_cons, List.map_nil, List.mem_cons, List.not_mem_nil, or_false,
      not_or] at hc
    unfold magnitude
    split
    · exact absurd rfl hc.1
    · exact absurd rfl hc.2.1
    · exact absurd rfl hc.2.2
    · rfl
  inert := by decide +kernel

/-- The first letter of each sort is spelled out where it stood in the bound, and everything else is
kept. The order of the sorts does not matter. -/
theorem expands_first_suffixes_in_place (text : Text) :
    expandSuffixes text = Text.ofList (Text.spellFirsts magnitude text.toList) ∧
    ∀ order : List (Rune × List Rune), order.Perm suffixes →
      Text.ofList (Text.replaceFirstInTurn order text.toList) = expandSuffixes text := by
  have hplace : expandSuffixes text = Text.ofList (Text.spellFirsts magnitude text.toList) :=
    congrArg Text.ofList (spells_suffixes.replaceFirstInTurn_eq text.toList)
  refine ⟨hplace, fun order horder => ?_⟩
  rw [hplace, (spells_suffixes.perm horder).replaceFirstInTurn_eq]

/-- Letters that stand in another order than they are looked for, and some that stand again. -/
theorem mingled_suffixes_expand_in_place :
    suffixes.reverse.Perm suffixes ∧
      Text.ofList (Text.replaceFirstInTurn suffixes.reverse ("2B+3M+4B+5KM" : Text).toList) =
        "2 * 1_000_000_000+3 * 1_000_000+4B+5 * 1_000M" := by
  obtain ⟨-, horder⟩ := expands_first_suffixes_in_place "2B+3M+4B+5KM"
  have hvalue : expandSuffixes "2B+3M+4B+5KM" =
      "2 * 1_000_000_000+3 * 1_000_000+4B+5 * 1_000M" := by decide +kernel
  have hperm := List.reverse_perm suffixes
  exact ⟨hperm, (horder _ hperm).trans hvalue⟩

end Target.Python

end EstimateCompiler
