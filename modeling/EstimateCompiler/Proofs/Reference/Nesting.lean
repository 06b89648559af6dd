import EstimateCompiler.Proofs.OrderedMap
import EstimateCompiler.Proofs.Reference.Token

/-!
# References inside of references

Names come into a text one id after the other. A name that is put into a reference which is begun
and not closed yet becomes a part of it: with the metric `x` named `a`, the text
`${metric:${metric:x}}` turns into a reference to the id `a`. If `a` had its turn before, this
reference stays.

This is the only way in which a reference to a known id can stay. In a text without such nesting the
beginning of a token that is there after a replacement was there before, since a word inside of it
would stand in the place of a token that began inside of another one. Nesting does not come up by a
replacement either, so every replacement finds a text without it, and once an id had its turn its
token is gone for good.
-/
namespace EstimateCompiler.Reference

open Text

/-- The beginning of a token that has its first brace and not its last one. -/
def Begun (text : List Rune) : Prop :=
  2 ≤ text.length ∧ .char '\x7d' ∉ text ∧ (text <+: opening ∨ opening <+: text)

instance (text : List Rune) : Decidable (Begun text) :=
  inferInstanceAs (Decidable (_ ∧ _ ∧ _))

/-- A reference begins inside of one that is begun and not closed. -/
def Nested (text : List Rune) : Prop := ∃ begun, Begun begun ∧ begun ++ opening <:+: text

theorem nested_iff {text : List Rune} :
    Nested text ↔
      ∃ tail ∈ text.tails, ∃ begun ∈ tail.inits, Begun begun ∧ begun ++ opening <+: tail := by
  constructor
  · rintro ⟨begun, hbegun, hinfix⟩
    obtain ⟨tail, hfront, htail⟩ := List.infix_iff_prefix_suffix.1 hinfix
    have hinit : begun <+: tail := (List.prefix_append _ _).trans hfront
    exact ⟨tail, (List.mem_tails _ _).2 htail, begun, (List.mem_inits _ _).2 hinit, hbegun, hfront⟩
  · rintro ⟨tail, htail, begun, -, hbegun, hfront⟩
    exact ⟨begun, hbegun, hfront.isInfix.trans ((List.mem_tails _ _).1 htail).isInfix⟩

instance (text : List Rune) : Decidable (Nested text) := decidable_of_iff _ nested_iff.symm

/-- A word that has no part in the punctuation of a token. -/
structure Inert (word : List Rune) : Prop where
  ne_nil : word ≠ []
  not_dollar : .char '$' ∉ word
  not_open : .char '\x7b' ∉ word
  not_close : .char '\x7d' ∉ word

theorem Begun.eq_cons {begun : List Rune} (h : Begun begun) :
    ∃ rest, begun = .char '$' :: .char '\x7b' :: rest := by
  obtain ⟨hlength, -, hfront⟩ := h
  match begun, hlength with
  | first :: second :: rest, _ =>
      have hends : '$' = first ∧ '\x7b' = second := by
        rcases hfront with hfront | hfront
        · obtain ⟨hfirst, hrest⟩ := List.cons_prefix_cons.1 hfront
          exact ⟨hfirst.symm, (List.cons_prefix_cons.1 hrest).1.symm⟩
        · obtain ⟨hfirst, hrest⟩ := List.cons_prefix_cons.1 hfront
          exact ⟨hfirst, (List.cons_prefix_cons.1 hrest).1⟩
      exact ⟨rest, by rw [hends.1, hends.2]⟩

theorem Begun.of_isPrefix {part begun : List Rune} (h : Begun begun) (hpart : part <+: begun)
    (hlength : 2 ≤ part.length) : Begun part := by
  refine ⟨hlength, fun hmem => h.2.1 (hpart.subset hmem), ?_⟩
  rcases h.2.2 with hfront | hfront
  · exact .inl (hpart.trans hfront)
  · exact List.prefix_or_prefix_of_prefix hpart hfront

theorem begun_opening : Begun opening := ⟨by decide, by decide, .inl List.prefix_rfl⟩

theorem begun_opening_append {id : List Rune} (h : .char '\x7d' ∉ id) : Begun (opening ++ id) := by
  refine ⟨by simp [opening], ?_, .inr (List.prefix_append _ _)⟩
  simp [opening, h]

theorem Nested.of_suffix {tail text : List Rune} (h : Nested tail) (htail : tail <:+ text) :
    Nested text := by
  obtain ⟨begun, hbegun, hinfix⟩ := h
  exact ⟨begun, hbegun, hinfix.trans htail.isInfix⟩

section Replacement
variable {id : Text} {word text result : List Rune}

/-- Behind the first part of a beginning, the rest of it comes from the text, if no reference begins
there. -/
theorem split_of_begun (h : Replaced (token id) word text result) {first rest : List Rune}
    (hbegun : Begun (first ++ rest)) (hlength : 2 ≤ first.length)
    (hnested : ∀ between, Begun (first ++ between) → ¬ between ++ opening <+: text)
    (hresult : rest <+: result) :
    ∃ behind behind', text = rest ++ behind ∧ result = rest ++ behind' ∧
      Replaced (token id) word behind behind' := by
  induction h generalizing first rest with
  | done => exact ⟨[], [], by rw [List.prefix_nil.1 hresult]; exact ⟨rfl, rfl, .done⟩⟩
  | @hit text result later ih =>
      have hfirst : Begun (first ++ []) :=
        hbegun.of_isPrefix (by simp) (by simpa using hlength)
      have hopening : opening <+: token id ++ text :=
        (opening_prefix_token id).trans (List.prefix_append _ _)
      exact absurd hopening (hnested [] hfirst)
  | @pass c text result hfront later ih =>
      cases rest with
      | nil => exact ⟨c :: text, c :: result, rfl, rfl, .pass hfront later⟩
      | cons d ds =>
          obtain ⟨rfl, hds⟩ := List.cons_prefix_cons.1 hresult
          rw [List.append_cons] at hbegun
          obtain ⟨behind, behind', rfl, rfl, hbehind⟩ := ih hbegun (by simp; omega)
            (fun between hbetween hopening => hnested (d :: between)
              (by rwa [List.append_cons]) (List.cons_prefix_cons.2 ⟨rfl, hopening⟩)) hds
          exact ⟨behind, behind', rfl, rfl, hbehind⟩

/-- A beginning of a token at the front of the result is at the front of the text. -/
theorem split_of_begun_isPrefix (h : Replaced (token id) word text result) (hword : Inert word)
    (hnested : ¬ Nested text) {begun : List Rune} (hbegun : Begun begun)
    (hresult : begun <+: result) :
    ∃ behind behind', text = begun ++ behind ∧ result = begun ++ behind' ∧
      Replaced (token id) word behind behind' := by
  obtain ⟨rest, rfl⟩ := hbegun.eq_cons
  obtain ⟨more, rfl⟩ := hresult
  obtain ⟨_, rfl, -, hbrace⟩ := h.of_cons hword.ne_nil hword.not_dollar
  obtain ⟨text, rfl, -, hrest⟩ := hbrace.of_cons hword.ne_nil hword.not_open
  have hinside : ∀ between, Begun ([.char '$', .char '\x7b'] ++ between) →
      ¬ between ++ opening <+: text := by
    intro between hbetween hopening
    refine hnested ⟨_, hbetween, List.IsPrefix.isInfix ?_⟩
    exact List.cons_prefix_cons.2 ⟨rfl, List.cons_prefix_cons.2 ⟨rfl, hopening⟩⟩
  have hfirst : 2 ≤ [Rune.char '$', Rune.char '\x7b'].length := by simp
  obtain ⟨behind, behind', rfl, hmore, hbehind⟩ :=
    split_of_begun hrest hbegun hfirst hinside (List.prefix_append rest more)
  exact ⟨behind, behind', rfl, congrArg ([.char '$', .char '\x7b'] ++ ·) hmore, hbehind⟩

theorem token_isPrefix_of_isPrefix (h : Replaced (token id) word text result) (hword : Inert word)
    (hnested : ¬ Nested text) {other : Text} (hother : .char '\x7d' ∉ other.toList)
    (hresult : token other <+: result) : token other <+: text := by
  obtain ⟨more, rfl⟩ := hresult
  rw [token_append, ← List.append_assoc] at h
  obtain ⟨behind, behind', rfl, hmore, hbehind⟩ :=
    split_of_begun_isPrefix h hword hnested (begun_opening_append hother) (List.prefix_append _ _)
  rw [← List.append_cancel_left hmore] at hbehind
  obtain ⟨rest, rfl, -, -⟩ := hbehind.of_cons hword.ne_nil hword.not_close
  rw [token, List.append_cons _ _ rest]
  exact List.prefix_append _ _

theorem begun_opening_isPrefix (h : Replaced (token id) word text result)
    (hword : Inert word) (hnested : ¬ Nested text) {begun : List Rune} (hbegun : Begun begun)
    (hresult : begun ++ opening <+: result) : begun ++ opening <+: text := by
  obtain ⟨more, rfl⟩ := hresult
  rw [List.append_assoc] at h
  obtain ⟨behind, behind', rfl, hmore, hbehind⟩ :=
    split_of_begun_isPrefix h hword hnested hbegun (List.prefix_append _ _)
  rw [← List.append_cancel_left hmore] at hbehind
  have hinner : ¬ Nested behind := fun h => hnested (h.of_suffix (List.suffix_append _ _))
  obtain ⟨rest, -, rfl, -, -⟩ :=
    split_of_begun_isPrefix hbehind hword hinner begun_opening (List.prefix_append _ _)
  rw [← List.append_assoc]
  exact List.prefix_append _ _

/-- What begins with a dollar sign and cannot come to the front of a text by a replacement does not
come up in it anywhere. -/
theorem infix_of_infix_result {rest : List Rune} (h : Replaced (token id) word text result)
    (hword : Inert word) (hnested : ¬ Nested text)
    (hfront : ∀ text result, Replaced (token id) word text result → ¬ Nested text →
      .char '$' :: rest <+: result → .char '$' :: rest <+: text)
    (hresult : .char '$' :: rest <:+: result) : .char '$' :: rest <:+: text := by
  induction h with
  | done => exact hresult
  | @hit text result later ih =>
      have hlater : ¬ Nested text := fun h => hnested (h.of_suffix (List.suffix_append _ _))
      have hinfix := ih hlater (infix_of_infix_append hword.not_dollar hresult)
      exact hinfix.trans (List.suffix_append _ _).isInfix
  | @pass c text result hpass later ih =>
      have hlater : ¬ Nested text := fun h => hnested (h.of_suffix (List.suffix_cons _ _))
      rcases List.infix_cons_iff.1 hresult with hprefix | hinfix
      · exact (hfront _ _ (.pass hpass later) hnested hprefix).isInfix
      · exact List.infix_cons (ih hlater hinfix)

theorem token_infix_of_isInfix (h : Replaced (token id) word text result) (hword : Inert word)
    (hnested : ¬ Nested text) {other : Text} (hother : .char '\x7d' ∉ other.toList)
    (hresult : token other <:+: result) : token other <:+: text :=
  infix_of_infix_result h hword hnested
    (fun _ _ h hnested => token_isPrefix_of_isPrefix h hword hnested hother) hresult

theorem not_nested_of_replaced (h : Replaced (token id) word text result) (hword : Inert word)
    (hnested : ¬ Nested text) : ¬ Nested result := by
  rintro ⟨begun, hbegun, hresult⟩
  have hfront := fun text result (h : Replaced (token id) word text result) hnested =>
    begun_opening_isPrefix h hword hnested hbegun
  obtain ⟨rest, rfl⟩ := hbegun.eq_cons
  exact hnested ⟨_, hbegun, infix_of_infix_result h hword hnested hfront hresult⟩

/-- An id that had its turn has no token left. -/
theorem not_token_infix_of_replaced (h : Replaced (token id) word text result) (hword : Inert word)
    (hnested : ¬ Nested text) (hid : .char '\x7d' ∉ id.toList) : ¬ token id <:+: result := by
  induction h with
  | done => exact fun h => token_ne_nil id (List.infix_nil.1 h)
  | @hit text result later ih =>
      have hlater : ¬ Nested text := fun h => hnested (h.of_suffix (List.suffix_append _ _))
      exact fun h => ih hlater (infix_of_infix_append hword.not_dollar h)
  | @pass c text result hpass later ih =>
      have hlater : ¬ Nested text := fun h => hnested (h.of_suffix (List.suffix_cons _ _))
      intro hresult
      rcases List.infix_cons_iff.1 hresult with hprefix | hinfix
      · exact hpass (token_isPrefix_of_isPrefix (.pass hpass later) hword hnested hid hprefix)
      · exact ih hlater hinfix

end Replacement

theorem not_token_infix_resolveChars {names : List (Text × Text)} {text : List Rune}
    {id : Text} (hnames : ∀ entry ∈ names, Inert entry.2.toList) (hnested : ¬ Nested text)
    (hid : .char '\x7d' ∉ id.toList) (h : id ∈ names.map Prod.fst ∨ ¬ token id <:+: text) :
    ¬ token id <:+: (resolveChars names text).1 := by
  induction names generalizing text with
  | nil => exact h.resolve_left List.not_mem_nil
  | cons entry rest ih =>
      obtain ⟨first, name⟩ := entry
      have hname := hnames _ List.mem_cons_self
      have hreplaced := replaced_replaceAll (token_ne_nil first) name.toList text
      rw [resolveChars_cons]
      refine ih (fun e he => hnames e (List.mem_cons_of_mem _ he))
        (not_nested_of_replaced hreplaced hname hnested) ?_
      rcases h with hmem | habsent
      · rcases List.mem_cons.1 hmem with rfl | hmem
        · exact .inr (not_token_infix_of_replaced hreplaced hname hnested hid)
        · exact .inl hmem
      · exact .inr fun h => habsent (token_infix_of_isInfix hreplaced hname hnested hid h)

section Resolve
variable {names : OrderedMap Text} {text id : Text}

theorem not_token_infix_resolve (hnames : ∀ name ∈ names.values, Inert name.toList)
    (hnested : ¬ Nested text.toList) (hid : .char '\x7d' ∉ id.toList) (hkey : id ∈ names.keys) :
    ¬ token id <:+: (resolve names text).text.toList := by
  rw [resolve, Text.toList_ofList]
  refine not_token_infix_resolveChars ?_ hnested hid (.inl hkey)
  exact fun entry hentry => hnames entry.2 (List.mem_map_of_mem hentry)

theorem not_mem_keys_of_mem_remaining (hnames : ∀ name ∈ names.values, Inert name.toList)
    (hnested : ¬ Nested text.toList) (h : id ∈ remaining (resolve names text).text) :
    id ∉ names.keys := by
  obtain ⟨hid, hinfix⟩ := token_infix_of_mem_remaining h
  exact fun hkey => not_token_infix_resolve hnames hnested hid hkey hinfix

end Resolve

end EstimateCompiler.Reference
