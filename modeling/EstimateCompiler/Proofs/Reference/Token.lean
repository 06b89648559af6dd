import EstimateCompiler.Proofs.Text.Replacement
import EstimateCompiler.Reference

/-!
# Tokens in a text

A text holds a token if the opening stands in it somewhere with a closing brace behind it. The scan
of a text finds the ids of some of its tokens, from left to right and up to the first closing brace
each. It need not find all of them, since it goes on behind a token, but it finds one if there is
any. So a text without findings has no token at all.
-/
namespace EstimateCompiler.Reference

/-- The text holds the token of some id. -/
def HasToken (text : List Rune) : Prop := ∃ id, token id <:+: text

theorem token_ne_nil (id : Text) : token id ≠ [] := List.cons_ne_nil _ _

theorem opening_prefix_token (id : Text) : opening <+: token id := by
  rw [token, List.append_assoc]
  exact List.prefix_append _ _

theorem resolveChars_cons (id name : Text) (rest : List (Text × Text)) (text : List Rune) :
    resolveChars ((id, name) :: rest) text =
      let later := resolveChars rest (Text.replaceAll (token id) name.toList text)
      (later.1, if Text.occursIn (token id) text then id :: later.2 else later.2) := by
  rw [resolveChars]
  split
  · rfl
  · rename_i habsent
    rw [Text.replaceAll_of_not_occursIn _ (Bool.eq_false_iff.2 habsent)]

theorem token_append (id : Text) (rest : List Rune) :
    token id ++ rest = opening ++ (id.toList ++ .char '\x7d' :: rest) := by
  simp [token]

theorem takeWhile_append_brace {id : List Rune} (hid : .char '\x7d' ∉ id) (rest : List Rune) :
    (id ++ .char '\x7d' :: rest).takeWhile (· ≠ .char '\x7d') = id := by
  rw [List.takeWhile_append_of_pos fun c hc => by simpa using fun h : c = '\x7d' => hid (h ▸ hc)]
  simp

/-- Tokens at the front of one text are the same, if their ids have no closing brace. -/
theorem eq_of_token_isPrefix {id other : Text} {rest : List Rune} (hid : .char '\x7d' ∉ id.toList)
    (hother : .char '\x7d' ∉ other.toList) (h : token id <+: token other ++ rest) : id = other := by
  obtain ⟨behind, hbehind⟩ := h
  rw [token_append, token_append] at hbehind
  have hids := congrArg (List.takeWhile (· ≠ .char '\x7d')) (List.append_cancel_left hbehind)
  rw [takeWhile_append_brace hid, takeWhile_append_brace hother] at hids
  exact Text.toList_injective hids

/-- A text that begins with the opening and has a closing brace behind it begins with a token, whose
id reaches to the first closing brace. -/
theorem token_of_opening {behind : List Rune} (hclosed : .char '\x7d' ∈ behind) :
    ∃ id rest, .char '\x7d' ∉ id.toList ∧ opening ++ behind = token id ++ rest := by
  obtain ⟨id, rest, rfl, hid⟩ := List.eq_append_cons_of_mem hclosed
  refine ⟨Text.ofList id, rest, by rwa [Text.toList_ofList], ?_⟩
  rw [token_append, Text.toList_ofList]

theorem hasToken_cons {c : Rune} {cs : List Rune} :
    HasToken (c :: cs) ↔
      (∃ behind, c :: cs = opening ++ behind ∧ .char '\x7d' ∈ behind) ∨ HasToken cs := by
  constructor
  · rintro ⟨id, hid⟩
    rcases List.infix_cons_iff.1 hid with ⟨rest, hrest⟩ | hlater
    · exact .inl ⟨_, by rw [← hrest, token_append], by simp⟩
    · exact .inr ⟨id, hlater⟩
  · rintro (⟨behind, heq, hclosed⟩ | ⟨id, hid⟩)
    · obtain ⟨id, rest, -, htoken⟩ := token_of_opening hclosed
      exact ⟨id, heq ▸ htoken ▸ (List.prefix_append _ rest).isInfix⟩
    · exact ⟨id, List.infix_cons hid⟩

theorem not_hasToken_nil : ¬ HasToken [] := by
  rintro ⟨id, hid⟩
  exact token_ne_nil id (List.infix_nil.1 hid)

theorem HasToken.append_left {text : List Rune} (h : HasToken text) (before : List Rune) :
    HasToken (before ++ text) := by
  obtain ⟨id, hid⟩ := h
  exact ⟨id, hid.trans (List.suffix_append before text).isInfix⟩

theorem opens_iff {text : List Rune} :
    (opening.isPrefixOf text = true ∧ .char '\x7d' ∈ text.drop opening.length) ↔
      ∃ behind, text = opening ++ behind ∧ .char '\x7d' ∈ behind := by
  rw [List.isPrefixOf_iff_prefix]
  constructor
  · rintro ⟨⟨behind, rfl⟩, hclosed⟩
    exact ⟨behind, rfl, by simpa using hclosed⟩
  · rintro ⟨behind, rfl, hclosed⟩
    exact ⟨List.prefix_append _ _, by simpa using hclosed⟩

theorem idsSkipping_length_append (skipped text : List Rune) :
    idsSkipping skipped.length (skipped ++ text) = idsSkipping 0 text := by
  induction skipped with
  | nil => rfl
  | cons c cs ih => exact ih

theorem idsSkipping_token_append {id : Text} (hid : .char '\x7d' ∉ id.toList) (rest : List Rune) :
    idsSkipping 0 (token id ++ rest) = id :: idsSkipping 0 rest := by
  have hcons : token id ++ rest = .char '$' :: ((token id).tail ++ rest) := rfl
  have hbehind : (token id ++ rest).drop opening.length = id.toList ++ .char '\x7d' :: rest := by
    rw [token_append, List.drop_left]
  have hlength : opening.length + id.toList.length = (token id).tail.length := by
    rw [List.length_tail, token, List.length_append, List.length_append]
    rfl
  have hopens := opens_iff.2 ⟨_, token_append id rest, by simp⟩
  rw [hcons] at hopens hbehind ⊢
  rw [idsSkipping, if_pos hopens]
  simp only [hbehind, takeWhile_append_brace hid, Text.ofList_toList, hlength,
    idsSkipping_length_append]

theorem idsSkipping_cons {c : Rune} {cs : List Rune}
    (h : ¬ ∃ behind, c :: cs = opening ++ behind ∧ .char '\x7d' ∈ behind) :
    idsSkipping 0 (c :: cs) = idsSkipping 0 cs := by
  rw [idsSkipping, if_neg (by rwa [opens_iff])]

theorem idsSkipping_clear_append {stretch rest : List Rune} (h : Text.Clear opening stretch rest) :
    idsSkipping 0 (stretch ++ rest) = idsSkipping 0 rest := by
  induction stretch with
  | nil => rfl
  | cons c cs ih =>
      rw [List.cons_append, idsSkipping_cons, ih h.2]
      rintro ⟨behind, heq, -⟩
      exact h.1 ⟨behind, heq.symm⟩

/-- Every id that is found has its token in the text, closed by the first brace behind it. -/
theorem token_infix_of_mem_idsSkipping {text : List Rune} {id : Text}
    (h : id ∈ idsSkipping 0 text) : .char '\x7d' ∉ id.toList ∧ token id <:+: text := by
  induction hlength : text.length using Nat.strongRecOn generalizing text with
  | ind n ih =>
      cases text with
      | nil =>
          rw [idsSkipping] at h
          cases h
      | cons c cs =>
          by_cases hopens : ∃ behind, c :: cs = opening ++ behind ∧ .char '\x7d' ∈ behind
          · obtain ⟨behind, heq, hclosed⟩ := hopens
            obtain ⟨first, rest, hfirst, htoken⟩ := token_of_opening hclosed
            rw [heq, htoken] at h hlength ⊢
            rw [idsSkipping_token_append hfirst] at h
            rcases List.mem_cons.1 h with rfl | h
            · exact ⟨hfirst, (List.prefix_append _ rest).isInfix⟩
            · have hpos := List.length_pos_of_ne_nil (token_ne_nil first)
              rw [List.length_append] at hlength
              obtain ⟨hid, hinfix⟩ := ih rest.length (by omega) h rfl
              exact ⟨hid, hinfix.trans (List.suffix_append _ rest).isInfix⟩
          · rw [idsSkipping_cons hopens] at h
            rw [List.length_cons] at hlength
            obtain ⟨hid, hinfix⟩ := ih cs.length (by omega) h rfl
            exact ⟨hid, List.infix_cons hinfix⟩

theorem idsSkipping_eq_nil_iff {text : List Rune} : idsSkipping 0 text = [] ↔ ¬ HasToken text := by
  induction text with
  | nil => exact iff_of_true rfl not_hasToken_nil
  | cons c cs ih =>
      by_cases hopens : ∃ behind, c :: cs = opening ++ behind ∧ .char '\x7d' ∈ behind
      · refine iff_of_false ?_ (not_not_intro (hasToken_cons.2 (.inl hopens)))
        rw [idsSkipping, if_pos (opens_iff.2 hopens)]
        exact List.cons_ne_nil _ _
      · rw [idsSkipping_cons hopens, ih, hasToken_cons, or_iff_right hopens]

instance (text : List Rune) : Decidable (HasToken text) :=
  decidable_of_iff (idsSkipping 0 text ≠ []) (by rw [Ne, idsSkipping_eq_nil_iff, not_not])

theorem remaining_eq_nil_iff {text : Text} : remaining text = [] ↔ ¬ HasToken text.toList := by
  rw [← idsSkipping_eq_nil_iff, remaining]
  cases idsSkipping 0 text.toList with
  | nil => exact iff_of_true rfl rfl
  | cons id ids => simp [List.eraseDups_cons]

theorem token_infix_of_mem_remaining {text id : Text} (h : id ∈ remaining text) :
    .char '\x7d' ∉ id.toList ∧ token id <:+: text.toList :=
  token_infix_of_mem_idsSkipping (List.mem_eraseDups.1 h)

/-- A replacement leaves a text without tokens as it is in this respect, if no word can be a part of
an opening and none has a closing brace. -/
theorem hasToken_of_replaced {piece word text result : List Rune}
    (h : Text.Replaced piece word text result) (hdollar : .char '$' ∉ word)
    (hcolon : .char ':' ∉ word) (hbrace : .char '\x7d' ∉ word) {foreign : Rune}
    (hforeign : foreign ∈ word)
    (hopening : foreign ∉ opening) (htoken : HasToken result) : HasToken text := by
  induction h with
  | done => exact htoken
  | hit later ih =>
      obtain ⟨id, hid⟩ := htoken
      exact (ih ⟨id, Text.infix_of_infix_append hdollar hid⟩).append_left piece
  | pass front later ih =>
      rcases hasToken_cons.1 htoken with ⟨behind, heq, hclosed⟩ | htoken
      · have hlast : opening.getLast? = some (.char ':') := rfl
        obtain ⟨rest, rest', htext, hresult, hrest⟩ :=
          (Text.Replaced.pass front later).split_of_isPrefix hlast hcolon hforeign hopening
            ⟨behind, heq.symm⟩
        have hbehind : behind = rest' := List.append_cancel_left (heq.symm.trans hresult)
        exact hasToken_cons.2 (.inl ⟨rest, htext, hrest.mem_text (hbehind ▸ hclosed) hbrace⟩)
      · exact hasToken_cons.2 (.inr (ih htoken))

end EstimateCompiler.Reference
