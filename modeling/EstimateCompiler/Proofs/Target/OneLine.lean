import EstimateCompiler.Proofs.Decimal.Numeral
import EstimateCompiler.Proofs.Graph.Anonymity
import EstimateCompiler.Proofs.Program.Writing
import EstimateCompiler.Proofs.Text.Replacement

/-!
# Answers on one line

What a target writes for a guesstimate has no line feed, if a point or a function had none to begin
with. Every other text that goes into an answer is on one line by itself: bounds are read from one
line only, samples are written with digits, signs and two words, and the names that references are
resolved to are identifiers.
-/
namespace EstimateCompiler

namespace Text

variable {c : Rune} {word text : List Rune}

theorem not_mem_replaceAll {piece : List Rune} (hpiece : piece ≠ []) (hword : c ∉ word)
    (htext : c ∉ text) : c ∉ replaceAll piece word text := by
  intro hc
  exact htext ((replaced_replaceAll hpiece word text).mem_text hc hword)

theorem not_mem_replaceFirst (d : Rune) (hword : c ∉ word) (htext : c ∉ text) :
    c ∉ replaceFirst d word text := by
  induction text with
  | nil => exact htext
  | cons e rest ih =>
      rw [List.mem_cons, not_or] at htext
      rw [replaceFirst]
      split
      · simp [hword, htext.2]
      · simp [htext.1, ih htext.2]

theorem not_mem_intercalate {texts : List (List Rune)} (hword : c ∉ word)
    (htexts : ∀ text ∈ texts, c ∉ text) : c ∉ word.intercalate texts := by
  induction texts with
  | nil => exact List.not_mem_nil
  | cons first rest ih =>
      obtain ⟨hfirst, hrest⟩ := List.forall_mem_cons.1 htexts
      cases rest with
      | nil => rwa [List.intercalate_singleton]
      | cons second later => simp [hfirst, hword, ih hrest]

theorem strip_subset (text : List Rune) : strip text ⊆ text := by
  intro c hc
  have hback := (List.dropWhile_sublist isBlank).subset (List.mem_reverse.1 hc)
  exact (List.dropWhile_sublist isBlank).subset (List.mem_reverse.1 hback)

end Text

theorem newline_not_mem_samplesText (samples : List Number) :
    .char '\n' ∉ (samplesText samples).toList := by
  have hsamples : .char '\n' ∉ [.char ','].intercalate (samples.map (Number.chars .samples)) := by
    refine Text.not_mem_intercalate (by decide) ?_
    intro text htext
    obtain ⟨n, -, rfl⟩ := List.mem_map.1 htext
    exact not_mem_sample (by decide) (by decide) n
  simp [samplesText, hsamples]

namespace Bounds

theorem subset_of_bracketed? {text before behind : List Rune}
    (h : bracketed? text = some (before, behind)) : before ⊆ text ∧ behind ⊆ text := by
  unfold bracketed? at h
  split at h
  · rename_i cs
    split at h
    · have hinside := Text.eq_of_splitLast? h
      have hsub : cs.dropLast ⊆ .char '[' :: cs :=
        fun c hc => List.mem_cons_of_mem _ (List.mem_of_mem_dropLast hc)
      rw [hinside] at hsub
      exact ⟨fun c hc => hsub (by simp [hc]), fun c hc => hsub (by simp [hc])⟩
    · cases h
  · cases h

theorem subset_of_spelled? {text before behind : List Rune}
    (h : spelled? text = some (before, behind)) : before ⊆ text ∧ behind ⊆ text := by
  rw [Text.eq_of_splitLast? h]
  exact ⟨fun c hc => by simp [hc], fun c hc => by simp [hc]⟩

theorem newline_not_mem_of_parse? {expression : Option Text} {bounds : Bounds}
    (h : parse? expression = some bounds) :
    .char '\n' ∉ bounds.low.toList ∧ .char '\n' ∉ bounds.high.toList := by
  unfold parse? ofChars? at h
  split at h
  · cases h
  · rename_i hline
    obtain ⟨⟨before, behind⟩, hoperands, rfl⟩ := Option.map_eq_some_iff.1 h
    have hsub : before ⊆ (expression.getD "").toList ∧ behind ⊆ (expression.getD "").toList := by
      rcases Option.or_eq_some_iff.1 hoperands with hbracketed | ⟨-, hspelled⟩
      · exact subset_of_bracketed? hbracketed
      · exact subset_of_spelled? hspelled
    simp only [ofOperands, Text.toList_ofList]
    exact ⟨fun hlow => hline (hsub.1 (Text.strip_subset before hlow)),
      fun hhigh => hline (hsub.2 (Text.strip_subset behind hhigh))⟩

end Bounds

theorem Reference.not_mem_resolveChars {c : Rune} {names : List (Text × Text)}
    {text : List Rune} (hnames : ∀ entry ∈ names, c ∉ entry.2.toList) (htext : c ∉ text) :
    c ∉ (resolveChars names text).1 := by
  induction names generalizing text with
  | nil => exact htext
  | cons entry rest ih =>
      obtain ⟨hname, hrest⟩ := List.forall_mem_cons.1 hnames
      rw [resolveChars]
      split
      · exact ih hrest (Text.not_mem_replaceAll (by simp [token, opening]) hname htext)
      · exact ih hrest htext

/-- A point and a function have no line feed; other guesstimates may have any. -/
def Guesstimate.OneLine (guesstimate : Guesstimate) : Prop :=
  guesstimate.kind = .point ∨ guesstimate.kind = .function →
    .char '\n' ∉ (guesstimate.expression.getD "").toList

instance (guesstimate : Guesstimate) : Decidable guesstimate.OneLine :=
  inferInstanceAs (Decidable (guesstimate.kind = .point ∨ guesstimate.kind = .function →
    .char '\n' ∉ (guesstimate.expression.getD "").toList))

theorem Node.oneLine_resolve {names : OrderedMap Text} {node : Node}
    (hnames : ∀ name ∈ names.values, .char '\n' ∉ name.toList) (h : node.guesstimate.OneLine) :
    (node.resolve names).node.guesstimate.OneLine := by
  by_cases hkind : node.kind = .function
  · intro _
    have hbody : .char '\n' ∉ node.body.toList := by
      rw [Node.body, Text.toList_ofList]
      exact fun hmem => h (.inr hkind) (List.mem_of_mem_drop hmem)
    have hentries : ∀ entry ∈ names.entries, .char '\n' ∉ entry.2.toList :=
      fun entry hentry => hnames entry.2 (List.mem_map_of_mem hentry)
    have hexpression : (node.resolve names).node.guesstimate.expression =
        some (Reference.resolve names node.body).text := Node.expression_resolve hkind
    rw [hexpression, Option.getD_some, Reference.resolve, Text.toList_ofList]
    exact Reference.not_mem_resolveChars hentries hbody
  · rw [Node.resolve, if_neg hkind]
    exact h

/-- The call is about a guesstimate, and what it tells the target has no line feed. -/
def Call.OneLine : Call → Prop
  | .point text | .function text => .char '\n' ∉ text.toList
  | .data _ => True
  | .uniform low high | .normal low high | .lognormal low high =>
      .char '\n' ∉ low.toList ∧ .char '\n' ∉ high.toList
  | .header _ | .assignment _ => False

theorem Call.oneLine_of_distribution {make : Text → Text → Call}
    (hmake : ∀ low high, (make low high).OneLine =
      (.char '\n' ∉ low.toList ∧ .char '\n' ∉ high.toList))
    {node : Node} {call : Call} (h : Call.distribution make node = .ok (some call)) :
    call.OneLine := by
  unfold Call.distribution at h
  split at h
  · rename_i bounds hbounds
    obtain rfl := Option.some.inj (Except.ok.inj h)
    rw [hmake]
    exact Bounds.newline_not_mem_of_parse? hbounds
  · cases h

theorem Node.oneLine_of_call {node : Node} {call : Call} (hnode : node.guesstimate.OneLine)
    (h : node.call = .ok (some call)) : call.OneLine := by
  obtain ⟨id, label, name, kind, expression, description, data⟩ := node
  cases kind with
  | point =>
      have hcall := Except.ok.inj h
      obtain rfl := Option.some.inj (Option.ite_none_left_eq_some.1 hcall).2
      exact hnode (.inl rfl)
  | function =>
      obtain rfl := Option.some.inj (Except.ok.inj h)
      exact hnode (.inr rfl)
  | data =>
      cases data with
      | none => cases h
      | some samples =>
          obtain rfl := Option.some.inj (Except.ok.inj h)
          trivial
  | uniform | normal | lognormal => exact Call.oneLine_of_distribution (fun _ _ => rfl) h

namespace Target

/-- What the target answers to a call on one line is on one line. -/
def KeepsLine (target : Target) : Prop :=
  ∀ log (call : Call), call.OneLine → .char '\n' ∉ (target.answer log call).toList

theorem keepsLine_squiggle : squiggle.KeepsLine := by
  intro log call hcall
  cases call with
  | header url | assignment a => cases hcall
  | point text | function text => exact hcall
  | data samples => simp [newline_not_mem_samplesText]
  | uniform low high | normal low high | lognormal low high => simp [hcall.1, hcall.2]

namespace Python

theorem newline_not_mem_expandSuffixes {text : Text} (h : .char '\n' ∉ text.toList) :
    .char '\n' ∉ (expandSuffixes text).toList := by
  have hwords : ∀ entry ∈ suffixes, .char '\n' ∉ entry.2 := by decide
  rw [expandSuffixes, Text.toList_ofList]
  refine List.foldlRecOn (motive := fun text => Rune.char '\n' ∉ text) suffixes _ h ?_
  intro text htext entry hentry
  exact Text.not_mem_replaceFirst entry.1 (hwords entry hentry) htext

theorem newline_not_mem_vectorize {body : Text} (h : .char '\n' ∉ body.toList) :
    .char '\n' ∉ (vectorize body).toList := by
  have hwords : ∀ entry ∈ vectorCalls, entry.1 ≠ [] ∧ .char '\n' ∉ entry.2 := by decide
  rw [vectorize, Text.toList_ofList]
  refine List.foldlRecOn (motive := fun text => Rune.char '\n' ∉ text) vectorCalls _ h ?_
  intro text htext entry hentry
  exact Text.not_mem_replaceAll (hwords entry hentry).1 (hwords entry hentry).2 htext

theorem newline_not_mem_bounded {function low high : Text}
    (hfunction : .char '\n' ∉ function.toList) (hlow : .char '\n' ∉ low.toList)
    (hhigh : .char '\n' ∉ high.toList) :
    .char '\n' ∉ (bounded function low high).toList := by
  simp [bounded, hfunction, newline_not_mem_expandSuffixes hlow,
    newline_not_mem_expandSuffixes hhigh]

end Python

theorem keepsLine_python : python.KeepsLine := by
  intro log call hcall
  cases call with
  | header url | assignment a => cases hcall
  | point text => exact hcall
  | function body => exact Python.newline_not_mem_vectorize hcall
  | data samples => simp [newline_not_mem_samplesText]
  | uniform low high | normal low high | lognormal low high =>
      exact Python.newline_not_mem_bounded (by decide) hcall.1 hcall.2

theorem KeepsLine.newline_not_mem_written {target : Target} (h : target.KeepsLine) {node : Node}
    (hnode : node.guesstimate.OneLine) (log : List Call) :
    .char '\n' ∉ ((target.written log node).code.getD "None").toList := by
  have hword : .char '\n' ∉ ("None" : Text).toList := by decide
  unfold written
  cases hcall : node.call with
  | error diagnostic => exact hword
  | ok asked =>
      cases asked with
      | none => exact hword
      | some call =>
          have hanswer := h log call (Node.oneLine_of_call hnode hcall)
          change .char '\n' ∉ ((call.code (target.answer log call)).getD "None").toList
          unfold Call.code
          split
          · exact hword
          · exact hanswer

end Target

end EstimateCompiler
