import EstimateCompiler.Proofs.OrderedMap
import EstimateCompiler.Proofs.Reference.Token

/-!
# Formulas

A formula is a sequence of segments, each a text without an opening brace or a reference to an id
without braces. Names are put into a formula one id after the other, each time by a replacement that
knows nothing of segments. Seen from the segments all these replacements are one substitution. What
has been resolved so far is told by a function from ids to names: it turns every segment into a
stretch without an opening brace, or leaves it a token. The replacement of a further token passes
over the stretches and over the tokens of other ids, because a token begins with a dollar sign and
an opening brace, and only tokens have one. So each replacement adds one id to the function.
-/
namespace EstimateCompiler

inductive Segment where
  | text (chars : List Rune) (plain : .char '\x7b' ∉ chars)
  | reference (id : Text) (plain : .char '\x7b' ∉ id.toList ∧ .char '\x7d' ∉ id.toList)

namespace Segment

def id? : Segment → Option Text
  | .text _ _ => none
  | .reference id _ => some id

def chars : Segment → List Rune
  | .text chars _ => chars
  | .reference id _ => Reference.token id

/-- The segment as it is written, once the references to known ids are replaced by names. -/
def resolved (name? : Text → Option Text) : Segment → List Rune
  | .text chars _ => chars
  | .reference id _ =>
      match name? id with
      | some name => name.toList
      | none => Reference.token id

end Segment

abbrev Formula := List Segment

namespace Formula

def chars (formula : Formula) : List Rune := formula.flatMap Segment.chars

def references (formula : Formula) : List Text := formula.filterMap Segment.id?

/-- The formula as it is written, once the references to known ids are replaced by names. -/
def resolved (name? : Text → Option Text) (formula : Formula) : List Rune :=
  formula.flatMap (Segment.resolved name?)

/-- The names have no opening brace. -/
def PlainNames (name? : Text → Option Text) : Prop :=
  ∀ id name, name? id = some name → .char '\x7b' ∉ name.toList

variable {name? : Text → Option Text}

theorem resolved_none (formula : Formula) : formula.resolved (fun _ => none) = formula.chars := by
  refine List.flatMap_congr fun segment _ => ?_
  cases segment <;> rfl

theorem resolved_cons (name? : Text → Option Text) (segment : Segment) (rest : Formula) :
    resolved name? (segment :: rest) = segment.resolved name? ++ resolved name? rest :=
  List.flatMap_cons

/-- Seen by the replacements a segment is a stretch without an opening brace, which no further name
changes, or a token that has not been resolved. -/
theorem segment_cases (hnames : PlainNames name?) (segment : Segment) :
    (.char '\x7b' ∉ segment.resolved name? ∧ ∀ id ∈ segment.id?, (name? id).isSome) ∨
      ∃ id plain, segment = .reference id plain ∧ name? id = none := by
  cases segment with
  | text chars plain => exact .inl ⟨plain, fun id h => absurd h (by simp [Segment.id?])⟩
  | reference id plain =>
      cases hname : name? id with
      | none => exact .inr ⟨id, plain, rfl, hname⟩
      | some name =>
          refine .inl ⟨?_, ?_⟩
          · rw [Segment.resolved, hname]
            exact hnames id name hname
          · rintro other ⟨⟩
            rw [hname]
            rfl

theorem resolved_reference {id : Text} {plain : .char '\x7b' ∉ id.toList ∧ .char '\x7d' ∉ id.toList}
    (h : name? id = none) : (Segment.reference id plain).resolved name? = Reference.token id := by
  rw [Segment.resolved, h]

theorem head?_resolved (hnames : PlainNames name?) (formula : Formula) :
    (resolved name? formula).head? ≠ some (.char '\x7b') := by
  induction formula with
  | nil => simp [resolved]
  | cons segment rest ih =>
      rw [resolved_cons]
      rcases segment_cases hnames segment with ⟨hplain, -⟩ | ⟨id, plain, rfl, hnone⟩
      · cases hchars : segment.resolved name? with
        | nil => exact ih
        | cons c cs =>
            rw [hchars] at hplain
            rintro ⟨⟩
            exact hplain List.mem_cons_self
      · rw [resolved_reference hnone]
        simp [Reference.token, Reference.opening]

end Formula

namespace Reference

/-- A stretch without an opening brace has no opening, also none that ends behind it. -/
theorem clear_of_plain {stretch rest : List Rune} (hplain : .char '\x7b' ∉ stretch)
    (hrest : rest.head? ≠ some (.char '\x7b')) : Text.Clear opening stretch rest := by
  induction stretch with
  | nil => trivial
  | cons c cs ih =>
      rw [List.mem_cons, not_or] at hplain
      refine ⟨?_, ih hplain.2⟩
      intro hopening
      have hbrace := (List.cons_prefix_cons.1 hopening).2
      cases cs with
      | nil =>
          obtain ⟨behind, hbehind⟩ := hbrace
          rw [List.nil_append] at hbehind
          exact hrest (by rw [← hbehind]; rfl)
      | cons d ds =>
          have hd := (List.cons_prefix_cons.1 hbrace).1
          exact hplain.2 (hd ▸ List.mem_cons_self)

/-- In the token of another id no token of the id begins. -/
theorem clear_token {id other : Text} {rest : List Rune} (hid : .char '\x7d' ∉ id.toList)
    (hopen : .char '\x7b' ∉ other.toList) (hclose : .char '\x7d' ∉ other.toList) (hne : id ≠ other)
    (hrest : rest.head? ≠ some (.char '\x7b')) : Text.Clear (token id) (token other) rest := by
  have htail : .char '\x7b' ∉ opening.drop 2 ++ other.toList ++ [.char '\x7d'] := by
    simp [hopen, opening]
  refine ⟨fun h => hne (eq_of_token_isPrefix hid hclose h), ?_, ?_⟩
  · intro hfront
    exact absurd (List.cons_prefix_cons.1 hfront).1 (by decide)
  · exact (clear_of_plain htail hrest).of_isPrefix (opening_prefix_token id)

end Reference

namespace Formula

open Reference

variable {name? : Text → Option Text}

/-- The names with one more, unless the id has a name already. -/
def withName (name? : Text → Option Text) (id name : Text) : Text → Option Text :=
  fun other => (name? other).or (if other = id then some name else none)

theorem PlainNames.withName (hnames : PlainNames name?) {id name : Text}
    (hname : .char '\x7b' ∉ name.toList) : PlainNames (withName name? id name) := by
  intro other found hfound
  unfold Formula.withName at hfound
  cases hother : name? other with
  | some first =>
      rw [hother, Option.some_or] at hfound
      exact hnames other found (hother.trans hfound)
  | none =>
      rw [hother, Option.none_or] at hfound
      split at hfound
      · obtain rfl := Option.some.inj hfound
        exact hname
      · cases hfound

theorem withName_eq_none_iff {id name other : Text} :
    withName name? id name other = none ↔ name? other = none ∧ other ≠ id := by
  simp [withName]

theorem resolved_withName {segment : Segment} {id : Text}
    (h : id ∈ segment.id? → (name? id).isSome) (name : Text) :
    segment.resolved (withName name? id name) = segment.resolved name? := by
  cases segment with
  | text chars plain => rfl
  | reference other plain =>
      rw [Segment.resolved, Segment.resolved, withName]
      by_cases hsame : other = id
      · subst hsame
        obtain ⟨first, hfirst⟩ := Option.isSome_iff_exists.1 (h rfl)
        rw [hfirst, Option.some_or]
      · rw [if_neg hsame, Option.or_none]

/-- For the token of an id a segment is a stretch to pass over, unless it is a reference to this id
that has not been resolved. -/
theorem clear_or_reference (hnames : PlainNames name?) {id : Text} (hid : .char '\x7d' ∉ id.toList)
    (segment : Segment) (rest : Formula) :
    (Text.Clear (token id) (segment.resolved name?) (resolved name? rest) ∧
        (id ∈ segment.id? → (name? id).isSome)) ∨
      ∃ plain, segment = .reference id plain ∧ name? id = none := by
  have hrest := head?_resolved hnames rest
  rcases segment_cases hnames segment with ⟨hplain, hsome⟩ | ⟨other, plain, rfl, hnone⟩
  · have hclear := (clear_of_plain hplain hrest).of_isPrefix (opening_prefix_token id)
    exact .inl ⟨hclear, hsome id⟩
  · by_cases hsame : other = id
    · subst hsame
      exact .inr ⟨plain, rfl, hnone⟩
    · refine .inl ⟨?_, fun h => absurd (Option.some.inj h) hsame⟩
      rw [resolved_reference hnone]
      exact clear_token hid plain.1 plain.2 (Ne.symm hsame) hrest

/-- One replacement resolves the references to its id and leaves all else. -/
theorem replaceAll_resolved (hnames : PlainNames name?) {id : Text} (hid : .char '\x7d' ∉ id.toList)
    (name : Text) (formula : Formula) :
    Text.replaceAll (token id) name.toList (resolved name? formula) =
      resolved (withName name? id name) formula := by
  induction formula with
  | nil => exact Text.replaceAll_nil (token_ne_nil id)
  | cons segment rest ih =>
      rw [resolved_cons, resolved_cons, ← ih]
      rcases clear_or_reference hnames hid segment rest with ⟨hclear, hsome⟩ | ⟨plain, rfl, hnone⟩
      · rw [hclear.replaceAll_append (token_ne_nil id), resolved_withName hsome]
      · rw [resolved_reference hnone, Text.replaceAll_append (token_ne_nil id), Segment.resolved,
          withName, hnone, Option.none_or, if_pos rfl]

/-- The tokens of an id are those of its references, as long as these are not resolved. -/
theorem token_infix_resolved_iff (hnames : PlainNames name?) {id : Text}
    (hid : .char '\x7d' ∉ id.toList) (formula : Formula) :
    token id <:+: resolved name? formula ↔ id ∈ references formula ∧ name? id = none := by
  induction formula with
  | nil => simp [resolved, references, token_ne_nil]
  | cons segment rest ih =>
      have hreferences :
          id ∈ references (segment :: rest) ↔ id ∈ segment.id? ∨ id ∈ references rest := by
        rw [references, List.filterMap_cons]
        cases segment.id? <;> simp [references, eq_comm]
      rw [resolved_cons, hreferences]
      rcases clear_or_reference hnames hid segment rest with ⟨hclear, hsome⟩ | ⟨plain, rfl, hnone⟩
      · rw [hclear.infix_append_iff, ih]
        constructor
        · intro h
          exact ⟨.inr h.1, h.2⟩
        · rintro ⟨hmem | hmem, hname⟩
          · exact absurd (hsome hmem) (by simp [hname])
          · exact ⟨hmem, hname⟩
      · rw [resolved_reference hnone]
        exact iff_of_true (List.prefix_append _ _).isInfix ⟨.inl rfl, hnone⟩

/-- The scan finds the references that are not resolved, in their order. -/
theorem idsSkipping_resolved (hnames : PlainNames name?) (formula : Formula) :
    idsSkipping 0 (resolved name? formula) =
      (references formula).filter fun id => (name? id).isNone := by
  induction formula with
  | nil => rfl
  | cons segment rest ih =>
      rw [resolved_cons]
      rcases segment_cases hnames segment with ⟨hplain, hsome⟩ | ⟨other, plain, rfl, hnone⟩
      · rw [idsSkipping_clear_append (clear_of_plain hplain (head?_resolved hnames rest)), ih,
          references, references, List.filterMap_cons]
        cases hid : segment.id? with
        | none => rfl
        | some id =>
            have hresolved := hsome id hid
            rw [List.filter_cons_of_neg (by simpa [Option.isSome_iff_ne_none] using hresolved)]
      · have hreferences :
            references (.reference other plain :: rest) = other :: references rest := rfl
        rw [resolved_reference hnone, idsSkipping_token_append plain.2, ih, hreferences,
          List.filter_cons_of_pos (by rw [hnone]; rfl)]

/-- All replacements together are one substitution, and they report the ids that were met. -/
theorem resolveChars_resolved {names : List (Text × Text)}
    (hids : ∀ entry ∈ names, .char '\x7d' ∉ entry.1.toList)
    (hplain : ∀ entry ∈ names, .char '\x7b' ∉ entry.2.toList) (hnames : PlainNames name?)
    (formula : Formula) :
    (resolveChars names (resolved name? formula)).1 =
        resolved (fun id => (name? id).or (names.lookup id)) formula ∧
      ∀ id, id ∈ (resolveChars names (resolved name? formula)).2 ↔
        id ∈ names.map Prod.fst ∧ id ∈ references formula ∧ name? id = none := by
  induction names generalizing name? with
  | nil => simp [resolveChars]
  | cons entry rest ih =>
      obtain ⟨first, name⟩ := entry
      have hfirst := hids _ List.mem_cons_self
      have hlater : PlainNames (withName name? first name) :=
        hnames.withName (hplain _ List.mem_cons_self)
      obtain ⟨htext, hmem⟩ := ih (fun e he => hids e (List.mem_cons_of_mem _ he))
        (fun e he => hplain e (List.mem_cons_of_mem _ he)) hlater
      rw [resolveChars_cons, replaceAll_resolved hnames hfirst]
      constructor
      · rw [htext]
        congr 1
        funext id
        rw [withName, lookup_entry, Option.or_assoc]
        congr 1
        split <;> rfl
      · intro id
        have hoccurs := token_infix_resolved_iff hnames hfirst formula
        simp only [← Text.occursIn_iff] at hoccurs
        have hhead : id ∈ (if Text.occursIn (token first) (resolved name? formula) = true then
            first :: (resolveChars rest (resolved (withName name? first name) formula)).2
            else (resolveChars rest (resolved (withName name? first name) formula)).2) ↔
            (id = first ∧ first ∈ references formula ∧ name? first = none) ∨
              id ∈ rest.map Prod.fst ∧ id ∈ references formula ∧
                (name? id = none ∧ id ≠ first) := by
          rw [← withName_eq_none_iff, ← hmem, ← hoccurs]
          split <;> simp [*]
        simp only [hhead, List.map_cons, List.mem_cons]
        by_cases hsame : id = first
        · subst hsame
          simp
        · simp [hsame]

/-- The ids that were met come in the order of the names, if these have pairwise different ids. -/
theorem ids_resolveChars_resolved {names : List (Text × Text)}
    (hids : ∀ entry ∈ names, .char '\x7d' ∉ entry.1.toList)
    (hplain : ∀ entry ∈ names, .char '\x7b' ∉ entry.2.toList) (hnodup : (names.map Prod.fst).Nodup)
    (hnames : PlainNames name?) (formula : Formula) :
    (resolveChars names (resolved name? formula)).2 =
      (names.map Prod.fst).filter fun id => id ∈ references formula ∧ name? id = none := by
  induction names generalizing name? with
  | nil => rfl
  | cons entry rest ih =>
      obtain ⟨first, name⟩ := entry
      obtain ⟨hhead, hrest⟩ := List.nodup_cons.1 hnodup
      have hfirst := hids _ List.mem_cons_self
      have hlater : PlainNames (withName name? first name) :=
        hnames.withName (hplain _ List.mem_cons_self)
      have hmet := ih (fun e he => hids e (List.mem_cons_of_mem _ he))
        (fun e he => hplain e (List.mem_cons_of_mem _ he)) hrest hlater
      -- the later ids are all different from this one, so its name makes no difference to them
      have hsame : (rest.map Prod.fst).filter (fun id => id ∈ references formula ∧
            withName name? first name id = none) =
          (rest.map Prod.fst).filter fun id => id ∈ references formula ∧ name? id = none := by
        refine List.filter_congr fun id hid => ?_
        have hne : id ≠ first := fun heq => hhead (heq ▸ hid)
        simp [withName_eq_none_iff, hne]
      have hoccurs := token_infix_resolved_iff hnames hfirst formula
      rw [← Text.occursIn_iff] at hoccurs
      rw [resolveChars_cons, replaceAll_resolved hnames hfirst]
      simp only [hmet, hsame, List.map_cons, List.filter_cons, hoccurs, decide_eq_true_eq]

theorem plainNames_none : PlainNames fun _ => none := fun _ _ h => nomatch h

theorem references_eq_idsSkipping (formula : Formula) :
    references formula = idsSkipping 0 (chars formula) := by
  have hscan := idsSkipping_resolved plainNames_none formula
  rw [resolved_none] at hscan
  simp [hscan]

theorem mem_references_iff {id : Text} (hid : .char '\x7d' ∉ id.toList) (formula : Formula) :
    id ∈ references formula ↔ Text.occursIn (token id) (chars formula) = true := by
  have htoken := token_infix_resolved_iff plainNames_none hid formula
  rw [resolved_none, and_iff_left rfl, ← Text.occursIn_iff] at htoken
  exact htoken.symm

end Formula

namespace Reference

variable {names : OrderedMap Text}

/-- Resolving a formula puts the names of the known ids in the places of their references and leaves
everything else. The ids that it refers to are the known ids among its references, and the others
remain. -/
theorem resolve_formula (hids : ∀ id ∈ names.keys, .char '\x7d' ∉ id.toList)
    (hplain : ∀ name ∈ names.values, .char '\x7b' ∉ name.toList) (formula : Formula) :
    (resolve names (Text.ofList formula.chars)).text =
        Text.ofList (formula.resolved names.get?) ∧
      (∀ id, id ∈ (resolve names (Text.ofList formula.chars)).ids ↔
        id ∈ names.keys ∧ id ∈ formula.references) ∧
      remaining (Text.ofList (formula.resolved names.get?)) =
        (formula.references.filter (· ∉ names.keys)).eraseDups := by
  have hentries : ∀ entry ∈ names.entries, .char '\x7d' ∉ entry.1.toList :=
    fun entry hentry => hids entry.1 (List.mem_map_of_mem hentry)
  have hvalues : ∀ entry ∈ names.entries, .char '\x7b' ∉ entry.2.toList :=
    fun entry hentry => hplain entry.2 (List.mem_map_of_mem hentry)
  obtain ⟨htext, hmem⟩ :=
    Formula.resolveChars_resolved hentries hvalues Formula.plainNames_none formula
  rw [Formula.resolved_none] at htext hmem
  have hnames : Formula.PlainNames names.get? := by
    intro id name hname
    exact hplain name (OrderedMap.mem_values.2 ⟨id, hname⟩)
  refine ⟨?_, ?_, ?_⟩
  · rw [resolve, Text.toList_ofList]
    exact congrArg Text.ofList htext
  · intro id
    rw [resolve, Text.toList_ofList]
    exact (hmem id).trans (and_congr_right fun _ => and_iff_left rfl)
  · rw [remaining, Text.toList_ofList, Formula.idsSkipping_resolved hnames]
    congr 2
    funext id
    cases hname : names.get? id <;> simp [OrderedMap.mem_keys, hname]

theorem ids_resolve_formula (hids : ∀ id ∈ names.keys, .char '\x7d' ∉ id.toList)
    (hplain : ∀ name ∈ names.values, .char '\x7b' ∉ name.toList) (formula : Formula) :
    (resolve names (Text.ofList formula.chars)).ids =
      names.keys.filter fun id => Text.occursIn (token id) formula.chars := by
  have hmet := Formula.ids_resolveChars_resolved
    (fun entry hentry => hids entry.1 (List.mem_map_of_mem hentry))
    (fun entry hentry => hplain entry.2 (List.mem_map_of_mem hentry)) names.nodup
    Formula.plainNames_none formula
  rw [Formula.resolved_none] at hmet
  rw [resolve, Text.toList_ofList]
  refine hmet.trans (List.filter_congr fun id hid => ?_)
  rw [Bool.eq_iff_iff, decide_eq_true_iff, and_iff_left rfl]
  exact Formula.mem_references_iff (hids id hid) formula

end Reference

end EstimateCompiler
