import EstimateCompiler.Json.Reader
import Mathlib.Data.List.Infix

/-!
# Where the numbers of a value come from

Whatever is read from a text is put together from the literals and texts in it. So what holds of
every text and every literal, and goes over from the parts of an array or object to the whole, holds
of the value that is read. The reader keeps it through all its modes, for the value in hand as for
what is on the stack.

Taken of numbers, this says that every number inside of a value that was read is a literal of the
text: it stands there as a numeral or as a word.
-/
namespace EstimateCompiler.Json

/-- The property holds of texts, and of arrays and objects if it holds of their parts. -/
structure Composes (Q : Json → Prop) : Prop where
  text : ∀ s, Q (.text s)
  array : ∀ items, (∀ v ∈ items, Q v) → Q (.array items)
  object : ∀ fields, (∀ field ∈ fields, Q field.2) → Q (.object fields)

def Frame.Holds (Q : Json → Prop) : Frame → Prop
  | .items done => ∀ v ∈ done, Q v
  | .fields done _ => ∀ field ∈ done, Q field.2

def Mode.Holds (Q : Json → Prop) : Mode → Prop
  | .rest v => Q v
  | .name done | .colon done _ => ∀ field ∈ done, Q field.2
  | .value | .firstItem | .firstName => True

/-- The property holds of all that the reader has read and of all literals ahead. -/
structure Kept (Q : Json → Prop) (stack : List Frame) (mode : Mode) (ts : List Located) : Prop where
  stack : ∀ frame ∈ stack, frame.Holds Q
  mode : mode.Holds Q
  literals : ∀ t ∈ ts, ∀ v, t.token = .literal v → Q v

section Kept
variable {Q : Json → Prop} {stack : List Frame} {mode next : Mode} {t : Located} {ts : List Located}

theorem Kept.goOn (h : Kept Q stack mode (t :: ts)) (hnext : next.Holds Q) : Kept Q stack next ts :=
  ⟨h.stack, hnext, (List.forall_mem_cons.1 h.literals).2⟩

theorem Kept.push (h : Kept Q stack mode (t :: ts)) {frame : Frame} (hframe : frame.Holds Q)
    (hnext : next.Holds Q) : Kept Q (frame :: stack) next ts :=
  ⟨List.forall_mem_cons.2 ⟨hframe, h.stack⟩, hnext, (List.forall_mem_cons.1 h.literals).2⟩

theorem Kept.pop {frame : Frame} (h : Kept Q (frame :: stack) mode ts) :
    frame.Holds Q ∧ Kept Q stack mode ts :=
  have hstack := List.forall_mem_cons.1 h.stack
  ⟨hstack.1, hstack.2, h.mode, h.literals⟩

theorem forall_mem_putEntry {name : Text} {v : Json} {done : List (Text × Json)} (hv : Q v)
    (hdone : ∀ field ∈ done, Q field.2) : ∀ field ∈ putEntry name v done, Q field.2 := by
  induction done with
  | nil => simpa [putEntry] using hv
  | cons first rest ih =>
      obtain ⟨hfirst, hrest⟩ := List.forall_mem_cons.1 hdone
      rw [putEntry]
      split
      next => exact List.forall_mem_cons.2 ⟨hv, hrest⟩
      next => exact List.forall_mem_cons.2 ⟨hfirst, ih hrest⟩

theorem Kept.holds_of_readTokens (hQ : Composes Q) {stop : Nat} {v : Json}
    (hkept : Kept Q stack mode ts) (h : readTokens stop stack mode ts = .ok v) : Q v := by
  have hnoItems : (Frame.items []).Holds Q := fun _ hv => nomatch hv
  have hnoFields : ∀ field ∈ ([] : List (Text × Json)), Q field.2 :=
    fun _ hfield => nomatch hfield
  fun_induction readTokens stop stack mode ts with
  | case1 =>
      cases h
      exact hkept.mode
  | case3 done stack v t ts htoken ih =>
      obtain ⟨hdone, hrest⟩ := hkept.pop
      have hitems : (Frame.items (v :: done)).Holds Q :=
        List.forall_mem_cons.2 ⟨hkept.mode, hdone⟩
      exact ih (hrest.push hitems trivial) h
  | case4 done stack v t ts htoken ih =>
      obtain ⟨hdone, hrest⟩ := hkept.pop
      have hitems : ∀ u ∈ v :: done, Q u := List.forall_mem_cons.2 ⟨hkept.mode, hdone⟩
      have harray := hQ.array (v :: done).reverse fun u hu => hitems u (List.mem_reverse.1 hu)
      exact ih (hrest.goOn harray) h
  | case6 done name stack v t ts htoken ih =>
      obtain ⟨hdone, hrest⟩ := hkept.pop
      exact ih (hrest.goOn (forall_mem_putEntry hkept.mode hdone)) h
  | case7 done name stack v t ts htoken ih =>
      obtain ⟨hdone, hrest⟩ := hkept.pop
      exact ih (hrest.goOn (hQ.object _ (forall_mem_putEntry hkept.mode hdone))) h
  | case10 stack t ts htoken ih => exact ih (hkept.goOn trivial) h
  | case11 stack t ts htoken ih => exact ih (hkept.goOn trivial) h
  | case12 stack t ts s htoken ih => exact ih (hkept.goOn (hQ.text s)) h
  | case13 stack t ts v htoken ih =>
      exact ih (hkept.goOn (hkept.literals t List.mem_cons_self v htoken)) h
  | case15 stack t ts htoken ih => exact ih (hkept.goOn (hQ.array [] hnoItems)) h
  | case16 stack t ts htoken ih => exact ih (hkept.push hnoItems trivial) h
  | case17 stack t ts htoken ih => exact ih (hkept.push hnoItems trivial) h
  | case18 stack t ts s htoken ih => exact ih (hkept.push hnoItems (hQ.text s)) h
  | case19 stack t ts v htoken ih =>
      exact ih (hkept.push hnoItems (hkept.literals t List.mem_cons_self v htoken)) h
  | case21 stack t ts htoken ih => exact ih (hkept.goOn (hQ.object [] hnoFields)) h
  | case22 stack t ts s htoken ih => exact ih (hkept.goOn hnoFields) h
  | case24 stack done t ts s htoken ih => exact ih (hkept.goOn hkept.mode) h
  | case26 stack done name t ts htoken ih => exact ih (hkept.push hkept.mode trivial) h
  | _ => cases h

end Kept

/-- The number is a literal of the text. -/
def IsLiteralOf (text : List Rune) (n : Number) : Prop :=
  ∃ tail length, tail <:+ text ∧ literalAt? tail = some (.number n, length)

theorem literalAt?_of_tokenAt {pos length : Nat} {c : Rune} {cs : List Rune} {v : Json}
    (h : tokenAt pos c cs = (.literal v, length)) : literalAt? (c :: cs) = some (v, length) := by
  unfold tokenAt at h
  split at h
  case h_7 => split at h <;> cases h
  case h_8 =>
    split at h
    next hliteral =>
      cases h
      exact hliteral
    next => cases h
  all_goals cases h

/-- A literal among the tokens of a text is the literal at the start of what is left of the text
there. -/
theorem literal_of_mem_scanFrom {pos skip : Nat} {text : List Rune} {t : Located} {v : Json}
    (h : t ∈ scanFrom pos skip text) (htoken : t.token = .literal v) :
    ∃ tail length, tail <:+ text ∧ literalAt? tail = some (v, length) := by
  fun_induction scanFrom pos skip text with
  | case1 => cases h
  | case2 pos skip c cs ih =>
      obtain ⟨tail, length, htail, hliteral⟩ := ih h
      exact ⟨tail, length, htail.trans (List.suffix_cons c cs), hliteral⟩
  | case3 pos c cs hspace ih =>
      obtain ⟨tail, length, htail, hliteral⟩ := ih h
      exact ⟨tail, length, htail.trans (List.suffix_cons c cs), hliteral⟩
  | case4 pos c cs hspace token length hat hends =>
      obtain rfl := List.mem_singleton.1 h
      cases htoken
      cases hends
  | case5 pos c cs hspace token length hat hends ih =>
      rcases List.mem_cons.1 h with rfl | h
      · cases htoken
        exact ⟨c :: cs, length, List.suffix_rfl, literalAt?_of_tokenAt hat⟩
      · obtain ⟨tail, length, htail, hliteral⟩ := ih h
        exact ⟨tail, length, htail.trans (List.suffix_cons c cs), hliteral⟩

/-- A value is another one or a part of it. -/
inductive Within (inner : Json) : Json → Prop where
  | self : Within inner inner
  | item {v : Json} {items : List Json} (mem : v ∈ items) (inside : Within inner v) :
      Within inner (.array items)
  | field {field : Text × Json} {fields : List (Text × Json)} (mem : field ∈ fields)
      (inside : Within inner field.2) : Within inner (.object fields)

theorem composes_within (P : Number → Prop) :
    Composes fun v => ∀ n, Within (.number n) v → P n where
  text s n h := by cases h
  array items hitems n h := by
    cases h with
    | item mem inside => exact hitems _ mem n inside
  object fields hfields n h := by
    cases h with
    | field mem inside => exact hfields _ mem n inside

def isAtom : Json → Bool
  | .null | .bool _ | .number _ => true
  | .text _ | .array _ | .object _ => false

theorem isAtom_of_literalAt? {text : List Rune} {v : Json} {length : Nat}
    (h : literalAt? text = some (v, length)) : v.isAtom = true := by
  have hwords : ∀ word ∈ words, word.2.isAtom = true := by decide
  unfold literalAt? at h
  split at h
  next hfound =>
    cases h
    exact hwords _ (List.mem_of_find?_eq_some hfound)
  next =>
    obtain ⟨number, -, heq⟩ := Option.map_eq_some_iff.1 h
    cases heq
    rfl

theorem Within.eq_of_isAtom {inner v : Json} (h : Within inner v) (hv : v.isAtom = true) :
    v = inner := by
  cases h with
  | self => rfl
  | item | field => cases hv

/-- Every number inside of a value that was read is a literal of the text. -/
theorem isLiteralOf_of_within {text : List Rune} {v : Json} (h : readChars text = .ok v)
    {n : Number} (hn : Within (.number n) v) : IsLiteralOf text n := by
  unfold readChars at h
  split at h
  next => cases h
  next =>
    have hkept : Kept (fun v => ∀ n, Within (.number n) v → IsLiteralOf text n) [] .value
        (scan text) := by
      refine ⟨fun _ hframe => (nomatch hframe), trivial, ?_⟩
      intro t ht v htoken n hn
      obtain ⟨tail, length, htail, hliteral⟩ := literal_of_mem_scanFrom ht htoken
      rw [hn.eq_of_isAtom (isAtom_of_literalAt? hliteral)] at hliteral
      exact ⟨tail, length, htail, hliteral⟩
    exact hkept.holds_of_readTokens (composes_within _) h n hn

end EstimateCompiler.Json
