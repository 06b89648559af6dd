import EstimateCompiler.Model.Payload
import EstimateCompiler.Proofs.Graph.Extraction

/-!
# Payloads that cannot be gone through

A payload is loaded or found malformed, with one exception: a list of entries may be given by a
number other than zero or by the truth value true, neither of which has entries or counts as
nothing. This is found out when the entries are asked for, so a scalar in place of the guesstimates
shows only behind metrics in which nothing is wrong.
-/
namespace EstimateCompiler

namespace Json

/-- The values that have no entries and do not count as nothing, with their sorts. -/
inductive Scalar : Json → ScalarSort → Prop where
  | truth : Scalar (.bool true) .truth
  | integer {n : Int} (nonzero : n ≠ 0) : Scalar (.number (.integer n)) .integer
  | real {x : Binary64} (nonzero : x.isZero = false) : Scalar (.number (.real x)) .real

theorem Scalar.isVoid_eq_false {value : Json} {sort : ScalarSort} (h : value.Scalar sort) :
    value.isVoid = false := by
  cases h with
  | truth => rfl
  | integer nonzero => exact beq_eq_false_iff_ne.2 nonzero
  | real nonzero => exact nonzero

/-- What can come of asking a value for its entries. -/
inductive Listed : Json → Except ScalarSort (List Json) → Prop where
  | void {value : Json} (isVoid : value.isVoid = true) : Listed value (.ok [])
  | scalar {value : Json} {sort : ScalarSort} (scalar : value.Scalar sort) :
      Listed value (.error sort)
  | array (items : List Json) : Listed (.array items) (.ok items)
  /-- the characters of a text, or the names of an object -/
  | words {value : Json} {first : Text} {rest : List Json} (full : value.isVoid = false)
      (other : ∀ items, value ≠ .array items) : Listed value (.ok (.text first :: rest))

theorem listed_entries (value : Json) : Listed value value.entries := by
  cases value with
  | null => exact .void rfl
  | bool b =>
      cases b with
      | false => exact .void rfl
      | true => exact .scalar .truth
  | number n =>
      simp only [entries]
      split
      next hzero => exact .void hzero
      next hnonzero =>
        rw [Bool.not_eq_true] at hnonzero
        cases n with
        | integer n => exact .scalar (.integer (beq_eq_false_iff_ne.1 hnonzero))
        | real x => exact .scalar (.real hnonzero)
  | array items => exact .array items
  | text s =>
      cases hchars : s.toList with
      | nil =>
          obtain rfl := Text.toList_eq_nil_iff.1 hchars
          exact .void rfl
      | cons c cs =>
          rw [entries, hchars]
          refine .words ?_ (by simp)
          rw [isVoid, Bool.eq_false_iff, ne_eq, Text.isEmpty_iff, ← Text.toList_eq_nil_iff, hchars]
          exact List.cons_ne_nil c cs
  | object fields =>
      cases fields with
      | nil => exact .void rfl
      | cons field rest => exact .words rfl (by simp)

theorem entries_eq_error_iff {value : Json} {sort : ScalarSort} :
    value.entries = .error sort ↔ value.Scalar sort := by
  constructor
  · intro h
    have hlisted := value.listed_entries
    rw [h] at hlisted
    cases hlisted with
    | scalar scalar => exact scalar
  · intro h
    cases h with
    | truth => rfl
    | integer nonzero => exact if_neg (by simpa [Number.isZero] using nonzero)
    | real nonzero => exact if_neg (by simpa [Number.isZero] using nonzero)

/-- A metric has an id and a name, whatever these are. -/
def IsMetric (entry : Json) : Prop :=
  (entry.field? "id").isSome = true ∧ (entry.field? "name").isSome = true

def IsMetrics (value : Json) : Prop :=
  value.isVoid = true ∨ ∃ items, value = .array items ∧ ∀ entry ∈ items, entry.IsMetric

theorem not_isMetric_text (s : Text) : ¬ (Json.text s).IsMetric := fun h => by cases h.1

def fieldOrNull (value : Json) (key : Text) : Json := (value.field? key).getD .null

theorem exists_object_of_field? {value field : Json} {key : Text}
    (h : value.field? key = some field) :
    ∃ fields, value = .object fields ∧ fields.lookup key = some field := by
  cases value with
  | object fields => exact ⟨fields, rfl, h⟩
  | null | bool | number | text | array => cases h

theorem Scalar.exists_object {value : Json} {key : Text} {sort : ScalarSort}
    (h : (value.fieldOrNull key).Scalar sort) : ∃ fields, value = .object fields := by
  cases value with
  | object fields => exact ⟨fields, rfl⟩
  | null | bool | number | text | array => cases h

/-- A scalar stands where the entries of a list are asked for. -/
inductive Unlistable (payload : Json) (sort : ScalarSort) : Prop where
  | metrics {graph : Json} (inner : payload.field? "graph" = some graph)
      (scalar : (graph.fieldOrNull "metrics").Scalar sort)
  | guesstimates {graph : Json} (inner : payload.field? "graph" = some graph)
      (before : (graph.fieldOrNull "metrics").IsMetrics)
      (scalar : (graph.fieldOrNull "guesstimates").Scalar sort)

end Json

namespace Model

variable {α : Type} {readEntry : Nat → Json → Except ModelFault α} {sort : ScalarSort}

theorem exists_readMetric_iff (index : Nat) (entry : Json) :
    (∃ metric, readMetric index entry = .ok metric) ↔ entry.IsMetric := by
  cases entry with
  | object fields =>
      simp only [readMetric, Json.IsMetric, Json.field?]
      cases fields.lookup ("id" : Text) <;> cases fields.lookup ("name" : Text) <;> simp
  | null | bool | number | text | array => simp [readMetric, Json.IsMetric, Json.field?]

theorem exists_readEntries_iff {P : Json → Prop}
    (hentry : ∀ index entry, (∃ value, readEntry index entry = .ok value) ↔ P entry)
    (index : Nat) (entries : List Json) :
    (∃ values, readEntries readEntry index entries = .ok values) ↔ ∀ entry ∈ entries, P entry := by
  induction entries generalizing index with
  | nil => simp [readEntries]
  | cons entry rest ih =>
      rw [List.forall_mem_cons, ← hentry index entry, ← ih (index + 1)]
      constructor
      · rintro ⟨values, h⟩
        obtain ⟨value, hvalue, h⟩ := bind_eq_ok.1 h
        obtain ⟨later, hlater, -⟩ := bind_eq_ok.1 h
        exact ⟨⟨value, hvalue⟩, later, hlater⟩
      · rintro ⟨⟨value, hvalue⟩, later, hlater⟩
        exact ⟨value :: later, bind_eq_ok.2 ⟨value, hvalue, bind_eq_ok.2 ⟨later, hlater, rfl⟩⟩⟩

theorem readList_eq_notIterable_iff {value : Option Json} :
    readList readEntry value = .error (.notIterable sort) ↔ (value.getD .null).Scalar sort := by
  rw [← Json.entries_eq_error_iff, readList]
  cases (value.getD .null).entries with
  | error found => simp
  | ok entries => simp

theorem exists_readMetrics_iff {value : Option Json} :
    (∃ metrics, readList readMetric value = .ok metrics) ↔ (value.getD .null).IsMetrics := by
  rw [readList]
  generalize value.getD .null = given
  have hlisted := given.listed_entries
  generalize given.entries = listed at hlisted ⊢
  have hread := exists_readEntries_iff exists_readMetric_iff 0
  simp only [Json.IsMetrics]
  cases hlisted with
  | void isVoid => simpa [isVoid] using hread []
  | scalar scalar =>
      have hfull := scalar.isVoid_eq_false
      cases scalar <;> simp [hfull]
  | array items =>
      simp only [mapError_eq_ok, hread, Json.array.injEq, exists_eq_left']
      cases items with
      | nil => simp
      | cons item rest => simp [Json.isVoid]
  | words full other =>
      simp [hread, full, other, Json.not_isMetric_text]

/-- A payload is neither loaded nor found malformed exactly if a scalar stands for a list. -/
theorem ofPayload_eq_notIterable_iff {payload : Json} (url : Option Text) :
    ofPayload payload url = .error (.notIterable sort) ↔ payload.Unlistable sort := by
  constructor
  · intro h
    unfold ofPayload at h
    split at h
    next fields =>
      split at h
      next graph hgraph =>
        rcases bind_eq_error.1 h with hmetrics | ⟨metrics, hmetrics, h⟩
        · exact .metrics hgraph (readList_eq_notIterable_iff.1 hmetrics)
        · rcases bind_eq_error.1 h with hguesstimates | ⟨_, _, h⟩
          · exact .guesstimates hgraph (exists_readMetrics_iff.1 ⟨metrics, hmetrics⟩)
              (readList_eq_notIterable_iff.1 hguesstimates)
          · cases h
      next => cases h
    next => cases h
  · intro h
    cases h with
    | metrics inner scalar =>
        obtain ⟨graph, rfl⟩ := scalar.exists_object
        obtain ⟨fields, rfl, hgraph⟩ := Json.exists_object_of_field? inner
        simp only [ofPayload, hgraph]
        exact bind_eq_error.2 (.inl (readList_eq_notIterable_iff.2 scalar))
    | guesstimates inner before scalar =>
        obtain ⟨graph, rfl⟩ := scalar.exists_object
        obtain ⟨fields, rfl, hgraph⟩ := Json.exists_object_of_field? inner
        obtain ⟨metrics, hmetrics⟩ := exists_readMetrics_iff.2 before
        simp only [ofPayload, hgraph]
        exact bind_eq_error.2 (.inr ⟨metrics, hmetrics,
          bind_eq_error.2 (.inl (readList_eq_notIterable_iff.2 scalar))⟩)

theorem ofText_eq_notIterable_iff {text : Text} (url : Option Text) :
    ofText text url = .error (.notIterable sort) ↔
      ∃ payload, Json.read text = .ok payload ∧ payload.Unlistable sort := by
  rw [ofText]
  cases Json.read text with
  | error e => simp
  | ok payload => simp [ofPayload_eq_notIterable_iff url]

end Model

end EstimateCompiler
