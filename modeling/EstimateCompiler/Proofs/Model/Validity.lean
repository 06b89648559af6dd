import EstimateCompiler.Proofs.Model.Loading
import Mathlib.Order.Bounds.Basic

/-!
# Which payloads are loaded

The graph of a payload has two lists, each of which may also be absent or null. A payload with such
a graph is loaded exactly if every entry of the two lists is in order, and what is in order can be
said of an entry by itself: which fields it must have, and which values they may have. The model
then has one metric for each entry of the first list and one guesstimate for each of the second, in
the same order.

Otherwise the loading ends at the first entry that is not in order, and the message tells its list
and its index. The metrics are gone through to the end before the first guesstimate is looked at, so
a guesstimate is only reported if all metrics are in order.
-/
namespace EstimateCompiler

namespace Json

/-- The metric of an entry, which has its id and its name as displayed. -/
structure GivesMetric (entry : Json) (metric : Metric) : Prop where
  id : ∃ value, entry.field? "id" = some value ∧ metric.id = value.display
  name : ∃ value, entry.field? "name" = some value ∧ metric.name = value.display

/-- What tells the kind of a guesstimate: the field `guesstimateType` if it is there, whatever its
value is, and else the field `kind`. -/
def kindValue (entry : Json) : Json :=
  match entry.field? "guesstimateType" with
  | some value => value
  | none => entry.fieldOrNull "kind"

/-- The kind of an entry is told in capital or small letters. -/
structure GivesKind (entry : Json) (kind : Kind) : Prop where
  told : entry.kindValue ≠ .null
  word : kind.name = Text.ofList (Text.upper entry.kindValue.display.toList)

/-- Samples are absent, null or a list of numbers. A truth value is no number. -/
inductive GivesData : Option Json → Option (List Number) → Prop where
  | absent : GivesData none none
  | null : GivesData (some .null) none
  | samples (samples : List Number) : GivesData (some (.array (samples.map .number))) (some samples)

structure GivesGuesstimate (entry : Json) (guesstimate : Guesstimate) : Prop where
  metric : ∃ value, entry.field? "metric" = some value ∧ guesstimate.metric = value.display
  kind : entry.GivesKind guesstimate.kind
  expression : guesstimate.expression = (entry.field? "expression").bind Model.displayed
  description : guesstimate.description =
    if (entry.fieldOrNull "description").isVoid then .text "" else entry.fieldOrNull "description"
  data : GivesData (entry.field? "data") guesstimate.data

structure IsGuesstimate (entry : Json) : Prop where
  metric : (entry.field? "metric").isSome = true
  kind : ∃ kind, entry.GivesKind kind
  data : ∃ data, GivesData (entry.field? "data") data

theorem isGuesstimate_iff {entry : Json} :
    entry.IsGuesstimate ↔ ∃ guesstimate, entry.GivesGuesstimate guesstimate := by
  constructor
  · rintro ⟨hmetric, ⟨kind, hkind⟩, data, hdata⟩
    obtain ⟨value, hvalue⟩ := Option.isSome_iff_exists.1 hmetric
    exact ⟨⟨_, kind, _, _, data⟩, ⟨value, hvalue, rfl⟩, hkind, rfl, rfl, hdata⟩
  · rintro ⟨guesstimate, h⟩
    obtain ⟨value, hvalue, -⟩ := h.metric
    exact ⟨by rw [hvalue]; rfl, ⟨_, h.kind⟩, _, h.data⟩

/-- The entries of a list that may be absent or null. -/
inductive Lists : Option Json → List Json → Prop where
  | absent : Lists none []
  | null : Lists (some .null) []
  | array (items : List Json) : Lists (some (.array items)) items

/-- The indices of the entries that are not in order. -/
def offending (P : Json → Prop) (entries : List Json) : Set Nat :=
  {index | ∃ entry, entries[index]? = some entry ∧ ¬ P entry}

theorem zero_mem_offending {P : Json → Prop} {entry : Json} {rest : List Json} :
    0 ∈ offending P (entry :: rest) ↔ ¬ P entry := by
  simp [offending]

theorem succ_mem_offending {P : Json → Prop} {entry : Json} {rest : List Json} {index : Nat} :
    index + 1 ∈ offending P (entry :: rest) ↔ index ∈ offending P rest := by
  simp [offending]

end Json

theorem Kind.ofName?_eq_some_iff {word : Text} {kind : Kind} :
    ofName? word = some kind ↔ kind.name = word := by
  constructor
  · exact name_of_ofName?
  · rintro rfl
    exact ofName?_name kind

/-- The entry that a fault is about, as the message calls it. -/
def ModelFault.subject? : ModelFault → Option Text
  | .invalidJson _ | .payloadNotObject | .graphNotObject => none
  | .metricNotObject i | .metricLacks i _ => some (metricAt i)
  | .guesstimateNotObject i | .guesstimateLacksMetric i | .kindAbsent i | .kindUnknown i _
  | .dataNotList i | .dataNotNumber i _ => some (guesstimateAt i)

theorem exists_complaint {subject text word : Text} (h : text = " " ++ word) :
    ∃ complaint, subject ++ text = subject ++ " " ++ complaint :=
  ⟨word, by rw [h, Text.append_assoc]⟩

theorem exists_complaint_about {subject text word : Text} (h : text = " " ++ word)
    (value : Text) : ∃ complaint, subject ++ text ++ value = subject ++ " " ++ complaint :=
  ⟨word ++ value, by simp only [h, Text.append_assoc]⟩

/-- The message of a fault begins with the entry that it is about. -/
theorem ModelFault.message_of_subject? {fault : ModelFault} {subject : Text}
    (h : fault.subject? = some subject) :
    ∃ complaint, fault.message = subject ++ " " ++ complaint := by
  cases fault with
  | invalidJson | payloadNotObject | graphNotObject => cases h
  | metricNotObject i | guesstimateNotObject i =>
      cases h
      have htext : (" is not an object" : Text) = " " ++ "is not an object" := rfl
      exact exists_complaint htext
  | guesstimateLacksMetric i =>
      cases h
      have htext : (" is missing 'metric'" : Text) = " " ++ "is missing 'metric'" := rfl
      exact exists_complaint htext
  | kindAbsent i =>
      cases h
      have htext : (" has no guesstimateType" : Text) = " " ++ "has no guesstimateType" := rfl
      exact exists_complaint htext
  | dataNotList i =>
      cases h
      have htext : (" data is not a list" : Text) = " " ++ "data is not a list" := rfl
      exact exists_complaint htext
  | metricLacks i name =>
      cases h
      have htext : (" is missing " : Text) = " " ++ "is missing " := rfl
      exact exists_complaint_about htext _
  | kindUnknown i value =>
      cases h
      have htext : (" has unknown guesstimateType " : Text) =
          " " ++ "has unknown guesstimateType " := rfl
      exact exists_complaint_about htext _
  | dataNotNumber i value =>
      cases h
      have htext : (" data contains non-number " : Text) = " " ++ "data contains non-number " := rfl
      exact exists_complaint_about htext _

namespace Model

variable {index : Nat} {entry : Json} {fields : List (Text × Json)}

theorem readMetric_eq_ok_iff {metric : Metric} :
    readMetric index entry = .ok metric ↔ entry.GivesMetric metric := by
  constructor
  · intro h
    unfold readMetric at h
    split at h
    next fields =>
      split at h
      next id name hid hname =>
        cases h
        exact ⟨⟨id, hid, rfl⟩, name, hname, rfl⟩
      all_goals cases h
    next => cases h
  · rintro ⟨⟨id, hid, hidText⟩, name, hname, hnameText⟩
    obtain ⟨fields, rfl, hidField⟩ := Json.exists_object_of_field? hid
    have hnameField : fields.lookup ("name" : Text) = some name := hname
    simp only [readMetric, hidField, hnameField, ← hidText, ← hnameText]

theorem kindValue_object :
    (Json.object fields).kindValue =
      (fields.lookup ("guesstimateType" : Text)).getD
        ((fields.lookup ("kind" : Text)).getD .null) := by
  rw [Json.kindValue, Json.field?]
  cases fields.lookup ("guesstimateType" : Text) <;> rfl

theorem readKind_eq_ok_iff {kind : Kind} :
    readKind index fields = .ok kind ↔ (Json.object fields).GivesKind kind := by
  rw [readKind, ← kindValue_object]
  split
  next hnull => exact iff_of_false nofun fun h => h.told hnull
  next hnull =>
    constructor
    · intro h
      split at h
      next found hfound =>
        cases h
        exact ⟨hnull, Kind.name_of_ofName? hfound⟩
      next => cases h
    · intro h
      rw [Kind.ofName?_eq_some_iff.2 h.word]

theorem readSamples_eq_ok_iff {items : List Json} {samples : List Number} :
    readSamples index items = .ok samples ↔ items = samples.map .number := by
  constructor
  · intro h
    fun_induction readSamples index items generalizing samples with
    | case1 =>
        cases h
        rfl
    | case2 n rest ih =>
        obtain ⟨later, hlater, rfl⟩ := map_eq_ok.1 h
        rw [ih hlater, List.map_cons]
    | case3 => cases h
  · rintro rfl
    induction samples with
    | nil => rfl
    | cons n rest ih =>
        rw [List.map_cons, readSamples, ih]
        rfl

theorem readData_eq_ok_iff {value : Option Json} {data : Option (List Number)} :
    readData index value = .ok data ↔ Json.GivesData value data := by
  constructor
  · intro h
    unfold readData at h
    split at h
    next =>
      cases h
      exact .absent
    next =>
      cases h
      exact .null
    next items =>
      obtain ⟨samples, hsamples, rfl⟩ := map_eq_ok.1 h
      rw [readSamples_eq_ok_iff.1 hsamples]
      exact .samples samples
    next => cases h
  · intro h
    cases h with
    | absent | null => rfl
    | samples samples =>
        rw [readData, readSamples_eq_ok_iff.2 rfl]
        rfl

theorem readGuesstimate_eq_ok_iff {guesstimate : Guesstimate} :
    readGuesstimate index entry = .ok guesstimate ↔ entry.GivesGuesstimate guesstimate := by
  constructor
  · intro h
    unfold readGuesstimate at h
    split at h
    next fields =>
      split at h
      next => cases h
      next metric hmetric =>
        obtain ⟨kind, hkind, h⟩ := bind_eq_ok.1 h
        obtain ⟨data, hdata, h⟩ := bind_eq_ok.1 h
        cases h
        exact ⟨⟨metric, hmetric, rfl⟩, readKind_eq_ok_iff.1 hkind, rfl, rfl,
          readData_eq_ok_iff.1 hdata⟩
    next => cases h
  · intro h
    obtain ⟨id, kind, expression, description, data⟩ := guesstimate
    obtain ⟨⟨metric, hmetric, rfl⟩, hkind, rfl, rfl, hdata⟩ := h
    obtain ⟨fields, rfl, hmetricField⟩ := Json.exists_object_of_field? hmetric
    rw [readGuesstimate]
    simp only [hmetricField]
    exact bind_eq_ok.2 ⟨kind, readKind_eq_ok_iff.2 hkind,
      bind_eq_ok.2 ⟨data, readData_eq_ok_iff.2 hdata, rfl⟩⟩

theorem exists_readGuesstimate_iff (index : Nat) (entry : Json) :
    (∃ guesstimate, readGuesstimate index entry = .ok guesstimate) ↔ entry.IsGuesstimate := by
  simp only [readGuesstimate_eq_ok_iff, Json.isGuesstimate_iff]

theorem subject?_of_readMetric {fault : ModelFault} (h : readMetric index entry = .error fault) :
    fault.subject? = some (metricAt index) := by
  unfold readMetric at h
  split at h
  next fields =>
    split at h
    next => cases h
    all_goals
      cases h
      rfl
  next =>
    cases h
    rfl

theorem subject?_of_readKind {fault : ModelFault} (h : readKind index fields = .error fault) :
    fault.subject? = some (guesstimateAt index) := by
  unfold readKind at h
  split at h
  next =>
    cases h
    rfl
  next =>
    split at h
    next => cases h
    next =>
      cases h
      rfl

theorem subject?_of_readSamples {items : List Json} {fault : ModelFault}
    (h : readSamples index items = .error fault) : fault.subject? = some (guesstimateAt index) := by
  fun_induction readSamples index items with
  | case1 => cases h
  | case2 n rest ih => exact ih (map_eq_error.1 h)
  | case3 =>
      cases h
      rfl

theorem subject?_of_readData {value : Option Json} {fault : ModelFault}
    (h : readData index value = .error fault) : fault.subject? = some (guesstimateAt index) := by
  unfold readData at h
  split at h
  next => cases h
  next => cases h
  next items => exact subject?_of_readSamples (map_eq_error.1 h)
  next =>
    cases h
    rfl

/-- Whatever is wrong in a guesstimate is said about this guesstimate. -/
theorem subject?_of_readGuesstimate {fault : ModelFault}
    (h : readGuesstimate index entry = .error fault) :
    fault.subject? = some (guesstimateAt index) := by
  unfold readGuesstimate at h
  split at h
  next fields =>
    split at h
    next =>
      cases h
      rfl
    next metric hmetric =>
      rcases bind_eq_error.1 h with hkind | ⟨kind, -, h⟩
      · exact subject?_of_readKind hkind
      · rcases bind_eq_error.1 h with hdata | ⟨data, -, h⟩
        · exact subject?_of_readData hdata
        · cases h
  next =>
    cases h
    rfl

variable {α : Type} {readEntry : Nat → Json → Except ModelFault α} {entries : List Json}

theorem forall₂_of_readEntries {R : Json → α → Prop} {values : List α}
    (hread : ∀ index entry value, readEntry index entry = .ok value → R entry value)
    (h : readEntries readEntry index entries = .ok values) : List.Forall₂ R entries values := by
  induction entries generalizing index values with
  | nil =>
      cases h
      exact .nil
  | cons entry rest ih =>
      obtain ⟨value, hvalue, h⟩ := bind_eq_ok.1 h
      obtain ⟨later, hlater, h⟩ := bind_eq_ok.1 h
      cases h
      exact .cons (hread index entry value hvalue) (ih hlater)

/-- The first entry that is not in order decides the fault. -/
theorem isLeast_of_readEntries {P : Json → Prop} {fault : ModelFault}
    (hentry : ∀ index entry, (∃ value, readEntry index entry = .ok value) ↔ P entry)
    (h : readEntries readEntry index entries = .error fault) :
    ∃ place entry, IsLeast (Json.offending P entries) place ∧
      readEntry (index + place) entry = .error fault := by
  induction entries generalizing index with
  | nil => cases h
  | cons entry rest ih =>
      rcases bind_eq_error.1 h with hfirst | ⟨value, hvalue, h⟩
      · have hoffends : ¬ P entry := by
          rw [← hentry index entry, hfirst]
          simp
        exact ⟨0, entry, ⟨Json.zero_mem_offending.2 hoffends, fun _ _ => Nat.zero_le _⟩, hfirst⟩
      · have hrest : readEntries readEntry (index + 1) rest = .error fault := by
          rcases bind_eq_error.1 h with hrest | ⟨values, -, h⟩
          · exact hrest
          · cases h
        obtain ⟨place, found, ⟨hoffends, hleast⟩, hfault⟩ := ih hrest
        refine ⟨place + 1, found, ⟨Json.succ_mem_offending.2 hoffends, fun other hother => ?_⟩, ?_⟩
        · cases other with
          | zero =>
              have horder := (hentry index entry).1 ⟨value, hvalue⟩
              exact absurd horder (Json.zero_mem_offending.1 hother)
          | succ other => exact Nat.succ_le_succ (hleast (Json.succ_mem_offending.1 hother))
        · rwa [Nat.add_right_comm] at hfault

/-- The message tells the first entry that is not in order. -/
theorem first_offence_of_readEntries {P : Json → Prop} {subjectAt : Nat → Text}
    {error : LoadError}
    (hentry : ∀ index entry, (∃ value, readEntry index entry = .ok value) ↔ P entry)
    (hsubject : ∀ {index entry fault}, readEntry index entry = .error fault →
      fault.subject? = some (subjectAt index))
    (h : (readEntries readEntry 0 entries).mapError .malformed = .error error) :
    ∃ fault index complaint, error = .malformed fault ∧ IsLeast (Json.offending P entries) index ∧
      fault.message = subjectAt index ++ " " ++ complaint := by
  obtain ⟨fault, hfault, rfl⟩ := mapError_eq_error.1 h
  obtain ⟨place, entry, hleast, hread⟩ := isLeast_of_readEntries hentry hfault
  rw [Nat.zero_add] at hread
  obtain ⟨complaint, hmessage⟩ := ModelFault.message_of_subject? (hsubject hread)
  exact ⟨fault, place, complaint, rfl, hleast, hmessage⟩

theorem readList_of_lists {value : Option Json} (h : Json.Lists value entries) :
    readList readEntry value = (readEntries readEntry 0 entries).mapError .malformed := by
  cases h <;> rfl

section Payload
variable {payload : Json} {graph : List (Text × Json)} {metrics guesstimates : List Json}
  (url : Option Text) (hgraph : payload.field? "graph" = some (.object graph))
  (hmetrics : Json.Lists (graph.lookup ("metrics" : Text)) metrics)
  (hguesstimates : Json.Lists (graph.lookup ("guesstimates" : Text)) guesstimates)
include hgraph hmetrics hguesstimates

theorem ofPayload_eq_bind :
    ∃ address, ofPayload payload url =
      ((readEntries readMetric 0 metrics).mapError .malformed >>= fun metrics =>
        (readEntries readGuesstimate 0 guesstimates).mapError .malformed >>= fun guesstimates =>
          .ok ⟨address, metrics, guesstimates⟩) := by
  obtain ⟨fields, rfl, hfield⟩ := Json.exists_object_of_field? hgraph
  rw [← readList_of_lists hmetrics, ← readList_of_lists hguesstimates]
  refine ⟨url.getD (((fields.lookup ("url" : Text)).getD (.text "")).display), ?_⟩
  simp only [ofPayload, hfield]
  rfl

theorem readEntries_of_ofPayload {model : Model} (h : ofPayload payload url = .ok model) :
    readEntries readMetric 0 metrics = .ok model.metrics ∧
      readEntries readGuesstimate 0 guesstimates = .ok model.guesstimates := by
  obtain ⟨address, heq⟩ := ofPayload_eq_bind url hgraph hmetrics hguesstimates
  rw [heq] at h
  obtain ⟨readMetrics, hreadMetrics, h⟩ := bind_eq_ok.1 h
  obtain ⟨readGuesstimates, hreadGuesstimates, h⟩ := bind_eq_ok.1 h
  cases h
  exact ⟨mapError_eq_ok.1 hreadMetrics, mapError_eq_ok.1 hreadGuesstimates⟩

theorem exists_ofPayload_iff :
    (∃ model, ofPayload payload url = .ok model) ↔
      (∀ entry ∈ metrics, entry.IsMetric) ∧ ∀ entry ∈ guesstimates, entry.IsGuesstimate := by
  rw [← exists_readEntries_iff exists_readMetric_iff 0,
    ← exists_readEntries_iff exists_readGuesstimate_iff 0]
  constructor
  · rintro ⟨model, h⟩
    have hread := readEntries_of_ofPayload url hgraph hmetrics hguesstimates h
    exact ⟨⟨_, hread.1⟩, _, hread.2⟩
  · rintro ⟨⟨readMetrics, hreadMetrics⟩, readGuesstimates, hreadGuesstimates⟩
    obtain ⟨address, heq⟩ := ofPayload_eq_bind url hgraph hmetrics hguesstimates
    rw [heq]
    exact ⟨_, bind_eq_ok.2 ⟨readMetrics, mapError_eq_ok.2 hreadMetrics,
      bind_eq_ok.2 ⟨readGuesstimates, mapError_eq_ok.2 hreadGuesstimates, rfl⟩⟩⟩

/-- The first offence is told, and that of a guesstimate only if all metrics are in order. -/
theorem first_offence_of_ofPayload {error : LoadError} (h : ofPayload payload url = .error error) :
    ∃ fault index complaint, error = .malformed fault ∧
      (IsLeast (Json.offending Json.IsMetric metrics) index ∧
          fault.message = metricAt index ++ " " ++ complaint ∨
        (∀ entry ∈ metrics, entry.IsMetric) ∧
          IsLeast (Json.offending Json.IsGuesstimate guesstimates) index ∧
          fault.message = guesstimateAt index ++ " " ++ complaint) := by
  obtain ⟨address, heq⟩ := ofPayload_eq_bind url hgraph hmetrics hguesstimates
  rw [heq] at h
  rcases bind_eq_error.1 h with hfailed | ⟨readMetrics, hreadMetrics, h⟩
  · obtain ⟨fault, index, complaint, hfault, hoffence⟩ :=
      first_offence_of_readEntries exists_readMetric_iff subject?_of_readMetric hfailed
    exact ⟨fault, index, complaint, hfault, .inl hoffence⟩
  · have hall := (exists_readEntries_iff exists_readMetric_iff 0 metrics).1
      ⟨readMetrics, mapError_eq_ok.1 hreadMetrics⟩
    rcases bind_eq_error.1 h with hfailed | ⟨readGuesstimates, -, h⟩
    · obtain ⟨fault, index, complaint, hfault, hoffence⟩ :=
        first_offence_of_readEntries exists_readGuesstimate_iff subject?_of_readGuesstimate hfailed
      exact ⟨fault, index, complaint, hfault, .inr ⟨hall, hoffence⟩⟩
    · cases h

end Payload

/-- A payload whose graph has lists of entries is loaded exactly if every entry is in order. The
model then has what the entries give, one by one. Otherwise the payload is malformed, and the
message tells the least index of an entry that is not in order: of a metric, or of a guesstimate if
all metrics are in order. -/
theorem loads_exactly_orderly_entries {payload : Json} {graph : List (Text × Json)}
    {metrics guesstimates : List Json} (url : Option Text)
    (hgraph : payload.field? "graph" = some (.object graph))
    (hmetrics : Json.Lists (graph.lookup ("metrics" : Text)) metrics)
    (hguesstimates : Json.Lists (graph.lookup ("guesstimates" : Text)) guesstimates) :
    ((∃ model, ofPayload payload url = .ok model) ↔
      (∀ entry ∈ metrics, entry.IsMetric) ∧ ∀ entry ∈ guesstimates, entry.IsGuesstimate) ∧
    (∀ model, ofPayload payload url = .ok model →
      List.Forall₂ Json.GivesMetric metrics model.metrics ∧
        List.Forall₂ Json.GivesGuesstimate guesstimates model.guesstimates) ∧
    ∀ error, ofPayload payload url = .error error →
      ∃ fault index complaint, error = .malformed fault ∧
        (IsLeast (Json.offending Json.IsMetric metrics) index ∧
            fault.message = metricAt index ++ " " ++ complaint ∨
          (∀ entry ∈ metrics, entry.IsMetric) ∧
            IsLeast (Json.offending Json.IsGuesstimate guesstimates) index ∧
            fault.message = guesstimateAt index ++ " " ++ complaint) := by
  refine ⟨exists_ofPayload_iff url hgraph hmetrics hguesstimates, fun model h => ?_, fun error h =>
    first_offence_of_ofPayload url hgraph hmetrics hguesstimates h⟩
  have hread := readEntries_of_ofPayload url hgraph hmetrics hguesstimates h
  exact ⟨forall₂_of_readEntries (fun _ _ _ => readMetric_eq_ok_iff.1) hread.1,
    forall₂_of_readEntries (fun _ _ _ => readGuesstimate_eq_ok_iff.1) hread.2⟩

/-- A payload without metrics. -/
def metricless (guesstimates : List Json) : Json :=
  .object [("graph", .object [("guesstimates", .array guesstimates)])]

def sampled : Json :=
  .object [("metric", .text "a"), ("kind", .text "Data"), ("data", .array [.number (.integer 1)])]

/-- A guesstimate whose kind is hidden by a null. -/
def hidden : Json :=
  .object [("metric", .text "b"), ("guesstimateType", .null), ("kind", .text "POINT")]

theorem isGuesstimate_sampled : sampled.IsGuesstimate where
  metric := rfl
  kind := ⟨.data, by decide +kernel, by decide +kernel⟩
  data := ⟨_, .samples [.integer 1]⟩

theorem not_isGuesstimate_hidden : ¬ hidden.IsGuesstimate := by
  intro h
  obtain ⟨kind, hkind⟩ := h.kind
  exact hkind.told rfl

theorem metricless_loads_exactly :
    (∃ model, ofPayload (metricless [sampled]) none = .ok model ∧ model.guesstimates.length = 1) ∧
    ∃ fault complaint,
      ofPayload (metricless [sampled, hidden, .text "c"]) none = .error (.malformed fault) ∧
      fault.message = guesstimateAt 1 ++ " " ++ complaint := by
  have hgraph (guesstimates : List Json) : (metricless guesstimates).field? "graph" =
      some (.object [("guesstimates", .array guesstimates)]) := rfl
  constructor
  · obtain ⟨hloaded, hgives, -⟩ :=
      loads_exactly_orderly_entries none (hgraph [sampled]) .absent (.array [sampled])
    obtain ⟨model, hmodel⟩ := hloaded.2 ⟨by simp, by simp [isGuesstimate_sampled]⟩
    exact ⟨model, hmodel, (hgives model hmodel).2.length_eq.symm⟩
  · obtain ⟨hloaded, -, hoffence⟩ := loads_exactly_orderly_entries none
      (hgraph [sampled, hidden, .text "c"]) .absent (.array [sampled, hidden, .text "c"])
    cases hread : ofPayload (metricless [sampled, hidden, .text "c"]) none with
    | ok model =>
        have hall := (hloaded.1 ⟨model, hread⟩).2
        exact absurd (hall hidden (by simp)) not_isGuesstimate_hidden
    | error error =>
        obtain ⟨fault, index, complaint, rfl, hmetric | ⟨-, hleast, hmessage⟩⟩ :=
          hoffence error hread
        · obtain ⟨entry, hentry, -⟩ := hmetric.1.1
          cases hentry
        · have hle : index ≤ 1 := hleast.2 ⟨hidden, rfl, not_isGuesstimate_hidden⟩
          have hne : index ≠ 0 := by
            rintro rfl
            exact Json.zero_mem_offending.1 hleast.1 isGuesstimate_sampled
          obtain rfl : index = 1 := by omega
          exact ⟨fault, complaint, rfl, hmessage⟩

end Model

end EstimateCompiler
