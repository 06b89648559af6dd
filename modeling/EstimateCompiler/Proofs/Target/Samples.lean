import EstimateCompiler.Proofs.Decimal.Numeral
import EstimateCompiler.Proofs.Json.Integer
import EstimateCompiler.Proofs.Json.Origin
import EstimateCompiler.Proofs.Model.Validity
import EstimateCompiler.Proofs.Program.Writing
import EstimateCompiler.Proofs.Text.Pieces

/-!
# Samples in a program

A target writes samples as a list in brackets, whose items are separated by commas. The reader of
models reads a list of integers back as it was, whatever their number and their size.

For samples that are not integers the list is one of numerals exactly if all of them are finite. The
reader does not see to that: it takes the words for the numbers that are not finite, and it takes a
numeral that is too large for a number of 64 bits as infinite. Such a sample is written as a word,
which means nothing in the program. These are the only ways to it, since every sample of a model
that was loaded from a text is a literal of this text.
-/
namespace EstimateCompiler

theorem read_samplesText_integers (ns : List Int) :
    Json.read (samplesText (ns.map .integer)) =
      .ok (.array (ns.map fun n => .number (.integer n))) := by
  have hchars : (ns.map Number.integer).map (Number.chars .samples) = ns.map intChars :=
    List.map_map
  rw [Json.read, mapError_eq_ok, samplesText, Text.toList_ofList, hchars]
  exact Json.readChars_integers ns

/-- Integers survive: between the fixed parts of a call, both targets write a text that is read as
the list of the same integers, and this list is taken for samples as it is. -/
theorem Target.integer_samples_survive (ns : List Int) :
    ∃ text,
      (∀ log, squiggle.answer log (.data (ns.map .integer)) = "fromSamples(" ++ text ++ ")") ∧
      (∀ log, python.answer log (.data (ns.map .integer)) = "np.array(" ++ text ++ ")") ∧
      Json.read text = .ok (.array (ns.map fun n => .number (.integer n))) ∧
      ∀ index, Model.readData index (some (.array (ns.map fun n => .number (.integer n)))) =
        .ok (some (ns.map .integer)) := by
  refine ⟨samplesText (ns.map .integer), fun _ => rfl, fun _ => rfl, read_samplesText_integers ns,
    fun index => ?_⟩
  have hgiven := Json.GivesData.samples (ns.map Number.integer)
  rw [List.map_map] at hgiven
  exact Model.readData_eq_ok_iff.2 hgiven

theorem items_samples (samples : List Number) :
    Text.items ([.char ','].intercalate (samples.map (Number.chars .samples))) =
      samples.map (Number.chars .samples) := by
  rw [Text.items, Text.pieces_intercalate (List.forall_mem_map.2 fun n _ => sample_ne_nil n),
    List.flatMap_map]
  have hsingle : ∀ n ∈ samples, (n.chars .samples).splitOn (.char ',') = [n.chars .samples] :=
    fun n _ => List.splitOn_eq_singleton (not_mem_sample (by decide) (by decide) n)
  rw [List.flatMap_congr hsingle, List.map_eq_flatMap]

namespace Json

theorem chars_of_mem_words {word : List Rune} {n : Number} (h : (word, .number n) ∈ words) :
    word = n.chars .samples := by
  simp only [words, List.mem_cons, Prod.mk.injEq, reduceCtorEq, and_false, number.injEq,
    List.not_mem_nil, false_or, or_false] at h
  rcases h with ⟨rfl, rfl⟩ | ⟨rfl, rfl⟩ | ⟨rfl, rfl⟩ <;> decide +kernel

/-- A number is read from its word or from a numeral. -/
theorem word_or_numeral_of_literalAt? {tail : List Rune} {n : Number} {length : Nat}
    (h : literalAt? tail = some (.number n, length)) :
    n.chars .samples <+: tail ∨ numberAt? tail = some (n, length) := by
  unfold literalAt? at h
  split at h
  next word value hfound =>
    have hprefix := List.find?_some hfound
    have hlisted := List.mem_of_find?_eq_some hfound
    cases h
    rw [← chars_of_mem_words hlisted]
    exact .inl (List.isPrefixOf_iff_prefix.1 hprefix)
  next =>
    obtain ⟨⟨m, length⟩, hnumber, heq⟩ := Option.map_eq_some_iff.1 h
    cases heq
    exact .inr hnumber

theorem Within.of_field? {inner value field : Json} {key : Text}
    (hfield : value.field? key = some field) (h : Within inner field) : Within inner value := by
  obtain ⟨fields, rfl, hlookup⟩ := exists_object_of_field? hfield
  obtain ⟨before, behind, rfl, -⟩ := List.lookup_eq_some_iff.1 hlookup
  exact .field List.mem_append_cons_self h

theorem GivesGuesstimate.within {entry : Json} {guesstimate : Guesstimate} {samples : List Number}
    {n : Number} (h : entry.GivesGuesstimate guesstimate) (hdata : guesstimate.data = some samples)
    (hn : n ∈ samples) : Within (.number n) entry := by
  have hgiven := h.data
  rw [hdata] at hgiven
  generalize hfield : entry.field? "data" = field at hgiven
  cases hgiven with
  | samples => exact .of_field? hfield (.item (List.mem_map_of_mem hn) .self)

end Json

namespace Model

variable {payload : Json} {url : Option Text} {model : Model}

theorem exists_item_of_readList {value : Option Json} {guesstimates : List Guesstimate}
    (h : readList readGuesstimate value = .ok guesstimates) {guesstimate : Guesstimate}
    (hmem : guesstimate ∈ guesstimates) :
    ∃ items entry, value = some (.array items) ∧ entry ∈ items ∧
      entry.GivesGuesstimate guesstimate := by
  unfold readList at h
  split at h
  next => cases h
  next entries hentries =>
    have hread := forall₂_of_readEntries (R := Json.GivesGuesstimate)
      (fun _ _ _ => readGuesstimate_eq_ok_iff.1) (mapError_eq_ok.1 h)
    have hlisted := (value.getD .null).listed_entries
    rw [hentries] at hlisted
    generalize hgiven : value.getD .null = given at hlisted
    cases hlisted with
    | void =>
        cases hread
        cases hmem
    | words =>
        cases hread with
        | cons hfirst hrest =>
            obtain ⟨metric, hmetric, -⟩ := hfirst.metric
            cases hmetric
    | array =>
        obtain ⟨i, rfl⟩ := List.get_of_mem hmem
        have hi : i.1 < entries.length := Nat.lt_of_lt_of_eq i.2 hread.length_eq.symm
        refine ⟨entries, entries.get ⟨i, hi⟩, ?_, List.get_mem _ _, hread.get hi i.2⟩
        cases value with
        | none => cases hgiven
        | some given => exact congrArg some hgiven

theorem within_of_ofPayload (h : ofPayload payload url = .ok model) {guesstimate : Guesstimate}
    (hmem : guesstimate ∈ model.guesstimates) {samples : List Number}
    (hdata : guesstimate.data = some samples) {n : Number} (hn : n ∈ samples) :
    Json.Within (.number n) payload := by
  unfold ofPayload at h
  split at h
  next fields =>
    split at h
    next graph hgraph =>
      obtain ⟨metrics, -, h⟩ := bind_eq_ok.1 h
      obtain ⟨guesstimates, hguesstimates, h⟩ := bind_eq_ok.1 h
      cases h
      obtain ⟨items, entry, hitems, hentry, hgives⟩ := exists_item_of_readList hguesstimates hmem
      have hgraphField : (Json.object fields).field? "graph" = some (.object graph) := hgraph
      have hitemsField : (Json.object graph).field? "guesstimates" = some (.array items) := hitems
      exact .of_field? hgraphField (.of_field? hitemsField
        (.item hentry (hgives.within hdata hn)))
    next => cases h
  next => cases h

/-- Every sample of a model is a literal of the text that the model was loaded from. -/
theorem isLiteralOf_of_ofText {text : Text} (h : ofText text url = .ok model)
    {guesstimate : Guesstimate} (hmem : guesstimate ∈ model.guesstimates) {samples : List Number}
    (hdata : guesstimate.data = some samples) {n : Number} (hn : n ∈ samples) :
    Json.IsLiteralOf text.toList n := by
  unfold ofText at h
  split at h
  next => cases h
  next payload hread =>
    exact Json.isLiteralOf_of_within (mapError_eq_ok.1 hread)
      (within_of_ofPayload h hmem hdata hn)

end Model

namespace Target

theorem code_samples {node : Node} {samples : List Number} (hkind : node.kind = .data)
    (hdata : node.data = some samples) (log : List Call) :
    ((python.write node).run log).1.code =
      some ("np.array([" ++
        Text.ofList ([.char ','].intercalate (samples.map (Number.chars .samples))) ++ "])") := by
  have hcall : node.call = .ok (some (.data samples)) := by
    simp only [Node.call, hkind, hdata]
  simp only [write_run, written, hcall, python_answer, Python.answer, Call.code, Call.dropsEmpty,
    Bool.false_and, Bool.false_eq_true, if_false, Option.some.injEq]
  have hsamples : samplesText samples =
      "[" ++ Text.ofList ([.char ','].intercalate (samples.map (Number.chars .samples))) ++ "]" :=
    Text.toList_injective (by simp [samplesText])
  have hfront : ("np.array([" : Text) = "np.array(" ++ "[" := rfl
  have hback : ("])" : Text) = "]" ++ ")" := rfl
  rw [hsamples, hfront, hback]
  simp only [Text.append_assoc]

/-- Of a model that was loaded from a text, the samples of a node are written as numerals exactly if
all of them are finite. Each of them stands in the text, as a numeral or by its word. -/
theorem samples_numerals_iff_finite {text : Text} {url : Option Text} {model : Model}
    {settings : Settings} {reserved : List Text} {nodes : NodeMap}
    (hmodel : Model.ofText text url = .ok model)
    (hnodes : NodeMap.ofModel model settings reserved = .ok nodes) {id : Text} {node : Node}
    (hnode : nodes.get? id = some node) (hkind : node.kind = .data) {samples : List Number}
    (hdata : node.data = some samples) (log : List Call) :
    (∃ list,
      ((python.write node).run log).1.code = some ("np.array([" ++ Text.ofList list ++ "])") ∧
      (Text.items list).length = samples.length ∧
      ((∀ item ∈ Text.items list, IsNumeral item) ↔ ∀ n ∈ samples, n.isFinite = true)) ∧
    ∀ n ∈ samples, ∃ tail, tail <:+ text.toList ∧
      (n.chars .samples <+: tail ∨ ∃ length, Json.numberAt? tail = some (n, length)) := by
  constructor
  · refine ⟨_, code_samples hkind hdata log, ?_, ?_⟩
    · rw [items_samples, List.length_map]
    · rw [items_samples, List.forall_mem_map]
      exact forall₂_congr fun n _ => isNumeral_sample_iff n
  · intro n hn
    obtain ⟨guesstimate, metric, hlast, hmake⟩ := NodeMap.guesstimate?_of_get?_ofModel hnodes hnode
    have hmem : guesstimate ∈ model.guesstimates :=
      List.mem_reverse.1 (List.mem_of_find?_eq_some hlast)
    have hgiven : guesstimate.data = some samples := by
      rw [← hdata, hmake]
      rfl
    obtain ⟨tail, length, htail, hliteral⟩ := Model.isLiteralOf_of_ofText hmodel hmem hgiven hn
    have hstands := Json.word_or_numeral_of_literalAt? hliteral
    exact ⟨tail, htail, hstands.imp_right fun hnumeral => ⟨length, hnumeral⟩⟩

/-- The text of a model with one node, which has the samples. -/
def sampledText (samples : Text) : Text :=
  "\x7b\"url\":\"u\",\"graph\":\x7b\"metrics\":[\x7b\"id\":\"d\",\"name\":\"D\"\x7d]," ++
    "\"guesstimates\":[\x7b\"metric\":\"d\",\"guesstimateType\":\"DATA\",\"data\":" ++ samples ++
    "\x7d]\x7d\x7d"

def sampledModel (samples : List Number) : Model where
  url := "u"
  metrics := [⟨"d", "D"⟩]
  guesstimates := [⟨"d", .data, none, .text "", some samples⟩]

def sampledNode (samples : List Number) : Node :=
  .make ⟨"d", "D"⟩ ⟨"d", .data, none, .text "", some samples⟩ "d"

/-- An integer, a fraction and a number with an exponent. -/
def mixed : List Number := [
  .integer 1, .real (.finite true 5629499534213120 (-51)),
  .real (.finite false 4768371582031250 21)]

theorem mixed_samples_numerals :
    ∃ model nodes node list,
      Model.ofText (sampledText "[1, -2.50, 10e21]") none = .ok model ∧
      NodeMap.ofModel model .standard python.reserved = .ok nodes ∧
      nodes.get? "d" = some node ∧ node.kind = .data ∧ node.data = some mixed ∧
      ((python.write node).run []).1.code = some ("np.array([" ++ Text.ofList list ++ "])") ∧
      (Text.items list).length = 3 ∧ ∀ item ∈ Text.items list, IsNumeral item := by
  obtain ⟨model, hmodel, rfl⟩ : ∃ model,
      Model.ofText (sampledText "[1, -2.50, 10e21]") none = .ok model ∧
      model = sampledModel mixed :=
    exists_ok_of_any (by decide +kernel)
  obtain ⟨nodes, hnodes, hnode⟩ : ∃ nodes,
      NodeMap.ofModel (sampledModel mixed) .standard python.reserved = .ok nodes ∧
      nodes.get? "d" = some (sampledNode mixed) :=
    exists_ok_of_any (by decide +kernel)
  obtain ⟨⟨list, hcode, hlength, hnumerals⟩, -⟩ :=
    samples_numerals_iff_finite hmodel hnodes hnode rfl rfl []
  exact ⟨_, nodes, _, list, hmodel, hnodes, hnode, rfl, rfl, hcode, hlength,
    hnumerals.2 (by decide)⟩

/-- A numeral that is too large is written as a word, which is no numeral. -/
theorem overflowing_sample_no_numeral :
    ∃ model nodes node,
      Model.ofText (sampledText "[1,1e999]") none = .ok model ∧
      NodeMap.ofModel model .standard python.reserved = .ok nodes ∧
      nodes.get? "d" = some node ∧ node.kind = .data ∧
      ((python.write node).run []).1.code = some "np.array([1,Infinity])" ∧
      ¬ ∀ item ∈ Text.items ("1,Infinity" : Text).toList, IsNumeral item := by
  obtain ⟨model, hmodel, rfl⟩ : ∃ model,
      Model.ofText (sampledText "[1,1e999]") none = .ok model ∧
      model = sampledModel [.integer 1, .real (.infinite false)] :=
    exists_ok_of_any (by decide +kernel)
  obtain ⟨nodes, hnodes, hnode⟩ : ∃ nodes, NodeMap.ofModel
      (sampledModel [.integer 1, .real (.infinite false)]) .standard python.reserved = .ok nodes ∧
      nodes.get? "d" = some (sampledNode [.integer 1, .real (.infinite false)]) :=
    exists_ok_of_any (by decide +kernel)
  have hword : ("Infinity" : Text).toList ∈ Text.items ("1,Infinity" : Text).toList := by
    decide +kernel
  refine ⟨_, nodes, _, hmodel, hnodes, hnode, rfl, by decide +kernel, fun hnumerals => ?_⟩
  have hletter := (hnumerals _ hword).isNumeralChar_of_mem (by decide +kernel : .char 'I' ∈ _)
  exact absurd hletter (by decide)

end Target

end EstimateCompiler
