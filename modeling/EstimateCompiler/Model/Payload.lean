import EstimateCompiler.Json.Reader
import EstimateCompiler.Model.Basic
import EstimateCompiler.Text.LetterCase

/-!
# Models from JSON

A payload is an object with a field `graph`, an object whose fields `metrics` and `guesstimates`
hold the entries of the model. All metrics are read before all guesstimates, and the first entry
that is at fault decides the error, with its index. Ids, names and expressions may be any values:
they are taken as displayed.

A list of entries that counts as nothing is empty. The entries of an object are its names and those
of a text its characters, so both are at fault at their first entry. Any other value that is not a
list cannot be gone through at all, which is an error of its own.
-/
namespace EstimateCompiler

inductive ScalarSort where
  | integer
  | real
  | truth
  deriving DecidableEq, Repr

def ScalarSort.noun : ScalarSort → Text
  | .integer => "int"
  | .real => "float"
  | .truth => "bool"

inductive ModelFault where
  | invalidJson (error : Json.ReadError)
  | payloadNotObject
  | graphNotObject
  | metricNotObject (index : Nat)
  | metricLacks (index : Nat) (name : Text)
  | guesstimateNotObject (index : Nat)
  | guesstimateLacksMetric (index : Nat)
  | kindAbsent (index : Nat)
  | kindUnknown (index : Nat) (value : Json)
  | dataNotList (index : Nat)
  | dataNotNumber (index : Nat) (value : Json)
  deriving DecidableEq, Repr

inductive LoadError where
  /-- the payload is malformed -/
  | malformed (fault : ModelFault)
  /-- the entries of a list are asked of a value that has none -/
  | notIterable (sort : ScalarSort)
  deriving DecidableEq, Repr

def metricAt (index : Nat) : Text := "Metric #" ++ natText index

def guesstimateAt (index : Nat) : Text := "Guesstimate #" ++ natText index

def ModelFault.message : ModelFault → Text
  | .invalidJson error => "Invalid model JSON: " ++ error.message
  | .payloadNotObject => "Model payload must be an object"
  | .graphNotObject => "Model payload has no 'graph' object"
  | .metricNotObject i => metricAt i ++ " is not an object"
  | .metricLacks i name => metricAt i ++ " is missing " ++ Text.quote name
  | .guesstimateNotObject i => guesstimateAt i ++ " is not an object"
  | .guesstimateLacksMetric i => guesstimateAt i ++ " is missing 'metric'"
  | .kindAbsent i => guesstimateAt i ++ " has no guesstimateType"
  | .kindUnknown i v => guesstimateAt i ++ " has unknown guesstimateType " ++ v.quoted
  | .dataNotList i => guesstimateAt i ++ " data is not a list"
  | .dataNotNumber i v => guesstimateAt i ++ " data contains non-number " ++ v.quoted

def LoadError.message : LoadError → Text
  | .malformed fault => fault.message
  | .notIterable sort => "'" ++ sort.noun ++ "' object is not iterable"

def Json.entries : Json → Except ScalarSort (List Json)
  | .null => .ok []
  | .bool b => if b then .error .truth else .ok []
  | .number n =>
      if n.isZero then .ok []
      else
        match n with
        | .integer _ => .error .integer
        | .real _ => .error .real
  | .text s => .ok (s.toList.map fun c => .text (.ofList [c]))
  | .array items => .ok items
  | .object fields => .ok (fields.map fun entry => .text entry.1)

namespace Model

def readMetric (index : Nat) (entry : Json) : Except ModelFault Metric :=
  match entry with
  | .object fields =>
      match fields.lookup ("id" : Text), fields.lookup ("name" : Text) with
      | some id, some name => .ok ⟨id.display, name.display⟩
      | none, _ => .error (.metricLacks index "id")
      | _, none => .error (.metricLacks index "name")
  | _ => .error (.metricNotObject index)

/-- The kind of the guesstimate with this index. The field `guesstimateType` counts if it is there,
else the field `kind`. -/
def readKind (index : Nat) (fields : List (Text × Json)) : Except ModelFault Kind :=
  match (fields.lookup ("guesstimateType" : Text)).getD
      ((fields.lookup ("kind" : Text)).getD .null) with
  | .null => .error (.kindAbsent index)
  | value =>
      match Kind.ofName? (Text.ofList (Text.upper value.display.toList)) with
      | some kind => .ok kind
      | none => .error (.kindUnknown index value)

def readSamples (index : Nat) : List Json → Except ModelFault (List Number)
  | [] => .ok []
  | .number n :: rest => (readSamples index rest).map (n :: ·)
  | value :: _ => .error (.dataNotNumber index value)

def readData (index : Nat) : Option Json → Except ModelFault (Option (List Number))
  | none | some .null => .ok none
  | some (.array items) => (readSamples index items).map some
  | some _ => .error (.dataNotList index)

/-- A value as displayed, unless it is null. -/
def displayed : Json → Option Text
  | .null => none
  | value => some value.display

def readGuesstimate (index : Nat) (entry : Json) : Except ModelFault Guesstimate :=
  match entry with
  | .object fields =>
      match fields.lookup ("metric" : Text) with
      | none => .error (.guesstimateLacksMetric index)
      | some metric => do
          let kind ← readKind index fields
          let data ← readData index (fields.lookup ("data" : Text))
          let description := (fields.lookup ("description" : Text)).getD .null
          return {
            metric := metric.display
            kind
            expression := (fields.lookup ("expression" : Text)).bind displayed
            description := if description.isVoid then .text "" else description
            data }
  | _ => .error (.guesstimateNotObject index)

def readEntries {α : Type} (readEntry : Nat → Json → Except ModelFault α) :
    Nat → List Json → Except ModelFault (List α)
  | _, [] => .ok []
  | index, entry :: rest => do
      let value ← readEntry index entry
      let values ← readEntries readEntry (index + 1) rest
      return value :: values

def readList {α : Type} (readEntry : Nat → Json → Except ModelFault α) (value : Option Json) :
    Except LoadError (List α) :=
  match (value.getD .null).entries with
  | .error sort => .error (.notIterable sort)
  | .ok entries => (readEntries readEntry 0 entries).mapError .malformed

/-- The model of a payload. A given address replaces the one of the payload. -/
def ofPayload (payload : Json) (url : Option Text) : Except LoadError Model :=
  match payload with
  | .object fields =>
      match fields.lookup ("graph" : Text) with
      | some (.object graph) => do
          let metrics ← readList readMetric (graph.lookup ("metrics" : Text))
          let guesstimates ← readList readGuesstimate (graph.lookup ("guesstimates" : Text))
          return {
            url := url.getD (((fields.lookup ("url" : Text)).getD (.text "")).display)
            metrics
            guesstimates }
      | _ => .error (.malformed .graphNotObject)
  | _ => .error (.malformed .payloadNotObject)

/-- The model of a JSON text. A given address replaces the one of the text. -/
def ofText (text : Text) (url : Option Text) : Except LoadError Model :=
  match Json.read text with
  | .error e => .error (.malformed (.invalidJson e))
  | .ok payload => ofPayload payload url

end Model

end EstimateCompiler
