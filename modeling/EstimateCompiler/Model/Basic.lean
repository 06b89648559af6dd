import EstimateCompiler.Json.Value

/-!
# Models

A model is a list of metrics, which name the quantities, and a list of guesstimates, which say what
is known about them: a formula, the bounds of a distribution, a single value or a list of samples.
A guesstimate belongs to the metric with its id. Nothing here asks that ids are different or that
every guesstimate has a metric.
-/
namespace EstimateCompiler

/-- How the expression of a guesstimate is understood. -/
inductive Kind where
  | function
  | lognormal
  | normal
  | uniform
  | point
  | data
  deriving DecidableEq, Repr

namespace Kind

def name : Kind → Text
  | .function => "FUNCTION"
  | .lognormal => "LOGNORMAL"
  | .normal => "NORMAL"
  | .uniform => "UNIFORM"
  | .point => "POINT"
  | .data => "DATA"

/-- The word for a kind in a message. -/
def noun : Kind → Text
  | .function => "function"
  | .lognormal => "lognormal"
  | .normal => "normal"
  | .uniform => "uniform"
  | .point => "point"
  | .data => "data"

def all : List Kind := [.function, .lognormal, .normal, .uniform, .point, .data]

def ofName? (word : Text) : Option Kind := all.find? (·.name = word)

@[simp] theorem ofName?_name (k : Kind) : ofName? k.name = some k := by
  cases k <;> decide

theorem name_of_ofName? {word : Text} {k : Kind} (h : ofName? word = some k) : k.name = word := by
  simpa using List.find?_some h

end Kind

structure UnknownKind where
  word : Text
  deriving DecidableEq, Repr

def UnknownKind.message (e : UnknownKind) : Text := "Unknown guesstimate kind: " ++ e.word

def Kind.parse (word : Text) : Except UnknownKind Kind :=
  match ofName? word with
  | some k => .ok k
  | none => .error ⟨word⟩

structure Metric where
  id : Text
  name : Text
  deriving DecidableEq, Repr

/-- What is known about a metric. -/
structure Guesstimate where
  metric : Text
  kind : Kind
  expression : Option Text
  description : Json
  data : Option (List Number)
  deriving DecidableEq, Repr

structure Model where
  url : Text
  metrics : List Metric
  guesstimates : List Guesstimate
  deriving DecidableEq, Repr

end EstimateCompiler
