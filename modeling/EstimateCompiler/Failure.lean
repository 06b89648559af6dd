import EstimateCompiler.Text.Basic

/-!
# Failures of a compilation

A failure stops the compilation. The emission order fails on a dependency without an entry or on a
cycle, and it names the cycle by the path that leads around it.
-/
namespace EstimateCompiler

/-- A path of ids that is not empty; a cycle that was found ends with its first id. -/
structure Cycle where
  first : Text
  rest : List Text
  deriving DecidableEq, Repr

namespace Cycle

def path (c : Cycle) : List Text := c.first :: c.rest

/-- The ids on the cycle, without a last one that only repeats the first. -/
def ids (c : Cycle) : List Text :=
  if c.rest.getLast? = some c.first then c.path.dropLast else c.path

def display (c : Cycle) : Text := Text.intercalate " -> " (c.ids ++ [c.first])

end Cycle

inductive EmptyCycle where
  | mk
  deriving DecidableEq, Repr

def EmptyCycle.message (_ : EmptyCycle) : Text := "list index out of range"

def Cycle.ofPath : List Text → Except EmptyCycle Cycle
  | [] => .error .mk
  | first :: rest => .ok ⟨first, rest⟩

inductive OrderError where
  | broken (id : Text)
  | cyclic (cycle : Cycle)
  deriving DecidableEq, Repr

inductive CompileError where
  | missingMetric (id : Text)
  | danglingReferences (nodeId : Text) (ids : List Text)
  | noOrder (error : OrderError)
  | unknownTarget (name : Text) (available : List Text)
  deriving DecidableEq, Repr

def OrderError.message : OrderError → Text
  | .broken id => "Broken dependency: no entry for " ++ id
  | .cyclic cycle => "Cycle detected in dependency graph: " ++ cycle.display

def CompileError.message : CompileError → Text
  | .missingMetric id => "Metric not found: " ++ id
  | .danglingReferences nodeId ids =>
      "Function " ++ nodeId ++ " references unknown metric(s): " ++ Text.intercalate ", " ids
  | .noOrder error => error.message
  | .unknownTarget name available =>
      "Unknown backend: " ++ name ++
        if available.isEmpty then ("" : Text)
        else " (available: " ++ Text.intercalate ", " available ++ ")"

end EstimateCompiler
