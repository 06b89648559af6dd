import EstimateCompiler.Bounds
import EstimateCompiler.Graph

/-!
# Targets

A target is a language that programs are written in. It is asked for pieces of the program by calls:
how a guesstimate of some kind is written, how a name is assigned, and what stands at the top. It
also has names that a program must not assign.

Calls are made in a session, which keeps a log of them, so that what was asked of a target, and in
which order, is part of the result. A target may be any function that answers the calls, and it may
remember those that were made before: its answer depends on the log as well as on the call.
-/
namespace EstimateCompiler

/-- What a target is told about an assignment. The dependencies are a set, listed in the order of
their characters. -/
structure Assignment where
  id : Text
  name : Text
  label : Text
  kind : Kind
  code : Option Text
  dependencies : List Text
  deriving DecidableEq, Repr

def Assignment.isPoint (a : Assignment) : Bool := a.kind == .point

def Assignment.hasCode (a : Assignment) : Bool := (a.code.getD "") != ""

/-- The code as text; absent code has a word of its own. -/
def Assignment.codeText (a : Assignment) : Text := a.code.getD "None"

inductive Call where
  | header (url : Text)
  | point (value : Text)
  | data (samples : List Number)
  | uniform (low high : Text)
  | normal (low high : Text)
  | lognormal (low high : Text)
  | function (body : Text)
  | assignment (a : Assignment)
  deriving DecidableEq, Repr

structure Target where
  reserved : List Text
  /-- the answer to a call behind a log -/
  answer : List Call → Call → Text

abbrev Session := StateM (List Call)

def Target.ask (target : Target) (call : Call) : Session Text := fun log =>
  (target.answer log call, log ++ [call])

def Call.distribution (make : Text → Text → Call) (node : Node) :
    Except Diagnostic (Option Call) :=
  match Bounds.parse? node.expression with
  | some bounds => .ok (some (make bounds.low bounds.high))
  | none => .error ⟨node.id, .unreadableBounds node.expression node.kind⟩

/-- The call that a node asks for. A point without an expression asks for none; a node that cannot
be written has a diagnostic. -/
def Node.call (node : Node) : Except Diagnostic (Option Call) :=
  match node.kind with
  | .point =>
      let value := node.expression.getD ""
      .ok (if value = "" then none else some (.point value))
  | .data =>
      match node.data with
      | some samples => .ok (some (.data samples))
      | none => .error ⟨node.id, .missingData⟩
  | .uniform => Call.distribution .uniform node
  | .normal => Call.distribution .normal node
  | .lognormal => Call.distribution .lognormal node
  | .function => .ok (some (.function (node.expression.getD "")))

/-- Whether an empty answer means that there is no code. -/
def Call.dropsEmpty : Call → Bool
  | .point _ | .function _ => true
  | _ => false

def Call.code (call : Call) (answer : Text) : Option Text :=
  if call.dropsEmpty && answer == "" then none else some answer

structure Written where
  code : Option Text
  diagnostic : Option Diagnostic
  deriving DecidableEq, Repr

def Target.write (target : Target) (node : Node) : Session Written :=
  match node.call with
  | .error diagnostic => pure ⟨none, some diagnostic⟩
  | .ok none => pure ⟨none, none⟩
  | .ok (some call) => do
      let answer ← target.ask call
      return ⟨call.code answer, none⟩

/-- The lines that assign the nodes with code; an empty line is left out. -/
def Target.assignAll (target : Target) : List Assignment → Session (List Text)
  | [] => pure []
  | a :: rest =>
      if a.hasCode then do
        let line ← target.ask (.assignment a)
        let lines ← target.assignAll rest
        return if line = "" then lines else line :: lines
      else target.assignAll rest

def Target.emit (target : Target) (assignments : List Assignment) : Session Text := do
  let lines ← target.assignAll assignments
  return Text.intercalate "\n" lines

def samplesText (samples : List Number) : Text :=
  Text.ofList (.char '[' :: List.intercalate [.char ','] (samples.map (Number.chars .samples)) ++
    [.char ']'])

end EstimateCompiler
