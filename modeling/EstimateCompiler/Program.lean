import EstimateCompiler.Graph
import EstimateCompiler.Target.Standard

/-!
# Programs

A compilation builds the graph of a model, puts its nodes in emission order, has the target write
each of them, then has it assign those with code, and asks for the top of the program last. It fails
as a whole or gives a program together with its diagnostics: first those of unknown references in
the order of the nodes, then those of the nodes that could not be written in emission order.
-/
namespace EstimateCompiler

structure Rendered where
  node : Node
  code : Option Text
  dependencies : List Text
  deriving DecidableEq, Repr

def Rendered.assignment (r : Rendered) : Assignment where
  id := r.node.id
  name := r.node.name
  label := r.node.label
  kind := r.node.kind
  code := r.code
  dependencies := sortIds r.dependencies

structure Program where
  header : Text
  body : Text
  order : List Text
  nodes : List Rendered
  diagnostics : List Diagnostic
  calls : List Call
  deriving DecidableEq, Repr

namespace Program

def code (p : Program) : Text := p.header ++ p.body

/-- The nodes that are assigned, in emission order. -/
def emitted (p : Program) : List Rendered := p.nodes.filter fun r => r.assignment.hasCode

/-- The nodes written in the target one after the other, with the diagnostics of those that could
not be written. -/
def renderAll (target : Target) (edges : Edges) :
    List Node → Session (List Rendered × List Diagnostic)
  | [] => pure ([], [])
  | node :: rest => do
      let written ← target.write node
      let (rendered, diagnostics) ← renderAll target edges rest
      return (⟨node, written.code, (edges.get? node.id).getD []⟩ :: rendered,
        written.diagnostic.toList ++ diagnostics)

/-- The program of a graph whose nodes are in the given order. -/
def write (target : Target) (url : Text) (graph : Graph) (order : List Text) : Program :=
  let nodes := order.filterMap graph.nodes.get?
  let ((rendered, diagnostics), log) := (renderAll target graph.edges nodes).run []
  let (body, log) := (target.emit (rendered.map Rendered.assignment)).run log
  let (header, log) := (target.ask (.header url)).run log
  { header, body, order, nodes := rendered, diagnostics := graph.diagnostics ++ diagnostics,
    calls := log }

def compileFor (target : Target) (settings : Settings) (model : Model) :
    Except CompileError Program := do
  let graph ← Graph.ofModel model settings target.reserved
  let order ← graph.order
  return write target model.url graph order

def compile (registry : Registry) (name : Text) (settings : Settings) (model : Model) :
    Except CompileError Program := do
  let target ← registry.find name
  compileFor target settings model

end Program

end EstimateCompiler
