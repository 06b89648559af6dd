import EstimateCompiler.Diagnostic
import EstimateCompiler.Identifier
import EstimateCompiler.Order
import EstimateCompiler.Reference

/-!
# Nodes and their dependencies

A node is a metric together with its guesstimate and the identifier that it is assigned under. The
guesstimates are gone through in their order. Each gets a fresh name, also one that is replaced
later by another guesstimate for the same metric; the last guesstimate for a metric counts, in the
place of the first. Of metrics with the same id the last one counts.

The expression of a function starts with a mark of one character. It is taken off, and the
references in the rest are resolved to the names of the nodes; the ids of these references are the
dependencies of the node. Nodes of other kinds have none and stay as they are.

A reference that cannot be resolved is reported. In strict mode the first such node ends the pass
with a failure: the nodes up to it have been changed by then, and those behind it have not.
-/
namespace EstimateCompiler

structure Node where
  id : Text
  label : Text
  name : Text
  kind : Kind
  expression : Option Text
  description : Json
  data : Option (List Number)
  deriving DecidableEq, Repr

/-- The nodes of a model by the ids of their metrics. -/
abbrev NodeMap := OrderedMap Node

def Model.metric? (model : Model) (id : Text) : Option Metric :=
  model.metrics.reverse.find? (·.id = id)

def Node.make (metric : Metric) (guesstimate : Guesstimate) (name : Text) : Node where
  id := metric.id
  label := metric.name
  name := name
  kind := guesstimate.kind
  expression := guesstimate.expression
  description := guesstimate.description
  data := guesstimate.data

namespace NodeMap

/-- Nodes with those of further guesstimates put to them, while the listed names are used. -/
def extend (model : Model) (rules : NamingRules) :
    List Text → NodeMap → List Guesstimate → Except CompileError NodeMap
  | _, nodes, [] => .ok nodes
  | used, nodes, guesstimate :: rest =>
      match model.metric? guesstimate.metric with
      | none => .error (.missingMetric guesstimate.metric)
      | some metric =>
          let name := Identifier.fresh rules used metric.name
          let node := .make metric guesstimate name
          extend model rules (name :: used) (nodes.put metric.id node) rest

/-- The nodes of a model. Reserved names count as used from the start. -/
def ofModel (model : Model) (settings : Settings) (reserved : List Text) :
    Except CompileError NodeMap :=
  extend model settings.naming reserved .empty model.guesstimates

def names (nodes : NodeMap) : OrderedMap Text := nodes.map Node.name

end NodeMap

/-- A node with its references resolved, the ids that it referred to, and those that are unknown. -/
structure Resolution where
  node : Node
  ids : List Text
  dangling : List Text
  deriving DecidableEq, Repr

def Node.body (node : Node) : Text := Text.ofList ((node.expression.getD "").toList.drop 1)

def Node.resolve (names : OrderedMap Text) (node : Node) : Resolution :=
  if node.kind = .function then
    let resolved := Reference.resolve names node.body
    { node := { node with expression := some resolved.text }
      ids := resolved.ids
      dangling := Reference.remaining resolved.text }
  else ⟨node, [], []⟩

def Resolution.diagnostics (r : Resolution) (id : Text) : List Diagnostic :=
  if r.dangling.isEmpty then [] else [⟨id, .danglingReferences r.dangling⟩]

structure Extracted where
  edges : List (Text × List Text)
  diagnostics : List Diagnostic
  deriving DecidableEq, Repr

/-- The nodes as the pass leaves them, with their dependencies and diagnostics or the failure. -/
def extractEntries (strict : Bool) (names : OrderedMap Text) :
    List (Text × Node) → List (Text × Node) × Except CompileError Extracted
  | [] => ([], .ok ⟨[], []⟩)
  | (id, node) :: rest =>
      let r := node.resolve names
      if strict && !r.dangling.isEmpty then
        ((id, r.node) :: rest, .error (.danglingReferences id r.dangling))
      else
        let (nodes, outcome) := extractEntries strict names rest
        ((id, r.node) :: nodes,
          outcome.map fun found =>
            ⟨(id, r.ids) :: found.edges, r.diagnostics id ++ found.diagnostics⟩)

theorem map_fst_extractEntries (strict : Bool) (names : OrderedMap Text)
    (entries : List (Text × Node)) :
    (extractEntries strict names entries).1.map Prod.fst = entries.map Prod.fst := by
  induction entries with
  | nil => rfl
  | cons entry rest ih =>
      simp only [extractEntries]
      split
      · rfl
      · simp [ih]

theorem map_fst_edges_extractEntries {strict : Bool} {names : OrderedMap Text}
    {entries : List (Text × Node)} {found : Extracted}
    (h : (extractEntries strict names entries).2 = .ok found) :
    found.edges.map Prod.fst = entries.map Prod.fst := by
  induction entries generalizing found with
  | nil =>
      simp only [extractEntries] at h
      cases h
      rfl
  | cons entry rest ih =>
      simp only [extractEntries] at h
      split at h
      · cases h
      · cases hrest : (extractEntries strict names rest).2 with
        | error e => simp [hrest, Except.map] at h
        | ok later =>
            simp only [hrest, Except.map, Except.ok.injEq] at h
            simp [← h, ih hrest]

/-- What a pass over the nodes leaves: the nodes, and the dependencies with the diagnostics or the
failure. -/
structure Extraction where
  nodes : NodeMap
  outcome : Except CompileError (Edges × List Diagnostic)

def NodeMap.extract (strict : Bool) (nodes : NodeMap) : Extraction where
  nodes :=
    { entries := (extractEntries strict (NodeMap.names nodes) nodes.entries).1
      nodup := by rw [map_fst_extractEntries]; exact nodes.nodup }
  outcome :=
    match h : (extractEntries strict (NodeMap.names nodes) nodes.entries).2 with
    | .error e => .error e
    | .ok found =>
        .ok ({ entries := found.edges
               nodup := by rw [map_fst_edges_extractEntries h]; exact nodes.nodup },
          found.diagnostics)

structure Graph where
  nodes : NodeMap
  edges : Edges
  diagnostics : List Diagnostic

namespace Graph

/-- The graph of a model, with names that avoid the reserved ones. -/
def ofModel (model : Model) (settings : Settings) (reserved : List Text) :
    Except CompileError Graph := do
  let nodes ← NodeMap.ofModel model settings reserved
  let extraction := nodes.extract settings.strict
  let (edges, diagnostics) ← extraction.outcome
  return ⟨extraction.nodes, edges, diagnostics⟩

def order (graph : Graph) : Except CompileError (List Text) :=
  graph.edges.sort.mapError .noOrder

end Graph

end EstimateCompiler
