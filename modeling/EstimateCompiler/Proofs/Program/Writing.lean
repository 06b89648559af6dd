import EstimateCompiler.Program
import EstimateCompiler.Proofs.Graph.Extraction
import EstimateCompiler.Proofs.Graph.Naming
import EstimateCompiler.Proofs.Order.Search

/-!
# The nodes of a program

A program that was compiled holds one node for each id of the emission order, in that order. The
node is the one that the model has under the id, with its references resolved; its code is what the
target wrote for it behind the log of the calls before, and its dependencies are the ids that it
refers to. What is asked and what is reported about a node does not depend on the log.
-/
namespace EstimateCompiler

/-- The calls that a node asks for. -/
def Node.calls (node : Node) : List Call :=
  match node.call with
  | .ok (some call) => [call]
  | _ => []

/-- The report about a node that cannot be written. -/
def Node.complaint? (node : Node) : Option Diagnostic :=
  match node.call with
  | .error diagnostic => some diagnostic
  | .ok _ => none

namespace Target

variable (target : Target) (edges : Edges)

def written (log : List Call) (node : Node) : Written where
  code :=
    match node.call with
    | .ok (some call) => call.code (target.answer log call)
    | _ => none
  diagnostic := node.complaint?

theorem write_run (node : Node) (log : List Call) :
    (target.write node).run log = (target.written log node, log ++ node.calls) := by
  unfold write written Node.calls Node.complaint?
  cases node.call with
  | error diagnostic =>
      rw [List.append_nil]
      rfl
  | ok call =>
      cases call with
      | none =>
          rw [List.append_nil]
          rfl
      | some call => rfl

/-- A node as a program holds it, written behind a log. -/
def render (log : List Call) (node : Node) : Rendered where
  node := node
  code := (target.written log node).code
  dependencies := (edges.get? node.id).getD []

def renderFrom : List Call → List Node → List Rendered
  | _, [] => []
  | log, node :: rest => target.render edges log node :: renderFrom (log ++ node.calls) rest

theorem map_node_renderFrom (log : List Call) (nodes : List Node) :
    (target.renderFrom edges log nodes).map Rendered.node = nodes := by
  induction nodes generalizing log with
  | nil => rfl
  | cons node rest ih => rw [renderFrom, List.map_cons, ih, render]

theorem exists_log_of_mem_renderFrom {log : List Call} {nodes : List Node} {r : Rendered}
    (h : r ∈ target.renderFrom edges log nodes) :
    ∃ before, r = target.render edges before r.node := by
  induction nodes generalizing log with
  | nil => cases h
  | cons node rest ih =>
      rcases List.mem_cons.1 h with rfl | h
      · exact ⟨log, rfl⟩
      · exact ih h

end Target

namespace Program

theorem renderAll_run (target : Target) (edges : Edges) (nodes : List Node) (log : List Call) :
    (renderAll target edges nodes).run log =
      ((target.renderFrom edges log nodes, nodes.filterMap Node.complaint?),
        log ++ nodes.flatMap Node.calls) := by
  induction nodes generalizing log with
  | nil =>
      rw [List.flatMap_nil, List.append_nil]
      rfl
  | cons node rest ih =>
      have hstep : (renderAll target edges (node :: rest)).run log =
          let first := (target.write node).run log
          let later := (renderAll target edges rest).run first.2
          ((⟨node, first.1.code, (edges.get? node.id).getD []⟩ :: later.1.1,
            first.1.diagnostic.toList ++ later.1.2), later.2) := rfl
      have hreports : (node :: rest).filterMap Node.complaint? =
          node.complaint?.toList ++ rest.filterMap Node.complaint? := by
        cases hcomplaint : node.complaint? <;> simp [hcomplaint]
      rw [hstep, Target.write_run, hreports]
      simp only [ih, List.flatMap_cons, List.append_assoc]
      rfl

theorem nodes_write (target : Target) (url : Text) (graph : Graph) (order : List Text) :
    (write target url graph order).nodes =
      target.renderFrom graph.edges [] (order.filterMap graph.nodes.get?) := by
  simp only [write, renderAll_run]
  rfl

/-- What a compilation was made of: the nodes of the model, an order of their dependencies, and one
node of the program for each id of the order, written from the node that the model has under it. -/
structure Compiled (target : Target) (settings : Settings) (model : Model) (program : Program)
    (nodes : NodeMap) : Prop where
  ofModel : NodeMap.ofModel model settings target.reserved = .ok nodes
  sort : nodes.edges.sort = .ok program.order
  map_id : program.nodes.map (fun r => r.node.id) = program.order
  eq_render : ∀ r ∈ program.nodes, ∃ node log, nodes.get? r.node.id = some node ∧
    r = target.render nodes.edges log (node.resolve nodes.names).node

variable {target : Target} {settings : Settings} {model : Model} {program : Program}

theorem compiled_of_compileFor (h : compileFor target settings model = .ok program) :
    ∃ nodes, Compiled target settings model program nodes := by
  obtain ⟨graph, hgraph, h⟩ := bind_eq_ok.1 h
  obtain ⟨order, horder, h⟩ := bind_eq_ok.1 h
  simp only [pure, Except.pure, Except.ok.injEq] at h
  subst h
  obtain ⟨nodes, hnodes, hresolved, hedges⟩ := Graph.of_ofModel hgraph
  have hsort : nodes.edges.sort = .ok order := by
    rw [Graph.order, hedges] at horder
    cases hsort : nodes.edges.sort <;> simp_all [Except.mapError]
  have hwritten := nodes_write target model.url graph order
  rw [hresolved, hedges] at hwritten
  have hmap : (write target model.url graph order).nodes.map Rendered.node =
      order.filterMap nodes.resolved.get? := by
    rw [hwritten, Target.map_node_renderFrom]
  have hfound : ∀ id ∈ order, ∃ node, nodes.resolved.get? id = some node ∧ node.id = id := by
    intro id hid
    have hkey : id ∈ nodes.edges.keys := (Edges.perm_keys_of_sort hsort).mem_iff.1 hid
    rw [NodeMap.edges, OrderedMap.keys_map, OrderedMap.mem_keys] at hkey
    obtain ⟨node, hnode⟩ := Option.isSome_iff_exists.1 hkey
    refine ⟨(node.resolve nodes.names).node, ?_, ?_⟩
    · rw [NodeMap.resolved, OrderedMap.get?_map, hnode]
      rfl
    · rw [Node.resolve_id]
      exact NodeMap.id_of_get?_ofModel hnodes hnode
  refine ⟨nodes, hnodes, hsort, ?_, ?_⟩
  · have hids := congrArg (List.map Node.id) hmap
    rw [List.map_map] at hids
    exact hids.trans (OrderedMap.map_filterMap_get? hfound)
  · intro r hr
    have hmem : r.node ∈ order.filterMap nodes.resolved.get? := hmap ▸ List.mem_map_of_mem hr
    rw [hwritten] at hr
    obtain ⟨log, hlog⟩ := target.exists_log_of_mem_renderFrom nodes.edges hr
    obtain ⟨id, hid, hget⟩ := List.mem_filterMap.1 hmem
    obtain ⟨same, hsame, heq⟩ := hfound id hid
    rw [hget, Option.some.injEq] at hsame
    subst hsame
    rw [NodeMap.resolved, OrderedMap.get?_map, Option.map_eq_some_iff] at hget
    obtain ⟨node, hnode, hresolve⟩ := hget
    refine ⟨node, log, by rwa [heq], ?_⟩
    rwa [hresolve]

theorem compileFor_of_compile {registry : Registry} {name : Text}
    (h : compile registry name settings model = .ok program) :
    ∃ target, registry.find name = .ok target ∧ compileFor target settings model = .ok program :=
  bind_eq_ok.1 h

namespace Compiled

variable {nodes : NodeMap}

theorem nodup_order (h : Compiled target settings model program nodes) : program.order.Nodup :=
  (Edges.perm_keys_of_sort h.sort).nodup_iff.2 nodes.edges.keys_nodup

theorem nodup_nodes (h : Compiled target settings model program nodes) : program.nodes.Nodup :=
  List.Nodup.of_map (fun r => r.node.id) (h.map_id ▸ h.nodup_order)

theorem nodup_names (h : Compiled target settings model program nodes) :
    (program.nodes.map fun r => r.node.name).Nodup := by
  refine List.Nodup.map_on ?_ h.nodup_nodes
  intro first hfirst second hsecond hname
  obtain ⟨node₁, log₁, hget₁, heq₁⟩ := h.eq_render first hfirst
  obtain ⟨node₂, log₂, hget₂, heq₂⟩ := h.eq_render second hsecond
  have hsame : node₁.name = node₂.name := by
    rw [heq₁, heq₂] at hname
    simpa [Target.render] using hname
  have hnode : node₁ = node₂ := List.inj_on_of_nodup_map (NodeMap.nodup_names_ofModel h.ofModel)
    (OrderedMap.mem_values.2 ⟨_, hget₁⟩) (OrderedMap.mem_values.2 ⟨_, hget₂⟩) hsame
  have hid : first.node.id = second.node.id := by rw [heq₁, heq₂, hnode]; rfl
  have hnodup : (program.nodes.map fun r => r.node.id).Nodup := h.map_id ▸ h.nodup_order
  exact List.inj_on_of_nodup_map hnodup hfirst hsecond hid

end Compiled

end Program

end EstimateCompiler
