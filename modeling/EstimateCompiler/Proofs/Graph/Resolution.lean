import EstimateCompiler.Proofs.Graph.Outcome
import EstimateCompiler.Proofs.Reference.Formula

/-!
# References in a graph

What the graph of a model has in place of a formula. A formula made of plain text and references has
the final names of the metrics that it refers to, its references to metrics without a node stay, and
the former are its dependencies.

An arbitrary text may have references inside of references. Then the ids that are reported as
unknown need not be unknown, and whether they are reported depends on the order of the nodes. As
long as a text does not nest references, an id that is reported has no node.
-/
namespace EstimateCompiler

namespace NodeMap

variable {model : Model} {settings : Settings} {reserved : List Text} {nodes : NodeMap}

/-- A metric with a guesstimate has a node, made of its last guesstimate. -/
theorem exists_get?_ofModel (h : ofModel model settings reserved = .ok nodes) {id : Text}
    {guesstimate : Guesstimate} (hlast : model.guesstimate? id = some guesstimate) :
    ∃ metric name, nodes.get? id = some (Node.make metric guesstimate name) := by
  have hkey : ∃ node, nodes.get? id = some node := by
    obtain ⟨list, hmade, rfl⟩ := ofModel_eq_ok.1 h
    have hid : id ∈ list.map Node.id := by
      rw [map_id_made hmade]
      have hmem := List.mem_reverse.1 (List.mem_of_find?_eq_some hlast)
      have hmetric : guesstimate.metric = id := by simpa using List.find?_some hlast
      exact hmetric ▸ List.mem_map_of_mem hmem
    rw [← Option.isSome_iff_exists, get?_putAll, OrderedMap.get?_empty, Option.or_none,
      List.find?_isSome]
    simpa using hid
  obtain ⟨node, hnode⟩ := hkey
  obtain ⟨same, metric, hsame, hmake⟩ := guesstimate?_of_get?_ofModel h hnode
  obtain rfl := Option.some.inj (hlast.symm.trans hsame)
  exact ⟨metric, node.name, hmake ▸ hnode⟩

@[simp] theorem keys_resolved (nodes : NodeMap) : nodes.resolved.keys = nodes.keys :=
  OrderedMap.keys_map _ _

@[simp] theorem keys_names (nodes : NodeMap) : nodes.names.keys = nodes.keys :=
  OrderedMap.keys_map _ _

theorem get?_names_resolved (nodes : NodeMap) (id : Text) :
    (nodes.resolved.get? id).map Node.name = nodes.names.get? id := by
  rw [resolved, names, OrderedMap.get?_map, OrderedMap.get?_map]
  cases nodes.get? id with
  | none => rfl
  | some node => exact congrArg some (Node.resolve_name _ node)

end NodeMap

section Function
variable {names : OrderedMap Text} {node : Node} (h : node.kind = .function)
include h

theorem Node.expression_resolve :
    (node.resolve names).node.expression = some (Reference.resolve names node.body).text := by
  rw [Node.resolve, if_pos h]

theorem Node.ids_resolve : (node.resolve names).ids = (Reference.resolve names node.body).ids := by
  rw [Node.resolve, if_pos h]

theorem Node.dangling_resolve :
    (node.resolve names).dangling =
      Reference.remaining (Reference.resolve names node.body).text := by
  rw [Node.resolve, if_pos h]

end Function

namespace Graph

variable {model : Model} {settings : Settings} {reserved : List Text} {graph : Graph}

/-- In the graph of a model a formula has the names of the metrics that it refers to, and its
dependencies are these metrics. What remains are its references to ids without a node, each once and
in the order of their first reference. -/
theorem resolves_formulas (h : Graph.ofModel model settings reserved = .ok graph)
    (hids : ∀ id ∈ graph.nodes.keys, .char '\x7d' ∉ id.toList) {id : Text}
    {guesstimate : Guesstimate} (hlast : model.guesstimate? id = some guesstimate)
    (hkind : guesstimate.kind = .function)
    {mark : Rune} {formula : Formula}
    (hexpression : guesstimate.expression = some (Text.ofList (mark :: formula.chars))) :
    ∃ node text dependencies,
      graph.nodes.get? id = some node ∧
      node.expression = some text ∧
      text = Text.ofList (formula.resolved fun ref => (graph.nodes.get? ref).map Node.name) ∧
      graph.edges.get? id = some dependencies ∧
      (∀ ref, ref ∈ dependencies ↔ ref ∈ graph.nodes.keys ∧ ref ∈ formula.references) ∧
      Reference.remaining text = (formula.references.filter (· ∉ graph.nodes.keys)).eraseDups := by
  obtain ⟨nodes, hnodes, -, rfl⟩ := ofModel_eq_ok_iff.1 h
  obtain ⟨metric, name, hget⟩ := NodeMap.exists_get?_ofModel hnodes hlast
  have hplain : ∀ name ∈ nodes.names.values, .char '\x7b' ∉ name.toList :=
    fun name hname => (NodeMap.inert_names hnodes name hname).not_open
  have hkeys : nodes.resolved.keys = nodes.names.keys := by simp
  have hnames : (fun ref => (nodes.resolved.get? ref).map Node.name) = nodes.names.get? :=
    funext nodes.get?_names_resolved
  simp only [NodeMap.graph, hkeys] at hids ⊢
  obtain ⟨htext, hmem, hremaining⟩ := Reference.resolve_formula hids hplain formula
  have hbody : (Node.make metric guesstimate name).body = Text.ofList formula.chars := by
    rw [Node.body, Node.make, hexpression, Option.getD_some, Text.toList_ofList,
      List.drop_one, List.tail_cons]
  have hfunction : (Node.make metric guesstimate name).kind = .function := hkind
  refine ⟨((Node.make metric guesstimate name).resolve nodes.names).node, _,
    ((Node.make metric guesstimate name).resolve nodes.names).ids, ?_, ?_, rfl, ?_, ?_, ?_⟩
  · rw [NodeMap.resolved, OrderedMap.get?_map, hget, Option.map_some]
  · rw [Node.expression_resolve hfunction, hbody, htext, hnames]
  · rw [NodeMap.edges, OrderedMap.get?_map, hget, Option.map_some]
  · rw [Node.ids_resolve hfunction, hbody]
    exact hmem
  · rw [hnames]
    exact hremaining

/-- Ids of which one begins with the other, a name that is an id of another metric, a dollar sign in
front of a reference, and two references to an id without a node. -/
def total : Formula := [
  .text [.char '$'] (by decide), .reference "p" (by decide),
  .text ("\x7d + " : Text).toList (by decide +kernel), .reference "p1" (by decide),
  .text (" - " : Text).toList (by decide +kernel), .reference "zz" (by decide),
  .reference "zz" (by decide)]

def prefixed : Model where
  url := ""
  metrics := [⟨"p", "p1"⟩, ⟨"p1", "Cost"⟩, ⟨"f", "Total"⟩]
  guesstimates := [
    ⟨"f", .function, some (Text.ofList (.char '=' :: total.chars)), .text "", none⟩,
    ⟨"p", .point, some "1", .text "", none⟩, ⟨"p1", .point, some "2", .text "", none⟩]

theorem prefixed_resolves_formulas :
    ∃ graph node dependencies,
      Graph.ofModel prefixed .standard [] = .ok graph ∧
      graph.nodes.get? "f" = some node ∧
      node.expression = some "$p1\x7d + cost - $\x7bmetric:zz\x7d$\x7bmetric:zz\x7d" ∧
      graph.edges.get? "f" = some dependencies ∧
      (∀ ref, ref ∈ dependencies ↔ ref = "p" ∨ ref = "p1") ∧
      Reference.remaining "$p1\x7d + cost - $\x7bmetric:zz\x7d$\x7bmetric:zz\x7d" = ["zz"] := by
  obtain ⟨graph, hgraph, hkeys, hresolved⟩ : ∃ graph,
      Graph.ofModel prefixed .standard [] = .ok graph ∧ graph.nodes.keys = ["f", "p", "p1"] ∧
      Text.ofList (total.resolved fun ref => (graph.nodes.get? ref).map Node.name) =
        "$p1\x7d + cost - $\x7bmetric:zz\x7d$\x7bmetric:zz\x7d" :=
    exists_ok_of_any (by decide +kernel)
  have hids : ∀ id ∈ graph.nodes.keys, .char '\x7d' ∉ id.toList := by
    rw [hkeys]
    decide
  have hlast : prefixed.guesstimate? "f" =
      some ⟨"f", .function, some (Text.ofList (.char '=' :: total.chars)), .text "", none⟩ := rfl
  obtain ⟨node, text, dependencies, hnode, hexpression, htext, hedges, hmem, hremaining⟩ :=
    resolves_formulas hgraph hids hlast rfl rfl
  rw [htext, hresolved] at hexpression hremaining
  refine ⟨graph, node, dependencies, hgraph, hnode, hexpression, hedges, ?_, ?_⟩
  · intro ref
    have hboth : ∀ key ∈ (["f", "p", "p1"] : List Text), key ∈ total.references →
        key = "p" ∨ key = "p1" := by
      decide
    rw [hmem, hkeys]
    constructor
    · rintro ⟨hkey, href⟩
      exact hboth ref hkey href
    · rintro (rfl | rfl) <;> decide
  · rw [hremaining, hkeys]
    decide +kernel

theorem dangling_of_ofModel_eq_error {nodes : NodeMap}
    (hnodes : NodeMap.ofModel model settings reserved = .ok nodes) {id : Text} {ids : List Text}
    (h : Graph.ofModel model settings reserved = .error (.danglingReferences id ids)) :
    ∃ node, nodes.firstDangling? = some (id, node) ∧ ids = (node.resolve nodes.names).dangling := by
  rw [ofModel_of_nodes hnodes] at h
  unfold NodeMap.refusal? at h
  cases hfirst : nodes.firstDangling? with
  | none => cases hstrict : settings.strict <;> simp [hfirst, hstrict] at h
  | some entry =>
      obtain ⟨first, node⟩ := entry
      cases hstrict : settings.strict with
      | false => simp [hstrict] at h
      | true =>
          simp only [hfirst, hstrict, if_true, Option.map_some, Except.error.injEq,
            CompileError.danglingReferences.injEq] at h
          exact ⟨node, by rw [h.1], h.2.symm⟩

/-- A function that does not nest references has every reference to a node resolved, and no id that
is reported as unknown, by a diagnostic or by a failure, is that of a node. -/
theorem reported_ids_unknown_of_not_nested {nodes : NodeMap}
    (hnodes : NodeMap.ofModel model settings reserved = .ok nodes) {id : Text} {node : Node}
    (hnode : nodes.get? id = some node) (hnested : ¬ Reference.Nested node.body.toList) :
    (∀ graph ids, Graph.ofModel model settings reserved = .ok graph →
      ⟨id, .danglingReferences ids⟩ ∈ graph.diagnostics → ∀ unknown ∈ ids, unknown ∉ nodes.keys) ∧
    (∀ ids, Graph.ofModel model settings reserved = .error (.danglingReferences id ids) →
      ∀ unknown ∈ ids, unknown ∉ nodes.keys) ∧
    ∀ known ∈ nodes.keys, .char '\x7d' ∉ known.toList →
      ¬ Reference.token known <:+: (Reference.resolve nodes.names node.body).text.toList := by
  have hinert := NodeMap.inert_names hnodes
  have hunknown : node.kind = .function →
      ∀ unknown ∈ (node.resolve nodes.names).dangling, unknown ∉ nodes.keys := by
    intro hkind unknown hmem
    rw [Node.dangling_resolve hkind] at hmem
    have hkey := Reference.not_mem_keys_of_mem_remaining hinert hnested hmem
    rwa [NodeMap.keys_names] at hkey
  refine ⟨?_, ?_, ?_⟩
  · intro graph ids hgraph hmem
    obtain ⟨same, hsame, -, rfl⟩ := ofModel_eq_ok_iff.1 hgraph
    obtain rfl := Except.ok.inj (hnodes.symm.trans hsame)
    obtain ⟨same, hget, hdangles, hids⟩ := NodeMap.mem_diagnostics.1 hmem
    obtain rfl := Option.some.inj (hnode.symm.trans hget)
    rw [Finding.danglingReferences.inj hids]
    exact hunknown hdangles.1
  · intro ids hfailed
    obtain ⟨same, hfirst, rfl⟩ := dangling_of_ofModel_eq_error hnodes hfailed
    have hget := OrderedMap.mem_entries.1 (List.mem_of_find?_eq_some hfirst)
    obtain rfl := Option.some.inj (hnode.symm.trans hget)
    have hdangles : node.Dangles nodes.names := by simpa using List.find?_some hfirst
    exact hunknown hdangles.1
  · intro known hkey hknown
    rw [← NodeMap.keys_names] at hkey
    exact Reference.not_token_infix_resolve hinert hnested hknown hkey

/-- A formula with braces of its own, two references to a metric and one to an id without a node. -/
def braced : Model where
  url := ""
  metrics := [⟨"a", "Alpha"⟩, ⟨"f", "Total"⟩]
  guesstimates := [
    ⟨"f", .function,
      some "=\x7b$\x7bmetric:a\x7d\x7d + $\x7bmetric:b\x7d * $\x7bmetric:a\x7d", .text "", none⟩,
    ⟨"a", .point, some "1", .text "", none⟩]

theorem braced_reported_ids_unknown :
    ∃ nodes graph,
      NodeMap.ofModel braced .standard [] = .ok nodes ∧ nodes.keys = ["f", "a"] ∧
      Graph.ofModel braced .standard [] = .ok graph ∧
      graph.diagnostics = [⟨"f", .danglingReferences ["b"]⟩] ∧ ("b" : Text) ∉ nodes.keys := by
  obtain ⟨nodes, hnodes, hkeys, hplain⟩ : ∃ nodes,
      NodeMap.ofModel braced .standard [] = .ok nodes ∧ nodes.keys = ["f", "a"] ∧
      (nodes.get? "f").any (fun node => ¬ Reference.Nested node.body.toList) = true :=
    exists_ok_of_any (by decide +kernel)
  obtain ⟨graph, hgraph, hdiagnostics⟩ : ∃ graph,
      Graph.ofModel braced .standard [] = .ok graph ∧
      graph.diagnostics = [⟨"f", .danglingReferences ["b"]⟩] :=
    exists_ok_of_any (by decide +kernel)
  obtain ⟨node, hnode, hnested⟩ := Option.any_eq_true _ _ |>.1 hplain
  have hreported := (reported_ids_unknown_of_not_nested hnodes hnode (of_decide_eq_true hnested)).1
    graph ["b"] hgraph (hdiagnostics ▸ List.mem_cons_self)
  exact ⟨nodes, graph, hnodes, hkeys, hgraph, hdiagnostics, hreported "b" List.mem_cons_self⟩

/-- A formula with a reference inside of a reference. The name of the inner metric is the id of the
outer one. -/
def nesting (first second : Guesstimate) : Model where
  url := "u"
  metrics := [⟨"a", "Alpha"⟩, ⟨"x", "a"⟩, ⟨"f", "Total"⟩]
  guesstimates := [first, second,
    ⟨"f", .function, some "=$\x7bmetric:$\x7bmetric:x\x7d\x7d + 1", .text "", none⟩]

def outer : Guesstimate := ⟨"a", .point, some "1", .text "", none⟩

def inner : Guesstimate := ⟨"x", .point, some "2", .text "", none⟩

/-- The metric `a` has a node and is reported as unknown all the same, in both modes. With the
guesstimates in another order its reference is resolved. -/
theorem nesting_reports_known_id :
    (∃ graph, Graph.ofModel (nesting outer inner) .standard [] = .ok graph ∧
      ("a" : Text) ∈ graph.nodes.keys ∧ graph.diagnostics = [⟨"f", .danglingReferences ["a"]⟩]) ∧
    Graph.ofModel (nesting outer inner) { Settings.standard with strict := true } [] =
      .error (.danglingReferences "f" ["a"]) ∧
    ∃ graph, Graph.ofModel (nesting inner outer) .standard [] = .ok graph ∧
      graph.diagnostics = [] ∧
      (graph.nodes.get? "f").map Node.expression = some (some ("alpha + 1" : Text)) :=
  ⟨exists_ok_of_any (by decide +kernel), eq_error_of_all (by decide +kernel),
    exists_ok_of_any (by decide +kernel)⟩

end Graph

end EstimateCompiler
