import EstimateCompiler.Proofs.Graph.Extraction
import EstimateCompiler.Proofs.Graph.Naming
import EstimateCompiler.Proofs.Order.Search
import EstimateCompiler.Proofs.Reference.Nesting

/-!
# When there is a graph

A graph is built in two steps, and each has one way to fail. The nodes fail on the first guesstimate
whose metric is not there. The pass over the nodes fails only in strict mode, on the first function
that still holds a token once its references are resolved. In lenient mode the same functions give
the diagnostics, so the first failure and the first diagnostic are about the same node. Both modes
start from the same nodes, and a graph that is there does not depend on the mode.

Dependencies are resolved references, so each of them is one of the nodes.
-/
namespace EstimateCompiler

theorem eq_error_of_all {ε α : Type} [DecidableEq ε] {x : Except ε α} {error : ε}
    (h : (match x with | .ok _ => false | .error e => decide (e = error)) = true) :
    x = .error error := by
  cases x with
  | ok a => cases h
  | error e => rw [of_decide_eq_true h]

/-- The first guesstimate whose metric is not among the metrics. -/
def Model.unmatched? (model : Model) : Option Guesstimate :=
  model.guesstimates.find? fun guesstimate => guesstimate.metric ∉ model.metrics.map Metric.id

theorem Model.metric?_eq_none_iff {model : Model} {id : Text} :
    model.metric? id = none ↔ id ∉ model.metrics.map Metric.id := by
  simp [Model.metric?]

namespace NodeMap

variable {model : Model} {settings : Settings} {reserved : List Text}

theorem made_outcome (model : Model) (rules : NamingRules) (used : List Text)
    (guesstimates : List Guesstimate) :
    match guesstimates.find? fun g => g.metric ∉ model.metrics.map Metric.id with
    | some guesstimate =>
        made model rules used guesstimates = .error (.missingMetric guesstimate.metric)
    | none => ∃ list, made model rules used guesstimates = .ok list := by
  induction guesstimates generalizing used with
  | nil => exact ⟨[], rfl⟩
  | cons guesstimate rest ih =>
      cases hmetric : model.metric? guesstimate.metric with
      | none =>
          have habsent := Model.metric?_eq_none_iff.1 hmetric
          rw [List.find?_cons_of_pos (by simpa using habsent)]
          simp only [made, hmetric]
      | some metric =>
          have hpresent : guesstimate.metric ∈ model.metrics.map Metric.id := by
            by_contra habsent
            rw [Model.metric?_eq_none_iff.2 habsent] at hmetric
            cases hmetric
          rw [List.find?_cons_of_neg (by simpa using hpresent)]
          have hrest := ih (Identifier.fresh rules used metric.name :: used)
          split at hrest
          · simp only [made, hmetric, hrest]
            rfl
          · obtain ⟨list, hlist⟩ := hrest
            exact ⟨_, made_cons_eq_ok.2 ⟨metric, list, hmetric, hlist, rfl⟩⟩

theorem ofModel_of_unmatched {guesstimate : Guesstimate} (h : model.unmatched? = some guesstimate)
    (settings : Settings) (reserved : List Text) :
    ofModel model settings reserved = .error (.missingMetric guesstimate.metric) := by
  have houtcome := made_outcome model settings.naming reserved model.guesstimates
  rw [show model.guesstimates.find? _ = some guesstimate from h] at houtcome
  rw [ofModel, extend_eq_map_made, houtcome]
  rfl

theorem exists_ofModel (h : model.unmatched? = none) (settings : Settings)
    (reserved : List Text) : ∃ nodes, ofModel model settings reserved = .ok nodes := by
  have houtcome := made_outcome model settings.naming reserved model.guesstimates
  rw [show model.guesstimates.find? _ = none from h] at houtcome
  obtain ⟨list, hlist⟩ := houtcome
  exact ⟨_, ofModel_eq_ok.2 ⟨list, hlist, rfl⟩⟩

end NodeMap

theorem Identifier.isWordChar_of_mem {name : List Rune} (h : isIdentifier name = true) {c : Rune}
    (hc : c ∈ name) : isWordChar c = true := by
  cases name with
  | nil => cases hc
  | cons first rest =>
      simp only [isIdentifier, Bool.and_eq_true, Bool.or_eq_true, List.all_eq_true] at h
      rcases List.mem_cons.1 hc with rfl | hc
      · change (c.isUpper || c.isLower || c.isDigit || c == '_') = true
        rcases h.1 with hlower | hunderscore
        · simp [hlower]
        · simp [hunderscore]
      · exact h.2 c hc

theorem Identifier.not_mem_of_isIdentifier {name : List Rune} {c : Rune}
    (h : isIdentifier name = true) (hc : isWordChar c = false) : c ∉ name := by
  intro hmem
  rw [isWordChar_of_mem h hmem] at hc
  cases hc

theorem Reference.inert_of_isIdentifier {name : List Rune}
    (h : Identifier.isIdentifier name = true) : Inert name where
  ne_nil := by
    rintro rfl
    cases h
  not_dollar := Identifier.not_mem_of_isIdentifier h (by decide)
  not_open := Identifier.not_mem_of_isIdentifier h (by decide)
  not_close := Identifier.not_mem_of_isIdentifier h (by decide)

theorem NodeMap.inert_names {model : Model} {settings : Settings} {reserved : List Text}
    {nodes : NodeMap} (h : NodeMap.ofModel model settings reserved = .ok nodes) :
    ∀ name ∈ nodes.names.values, Reference.Inert name.toList := by
  intro name hname
  exact Reference.inert_of_isIdentifier (NodeMap.isIdentifier_of_mem_names h hname)

theorem Reference.mem_names_of_mem_ids {names : List (Text × Text)} {text : List Rune}
    {id : Text} (h : id ∈ (resolveChars names text).2) : id ∈ names.map Prod.fst := by
  induction names generalizing text with
  | nil => exact h
  | cons entry rest ih =>
      rw [resolveChars] at h
      split at h
      · rcases List.mem_cons.1 h with rfl | h
        · exact List.mem_cons_self
        · exact List.mem_cons_of_mem _ (ih h)
      · exact List.mem_cons_of_mem _ (ih h)

/-- Every dependency of a node is a node. -/
theorem NodeMap.closed_edges (nodes : NodeMap) : nodes.edges.Closed := by
  intro id dependency h
  rw [Edges.DependsOn, NodeMap.edges, OrderedMap.get?_map] at h
  rw [NodeMap.edges, OrderedMap.keys_map]
  cases hnode : nodes.get? id with
  | none => simp [hnode] at h
  | some node =>
      rw [hnode] at h
      have hkey : dependency ∈ nodes.names.keys :=
        Reference.mem_names_of_mem_ids (Node.mem_ids_resolve.1 h).2
      rwa [NodeMap.names, OrderedMap.keys_map] at hkey

/-- A function that still holds a token once its references are resolved. -/
def Node.Dangles (names : OrderedMap Text) (node : Node) : Prop :=
  node.kind = .function ∧
    Reference.HasToken (Reference.resolve names node.body).text.toList

instance (names : OrderedMap Text) (node : Node) : Decidable (node.Dangles names) :=
  inferInstanceAs (Decidable (_ ∧ _))

theorem Node.dangling_eq_nil_iff {names : OrderedMap Text} {node : Node} :
    (node.resolve names).dangling = [] ↔ ¬ node.Dangles names := by
  unfold Node.resolve Node.Dangles
  split
  · rename_i hkind
    simp only [Reference.remaining_eq_nil_iff, hkind, true_and]
  · rename_i hkind
    simp only [hkind, false_and, not_false_eq_true]

theorem Node.diagnostics_resolve (names : OrderedMap Text) (node : Node) (id : Text) :
    (node.resolve names).diagnostics id =
      if node.Dangles names then [⟨id, .danglingReferences (node.resolve names).dangling⟩]
      else [] := by
  unfold Resolution.diagnostics
  by_cases hdangles : node.Dangles names
  · rw [if_pos hdangles, if_neg]
    rwa [List.isEmpty_iff, Node.dangling_eq_nil_iff, not_not]
  · rw [if_neg hdangles, if_pos]
    rwa [List.isEmpty_iff, Node.dangling_eq_nil_iff]

namespace NodeMap

/-- The first node that dangles. -/
def firstDangling? (nodes : NodeMap) : Option (Text × Node) :=
  nodes.entries.find? fun entry => entry.2.Dangles nodes.names

def refusal? (strict : Bool) (nodes : NodeMap) : Option CompileError :=
  if strict then
    nodes.firstDangling?.map fun entry =>
      .danglingReferences entry.1 (entry.2.resolve nodes.names).dangling
  else none

def diagnostics (nodes : NodeMap) : List Diagnostic :=
  nodes.entries.flatMap fun entry => (entry.2.resolve nodes.names).diagnostics entry.1

def graph (nodes : NodeMap) : Graph := ⟨nodes.resolved, nodes.edges, nodes.diagnostics⟩

theorem refusal?_eq_none_iff {strict : Bool} {nodes : NodeMap} :
    nodes.refusal? strict = none ↔ strict = false ∨ nodes.firstDangling? = none := by
  cases strict <;> simp [refusal?]

theorem not_dangles_of_firstDangling?_eq_none {nodes : NodeMap} {id : Text} {node : Node}
    (h : nodes.firstDangling? = none) (hget : nodes.get? id = some node) :
    ¬ node.Dangles nodes.names := by
  simpa using List.find?_eq_none.1 h _ (OrderedMap.mem_entries.2 hget)

end NodeMap

section Pass
variable {strict : Bool} {names : OrderedMap Text} {entries : List (Text × Node)}

theorem extractEntries_stops {entry : Text × Node} (h : entry.2.Dangles names) :
    extractEntries true names (entry :: entries) =
      ((entry.1, (entry.2.resolve names).node) :: entries,
        .error (.danglingReferences entry.1 (entry.2.resolve names).dangling)) := by
  have hstops : (true && !(entry.2.resolve names).dangling.isEmpty) = true := by
    rw [Bool.true_and, Bool.not_eq_true', List.isEmpty_eq_false_iff, Ne, Node.dangling_eq_nil_iff,
      not_not]
    exact h
  rw [extractEntries, if_pos hstops]

/-- A lenient pass goes on behind every node, a strict one behind a node that does not dangle. -/
theorem extractEntries_goesOn {entry : Text × Node}
    (h : strict = true → ¬ entry.2.Dangles names) :
    extractEntries strict names (entry :: entries) =
      ((entry.1, (entry.2.resolve names).node) :: (extractEntries strict names entries).1,
        (extractEntries strict names entries).2.map fun found =>
          ⟨(entry.1, (entry.2.resolve names).ids) :: found.edges,
            (entry.2.resolve names).diagnostics entry.1 ++ found.diagnostics⟩) := by
  have hgoesOn : ¬ (strict && !(entry.2.resolve names).dangling.isEmpty) = true := by
    rw [Bool.and_eq_true, Bool.not_eq_true', List.isEmpty_eq_false_iff]
    rintro ⟨hstrict, hdangling⟩
    exact hdangling (Node.dangling_eq_nil_iff.2 (h hstrict))
  rw [extractEntries, if_neg hgoesOn]

theorem extractEntries_of_clean (h : strict = true → ∀ entry ∈ entries, ¬ entry.2.Dangles names) :
    (extractEntries strict names entries).2 =
      .ok ⟨entries.map fun entry => (entry.1, (entry.2.resolve names).ids),
        entries.flatMap fun entry => (entry.2.resolve names).diagnostics entry.1⟩ := by
  induction entries with
  | nil => rfl
  | cons entry rest ih =>
      have hrest := ih fun hstrict other hother => h hstrict other (List.mem_cons_of_mem _ hother)
      rw [extractEntries_goesOn fun hstrict => h hstrict entry List.mem_cons_self]
      simp only [hrest, Except.map, List.map_cons, List.flatMap_cons]

theorem extractEntries_of_dangling {entry : Text × Node}
    (h : entries.find? (fun entry => entry.2.Dangles names) = some entry) :
    (extractEntries true names entries).2 =
      .error (.danglingReferences entry.1 (entry.2.resolve names).dangling) := by
  induction entries with
  | nil => cases h
  | cons first rest ih =>
      by_cases hdangles : first.2.Dangles names
      · rw [List.find?_cons_of_pos (by simpa using hdangles)] at h
        obtain rfl := Option.some.inj h
        rw [extractEntries_stops hdangles]
      · rw [List.find?_cons_of_neg (by simpa using hdangles)] at h
        rw [extractEntries_goesOn fun _ => hdangles]
        simp only [ih h]
        rfl

end Pass

namespace NodeMap

theorem extractEntries_refusal (strict : Bool) (nodes : NodeMap) :
    (extractEntries strict nodes.names nodes.entries).2 =
      match nodes.refusal? strict with
      | some error => .error error
      | none => .ok ⟨nodes.edges.entries, nodes.diagnostics⟩ := by
  cases hrefusal : nodes.refusal? strict with
  | none =>
      refine extractEntries_of_clean ?_
      rintro rfl
      simpa [refusal?, firstDangling?] using hrefusal
  | some error =>
      unfold refusal? at hrefusal
      split at hrefusal
      · rename_i hstrict
        subst hstrict
        obtain ⟨entry, hentry, rfl⟩ := Option.map_eq_some_iff.1 hrefusal
        exact extractEntries_of_dangling hentry
      · cases hrefusal

theorem outcome_extract (strict : Bool) (nodes : NodeMap) :
    (nodes.extract strict).outcome =
      match nodes.refusal? strict with
      | some error => .error error
      | none => .ok (nodes.edges, nodes.diagnostics) := by
  have hpass := extractEntries_refusal strict nodes
  simp only [extract]
  split
  · rename_i error hfailed
    rw [hpass] at hfailed
    split at hfailed
    · cases hfailed
      rfl
    · cases hfailed
  · rename_i found hfound
    rw [hpass] at hfound
    split at hfound
    · cases hfound
    · cases hfound
      rfl

variable {nodes : NodeMap}

/-- A diagnostic of the pass is about a node that dangles and lists what remains of its tokens. -/
theorem mem_diagnostics {d : Diagnostic} :
    d ∈ nodes.diagnostics ↔
      ∃ node, nodes.get? d.nodeId = some node ∧ node.Dangles nodes.names ∧
        d.finding = .danglingReferences (node.resolve nodes.names).dangling := by
  simp only [diagnostics, Node.diagnostics_resolve, List.mem_flatMap, Prod.exists,
    OrderedMap.mem_entries]
  constructor
  · rintro ⟨id, node, hget, hd⟩
    split at hd
    · obtain rfl := List.mem_singleton.1 hd
      exact ⟨node, hget, ‹_›, rfl⟩
    · cases hd
  · rintro ⟨node, hget, hdangles, hfinding⟩
    refine ⟨d.nodeId, node, hget, ?_⟩
    rw [if_pos hdangles, List.mem_singleton, ← hfinding]

theorem diagnostics_of_firstDangling?_eq_none (h : nodes.firstDangling? = none) :
    nodes.diagnostics = [] := by
  rw [List.eq_nil_iff_forall_not_mem]
  intro d hd
  obtain ⟨node, hget, hdangles, -⟩ := mem_diagnostics.1 hd
  exact not_dangles_of_firstDangling?_eq_none h hget hdangles

/-- The first diagnostic is about the first node that dangles. -/
theorem diagnostics_of_firstDangling?_eq_some {id : Text} {node : Node}
    (h : nodes.firstDangling? = some (id, node)) :
    ∃ later, nodes.diagnostics =
      ⟨id, .danglingReferences (node.resolve nodes.names).dangling⟩ :: later := by
  obtain ⟨hdangles, before, behind, hentries, hbefore⟩ := List.find?_eq_some_iff_append.1 h
  have hclean : before.flatMap (fun entry =>
      (entry.2.resolve nodes.names).diagnostics entry.1) = [] := by
    rw [List.flatMap_eq_nil_iff]
    intro entry hentry
    rw [Node.diagnostics_resolve, if_neg (by simpa using hbefore entry hentry)]
  refine ⟨behind.flatMap fun entry => (entry.2.resolve nodes.names).diagnostics entry.1, ?_⟩
  rw [diagnostics, hentries, List.flatMap_append, hclean, List.flatMap_cons,
    Node.diagnostics_resolve, if_pos (by simpa using hdangles)]
  rfl

end NodeMap

namespace Graph

variable {model : Model} {settings : Settings} {reserved : List Text}

theorem ofModel_of_nodes {nodes : NodeMap}
    (h : NodeMap.ofModel model settings reserved = .ok nodes) :
    Graph.ofModel model settings reserved =
      match nodes.refusal? settings.strict with
      | some error => .error error
      | none => .ok nodes.graph := by
  have hpass := nodes.outcome_extract settings.strict
  rw [Graph.ofModel, h]
  cases hrefusal : nodes.refusal? settings.strict with
  | some error =>
      rw [hrefusal] at hpass
      simp only [bind, Except.bind, hpass]
  | none =>
      rw [hrefusal] at hpass
      have hnodes := (NodeMap.extract_of_ok hpass).1
      simp only [bind, Except.bind, hpass, hnodes]
      rfl

theorem ofModel_of_error {error : CompileError}
    (h : NodeMap.ofModel model settings reserved = .error error) :
    Graph.ofModel model settings reserved = .error error := by
  rw [Graph.ofModel, h]
  rfl

theorem ofModel_eq_ok_iff {graph : Graph} :
    Graph.ofModel model settings reserved = .ok graph ↔
      ∃ nodes, NodeMap.ofModel model settings reserved = .ok nodes ∧
        nodes.refusal? settings.strict = none ∧ graph = nodes.graph := by
  cases hnodes : NodeMap.ofModel model settings reserved with
  | error error => simp [ofModel_of_error hnodes]
  | ok nodes =>
      rw [ofModel_of_nodes hnodes]
      cases hrefusal : nodes.refusal? settings.strict <;> simp [hrefusal, eq_comm]

end Graph

end EstimateCompiler
