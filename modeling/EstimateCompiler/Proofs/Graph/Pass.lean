import EstimateCompiler.Proofs.Graph.Resolution

/-!
# What a pass over the nodes does to them

A pass changes formulas and nothing else: the nodes stay where they are, and of a node only the
expression of a function is written anew. This holds of every pass, whether it gets to the end or
not, since it holds of every node that the pass comes to, and the nodes behind are left alone.

A lenient pass gets to the end. A strict one stops at the node that a lenient one reports first, and
it leaves the nodes half done: those up to the node at fault as a lenient pass leaves them, and the
others as they were. The names that references are resolved to are taken before the pass begins, so
what becomes of a node does not depend on how far the pass has come.
-/
namespace EstimateCompiler

/-- The same entry, but for the expression of a function. -/
structure SameButFormula (before after : Text × Node) : Prop where
  key : after.1 = before.1
  frame : after.2 = { before.2 with expression := after.2.expression }
  other : before.2.kind ≠ .function → after.2 = before.2

theorem SameButFormula.refl (entry : Text × Node) : SameButFormula entry entry :=
  ⟨rfl, rfl, fun _ => rfl⟩

def resolvedEntry (names : OrderedMap Text) (entry : Text × Node) : Text × Node :=
  (entry.1, (entry.2.resolve names).node)

theorem sameButFormula_resolvedEntry (names : OrderedMap Text) (entry : Text × Node) :
    SameButFormula entry (resolvedEntry names entry) := by
  by_cases hkind : entry.2.kind = .function
  · refine ⟨rfl, ?_, fun hother => absurd hkind hother⟩
    simp only [resolvedEntry, Node.resolve, if_pos hkind]
  · have hsame : resolvedEntry names entry = entry := by
      rw [resolvedEntry, Node.resolve, if_neg hkind]
    rw [hsame]
    exact SameButFormula.refl entry

/-- What holds of one node holds of all, in whatever mode and however far the pass gets. -/
theorem sameButFormula_extractEntries (strict : Bool) (names : OrderedMap Text)
    (entries : List (Text × Node)) :
    List.Forall₂ SameButFormula entries (extractEntries strict names entries).1 := by
  induction entries with
  | nil => exact .nil
  | cons entry rest ih =>
      have hfirst := sameButFormula_resolvedEntry names entry
      rw [extractEntries]
      split
      · exact .cons hfirst (List.forall₂_same.2 fun other _ => SameButFormula.refl other)
      · exact .cons hfirst ih

/-- A strict pass that comes to a node at fault leaves those behind it alone. -/
theorem extractEntries_stopped {names : OrderedMap Text} {before behind : List (Text × Node)}
    {entry : Text × Node} (hbefore : ∀ other ∈ before, ¬ other.2.Dangles names)
    (hdangles : entry.2.Dangles names) :
    (extractEntries true names (before ++ entry :: behind)).1 =
      (before ++ [entry]).map (resolvedEntry names) ++ behind := by
  induction before with
  | nil =>
      rw [List.nil_append, extractEntries_stops hdangles]
      rfl
  | cons first rest ih =>
      have hrest := ih fun other hother => hbefore other (List.mem_cons_of_mem _ hother)
      rw [List.cons_append, extractEntries_goesOn fun _ => hbefore first List.mem_cons_self, hrest]
      rfl

namespace NodeMap

variable {nodes : NodeMap}

theorem outcome_extract_lenient (nodes : NodeMap) :
    (nodes.extract false).outcome = .ok (nodes.edges, nodes.diagnostics) :=
  outcome_extract false nodes

theorem entries_extract_lenient (nodes : NodeMap) :
    (nodes.extract false).nodes.entries = nodes.entries.map (resolvedEntry nodes.names) := by
  rw [(extract_of_ok nodes.outcome_extract_lenient).1]
  rfl

/-- A strict pass fails on the node that a lenient one reports first. -/
theorem outcome_extract_strict_iff {id : Text} {ids : List Text} :
    (nodes.extract true).outcome = .error (.danglingReferences id ids) ↔
      nodes.diagnostics.head? = some ⟨id, .danglingReferences ids⟩ := by
  rw [outcome_extract, refusal?, if_pos rfl]
  cases hfirst : nodes.firstDangling? with
  | none => simp [diagnostics_of_firstDangling?_eq_none hfirst]
  | some entry =>
      obtain ⟨later, hlater⟩ := diagnostics_of_firstDangling?_eq_some hfirst
      simp [hlater]

theorem exists_split_of_strict_error {id : Text} {ids : List Text}
    (h : (nodes.extract true).outcome = .error (.danglingReferences id ids)) :
    ∃ before node behind, nodes.entries = before ++ [(id, node)] ++ behind ∧
      (nodes.extract true).nodes.entries =
        (before ++ [(id, node)]).map (resolvedEntry nodes.names) ++ behind := by
  rw [outcome_extract, refusal?, if_pos rfl] at h
  cases hfirst : nodes.firstDangling? with
  | none => simp [hfirst] at h
  | some entry =>
      simp only [hfirst, Option.map_some, Except.error.injEq,
        CompileError.danglingReferences.injEq] at h
      obtain ⟨hdangles, before, behind, hentries, hbefore⟩ := List.find?_eq_some_iff_append.1 hfirst
      have hpass : (nodes.extract true).nodes.entries =
          (extractEntries true nodes.names nodes.entries).1 := rfl
      obtain ⟨key, node⟩ := entry
      obtain ⟨rfl, -⟩ := h
      refine ⟨before, node, behind, by rw [hentries, List.append_cons], ?_⟩
      rw [hpass, hentries]
      apply extractEntries_stopped
      · intro other hother
        simpa using hbefore other hother
      · simpa using hdangles

/-- A report tells what remains in the formula of a function once the pass has come to it. -/
theorem mem_diagnostics_iff_remaining {d : Diagnostic} :
    d ∈ nodes.diagnostics ↔
      ∃ node text, (nodes.extract false).nodes.get? d.nodeId = some node ∧ node.kind = .function ∧
        node.expression = some text ∧ Reference.remaining text ≠ [] ∧
        d.finding = .danglingReferences (Reference.remaining text) := by
  rw [mem_diagnostics, (extract_of_ok nodes.outcome_extract_lenient).1, resolved,
    OrderedMap.get?_map]
  constructor
  · rintro ⟨node, hget, hdangles, hfinding⟩
    have hkind := hdangles.1
    have hremaining := Node.dangling_eq_nil_iff.not_left.2 hdangles
    rw [Node.dangling_resolve hkind] at hremaining hfinding
    refine ⟨(node.resolve nodes.names).node, _, by rw [hget, Option.map_some], ?_,
      Node.expression_resolve hkind, hremaining, hfinding⟩
    rwa [Node.resolve_kind]
  · rintro ⟨after, text, hget, hkind, htext, hremaining, hfinding⟩
    obtain ⟨node, hnode, rfl⟩ := Option.map_eq_some_iff.1 hget
    rw [Node.resolve_kind] at hkind
    obtain rfl := Option.some.inj ((Node.expression_resolve hkind).symm.trans htext)
    rw [← Node.dangling_resolve hkind] at hremaining hfinding
    exact ⟨node, hnode, Node.dangling_eq_nil_iff.not_left.1 hremaining, hfinding⟩

/-- A strict pass that fails has done what a lenient one does, up to the node at fault. -/
theorem getElem?_entries_of_strict_error {id : Text} {ids : List Text}
    (h : (nodes.extract true).outcome = .error (.danglingReferences id ids)) :
    ∃ place : Nat, nodes.keys[place]? = some id ∧ ∀ position : Nat,
      (nodes.extract true).nodes.entries[position]? =
        if position ≤ place then (nodes.extract false).nodes.entries[position]?
        else nodes.entries[position]? := by
  obtain ⟨before, node, behind, hentries, hstopped⟩ := exists_split_of_strict_error h
  refine ⟨before.length, ?_, fun position => ?_⟩
  · rw [OrderedMap.keys, hentries]
    simp
  · have hlength : (before ++ [(id, node)]).length = before.length + 1 := by simp
    generalize before ++ [(id, node)] = front at hentries hstopped hlength
    rw [hstopped, entries_extract_lenient, hentries, List.map_append]
    split
    · rw [List.getElem?_append_left (by rw [List.length_map]; omega),
        List.getElem?_append_left (by rw [List.length_map]; omega)]
    · rw [List.getElem?_append_right (by rw [List.length_map]; omega),
        List.getElem?_append_right (by omega), List.length_map]

theorem extract_strict_of_quiet (h : nodes.diagnostics = []) :
    (nodes.extract true).outcome = .ok (nodes.edges, []) ∧
      (nodes.extract true).nodes = (nodes.extract false).nodes := by
  have hquiet : nodes.firstDangling? = none := by
    cases hfirst : nodes.firstDangling? with
    | none => rfl
    | some entry =>
        obtain ⟨later, hlater⟩ := diagnostics_of_firstDangling?_eq_some hfirst
        rw [h] at hlater
        cases hlater
  have houtcome : (nodes.extract true).outcome = .ok (nodes.edges, nodes.diagnostics) := by
    rw [outcome_extract, refusal?_eq_none_iff.2 (.inr hquiet)]
  refine ⟨h ▸ houtcome, ?_⟩
  rw [(extract_of_ok houtcome).1, (extract_of_ok nodes.outcome_extract_lenient).1]

/-- A pass changes nothing but the expressions of functions. A lenient one gets to the end and gives
dependencies for the nodes in their order, none for a node that is no function, and only on nodes.
It reports the functions in whose formulas references remain. A strict one fails exactly if a
lenient one has something to report, on the first node reported and with what remains there; it
leaves the nodes up to this one as the lenient pass does, and all others as they were. If there is
nothing to report the two are the same. -/
theorem extract_changes_formulas_up_to_failure (nodes : NodeMap) :
    (∀ strict, List.Forall₂ SameButFormula nodes.entries (nodes.extract strict).nodes.entries) ∧
    ∃ edges diagnostics, (nodes.extract false).outcome = .ok (edges, diagnostics) ∧
      edges.keys = nodes.keys ∧
      (∀ id node, nodes.get? id = some node → node.kind ≠ .function → edges.get? id = some []) ∧
      (∀ id targets, edges.get? id = some targets → ∀ target ∈ targets, target ∈ nodes.keys) ∧
      (∀ d, d ∈ diagnostics ↔
        ∃ node text, (nodes.extract false).nodes.get? d.nodeId = some node ∧
          node.kind = .function ∧ node.expression = some text ∧ Reference.remaining text ≠ [] ∧
          d.finding = .danglingReferences (Reference.remaining text)) ∧
      (diagnostics = [] →
        (nodes.extract true).outcome = .ok (edges, []) ∧
          (nodes.extract true).nodes = (nodes.extract false).nodes) ∧
      ∀ id ids,
        ((nodes.extract true).outcome = .error (.danglingReferences id ids) ↔
          diagnostics.head? = some ⟨id, .danglingReferences ids⟩) ∧
        ((nodes.extract true).outcome = .error (.danglingReferences id ids) →
          ∃ place : Nat, nodes.keys[place]? = some id ∧ ∀ position : Nat,
            (nodes.extract true).nodes.entries[position]? =
              if position ≤ place then (nodes.extract false).nodes.entries[position]?
              else nodes.entries[position]?) := by
  refine ⟨fun strict => sameButFormula_extractEntries strict nodes.names nodes.entries, nodes.edges,
    nodes.diagnostics, nodes.outcome_extract_lenient, OrderedMap.keys_map _ _, ?_, ?_,
    fun d => mem_diagnostics_iff_remaining, extract_strict_of_quiet, fun id ids =>
      ⟨outcome_extract_strict_iff, getElem?_entries_of_strict_error⟩⟩
  · intro id node hget hkind
    rw [edges, OrderedMap.get?_map, hget, Option.map_some, Node.resolve, if_neg hkind]
  · intro id targets hget target htarget
    have hdepends : nodes.edges.DependsOn id target := by
      rw [Edges.DependsOn, hget]
      exact htarget
    have hkey := nodes.closed_edges id target hdepends
    rwa [edges, OrderedMap.keys_map] at hkey

example :
    (extract true (.ofList [("a", ⟨"a", "A", "a", .function, some "=1", .null, none⟩),
        ("b", ⟨"b", "B", "b", .function, some "=$\x7bmetric:z\x7d", .null, none⟩),
        ("c", ⟨"c", "C", "c", .function, some "=2", .null, none⟩)])).nodes.values.map
      Node.expression = [some ("1" : Text), some "$\x7bmetric:z\x7d", some "=2"] := by
  decide +kernel

end NodeMap

end EstimateCompiler
