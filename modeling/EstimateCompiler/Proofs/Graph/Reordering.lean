import EstimateCompiler.Proofs.Graph.Anonymity

/-!
# Graphs of reordered models

The order of the guesstimates decides who keeps the plain identifier when labels collide, and the
order of the metrics decides which one counts when ids do. Without collisions of either sort every
node is named by its own label, so the nodes of a reordered model are the same under every id. What
a formula is resolved to, and what it refers to, depends on the names under the ids only, and not on
the order in which the names are put in.
-/
namespace EstimateCompiler

/-- In a list whose members have different keys, the member found under a key is the only one. -/
theorem find?_eq_some_iff_of_nodup {α : Type} {key : α → Text} {list : List α}
    (hnodup : (list.map key).Nodup) {k : Text} {a : α} :
    list.find? (fun b => key b = k) = some a ↔ a ∈ list ∧ key a = k := by
  constructor
  · intro h
    exact ⟨List.mem_of_find?_eq_some h, by simpa using List.find?_some h⟩
  · rintro ⟨hmem, hkey⟩
    obtain ⟨b, hb⟩ : ∃ b, list.find? (fun b => key b = k) = some b := by
      rw [← Option.isSome_iff_exists, List.find?_isSome]
      exact ⟨a, hmem, by simpa using hkey⟩
    have hsame : key b = key a := by
      rw [hkey]
      simpa using List.find?_some hb
    rw [hb, List.inj_on_of_nodup_map hnodup (List.mem_of_find?_eq_some hb) hmem hsame]

theorem find?_eq_of_perm {α : Type} {key : α → Text} {list₁ list₂ : List α}
    (hnodup : (list₁.map key).Nodup) (hperm : list₁.Perm list₂) (k : Text) :
    list₁.find? (fun b => key b = k) = list₂.find? (fun b => key b = k) := by
  apply Option.ext
  intro a
  rw [find?_eq_some_iff_of_nodup hnodup,
    find?_eq_some_iff_of_nodup ((hperm.map key).nodup_iff.1 hnodup), hperm.mem_iff]

theorem find?_reverse_eq_of_perm {α : Type} {key : α → Text} {list₁ list₂ : List α}
    (hnodup : (list₁.map key).Nodup) (hperm : list₁.Perm list₂) (k : Text) :
    list₁.reverse.find? (fun b => key b = k) = list₂.reverse.find? (fun b => key b = k) := by
  refine find?_eq_of_perm ?_
    ((List.reverse_perm list₁).trans (hperm.trans (List.reverse_perm list₂).symm)) k
  rw [List.map_reverse, List.nodup_reverse]
  exact hnodup

namespace Model

/-- The models differ in the order of their guesstimates, and in that of their metrics if these have
different ids. -/
structure Reordered (first second : Model) : Prop where
  url : first.url = second.url
  guesstimates : first.guesstimates.Perm second.guesstimates
  metrics : first.metrics = second.metrics ∨
    (first.metrics.map Metric.id).Nodup ∧ first.metrics.Perm second.metrics

def label? (model : Model) (guesstimate : Guesstimate) : Option Text :=
  (model.metric? guesstimate.metric).map Metric.name

/-- The guesstimates are for different metrics, and their labels give different identifiers, none of
which is reserved. -/
structure Unambiguous (model : Model) (rules : NamingRules) (reserved : List Text) : Prop where
  ids : (model.guesstimates.map Guesstimate.metric).Nodup
  names : ((model.guesstimates.filterMap model.label?).map (Identifier.base rules)).Nodup
  free : ∀ label ∈ model.guesstimates.filterMap model.label?, Identifier.base rules label ∉ reserved

variable {first second : Model} {rules : NamingRules} {reserved : List Text}

namespace Reordered

theorem symm (h : first.Reordered second) : second.Reordered first where
  url := h.url.symm
  guesstimates := h.guesstimates.symm
  metrics := by
    rcases h.metrics with heq | ⟨hnodup, hperm⟩
    · exact .inl heq.symm
    · exact .inr ⟨(hperm.map _).nodup_iff.1 hnodup, hperm.symm⟩

theorem metric?_eq (h : first.Reordered second) : first.metric? = second.metric? := by
  funext id
  rcases h.metrics with heq | ⟨hnodup, hperm⟩
  · rw [metric?, metric?, heq]
  · exact find?_reverse_eq_of_perm hnodup hperm id

theorem label?_eq (h : first.Reordered second) : first.label? = second.label? := by
  funext guesstimate
  rw [label?, label?, h.metric?_eq]

theorem mem_ids_iff (h : first.Reordered second) (id : Text) :
    id ∈ first.metrics.map Metric.id ↔ id ∈ second.metrics.map Metric.id := by
  rcases h.metrics with heq | ⟨-, hperm⟩
  · rw [heq]
  · exact (hperm.map _).mem_iff

theorem plain (h : first.Reordered second) (hplain : first.Plain) : second.Plain where
  ids := by
    intro guesstimate hmem hid
    exact hplain.ids guesstimate (h.guesstimates.mem_iff.2 hmem) ((h.mem_ids_iff _).2 hid)
  formulas := by
    intro guesstimate hmem
    exact hplain.formulas guesstimate (h.guesstimates.mem_iff.2 hmem)

theorem unambiguous (h : first.Reordered second) (hfirst : first.Unambiguous rules reserved) :
    second.Unambiguous rules reserved := by
  have hlabels : (first.guesstimates.filterMap first.label?).Perm
      (second.guesstimates.filterMap second.label?) := by
    rw [h.label?_eq]
    exact h.guesstimates.filterMap _
  refine ⟨(h.guesstimates.map _).nodup_iff.1 hfirst.ids, (hlabels.map _).nodup_iff.1 hfirst.names,
    ?_⟩
  intro label hlabel
  exact hfirst.free label (hlabels.mem_iff.2 hlabel)

theorem unmatched?_eq_none (h : first.Reordered second) (hmatched : first.unmatched? = none) :
    second.unmatched? = none := by
  rw [unmatched?, List.find?_eq_none] at hmatched ⊢
  intro guesstimate hmem
  have hfirst := hmatched guesstimate (h.guesstimates.mem_iff.2 hmem)
  simpa [← h.mem_ids_iff] using hfirst

end Reordered

end Model

theorem Identifier.fresh_of_not_mem {rules : NamingRules} {used : List Text} {label : Text}
    (h : base rules label ∉ used) : fresh rules used label = base rules label := by
  rw [fresh, freshFrom, if_neg h]

namespace NodeMap

variable {model : Model} {rules : NamingRules} {used : List Text}

/-- The node of a guesstimate under the identifier of its label. -/
def plainNode? (model : Model) (rules : NamingRules) (guesstimate : Guesstimate) : Option Node :=
  (model.metric? guesstimate.metric).map fun metric =>
    Node.make metric guesstimate (Identifier.base rules metric.name)

/-- Labels that do not collide, with each other or with used names, name their nodes. -/
theorem made_eq_filterMap {guesstimates : List Guesstimate} {list : List Node}
    (hnames : ((guesstimates.filterMap model.label?).map (Identifier.base rules)).Nodup)
    (hfree : ∀ label ∈ guesstimates.filterMap model.label?, Identifier.base rules label ∉ used)
    (h : made model rules used guesstimates = .ok list) :
    list = guesstimates.filterMap (plainNode? model rules) := by
  induction guesstimates generalizing used list with
  | nil =>
      cases h
      rfl
  | cons guesstimate rest ih =>
      obtain ⟨metric, later, hmetric, hlater, rfl⟩ := made_cons_eq_ok.1 h
      have hlabel : model.label? guesstimate = some metric.name := by
        rw [Model.label?, hmetric, Option.map_some]
      have hnode : plainNode? model rules guesstimate =
          some (Node.make metric guesstimate (Identifier.base rules metric.name)) := by
        rw [plainNode?, hmetric, Option.map_some]
      rw [List.filterMap_cons_some hlabel] at hnames hfree
      obtain ⟨hhead, hrest⟩ := List.nodup_cons.1 hnames
      have hname := Identifier.fresh_of_not_mem (hfree metric.name List.mem_cons_self)
      rw [hname] at hlater ⊢
      rw [List.filterMap_cons_some hnode, ← ih hrest ?_ hlater]
      intro label hmem hused
      rcases List.mem_cons.1 hused with heq | hused
      · exact hhead (heq ▸ List.mem_map_of_mem hmem)
      · exact hfree label (List.mem_cons_of_mem _ hmem) hused

variable {first second : Model} {settings : Settings} {reserved : List Text}
  {nodes₁ nodes₂ : NodeMap}

theorem alike_of_reordered (hmodels : first.Reordered second)
    (hfirst : first.Unambiguous settings.naming reserved)
    (h₁ : ofModel first settings reserved = .ok nodes₁)
    (h₂ : ofModel second settings reserved = .ok nodes₂) : nodes₁.Alike nodes₂ := by
  have hsecond := hmodels.unambiguous hfirst
  obtain ⟨list₁, hmade₁, rfl⟩ := ofModel_eq_ok.1 h₁
  obtain ⟨list₂, hmade₂, rfl⟩ := ofModel_eq_ok.1 h₂
  have hnodup : (list₁.map Node.id).Nodup := by
    rw [map_id_made hmade₁]
    exact hfirst.ids
  have hperm : list₁.Perm list₂ := by
    rw [made_eq_filterMap hfirst.names hfirst.free hmade₁,
      made_eq_filterMap hsecond.names hsecond.free hmade₂]
    have hnode : plainNode? first settings.naming = plainNode? second settings.naming := by
      funext guesstimate
      rw [plainNode?, plainNode?, hmodels.metric?_eq]
    rw [hnode]
    exact hmodels.guesstimates.filterMap _
  intro id
  rw [get?_putAll, get?_putAll, find?_reverse_eq_of_perm hnodup hperm]

end NodeMap

/-- What a formula is resolved to does not depend on the order of the names. -/
theorem Node.resolve_alike {names₁ names₂ : OrderedMap Text} {node : Node}
    (halike : names₁.Alike names₂) (hids : ∀ id ∈ names₁.keys, .char '\x7d' ∉ id.toList)
    (hplain : ∀ name ∈ names₁.values, .char '\x7b' ∉ name.toList)
    (hformula : node.kind = .function → node.guesstimate.IsFormula) :
    (node.resolve names₁).node = (node.resolve names₂).node ∧
      (∀ id, id ∈ (node.resolve names₁).ids ↔ id ∈ (node.resolve names₂).ids) ∧
      (node.resolve names₁).dangling = (node.resolve names₂).dangling := by
  by_cases hkind : node.kind = .function
  · obtain ⟨formula, hchars⟩ := (hformula hkind).exists_body
    have hbody : node.body = Text.ofList formula.chars := congrArg Text.ofList hchars
    have hids₂ : ∀ id ∈ names₂.keys, .char '\x7d' ∉ id.toList :=
      fun id hid => hids id ((halike.mem_keys id).2 hid)
    have hplain₂ : ∀ name ∈ names₂.values, .char '\x7b' ∉ name.toList := by
      intro name hname
      obtain ⟨id, hid⟩ := OrderedMap.mem_values.1 hname
      exact hplain name (OrderedMap.mem_values.2 ⟨id, (halike id).trans hid⟩)
    obtain ⟨htext₁, hmem₁, -⟩ := Reference.resolve_formula hids hplain formula
    obtain ⟨htext₂, hmem₂, -⟩ := Reference.resolve_formula hids₂ hplain₂ formula
    have hnames : names₁.get? = names₂.get? := funext halike
    have htext : (Reference.resolve names₁ node.body).text =
        (Reference.resolve names₂ node.body).text := by
      rw [hbody, htext₁, htext₂, hnames]
    refine ⟨?_, ?_, ?_⟩
    · simp only [Node.resolve, if_pos hkind, htext]
    · intro id
      rw [Node.ids_resolve hkind, Node.ids_resolve hkind, hbody, hmem₁, hmem₂, halike.mem_keys]
    · rw [Node.dangling_resolve hkind, Node.dangling_resolve hkind, htext]
  · rw [Node.resolve, Node.resolve, if_neg hkind, if_neg hkind]
    exact ⟨rfl, fun _ => Iff.rfl, rfl⟩

namespace NodeMap

variable {model : Model} {settings : Settings} {reserved : List Text} {nodes₁ nodes₂ : NodeMap}
  (hplain : model.Plain) (h : ofModel model settings reserved = .ok nodes₁)
  (halike : nodes₁.Alike nodes₂)
include hplain h halike

theorem resolve_of_alike {id : Text} {node : Node} (hnode : nodes₁.get? id = some node) :
    (node.resolve nodes₁.names).node = (node.resolve nodes₂.names).node ∧
      (∀ id, id ∈ (node.resolve nodes₁.names).ids ↔ id ∈ (node.resolve nodes₂.names).ids) ∧
      (node.resolve nodes₁.names).dangling = (node.resolve nodes₂.names).dangling :=
  Node.resolve_alike (halike.map _) (not_close_of_mem_keys hplain h)
    (fun name hname => (inert_names h name hname).not_open)
    (hplain.formulas _ (guesstimate_mem_of_get? h hnode).1)

theorem dependsOn_iff_of_alike (id dependency : Text) :
    nodes₁.edges.DependsOn id dependency ↔ nodes₂.edges.DependsOn id dependency := by
  rw [Edges.DependsOn, Edges.DependsOn, edges, edges, OrderedMap.get?_map, OrderedMap.get?_map,
    ← halike id]
  cases hnode : nodes₁.get? id with
  | none => rfl
  | some node => exact (resolve_of_alike hplain h halike hnode).2.1 dependency

theorem acyclic_of_alike (hacyclic : nodes₁.edges.Acyclic) : nodes₂.edges.Acyclic := by
  have hsame : nodes₁.edges.DependsOn = nodes₂.edges.DependsOn :=
    funext fun id => funext fun d => propext (dependsOn_iff_of_alike hplain h halike id d)
  intro id
  rw [← hsame]
  exact hacyclic id

theorem firstDangling?_eq_none_of_alike (hfirst : nodes₁.firstDangling? = none) :
    nodes₂.firstDangling? = none := by
  rw [firstDangling?, List.find?_eq_none]
  rintro ⟨id, node⟩ hentry
  have hnode : nodes₁.get? id = some node := (halike id).trans (OrderedMap.mem_entries.1 hentry)
  have hclean := not_dangles_of_firstDangling?_eq_none hfirst hnode
  rw [← Node.dangling_eq_nil_iff, (resolve_of_alike hplain h halike hnode).2.2,
    Node.dangling_eq_nil_iff] at hclean
  simpa using hclean

end NodeMap

end EstimateCompiler
