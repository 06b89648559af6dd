import EstimateCompiler.Proofs.Except
import EstimateCompiler.Proofs.Order.Dependency
import Mathlib.Data.Prod.Lex
import Mathlib.Data.String.Basic

/-!
# Emission order by recursion

The emission order has a plain recursive form. An id is met for the first time, opened, and finished
when its dependencies have been visited one after the other; it is emitted when it is finished. The
path of opened ids is handed down, so an id that is met while it is open closes a cycle along the
path.

The dependencies of an id are visited by rank: keys by their place, and behind them the ids without
an entry by their characters. This is the order in which the loop of the search takes them.

A visit never takes a mark away. The recursion carries this in its result, since it is the reason
why it ends: the ids behind an id that was met for the first time are visited with fewer unmet keys.
What a visit does is said once, by one equation for each sort of id and by one induction that
follows them. From it comes what a visit adds to the order: exactly what the visited ids reach along
dependencies.
-/
namespace EstimateCompiler.DepthFirst

variable {edges : Edges}

/-- Keys rank by their place, and all other ids behind them by their characters. -/
def rank (edges : Edges) (id : Text) : Lex (Nat × Text) :=
  toLex (edges.keys.idxOf id, id)

/-- The dependencies of an id, each once, by their rank. -/
def ranked (edges : Edges) (id : Text) : List Text :=
  ((edges.get? id).getD []).eraseDups.mergeSort fun a b => rank edges a ≤ rank edges b

theorem rank_injective (edges : Edges) : Function.Injective (rank edges) := by
  intro a b h
  exact congrArg (fun r => (ofLex r).2) h

theorem rank_le_of_idxOf_lt {a b : Text} (h : edges.keys.idxOf a < edges.keys.idxOf b) :
    rank edges a ≤ rank edges b :=
  Prod.Lex.toLex_le_toLex.2 (.inl h)

@[simp] theorem mem_ranked {id dependency : Text} :
    dependency ∈ ranked edges id ↔ edges.DependsOn id dependency := by
  rw [ranked, List.mem_mergeSort, List.mem_eraseDups, Edges.DependsOn]

theorem nodup_ranked (edges : Edges) (id : Text) : (ranked edges id).Nodup :=
  (List.mergeSort_perm _ _).nodup_iff.2 (nodup_eraseDups _)

theorem pairwise_ranked (edges : Edges) (id : Text) :
    (ranked edges id).Pairwise fun a b => rank edges a ≤ rank edges b := by
  apply pairwise_mergeSort_of_total
  · intro a b c hab hbc
    exact hab.trans hbc
  · intro a b
    exact le_total (rank edges a) (rank edges b)

theorem nodup_visited (edges : Edges) (id : Text) : (Order.visited edges id).Nodup := by
  refine List.nodup_append.2 ⟨edges.keys_nodup.filter _, nodup_sortIds _, ?_⟩
  rintro a ha b hb rfl
  rw [List.mem_filter] at ha
  rw [mem_sortIds, List.mem_filter] at hb
  simp [ha.1] at hb

theorem pairwise_idxOf_keys (edges : Edges) :
    edges.keys.Pairwise fun a b => edges.keys.idxOf a < edges.keys.idxOf b := by
  rw [List.pairwise_iff_getElem]
  intro i j hi hj hij
  rwa [edges.keys_nodup.idxOf_getElem, edges.keys_nodup.idxOf_getElem]

theorem pairwise_visited (edges : Edges) (id : Text) :
    (Order.visited edges id).Pairwise fun a b => rank edges a ≤ rank edges b := by
  refine List.pairwise_append.2 ⟨?_, ?_, ?_⟩
  · exact ((pairwise_idxOf_keys edges).filter _).imp rank_le_of_idxOf_lt
  · refine (pairwise_sortIds _).imp_of_mem fun {a b} ha hb hab => ?_
    rw [mem_sortIds, List.mem_filter, decide_eq_true_iff] at ha hb
    rw [rank, rank, List.idxOf_eq_length ha.2, List.idxOf_eq_length hb.2]
    exact Prod.Lex.toLex_le_toLex.2 (.inr ⟨rfl, hab⟩)
  · intro a ha b hb
    rw [List.mem_filter] at ha
    rw [mem_sortIds, List.mem_filter, decide_eq_true_iff] at hb
    apply rank_le_of_idxOf_lt
    rw [List.idxOf_eq_length hb.2]
    exact List.idxOf_lt_length_of_mem ha.1

theorem visited_eq_ranked (edges : Edges) (id : Text) :
    Order.visited edges id = ranked edges id := by
  -- two lists by rank with the same members, and no two ids have the same rank
  refine List.Perm.eq_of_pairwise ?_ (pairwise_visited edges id) (pairwise_ranked edges id) ?_
  · intro a b _ _ hab hba
    exact rank_injective edges (le_antisymm hab hba)
  · rw [List.perm_ext_iff_of_nodup (nodup_visited edges id) (nodup_ranked edges id)]
    intro dependency
    rw [Edges.mem_visited, mem_ranked]

/-- How far an id has come. An id without a mark has not been met. -/
inductive Mark where
  | opened
  | finished
  deriving DecidableEq, Repr

/-- The marks of the ids that were met, and the finished ids in the order of their ends. -/
structure Progress where
  marks : OrderedMap Mark
  order : List Text

namespace Progress

def start : Progress := ⟨.empty, []⟩

def opening (p : Progress) (id : Text) : Progress := ⟨p.marks.put id .opened, p.order⟩

def finishing (p : Progress) (id : Text) : Progress :=
  ⟨p.marks.put id .finished, p.order ++ [id]⟩

def unmet (edges : Edges) (p : Progress) : List Text :=
  edges.keys.filter fun id => (p.marks.get? id).isNone

variable {p : Progress} {id : Text}

theorem mem_unmet : id ∈ p.unmet edges ↔ id ∈ edges.keys ∧ p.marks.get? id = none := by
  rw [unmet, List.mem_filter, Option.isNone_iff_eq_none]

theorem not_mem_unmet {mark : Mark} (hmark : p.marks.get? id = some mark) :
    id ∉ p.unmet edges := by
  rw [mem_unmet, hmark]
  simp

theorem filter_isNone_put (marks : OrderedMap Mark) (id : Text) (mark : Mark) :
    (edges.keys.filter fun key => ((marks.put id mark).get? key).isNone) =
      (edges.keys.filter fun key => (marks.get? key).isNone).erase id := by
  rw [(edges.keys_nodup.filter _).erase_eq_filter, List.filter_filter]
  refine List.filter_congr fun key _ => ?_
  rw [OrderedMap.get?_put]
  by_cases hkey : key = id <;> simp [hkey]

theorem unmet_opening (p : Progress) (id : Text) :
    (p.opening id).unmet edges = (p.unmet edges).erase id :=
  filter_isNone_put p.marks id .opened

theorem unmet_finishing (p : Progress) (id : Text) :
    (p.finishing id).unmet edges = (p.unmet edges).erase id :=
  filter_isNone_put p.marks id .finished

theorem length_unmet_opening (hkey : id ∈ edges.keys) (hmark : p.marks.get? id = none) :
    ((p.opening id).unmet edges).length < (p.unmet edges).length := by
  have hmem : id ∈ p.unmet edges := mem_unmet.2 ⟨hkey, hmark⟩
  rw [unmet_opening, List.length_erase_of_mem hmem]
  exact Nat.sub_lt (List.length_pos_of_mem hmem) Nat.one_pos

theorem length_unmet_finishing (edges : Edges) (p : Progress) (id : Text) :
    ((p.finishing id).unmet edges).length ≤ (p.unmet edges).length := by
  rw [unmet_finishing]
  exact List.length_erase_le

theorem reverse_finishing (p : Progress) (id : Text) :
    (p.finishing id).order.reverse = id :: p.order.reverse :=
  List.reverse_concat

end Progress

/-- Visits ids one after the other, along a path of opened ids from the root on. The result has no
more unmet keys than the progress before it. -/
def visitWithin (edges : Edges) (path ids : List Text) (p : Progress) :
    Except OrderError { q : Progress // (q.unmet edges).length ≤ (p.unmet edges).length } :=
  match ids with
  | [] => .ok ⟨p, Nat.le_refl _⟩
  | id :: ids =>
      if hkey : id ∈ edges.keys then
        match hmark : p.marks.get? id with
        | some .finished => visitWithin edges path ids p
        | some .opened => .error (.cyclic ⟨id, (path.dropWhile (· ≠ id)).tail ++ [id]⟩)
        | none => do
            let inner ← visitWithin edges (path ++ [id]) (ranked edges id) (p.opening id)
            have hinner : ((inner.val.finishing id).unmet edges).length < (p.unmet edges).length :=
              (Progress.length_unmet_finishing edges inner.val id).trans_lt
                (inner.property.trans_lt (Progress.length_unmet_opening hkey hmark))
            let outer ← visitWithin edges path ids (inner.val.finishing id)
            .ok ⟨outer.val, outer.property.trans hinner.le⟩
      else .error (.broken id)
termination_by ((p.unmet edges).length, ids.length)
decreasing_by
  · exact Prod.Lex.right _ (Nat.lt_succ_self _)
  · exact Prod.Lex.left _ _ (Progress.length_unmet_opening hkey hmark)
  · exact Prod.Lex.left _ _ hinner

def visit (edges : Edges) (path ids : List Text) (p : Progress) : Except OrderError Progress :=
  Subtype.val <$> visitWithin edges path ids p

/-- The keys in the order in which they end, visited one after the other. -/
def order (edges : Edges) : Except OrderError (List Text) :=
  Progress.order <$> visit edges [] edges.keys .start

section Visit
variable {path ids : List Text} {p q : Progress} {id : Text}

theorem visit_nil : visit edges path [] p = .ok p := by
  rw [visit, visitWithin]
  rfl

theorem visit_broken (hkey : id ∉ edges.keys) :
    visit edges path (id :: ids) p = .error (.broken id) := by
  rw [visit, visitWithin, dif_neg hkey]
  rfl

theorem visit_finished (hkey : id ∈ edges.keys) (hmark : p.marks.get? id = some .finished) :
    visit edges path (id :: ids) p = visit edges path ids p := by
  rw [visit, visitWithin, dif_pos hkey]
  split
  · rfl
  · simp_all
  · simp_all

theorem visit_opened (hkey : id ∈ edges.keys) (hmark : p.marks.get? id = some .opened) :
    visit edges path (id :: ids) p =
      .error (.cyclic ⟨id, (path.dropWhile (· ≠ id)).tail ++ [id]⟩) := by
  rw [visit, visitWithin, dif_pos hkey]
  split
  · simp_all
  · rfl
  · simp_all

theorem visit_unmet (hkey : id ∈ edges.keys) (hmark : p.marks.get? id = none) :
    visit edges path (id :: ids) p = (do
      let q ← visit edges (path ++ [id]) (ranked edges id) (p.opening id)
      visit edges path ids (q.finishing id)) := by
  rw [visit, visitWithin, dif_pos hkey]
  split
  · simp_all
  · simp_all
  · simp only [visit, map_bind, bind_map_left]
    rfl

theorem length_unmet_of_visit (h : visit edges path ids p = .ok q) :
    (q.unmet edges).length ≤ (p.unmet edges).length := by
  obtain ⟨later, -, rfl⟩ := map_eq_ok.1 h
  exact later.property

end Visit

/-- Induction along the visits: into the dependencies of an id that is met for the first time, and
behind it from where that visit has ended. -/
@[elab_as_elim]
theorem visit_induction (edges : Edges) {motive : List Text → List Text → Progress → Prop}
    (nil : ∀ path p, motive path [] p)
    (finished : ∀ path id ids p, id ∈ edges.keys → p.marks.get? id = some .finished →
      motive path ids p → motive path (id :: ids) p)
    (opened : ∀ path id ids p, id ∈ edges.keys → p.marks.get? id = some .opened →
      motive path (id :: ids) p)
    (unmet : ∀ path id ids p, id ∈ edges.keys → p.marks.get? id = none →
      motive (path ++ [id]) (ranked edges id) (p.opening id) →
      (∀ q, visit edges (path ++ [id]) (ranked edges id) (p.opening id) = .ok q →
        motive path ids (q.finishing id)) → motive path (id :: ids) p)
    (broken : ∀ path id ids p, id ∉ edges.keys → motive path (id :: ids) p)
    (path ids : List Text) (p : Progress) : motive path ids p := by
  induction path, ids, p using visitWithin.induct edges with
  | case1 path p => exact nil path p
  | case2 path p id ids hkey hmark ih => exact finished path id ids p hkey hmark ih
  | case3 path p id ids hkey hmark => exact opened path id ids p hkey hmark
  | case4 path p id ids hkey hmark ihInner ihOuter =>
      exact unmet path id ids p hkey hmark ihInner fun q hq =>
        ihOuter ⟨q, length_unmet_of_visit hq⟩
  | case5 path p id ids hkey => exact broken path id ids p hkey

/-- What the marks say while a path of ids is open: exactly its ids are opened, exactly the ids of
the order are finished, and all of them are keys. An id of the order has its dependencies there. -/
structure Coloured (edges : Edges) (path : List Text) (p : Progress) : Prop where
  opened : ∀ id, p.marks.get? id = some .opened ↔ id ∈ path
  finished : ∀ id, p.marks.get? id = some .finished ↔ id ∈ p.order
  nodup : path.Nodup
  mem_keys : ∀ id mark, p.marks.get? id = some mark → id ∈ edges.keys
  closed : ∀ id ∈ p.order, ∀ d, edges.DependsOn id d → d ∈ p.order

namespace Coloured

variable {path : List Text} {p : Progress} {id : Text}

theorem start (edges : Edges) : Coloured edges [] .start where
  opened id := by simp [Progress.start]
  finished id := by simp [Progress.start]
  nodup := .nil
  mem_keys id mark h := by simp [Progress.start] at h
  closed id h := by cases h

theorem opening (h : Coloured edges path p) (hkey : id ∈ edges.keys)
    (hmark : p.marks.get? id = none) : Coloured edges (path ++ [id]) (p.opening id) := by
  have hpath : id ∉ path := fun hid => by simp [(h.opened id).2 hid] at hmark
  refine ⟨fun x => ?_, fun x => ?_, ?_, fun x mark hx => ?_, h.closed⟩
  · rw [Progress.opening, OrderedMap.get?_put, List.mem_append, List.mem_singleton, ← h.opened]
    by_cases hx : x = id <;> simp [hx]
  · rw [Progress.opening, OrderedMap.get?_put, ← h.finished]
    by_cases hx : x = id <;> simp [hx, hmark]
  · exact List.nodup_append_comm.1 (List.nodup_cons.2 ⟨hpath, h.nodup⟩)
  · by_cases hid : x = id
    · exact hid ▸ hkey
    · rw [Progress.opening, OrderedMap.get?_put, if_neg hid] at hx
      exact h.mem_keys x mark hx

theorem opened_last (h : Coloured edges (path ++ [id]) p) : p.marks.get? id = some .opened :=
  (h.opened id).2 (List.mem_append_right _ List.mem_cons_self)

theorem finishing (h : Coloured edges (path ++ [id]) p)
    (hclosed : ∀ d, edges.DependsOn id d → d ∈ p.order) : Coloured edges path (p.finishing id) := by
  have hpath : id ∉ path := (List.nodup_cons.1 (List.nodup_append_comm.1 h.nodup)).1
  refine ⟨fun x => ?_, fun x => ?_, (List.nodup_append.1 h.nodup).1, fun x mark hx => ?_,
    fun x hx d hd => ?_⟩
  · rw [Progress.finishing, OrderedMap.get?_put]
    by_cases hx : x = id
    · simp [hx, hpath]
    · simp [hx, h.opened]
  · rw [Progress.finishing, OrderedMap.get?_put]
    by_cases hx : x = id <;> simp [hx, h.finished]
  · by_cases hid : x = id
    · exact hid ▸ h.mem_keys id _ h.opened_last
    · rw [Progress.finishing, OrderedMap.get?_put, if_neg hid] at hx
      exact h.mem_keys x mark hx
  · rw [Progress.finishing, List.mem_append, List.mem_singleton] at hx ⊢
    rcases hx with hx | rfl
    · exact .inl (h.closed x hx d hd)
    · exact .inl (hclosed d hd)

/-- The innermost id of the path has been met, so its end meets no further key. -/
theorem unmet_finishing_last (h : Coloured edges (path ++ [id]) p) :
    (p.finishing id).unmet edges = p.unmet edges := by
  rw [Progress.unmet_finishing, List.erase_of_not_mem (Progress.not_mem_unmet h.opened_last)]

theorem mem_order_of_reflTransGen (h : Coloured edges path p) (hid : id ∈ p.order) {x : Text}
    (hx : Relation.ReflTransGen edges.DependsOn id x) : x ∈ p.order := by
  induction hx with
  | refl => exact hid
  | tail _ hstep ih => exact h.closed _ ih _ hstep

end Coloured

/-- What a visit to the listed ids leaves: behind the order that was there, exactly the ids that
they reach. -/
structure Covers (edges : Edges) (path ids : List Text) (p q : Progress) : Prop where
  coloured : Coloured edges path q
  isPrefix : p.order <+: q.order
  mem_order : ∀ x, x ∈ q.order ↔
    x ∈ p.order ∨ ∃ id ∈ ids, Relation.ReflTransGen edges.DependsOn id x

namespace Covers

variable {path ids ids₁ ids₂ : List Text} {p q r : Progress} {id : Text}

theorem nil (h : Coloured edges path p) : Covers edges path [] p p :=
  ⟨h, List.prefix_refl _, by simp⟩

theorem pass (h : Covers edges path ids p q) (hp : Coloured edges path p) (hid : id ∈ p.order) :
    Covers edges path (id :: ids) p q := by
  refine ⟨h.coloured, h.isPrefix, fun x => ?_⟩
  have hreach : Relation.ReflTransGen edges.DependsOn id x → x ∈ p.order :=
    hp.mem_order_of_reflTransGen hid
  rw [h.mem_order, List.exists_mem_cons_iff]
  tauto

/-- An id is finished behind its dependencies and what they reach. -/
theorem finishing (h : Covers edges (path ++ [id]) (ranked edges id) (p.opening id) q) :
    Covers edges path [id] p (q.finishing id) := by
  have hdependency : ∀ d, edges.DependsOn id d → d ∈ q.order := fun d hd =>
    (h.mem_order d).2 (.inr ⟨d, mem_ranked.2 hd, .refl⟩)
  refine ⟨h.coloured.finishing hdependency, h.isPrefix.trans (List.prefix_append _ _), fun x => ?_⟩
  have hreach : Relation.ReflTransGen edges.DependsOn id x ↔
      id = x ∨ ∃ d ∈ ranked edges id, Relation.ReflTransGen edges.DependsOn d x := by
    simp only [mem_ranked]
    exact Relation.ReflTransGen.cases_head_iff
  rw [Progress.finishing, List.mem_append, List.mem_singleton, h.mem_order,
    List.exists_mem_cons_iff, hreach, Progress.opening, @eq_comm _ id x]
  simp only [List.not_mem_nil, false_and, exists_false, or_false]
  exact or_assoc.trans (or_congr_right or_comm)

theorem trans (h₁ : Covers edges path ids₁ p q) (h₂ : Covers edges path ids₂ q r) :
    Covers edges path (ids₁ ++ ids₂) p r := by
  refine ⟨h₂.coloured, h₁.isPrefix.trans h₂.isPrefix, fun x => ?_⟩
  rw [h₂.mem_order, h₁.mem_order]
  simp only [List.mem_append, or_and_right, exists_or, or_assoc]

end Covers

/-- A visit that ends well covers the ids that it was made to. -/
theorem covers_of_visit {path ids : List Text} {p q : Progress} (h : Coloured edges path p)
    (hq : visit edges path ids p = .ok q) : Covers edges path ids p q := by
  induction path, ids, p using visit_induction edges generalizing q with
  | nil path p =>
      rw [visit_nil] at hq
      cases hq
      exact .nil h
  | finished path id ids p hkey hmark ih =>
      rw [visit_finished hkey hmark] at hq
      exact (ih h hq).pass h ((h.finished id).1 hmark)
  | opened path id ids p hkey hmark =>
      rw [visit_opened hkey hmark] at hq
      cases hq
  | unmet path id ids p hkey hmark ihInner ihOuter =>
      rw [visit_unmet hkey hmark] at hq
      obtain ⟨inner, hinner, hq⟩ := bind_eq_ok.1 hq
      -- the id itself is covered once it is finished, and the ids behind it are visited from there
      have hfirst := (ihInner (h.opening hkey hmark) hinner).finishing
      exact hfirst.trans (ihOuter inner hinner hfirst.coloured hq)
  | broken path id ids p hkey =>
      rw [visit_broken hkey] at hq
      cases hq

end EstimateCompiler.DepthFirst
