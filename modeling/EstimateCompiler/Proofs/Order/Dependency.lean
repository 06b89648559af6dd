import EstimateCompiler.Order
import Mathlib.Data.List.Chain
import Mathlib.Data.List.Nodup
import Mathlib.Logic.Relation

/-!
# The relation behind an emission order

Dependencies are a relation on ids. An order exists for exactly those relations that stay among the
keys and have no cycle, and this module holds the one half that needs no algorithm: a list in which
every id comes after its dependencies rules out both a missing entry and a cycle.

The dependencies of an id are a set, and where they are listed they are sorted. Such a list is
decided by its members.

A list is settled if each of its ids has all its dependencies behind it. This is the form in which
a search leaves its finished nodes, the last one in front.
-/
namespace EstimateCompiler

theorem nodup_eraseDups (ids : List Text) : ids.eraseDups.Nodup := by
  induction hlength : ids.length using Nat.strong_induction_on generalizing ids with
  | h length ih =>
      cases ids with
      | nil => exact List.nodup_nil
      | cons id rest =>
          rw [List.eraseDups_cons, List.nodup_cons]
          refine ⟨?_, ih _ ?_ _ rfl⟩
          · simp [List.mem_eraseDups]
          · rw [← hlength, List.length_cons]
            exact Nat.lt_succ_of_le (List.length_filter_le _ _)

@[simp] theorem mem_sortIds {ids : List Text} {id : Text} : id ∈ sortIds ids ↔ id ∈ ids := by
  rw [sortIds, List.mem_mergeSort, List.mem_eraseDups]

theorem nodup_sortIds (ids : List Text) : (sortIds ids).Nodup :=
  (List.mergeSort_perm _ _).nodup_iff.2 (nodup_eraseDups ids)

theorem pairwise_mergeSort_of_total {le : Text → Text → Prop} [DecidableRel le]
    (htrans : ∀ a b c, le a b → le b c → le a c) (htotal : ∀ a b, le a b ∨ le b a)
    (ids : List Text) : (ids.mergeSort fun a b => decide (le a b)).Pairwise le := by
  have hsorted : (ids.mergeSort fun a b => decide (le a b)).Pairwise
      fun a b => decide (le a b) = true := by
    apply List.pairwise_mergeSort
    · intro a b c hab hbc
      rw [decide_eq_true_iff] at hab hbc ⊢
      exact htrans a b c hab hbc
    · intro a b
      simpa using htotal a b
  exact hsorted.imp of_decide_eq_true

instance : LinearOrder Text where
  le_refl a := (Text.le_total a a).elim id id
  le_trans _ _ _ := Text.le_trans
  le_antisymm _ _ := Text.le_antisymm
  le_total := Text.le_total
  toDecidableLE := inferInstance

theorem pairwise_sortIds (ids : List Text) : (sortIds ids).Pairwise fun a b => a ≤ b := by
  apply pairwise_mergeSort_of_total
  · intro a b c hab hbc
    exact Text.le_trans hab hbc
  · exact Text.le_total

/-- A sorted list of ids is decided by its members. -/
theorem sortIds_congr {ids₁ ids₂ : List Text} (h : ∀ id, id ∈ ids₁ ↔ id ∈ ids₂) :
    sortIds ids₁ = sortIds ids₂ := by
  refine List.Perm.eq_of_pairwise ?_ (pairwise_sortIds ids₁) (pairwise_sortIds ids₂) ?_
  · intro a b _ _ hab hba
    exact Text.le_antisymm hab hba
  · rw [List.perm_ext_iff_of_nodup (nodup_sortIds ids₁) (nodup_sortIds ids₂)]
    intro id
    rw [mem_sortIds, mem_sortIds, h id]

namespace Edges

def DependsOn (edges : Edges) (id dependency : Text) : Prop :=
  dependency ∈ (edges.get? id).getD []

def Closed (edges : Edges) : Prop :=
  ∀ id dependency, edges.DependsOn id dependency → dependency ∈ edges.keys

/-- No id depends on itself, neither at once nor through others. -/
def Acyclic (edges : Edges) : Prop := ∀ id, ¬ Relation.TransGen edges.DependsOn id id

/-- A path along dependencies that ends where it starts and meets every other id at most once. -/
structure IsCycle (edges : Edges) (path : List Text) : Prop where
  two_le_length : 2 ≤ path.length
  head?_eq_getLast? : path.head? = path.getLast?
  nodup : path.dropLast.Nodup
  mem_keys : ∀ id ∈ path.dropLast, id ∈ edges.keys
  isChain : path.IsChain edges.DependsOn

/-- What a failure tells about the dependencies: an entry that is missing, or a cycle. -/
def Justifies (edges : Edges) : OrderError → Prop
  | .broken id => id ∉ edges.keys ∧ ∃ key ∈ edges.keys, edges.DependsOn key id
  | .cyclic cycle => edges.IsCycle cycle.path

variable {edges : Edges}

theorem DependsOn.mem_keys {id dependency : Text} (h : edges.DependsOn id dependency) :
    id ∈ edges.keys := by
  rw [OrderedMap.mem_keys]
  unfold DependsOn at h
  cases hid : edges.get? id with
  | none => simp [hid] at h
  | some _ => rfl

@[simp] theorem mem_visited {id dependency : Text} :
    dependency ∈ Order.visited edges id ↔ edges.DependsOn id dependency := by
  simp only [Order.visited, DependsOn, List.mem_append, List.mem_filter, mem_sortIds,
    decide_eq_true_eq]
  tauto

/-- A path of at least two ids that ends where it starts leads from its first id back to it. -/
theorem IsCycle.transGen {path : List Text} (h : edges.IsCycle path) :
    ∃ id, Relation.TransGen edges.DependsOn id id := by
  obtain ⟨hlen, hends, -, -, hchain⟩ := h
  match path, hlen with
  | first :: second :: rest, _ =>
      have hlast : (second :: rest).getLast (by simp) = first := by
        have := hends.symm
        rw [List.getLast?_cons_cons, List.getLast?_eq_getLast_of_ne_nil (by simp)] at this
        simpa using this
      rw [List.isChain_cons_cons] at hchain
      have hback : Relation.ReflTransGen edges.DependsOn second first :=
        List.relationReflTransGen_of_exists_isChain_cons rest hchain.2 hlast
      exact ⟨first, Relation.TransGen.head' hchain.1 hback⟩

/-- Ids that are each a dependency of the next one close a cycle where the first of them depends on
a later one. The cycle runs from that one down to the first and back. -/
theorem isCycle_of_isChain {ids : List Text} {id dependency : Text}
    (hchain : ids.IsChain fun inner outer => edges.DependsOn outer inner) (hnodup : ids.Nodup)
    (hkeys : ∀ key ∈ ids, key ∈ edges.keys) (hhead : ids.head? = some id)
    (hd : edges.DependsOn id dependency) (hmem : dependency ∈ ids) :
    edges.IsCycle (dependency :: ((ids.takeWhile (· ≠ dependency)).reverse ++ [dependency])) := by
  obtain ⟨inner, outer, rfl, hinner⟩ := List.eq_append_cons_of_mem hmem
  have htake : (inner ++ dependency :: outer).takeWhile (· ≠ dependency) = inner := by
    rw [List.takeWhile_append_of_pos fun key hkey => by
      simpa using fun h : key = dependency => hinner (h ▸ hkey)]
    simp
  have hreverse : dependency :: inner.reverse = (inner ++ [dependency]).reverse := by simp
  have hlast : (dependency :: inner.reverse).getLast? = some id := by
    rw [hreverse, List.getLast?_reverse]
    cases inner <;> simpa using hhead
  rw [htake, ← List.cons_append]
  refine ⟨by simp, by rw [List.getLast?_concat, List.cons_append, List.head?_cons], ?_, ?_, ?_⟩
  · rw [List.dropLast_concat, hreverse, List.nodup_reverse]
    exact hnodup.sublist (List.Sublist.append_left (by simp) inner)
  · intro key hkey
    rw [List.dropLast_concat, hreverse, List.mem_reverse] at hkey
    exact hkeys key (List.Sublist.mem hkey (List.Sublist.append_left (by simp) inner))
  · refine List.isChain_append.2 ⟨?_, .singleton _, ?_⟩
    · rw [hreverse, List.isChain_reverse]
      exact (List.isChain_split.1 hchain).1
    · rw [hlast]
      simpa using hd

theorem Justifies.not_closed_and_acyclic {error : OrderError} (h : edges.Justifies error) :
    ¬ (edges.Closed ∧ edges.Acyclic) := by
  rintro ⟨hclosed, hacyclic⟩
  cases error with
  | broken id =>
      obtain ⟨hid, key, -, hkey⟩ := h
      exact hid (hclosed key id hkey)
  | cyclic cycle =>
      obtain ⟨id, hid⟩ := IsCycle.transGen h
      exact hacyclic id hid

/-- Every id of the list has its dependencies behind it. -/
def Settled (edges : Edges) : List Text → Prop
  | [] => True
  | id :: earlier => (∀ d, edges.DependsOn id d → d ∈ earlier) ∧ edges.Settled earlier

theorem Settled.mem {ids : List Text} (h : edges.Settled ids) {id dependency : Text}
    (hid : id ∈ ids) (hd : edges.DependsOn id dependency) : dependency ∈ ids := by
  induction ids with
  | nil => cases hid
  | cons head earlier ih =>
      rcases List.mem_cons.1 hid with rfl | hid
      · exact List.mem_cons_of_mem _ (h.1 dependency hd)
      · exact List.mem_cons_of_mem _ (ih h.2 hid)

/-- Read from its end, a settled list has every dependency before the ids that depend on it. -/
theorem Settled.idxOf_lt {ids : List Text} (h : edges.Settled ids) (hnodup : ids.Nodup)
    {id dependency : Text} (hid : id ∈ ids) (hd : edges.DependsOn id dependency) :
    ids.reverse.idxOf dependency < ids.reverse.idxOf id := by
  induction ids with
  | nil => cases hid
  | cons head earlier ih =>
      obtain ⟨hhead, hearlier⟩ := List.nodup_cons.1 hnodup
      rw [List.reverse_cons, List.idxOf_append, List.idxOf_append]
      rcases List.mem_cons.1 hid with rfl | hid
      · have hmem : dependency ∈ earlier.reverse := List.mem_reverse.2 (h.1 dependency hd)
        have hlt := List.idxOf_lt_length_of_mem hmem
        rw [if_pos hmem, if_neg (by simpa using hhead)]
        omega
      · have hmem := h.2.mem hid hd
        rw [if_pos (List.mem_reverse.2 hmem), if_pos (List.mem_reverse.2 hid)]
        exact ih h.2 hearlier hid

theorem closed_of_idxOf_lt {order : List Text} (hperm : order.Perm edges.keys)
    (hbefore : ∀ id d, edges.DependsOn id d → order.idxOf d < order.idxOf id) : edges.Closed := by
  intro id d hd
  have hid : id ∈ order := hperm.mem_iff.2 hd.mem_keys
  have hlt := (hbefore id d hd).trans (List.idxOf_lt_length_of_mem hid)
  exact hperm.mem_iff.1 (List.idxOf_lt_length_iff.1 hlt)

/-- Positions go down along dependencies, so none leads back to where it starts. -/
theorem acyclic_of_idxOf_lt {order : List Text}
    (hbefore : ∀ id d, edges.DependsOn id d → order.idxOf d < order.idxOf id) :
    edges.Acyclic := by
  intro id hcycle
  have hlt : ∀ d, Relation.TransGen edges.DependsOn id d → order.idxOf d < order.idxOf id := by
    intro d hd
    induction hd with
    | single hd => exact hbefore _ _ hd
    | tail _ hstep ih => exact (hbefore _ _ hstep).trans ih
  exact lt_irrefl _ (hlt id hcycle)

end Edges

end EstimateCompiler
