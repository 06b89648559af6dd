import EstimateCompiler.OrderedMap
import Mathlib.Data.List.Nodup

/-!
# Entries, keys and values of ordered maps

A map is looked at through `get?`. Since keys are pairwise different, an entry of the list is the
value of its key, and values that know their key are as different as the keys are.
-/
namespace EstimateCompiler.OrderedMap

variable {α β : Type}

theorem ext_entries {m₁ m₂ : OrderedMap α} (h : m₁.entries = m₂.entries) : m₁ = m₂ := by
  cases m₁
  cases m₂
  cases h
  rfl

theorem mem_entries {m : OrderedMap α} {key : Text} {value : α} :
    (key, value) ∈ m.entries ↔ m.get? key = some value := by
  obtain ⟨entries, hnodup⟩ := m
  simp only [get?]
  induction entries with
  | nil => simp
  | cons entry rest ih =>
      obtain ⟨hhead, hrest⟩ := List.nodup_cons.1 hnodup
      rw [lookup_entry, List.mem_cons, ih hrest]
      by_cases hkey : key = entry.1
      · have habsent : rest.lookup key ≠ some value := by
          intro h
          have hmem := (ih hrest).2 h
          exact hhead (hkey ▸ List.mem_map_of_mem hmem)
        simp [hkey ▸ habsent, hkey, Prod.ext_iff, eq_comm]
      · have hne : (key, value) ≠ entry := fun h => hkey (congrArg Prod.fst h)
        simp [hkey, hne]

theorem mem_values {m : OrderedMap α} {value : α} :
    value ∈ m.values ↔ ∃ key, m.get? key = some value := by
  simp only [values, List.mem_map, Prod.exists, exists_eq_right, mem_entries]

/-- Values that know their key give the keys back, in their order. -/
theorem map_values {m : OrderedMap α} {f : α → Text}
    (h : ∀ key value, m.get? key = some value → f value = key) : m.values.map f = m.keys := by
  rw [values, keys, List.map_map]
  apply List.map_congr_left
  intro entry hentry
  exact h entry.1 entry.2 (mem_entries.1 hentry)

/-- Keys are given back by the values found under them, if the values know them. -/
theorem map_filterMap_get? {m : OrderedMap α} {f : α → Text} {ids : List Text}
    (h : ∀ key ∈ ids, ∃ value, m.get? key = some value ∧ f value = key) :
    (ids.filterMap m.get?).map f = ids := by
  induction ids with
  | nil => rfl
  | cons key rest ih =>
      obtain ⟨value, hvalue, hkey⟩ := h key List.mem_cons_self
      have hrest := ih fun other hother => h other (List.mem_cons_of_mem _ hother)
      rw [List.filterMap_cons_some hvalue, List.map_cons, hkey, hrest]

theorem values_map (f : α → β) (m : OrderedMap α) : (m.map f).values = m.values.map f := by
  simp [values, map, List.map_map, Function.comp_def]

theorem map_entries_putEntry (f : α → β) (key : Text) (value : α) (entries : List (Text × α)) :
    (putEntry key value entries).map (fun entry => (entry.1, f entry.2)) =
      putEntry key (f value) (entries.map fun entry => (entry.1, f entry.2)) := by
  induction entries with
  | nil => rfl
  | cons entry rest ih =>
      by_cases hkey : entry.1 = key
      · simp [putEntry, hkey]
      · simp [putEntry, hkey, ih]

theorem map_put (f : α → β) (m : OrderedMap α) (key : Text) (value : α) :
    (m.put key value).map f = (m.map f).put key (f value) :=
  ext_entries (map_entries_putEntry f key value m.entries)

theorem putEntry_putEntry (key : Text) (value later : α) (entries : List (Text × α)) :
    putEntry key later (putEntry key value entries) = putEntry key later entries := by
  induction entries with
  | nil => simp [putEntry]
  | cons entry rest ih =>
      by_cases hkey : entry.1 = key
      · simp [putEntry, hkey]
      · simp [putEntry, hkey, ih]

/-- The last value that is put under a key counts. -/
theorem put_put (m : OrderedMap α) (key : Text) (value later : α) :
    (m.put key value).put key later = m.put key later :=
  ext_entries (putEntry_putEntry key value later m.entries)

theorem map_eq_map_map {γ : Type} {m : OrderedMap α} {f : α → γ} {g : α → β} {h : β → γ}
    (hvalues : ∀ key value, m.get? key = some value → f value = h (g value)) :
    m.map f = (m.map g).map h := by
  apply ext_entries
  simp only [map, List.map_map]
  refine List.map_congr_left fun entry hentry => ?_
  rw [hvalues entry.1 entry.2 (mem_entries.1 hentry)]
  rfl

/-- The maps have the same keys with the same values, in whatever order. -/
def Alike (m₁ m₂ : OrderedMap α) : Prop := ∀ key, m₁.get? key = m₂.get? key

namespace Alike

variable {m₁ m₂ : OrderedMap α}

theorem symm (h : m₁.Alike m₂) : m₂.Alike m₁ := fun key => (h key).symm

theorem mem_keys (h : m₁.Alike m₂) (key : Text) : key ∈ m₁.keys ↔ key ∈ m₂.keys := by
  rw [OrderedMap.mem_keys, OrderedMap.mem_keys, h key]

theorem map (h : m₁.Alike m₂) (f : α → β) : (m₁.map f).Alike (m₂.map f) := by
  intro key
  rw [get?_map, get?_map, h key]

end Alike

theorem putEntry_of_not_mem {key : Text} {value : α} {entries : List (Text × α)}
    (h : key ∉ entries.map Prod.fst) : putEntry key value entries = entries ++ [(key, value)] := by
  induction entries with
  | nil => rfl
  | cons entry rest ih =>
      rw [List.map_cons, List.mem_cons, not_or] at h
      rw [putEntry, if_neg fun heq => h.1 heq.symm, ih h.2, List.cons_append]

theorem entries_foldl_put {m : OrderedMap α} {entries : List (Text × α)}
    (h : ((m.entries ++ entries).map Prod.fst).Nodup) :
    (entries.foldl (fun m entry => m.put entry.1 entry.2) m).entries = m.entries ++ entries := by
  induction entries generalizing m with
  | nil => rw [List.append_nil, List.foldl_nil]
  | cons entry rest ih =>
      have hnew : entry.1 ∉ m.entries.map Prod.fst := by
        rw [List.map_append, List.map_cons, List.nodup_middle] at h
        exact fun hmem => (List.nodup_cons.1 h).1 (List.mem_append_left _ hmem)
      have hput : (m.put entry.1 entry.2).entries = m.entries ++ [entry] := putEntry_of_not_mem hnew
      rw [List.foldl_cons, ih (by rwa [hput, List.append_assoc]), hput, List.append_assoc]
      rfl

/-- Entries with different keys are the entries of the map that is made of them. -/
theorem entries_ofList {entries : List (Text × α)} (h : (entries.map Prod.fst).Nodup) :
    (ofList entries).entries = entries :=
  entries_foldl_put h

/-- The keys of a map come first, and then those that are new, each in its first place. -/
theorem keys_foldl_put (m : OrderedMap α) (entries : List (Text × α)) :
    (entries.foldl (fun m entry => m.put entry.1 entry.2) m).keys =
      m.keys ++ ((entries.map Prod.fst).filter (· ∉ m.keys)).eraseDups := by
  induction entries generalizing m with
  | nil => exact (List.append_nil _).symm
  | cons entry rest ih =>
      rw [List.foldl_cons, ih, keys_put, List.map_cons]
      by_cases hkey : entry.1 ∈ m.keys
      · rw [if_pos hkey, List.filter_cons_of_neg (by simpa using hkey)]
      · have hfilter : (rest.map Prod.fst).filter (· ∉ m.keys ++ [entry.1]) =
            ((rest.map Prod.fst).filter (· ∉ m.keys)).filter (fun key => !key == entry.1) := by
          rw [List.filter_filter]
          apply List.filter_congr
          intro key _
          rw [Bool.eq_iff_iff]
          simp [and_comm]
        rw [if_neg hkey, hfilter, List.filter_cons_of_pos (by simpa using hkey),
          List.eraseDups_cons, List.append_assoc, List.singleton_append]

theorem keys_ofList (entries : List (Text × α)) :
    (ofList entries).keys = (entries.map Prod.fst).eraseDups := by
  rw [ofList, keys_foldl_put, keys_empty, List.nil_append]
  congr 1
  exact List.filter_eq_self.2 fun key _ => by simp

/-- The entries of the listed keys, in the order of the list. -/
def rekeyed (m : OrderedMap α) (keys : List Text) : OrderedMap α :=
  .ofList (keys.filterMap fun key => (m.get? key).map (Prod.mk key))

variable {m : OrderedMap α} {keys : List Text}

theorem map_fst_filterMap_get? (h : ∀ key ∈ keys, key ∈ m.keys) :
    (keys.filterMap fun key => (m.get? key).map (Prod.mk key)).map Prod.fst = keys := by
  induction keys with
  | nil => rfl
  | cons key rest ih =>
      obtain ⟨value, hvalue⟩ := Option.isSome_iff_exists.1 ((m.mem_keys key).1 (h key (by simp)))
      have hrest := ih fun other hother => h other (List.mem_cons_of_mem _ hother)
      simp [hvalue, hrest]

theorem entries_rekeyed (hperm : keys.Perm m.keys) :
    (m.rekeyed keys).entries = keys.filterMap fun key => (m.get? key).map (Prod.mk key) := by
  apply entries_ofList
  rw [map_fst_filterMap_get? fun key hkey => hperm.mem_iff.1 hkey]
  exact hperm.nodup_iff.2 m.keys_nodup

theorem keys_rekeyed (hperm : keys.Perm m.keys) : (m.rekeyed keys).keys = keys := by
  rw [OrderedMap.keys, entries_rekeyed hperm]
  exact map_fst_filterMap_get? fun key hkey => hperm.mem_iff.1 hkey

theorem alike_rekeyed (hperm : keys.Perm m.keys) : (m.rekeyed keys).Alike m := by
  intro key
  refine Option.ext fun value => ?_
  have hkey : m.get? key = some value → key ∈ keys := by
    intro hvalue
    rw [hperm.mem_iff, OrderedMap.mem_keys, hvalue]
    rfl
  rw [← mem_entries, entries_rekeyed hperm, List.mem_filterMap]
  constructor
  · rintro ⟨other, -, hother⟩
    obtain ⟨found, hfound, heq⟩ := Option.map_eq_some_iff.1 hother
    cases heq
    exact hfound
  · intro hvalue
    exact ⟨key, hkey hvalue, by rw [hvalue]; rfl⟩

end EstimateCompiler.OrderedMap
