import EstimateCompiler.Text.Basic

/-!
# Maps that remember the order of their keys

A map from texts lists its entries in the order in which the keys first came. Putting a key that
is already there changes its value and keeps its place, so the order of the keys never depends on
how often a key was put.
-/
namespace EstimateCompiler

/-- A list of entries with a new value for the key: in its place, or at the end. -/
def putEntry {α : Type} (key : Text) (value : α) : List (Text × α) → List (Text × α)
  | [] => [(key, value)]
  | entry :: rest =>
      if entry.1 = key then (key, value) :: rest else entry :: putEntry key value rest

theorem map_fst_putEntry {α : Type} (key : Text) (value : α) (entries : List (Text × α)) :
    (putEntry key value entries).map Prod.fst =
      if key ∈ entries.map Prod.fst then entries.map Prod.fst
      else entries.map Prod.fst ++ [key] := by
  induction entries with
  | nil => simp [putEntry]
  | cons entry rest ih =>
      by_cases h : entry.1 = key
      · simp [putEntry, h]
      · have h' : key ≠ entry.1 := fun e => h e.symm
        simp only [putEntry, h, if_false, List.map_cons, ih, List.mem_cons, h', false_or]
        split <;> simp

theorem lookup_entry {α : Type} (k : Text) (entry : Text × α) (rest : List (Text × α)) :
    (entry :: rest).lookup k = if k = entry.1 then some entry.2 else rest.lookup k := by
  obtain ⟨key, value⟩ := entry
  by_cases h : k = key
  · simp [h]
  · simp [List.lookup_cons, h, beq_false_of_ne h]

theorem lookup_putEntry {α : Type} (key : Text) (value : α) (entries : List (Text × α))
    (k : Text) :
    (putEntry key value entries).lookup k =
      if k = key then some value else entries.lookup k := by
  induction entries with
  | nil => simp only [putEntry, lookup_entry]
  | cons entry rest ih =>
      by_cases h : entry.1 = key
      · simp only [putEntry, h, if_true, lookup_entry]
        split <;> rfl
      · simp only [putEntry, h, if_false, lookup_entry, ih]
        by_cases hk : k = entry.1
        · simp [hk, h]
        · simp [hk]

/-- Entries with pairwise different keys, in the order in which the keys first came. -/
structure OrderedMap (α : Type) where
  entries : List (Text × α)
  nodup : (entries.map Prod.fst).Nodup

namespace OrderedMap

variable {α β : Type}

def empty : OrderedMap α := ⟨[], List.nodup_nil⟩

def keys (m : OrderedMap α) : List Text := m.entries.map Prod.fst

def values (m : OrderedMap α) : List α := m.entries.map Prod.snd

def get? (m : OrderedMap α) (key : Text) : Option α := m.entries.lookup key

def put (m : OrderedMap α) (key : Text) (value : α) : OrderedMap α where
  entries := putEntry key value m.entries
  nodup := by
    rw [map_fst_putEntry]
    split
    · exact m.nodup
    · rename_i h
      refine List.nodup_append.2 ⟨m.nodup, by simp, ?_⟩
      intro a ha b hb
      rw [List.mem_singleton.1 hb]
      exact fun e => h (e ▸ ha)

def ofList (entries : List (Text × α)) : OrderedMap α :=
  entries.foldl (fun m entry => m.put entry.1 entry.2) empty

def map (f : α → β) (m : OrderedMap α) : OrderedMap β where
  entries := m.entries.map fun entry => (entry.1, f entry.2)
  nodup := by simpa [List.map_map, Function.comp_def] using m.nodup

theorem keys_nodup (m : OrderedMap α) : m.keys.Nodup := m.nodup

@[simp] theorem keys_empty : (empty : OrderedMap α).keys = [] := rfl

@[simp] theorem keys_map (f : α → β) (m : OrderedMap α) : (m.map f).keys = m.keys := by
  simp [keys, map, List.map_map, Function.comp_def]

/-- A key that is already there keeps its place; a new key comes last. -/
theorem keys_put (m : OrderedMap α) (key : Text) (value : α) :
    (m.put key value).keys = if key ∈ m.keys then m.keys else m.keys ++ [key] :=
  map_fst_putEntry key value m.entries

@[simp] theorem get?_empty (key : Text) : (empty : OrderedMap α).get? key = none := rfl

/-- Putting changes the value of its key only. -/
theorem get?_put (m : OrderedMap α) (key : Text) (value : α) (k : Text) :
    (m.put key value).get? k = if k = key then some value else m.get? k :=
  lookup_putEntry key value m.entries k

@[simp] theorem get?_map (f : α → β) (m : OrderedMap α) (key : Text) :
    (m.map f).get? key = (m.get? key).map f := by
  simp only [get?, map]
  induction m.entries with
  | nil => rfl
  | cons entry rest ih =>
      simp only [List.map_cons, lookup_entry, ih]
      split <;> rfl

theorem mem_keys (m : OrderedMap α) (key : Text) : key ∈ m.keys ↔ (m.get? key).isSome := by
  simp only [keys, get?]
  induction m.entries with
  | nil => simp
  | cons entry rest ih =>
      simp only [List.map_cons, List.mem_cons, lookup_entry, ih]
      by_cases h : key = entry.1 <;> simp [h]

end OrderedMap

end EstimateCompiler
