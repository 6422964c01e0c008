/-!
# Keyed collections

A keyed collection is a list of entries with distinct keys. It keeps the order in which its
entries stand, so the same type serves two readings: a map whose order carries no meaning, and a
recency list whose first entry is the one used last. Each operation is described by what it does
to the lookup `get?`.
-/

set_option autoImplicit false

namespace StorageBroker

variable {κ α β : Type} [DecidableEq κ]

/-! ## Entries -/

/-- The value of the first entry with the key. -/
def lookup (key : κ) : List (κ × α) → Option α
  | [] => none
  | entry :: rest => if entry.1 = key then some entry.2 else lookup key rest

/-- Every entry but those with the key. -/
def withoutKey (key : κ) (entries : List (κ × α)) : List (κ × α) :=
  entries.filter fun entry => entry.1 ≠ key

/-- The entries with the value at the key exchanged. -/
def exchange (key : κ) (value : α) (entries : List (κ × α)) : List (κ × α) :=
  entries.map fun entry => if entry.1 = key then (key, value) else entry

theorem map_fst_exchange (key : κ) (value : α) (entries : List (κ × α)) :
    (exchange key value entries).map Prod.fst = entries.map Prod.fst := by
  simp only [exchange, List.map_map]
  refine List.map_congr_left fun entry _ => ?_
  by_cases same : entry.1 = key <;> simp [same]

theorem not_mem_map_fst_withoutKey (key : κ) (entries : List (κ × α)) :
    key ∉ (withoutKey key entries).map Prod.fst := by
  simp [withoutKey]

theorem nodup_map_fst_withoutKey (key : κ) {entries : List (κ × α)}
    (distinct : (entries.map Prod.fst).Nodup) :
    ((withoutKey key entries).map Prod.fst).Nodup :=
  distinct.sublist (List.filter_sublist.map Prod.fst)

theorem lookup_eq_none_iff (key : κ) (entries : List (κ × α)) :
    lookup key entries = none ↔ key ∉ entries.map Prod.fst := by
  induction entries with
  | nil => simp [lookup]
  | cons entry rest ih =>
    by_cases same : entry.1 = key
    · simp [lookup, same]
    · simp [lookup, same, ih, Ne.symm same]

theorem lookup_withoutKey {key other : κ} (different : key ≠ other) (entries : List (κ × α)) :
    lookup other (withoutKey key entries) = lookup other entries := by
  induction entries with
  | nil => rfl
  | cons entry rest ih =>
    by_cases here : entry.1 = key
    · have away : entry.1 ≠ other := fun equal => different (here ▸ equal)
      have dropped : withoutKey key (entry :: rest) = withoutKey key rest := by
        simp [withoutKey, here]
      rw [dropped, ih, lookup, if_neg away]
    · have kept : withoutKey key (entry :: rest) = entry :: withoutKey key rest := by
        simp [withoutKey, here]
      rw [kept, lookup, lookup, ih]

theorem lookup_withoutKey_self (key : κ) (entries : List (κ × α)) :
    lookup key (withoutKey key entries) = none :=
  (lookup_eq_none_iff key _).2 (not_mem_map_fst_withoutKey key entries)

theorem lookup_exchange_self {key : κ} (value : α) {entries : List (κ × α)}
    (known : key ∈ entries.map Prod.fst) : lookup key (exchange key value entries) = some value := by
  induction entries with
  | nil => cases known
  | cons entry rest ih =>
    by_cases here : entry.1 = key
    · simp [exchange, lookup, here]
    · have later : key ∈ rest.map Prod.fst := by
        rcases List.mem_cons.1 known with same | later
        · exact absurd same.symm here
        · exact later
      have kept : exchange key value (entry :: rest) = entry :: exchange key value rest := by
        simp [exchange, here]
      rw [kept, lookup, if_neg here]
      exact ih later

theorem lookup_exchange_of_ne {key other : κ} (different : key ≠ other) (value : α)
    (entries : List (κ × α)) :
    lookup other (exchange key value entries) = lookup other entries := by
  induction entries with
  | nil => rfl
  | cons entry rest ih =>
    by_cases here : entry.1 = key
    · have away : entry.1 ≠ other := fun equal => different (here ▸ equal)
      have changed : exchange key value (entry :: rest) = (key, value) :: exchange key value rest := by
        simp [exchange, here]
      rw [changed, lookup, if_neg different, ih, lookup, if_neg away]
    · have kept : exchange key value (entry :: rest) = entry :: exchange key value rest := by
        simp [exchange, here]
      rw [kept, lookup, lookup, ih]

theorem lookup_append_singleton {key : κ} (value : α) {entries : List (κ × α)}
    (new : key ∉ entries.map Prod.fst) (other : κ) :
    lookup other (entries ++ [(key, value)]) =
      if key = other then some value else lookup other entries := by
  induction entries with
  | nil => rfl
  | cons entry rest ih =>
    rw [List.map_cons, List.mem_cons, not_or] at new
    rw [List.cons_append, lookup, lookup, ih new.2]
    by_cases here : entry.1 = other
    · rw [if_pos here, if_pos here, if_neg fun same => new.1 (same.trans here.symm)]
    · rw [if_neg here, if_neg here]

theorem mem_of_lookup {key : κ} {value : α} {entries : List (κ × α)}
    (found : lookup key entries = some value) : (key, value) ∈ entries := by
  induction entries with
  | nil => cases found
  | cons entry rest ih =>
    rw [lookup] at found
    split at found
    · next same =>
      cases found
      rw [← same]
      exact List.mem_cons_self
    · exact List.mem_cons_of_mem _ (ih found)

theorem lookup_of_mem {key : κ} {value : α} {entries : List (κ × α)}
    (distinct : (entries.map Prod.fst).Nodup) (member : (key, value) ∈ entries) :
    lookup key entries = some value := by
  induction entries with
  | nil => cases member
  | cons entry rest ih =>
    obtain ⟨apart, distinctRest⟩ := List.nodup_cons.1 distinct
    rcases List.mem_cons.1 member with rfl | later
    · simp [lookup]
    · have different : entry.1 ≠ key := fun same =>
        apart (same ▸ List.mem_map_of_mem later)
      rw [lookup, if_neg different]
      exact ih distinctRest later

/-! ## Collections -/

/-- Entries with distinct keys. -/
structure Keyed (κ α : Type) where
  entries : List (κ × α)
  distinct : (entries.map Prod.fst).Nodup
  deriving DecidableEq

namespace Keyed

/-- The collection without entries. -/
def empty : Keyed κ α := ⟨[], List.nodup_nil⟩

instance : Inhabited (Keyed κ α) := ⟨⟨[], List.nodup_nil⟩⟩

/-- The keys, in order. -/
def keys (collection : Keyed κ α) : List κ := collection.entries.map Prod.fst

/-- The number of entries. -/
def size (collection : Keyed κ α) : Nat := collection.entries.length

/-- The value at a key. -/
def get? (collection : Keyed κ α) (key : κ) : Option α := lookup key collection.entries

/-- Whether there is an entry with the key. -/
def contains (collection : Keyed κ α) (key : κ) : Bool := (collection.get? key).isSome

/-- Takes out the entry with the key. -/
def erase (collection : Keyed κ α) (key : κ) : Keyed κ α :=
  ⟨withoutKey key collection.entries, nodup_map_fst_withoutKey key collection.distinct⟩

/-- Puts an entry in front of all others, in place of an older one with its key. -/
def insertFirst (collection : Keyed κ α) (key : κ) (value : α) : Keyed κ α :=
  ⟨(key, value) :: withoutKey key collection.entries,
    List.nodup_cons.2 ⟨not_mem_map_fst_withoutKey key collection.entries,
      nodup_map_fst_withoutKey key collection.distinct⟩⟩

/-- Sets the value at a key: where the key stands, or behind all others if it is new. -/
def insert (collection : Keyed κ α) (key : κ) (value : α) : Keyed κ α :=
  if known : key ∈ collection.keys then
    ⟨exchange key value collection.entries, by
      rw [map_fst_exchange]; exact collection.distinct⟩
  else
    ⟨collection.entries ++ [(key, value)], by
      rw [List.map_append]
      refine List.nodup_append.2 ⟨collection.distinct, by simp, fun other member added new => ?_⟩
      rw [List.map_singleton, List.mem_singleton] at new
      intro same
      rw [same, new] at member
      exact known member⟩

/-- The collection of the entries; of several entries with one key the last counts. -/
def ofList (entries : List (κ × α)) : Keyed κ α :=
  entries.foldl (fun collection entry => collection.insert entry.1 entry.2) empty

/-- Moves the entry with the key in front of all others. -/
def touch (collection : Keyed κ α) (key : κ) : Keyed κ α :=
  match collection.get? key with
  | some value => collection.insertFirst key value
  | none => collection

/-! ## What the operations do to lookups -/

@[simp] theorem get?_empty (key : κ) : (empty : Keyed κ α).get? key = none := rfl

/-- A lookup finds the entries, and nothing else. -/
theorem get?_eq_some_iff (collection : Keyed κ α) (key : κ) (value : α) :
    collection.get? key = some value ↔ (key, value) ∈ collection.entries :=
  ⟨mem_of_lookup, lookup_of_mem collection.distinct⟩

@[simp] theorem get?_insertFirst (collection : Keyed κ α) (key other : κ) (value : α) :
    (collection.insertFirst key value).get? other =
      if key = other then some value else collection.get? other := by
  by_cases same : key = other
  · simp [get?, insertFirst, lookup, same]
  · simp only [get?, insertFirst, lookup, same, if_false]
    exact lookup_withoutKey same collection.entries

@[simp] theorem get?_touch (collection : Keyed κ α) (key other : κ) :
    (collection.touch key).get? other = collection.get? other := by
  unfold touch
  split
  · next value found =>
    rw [get?_insertFirst]
    by_cases same : key = other
    · rw [if_pos same, ← same, found]
    · rw [if_neg same]
  · rfl

@[simp] theorem get?_erase (collection : Keyed κ α) (key other : κ) :
    (collection.erase key).get? other = if key = other then none else collection.get? other := by
  by_cases same : key = other
  · rw [if_pos same, ← same]
    exact lookup_withoutKey_self key collection.entries
  · rw [if_neg same]
    exact lookup_withoutKey same collection.entries

@[simp] theorem get?_insert (collection : Keyed κ α) (key other : κ) (value : α) :
    (collection.insert key value).get? other =
      if key = other then some value else collection.get? other := by
  unfold insert get?
  split
  · next known =>
    by_cases same : key = other
    · rw [if_pos same, ← same]
      exact lookup_exchange_self value known
    · rw [if_neg same]
      exact lookup_exchange_of_ne same value collection.entries
  · next new => exact lookup_append_singleton value new other

end Keyed

end StorageBroker
