import StorageBroker.Keyed

/-!
# Collections made of entries

A collection that is made of entries with distinct keys has these entries, in their order
(`Keyed.entries_ofList`), so every collection is made of its own entries (`Keyed.ofList_entries`).

What is set at a key that was new, and taken out again, leaves the collection as it was
(`Keyed.erase_insert_of_new`). An entry that is moved to the front can be taken out there as well as
from its old place (`Keyed.erase_touch`). Where an entry stands among the others, it is taken out
from between them (`Keyed.entries_erase_of_append`) or put in front of them
(`Keyed.entries_touch_of_append`).

A collection stands in another one if it has some of its entries in the same order
(`Keyed.StandsIn`). It still does after both have been changed in the same way.
-/

set_option autoImplicit false

namespace StorageBroker.Keyed

variable {κ α : Type} [DecidableEq κ] {entries : List (κ × α)} {collection : Keyed κ α}

/-- An entry with a new key stands behind all others. -/
theorem entries_insert {key : κ} {value : α} (new : key ∉ collection.keys) :
    (collection.insert key value).entries = collection.entries ++ [(key, value)] := by
  rw [insert, dif_neg new]

theorem entries_insertAll (collection : Keyed κ α)
    (distinct : ((collection.entries ++ entries).map Prod.fst).Nodup) :
    (entries.foldl (fun collection entry => collection.insert entry.1 entry.2) collection).entries =
      collection.entries ++ entries := by
  induction entries generalizing collection with
  | nil => rw [List.append_nil, List.foldl_nil]
  | cons entry entries ih =>
    have new : entry.1 ∉ collection.keys := by
      intro known
      rw [List.map_append] at distinct
      exact (List.nodup_append.1 distinct).2.2 entry.1 known entry.1 List.mem_cons_self rfl
    have same : collection.entries ++ entry :: entries =
        (collection.insert entry.1 entry.2).entries ++ entries := by
      rw [entries_insert new, List.append_assoc]
      rfl
    rw [same] at distinct
    rw [List.foldl_cons, same]
    exact ih _ distinct

/-- **A collection has the entries that it is made of**, if their keys are distinct. -/
theorem entries_ofList (distinct : (entries.map Prod.fst).Nodup) :
    (ofList entries).entries = entries :=
  entries_insertAll empty distinct

/-- Every collection is made of its entries. -/
theorem ofList_entries (collection : Keyed κ α) : ofList collection.entries = collection := by
  have same := entries_ofList collection.distinct
  obtain ⟨entries, distinct⟩ := collection
  rw [show ofList entries = ⟨(ofList entries).entries, (ofList entries).distinct⟩ from rfl]
  simp only [same]

/-! ## Setting a value and taking it out -/

omit [DecidableEq κ] in
theorem eq_of_entries {collection other : Keyed κ α} (same : collection.entries = other.entries) :
    collection = other := by
  obtain ⟨entries, distinct⟩ := collection
  obtain ⟨others, distinctToo⟩ := other
  cases same
  rfl

theorem entries_insert_of_mem {key : κ} {value : α} (known : key ∈ collection.keys) :
    (collection.insert key value).entries = exchange key value collection.entries := by
  rw [insert, dif_pos known]

theorem exchange_of_not_mem {key : κ} {value : α} (new : key ∉ entries.map Prod.fst) :
    exchange key value entries = entries := by
  refine (List.map_congr_left fun entry member => if_neg ?_).trans (List.map_id entries)
  rintro rfl
  exact new (List.mem_map_of_mem member)

theorem withoutKey_of_not_mem {key : κ} (new : key ∉ entries.map Prod.fst) :
    withoutKey key entries = entries := by
  refine List.filter_eq_self.2 fun entry member => decide_eq_true ?_
  rintro rfl
  exact new (List.mem_map_of_mem member)

theorem exchange_exchange (key : κ) (value other : α) (entries : List (κ × α)) :
    exchange key other (exchange key value entries) = exchange key other entries := by
  simp only [exchange, List.map_map]
  refine List.map_congr_left fun entry _ => ?_
  by_cases same : entry.1 = key <;> simp [same]

/-- The last value that is set at a key is the one that counts. -/
theorem insert_insert (collection : Keyed κ α) (key : κ) (value other : α) :
    (collection.insert key value).insert key other = collection.insert key other := by
  apply eq_of_entries
  by_cases known : key ∈ collection.keys
  · have still : key ∈ (collection.insert key value).keys := by
      rw [keys, entries_insert_of_mem known, map_fst_exchange]
      exact known
    rw [entries_insert_of_mem still, entries_insert_of_mem known, entries_insert_of_mem known,
      exchange_exchange]
  · have behind : key ∈ (collection.insert key value).keys := by
      rw [keys, entries_insert known, List.map_append]
      exact List.mem_append_right _ List.mem_cons_self
    have last : exchange key other (collection.entries ++ [(key, value)]) =
        exchange key other collection.entries ++ [(key, other)] := by
      simp [exchange]
    rw [entries_insert_of_mem behind, entries_insert known, entries_insert known, last,
      exchange_of_not_mem known]

/-- **What is set at a new key and taken out again leaves nothing behind.** -/
theorem erase_insert_of_new {key : κ} (new : collection.get? key = none) (value : α) :
    (collection.insert key value).erase key = collection := by
  have unknown : key ∉ collection.keys := (lookup_eq_none_iff key collection.entries).1 new
  have nothing : withoutKey key [(key, value)] = [] := by simp [withoutKey]
  apply eq_of_entries
  calc withoutKey key (collection.insert key value).entries
      = withoutKey key (collection.entries ++ [(key, value)]) := by rw [entries_insert unknown]
    _ = withoutKey key collection.entries ++ withoutKey key [(key, value)] := List.filter_append _ _
    _ = collection.entries := by rw [nothing, List.append_nil, withoutKey_of_not_mem unknown]

/-! ## Moving an entry to the front -/

theorem withoutKey_withoutKey (key : κ) (entries : List (κ × α)) :
    withoutKey key (withoutKey key entries) = withoutKey key entries :=
  withoutKey_of_not_mem (not_mem_map_fst_withoutKey key entries)

theorem erase_erase (collection : Keyed κ α) (key : κ) :
    (collection.erase key).erase key = collection.erase key :=
  eq_of_entries (withoutKey_withoutKey key collection.entries)

/-- Where an entry stands does not matter when it is taken out: the others keep their order. -/
theorem erase_touch (collection : Keyed κ α) (key : κ) :
    (collection.touch key).erase key = collection.erase key := by
  unfold touch
  split
  · next value found =>
    apply eq_of_entries
    have gone : withoutKey key ((key, value) :: withoutKey key collection.entries) =
        withoutKey key (withoutKey key collection.entries) := by
      simp [withoutKey]
    exact gone.trans (withoutKey_withoutKey key collection.entries)
  · rfl

/-! ## Where entries stand -/

/-- An entry is taken out from between the others. -/
theorem entries_erase_of_append {key : κ} {value : α} {before after : List (κ × α)}
    (stands : collection.entries = before ++ (key, value) :: after) :
    (collection.erase key).entries = before ++ after := by
  have distinct := collection.distinct
  rw [stands, List.map_append, List.map_cons, List.nodup_append, List.nodup_cons] at distinct
  obtain ⟨-, ⟨back, -⟩, apart⟩ := distinct
  have front : key ∉ before.map Prod.fst := by
    intro member
    exact apart key member key List.mem_cons_self rfl
  have here : withoutKey key ((key, value) :: after) = withoutKey key after := by
    simp [withoutKey]
  calc (collection.erase key).entries
      = withoutKey key (before ++ (key, value) :: after) := congrArg (withoutKey key) stands
    _ = withoutKey key before ++ withoutKey key ((key, value) :: after) := List.filter_append _ _
    _ = before ++ after := by
      rw [here, withoutKey_of_not_mem front, withoutKey_of_not_mem back]

/-- An entry that becomes the first one leaves the others as they stand. -/
theorem entries_touch_of_append {key : κ} {value : α} {before after : List (κ × α)}
    (stands : collection.entries = before ++ (key, value) :: after) :
    (collection.touch key).entries = (key, value) :: (before ++ after) := by
  have member : (key, value) ∈ collection.entries := by
    rw [stands]
    simp
  have found := (get?_eq_some_iff collection key value).2 member
  have first : (collection.touch key).entries = (key, value) :: (collection.erase key).entries := by
    rw [touch, found]
    rfl
  rw [first, entries_erase_of_append stands]

/-- An entry with a new key stands in front of all others. -/
theorem entries_insertFirst_of_new {key : κ} (new : collection.get? key = none) (value : α) :
    (collection.insertFirst key value).entries = (key, value) :: collection.entries := by
  have unknown := (lookup_eq_none_iff key collection.entries).1 new
  exact congrArg ((key, value) :: ·) (withoutKey_of_not_mem unknown)

/-! ## How many entries there are -/

section Size

variable {key : κ} {value : α}

theorem size_insertFirst (collection : Keyed κ α) (key : κ) (value : α) :
    (collection.insertFirst key value).size = (collection.erase key).size + 1 := rfl

theorem size_erase_le (collection : Keyed κ α) (key : κ) :
    (collection.erase key).size ≤ collection.size :=
  List.length_filter_le _ _

theorem size_erase_of_get? (found : collection.get? key = some value) :
    (collection.erase key).size + 1 = collection.size := by
  have member := (get?_eq_some_iff collection key value).1 found
  obtain ⟨before, after, stands⟩ := List.append_of_mem member
  rw [size, size, entries_erase_of_append stands, stands]
  simp
  omega

/-- An entry that is moved to the front is counted once. -/
theorem size_touch (collection : Keyed κ α) (key : κ) :
    (collection.touch key).size = collection.size := by
  unfold touch
  split
  · next value found => exact size_erase_of_get? found
  · rfl

theorem erase_of_get?_eq_none (absent : collection.get? key = none) :
    collection.erase key = collection :=
  eq_of_entries (withoutKey_of_not_mem ((lookup_eq_none_iff key collection.entries).1 absent))

theorem touch_of_get?_eq_none (absent : collection.get? key = none) :
    collection.touch key = collection := by
  rw [touch, absent]

/-- Without the entry with the last key, the entries are all but the last one. -/
theorem entries_erase_last (last : collection.keys.getLast? = some key) :
    (collection.erase key).entries = collection.entries.dropLast := by
  rw [keys, List.getLast?_map] at last
  obtain ⟨⟨_, value⟩, isLast, rfl⟩ := Option.map_eq_some_iff.1 last
  obtain ⟨before, stands⟩ := List.getLast?_eq_some_iff.1 isLast
  rw [entries_erase_of_append stands, stands]
  simp

end Size

/-! ## Collections in one another -/

/-- One collection has some of the entries of another one, in the same order. -/
def StandsIn (inner outer : Keyed κ α) : Prop := inner.entries.Sublist outer.entries

namespace StandsIn

variable {inner middle outer : Keyed κ α} {key : κ} {value : α}

omit [DecidableEq κ] in
theorem trans (first : inner.StandsIn middle) (second : middle.StandsIn outer) :
    inner.StandsIn outer :=
  List.Sublist.trans first second

theorem get? (stands : inner.StandsIn outer) (found : inner.get? key = some value) :
    outer.get? key = some value := by
  rw [get?_eq_some_iff] at found ⊢
  exact List.Sublist.mem found stands

theorem get?_eq_none (stands : inner.StandsIn outer) (absent : outer.get? key = none) :
    inner.get? key = none := by
  cases found : inner.get? key with
  | none => rfl
  | some value => cases absent.symm.trans (stands.get? found)

theorem erase (stands : inner.StandsIn outer) (key : κ) :
    (inner.erase key).StandsIn (outer.erase key) :=
  List.Sublist.filter _ stands

theorem insertFirst (stands : inner.StandsIn outer) (key : κ) (value : α) :
    (inner.insertFirst key value).StandsIn (outer.insertFirst key value) :=
  (stands.erase key).cons_cons (key, value)

theorem touch (stands : inner.StandsIn outer) (key : κ) :
    (inner.touch key).StandsIn (outer.touch key) := by
  cases found : inner.get? key with
  | some value =>
    rw [Keyed.touch, Keyed.touch, found, stands.get? found]
    exact stands.insertFirst key value
  | none =>
    have rest := stands.erase key
    rw [erase_of_get?_eq_none found] at rest
    rw [touch_of_get?_eq_none found, Keyed.touch]
    split
    · exact rest.cons _
    · exact stands

/-- Each of them may lose its last entry. -/
theorem erase_last {last other : κ} (stands : inner.StandsIn outer)
    (isLast : inner.keys.getLast? = some last) (isLastToo : outer.keys.getLast? = some other) :
    (inner.erase last).StandsIn (outer.erase other) := by
  have reversed := (List.Sublist.reverse stands).tail
  rw [List.tail_reverse, List.tail_reverse] at reversed
  rw [StandsIn, entries_erase_last isLast, entries_erase_last isLastToo]
  exact List.reverse_sublist.1 reversed

end StandsIn

end StorageBroker.Keyed
