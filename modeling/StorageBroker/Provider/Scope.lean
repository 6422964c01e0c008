/-!
# What a credential is wanted for

A scope names the resource, perhaps the user, and the locations that may be read or written. The
locations form a set, kept in ascending order of their characters, so neither the order in which
they were given nor repetitions matter (`mem_items_ofList`). What may be written may be read too.
-/

set_option autoImplicit false

namespace StorageBroker

/-! ## Sets of locations -/

/-- A set of locations, in ascending order. -/
structure Locations where
  items : List String
  ascending : items.Pairwise (· < ·)
  deriving DecidableEq

namespace Locations

/-- Adds a location to ascending ones. -/
def insertSorted (location : String) : List String → List String
  | [] => [location]
  | first :: rest =>
    if location < first then location :: first :: rest
    else if location = first then first :: rest
    else first :: insertSorted location rest

theorem mem_insertSorted (location other : String) (items : List String) :
    other ∈ insertSorted location items ↔ other = location ∨ other ∈ items := by
  induction items with
  | nil => simp [insertSorted]
  | cons first rest ih =>
    unfold insertSorted
    split
    · simp
    · split
      · next same => simp [same]
      · simp only [List.mem_cons, ih]
        exact ⟨fun either => by rcases either with here | new | there <;> simp [*],
          fun either => by rcases either with new | here | there <;> simp [*]⟩

theorem pairwise_insertSorted (location : String) (items : List String)
    (ascending : items.Pairwise (· < ·)) : (insertSorted location items).Pairwise (· < ·) := by
  induction items with
  | nil => simp [insertSorted]
  | cons first rest ih =>
    obtain ⟨above, ordered⟩ := List.pairwise_cons.1 ascending
    unfold insertSorted
    split
    · next below =>
      refine List.pairwise_cons.2 ⟨fun other member => ?_, ascending⟩
      rcases List.mem_cons.1 member with rfl | later
      · exact below
      · exact String.lt_trans below (above other later)
    · next notBelow =>
      split
      · exact ascending
      · next different =>
        refine List.pairwise_cons.2 ⟨fun other member => ?_, ih ordered⟩
        rcases (mem_insertSorted location other rest).1 member with rfl | later
        · exact String.not_le.1 fun upper =>
            different (String.le_antisymm upper (String.not_lt.1 notBelow))
        · exact above other later

/-- The set without locations. -/
def empty : Locations := ⟨[], List.Pairwise.nil⟩

/-- Adds a location. -/
def insert (locations : Locations) (location : String) : Locations :=
  ⟨insertSorted location locations.items,
    pairwise_insertSorted location locations.items locations.ascending⟩

/-- Adds several locations. -/
def insertAll (locations : Locations) (items : List String) : Locations :=
  items.foldl insert locations

/-- The set of the given locations. -/
def ofList (items : List String) : Locations := empty.insertAll items

/-- The locations of either set. -/
def union (left right : Locations) : Locations := left.insertAll right.items

theorem mem_items_insertAll (locations : Locations) (items : List String) (other : String) :
    other ∈ (locations.insertAll items).items ↔ other ∈ locations.items ∨ other ∈ items := by
  induction items generalizing locations with
  | nil => simp [insertAll]
  | cons first rest ih =>
    have step := ih (locations.insert first)
    simp only [insertAll, List.foldl_cons] at step ⊢
    rw [step, insert, mem_insertSorted, List.mem_cons]
    exact ⟨fun either => by rcases either with (new | old) | later <;> simp [*],
      fun either => by rcases either with old | new | later <;> simp [*]⟩

/-- A set holds what it was made of. -/
theorem mem_items_ofList (items : List String) (other : String) :
    other ∈ (ofList items).items ↔ other ∈ items := by
  rw [ofList, mem_items_insertAll]
  simp [empty]

end Locations

/-! ## Scopes -/

/-- What is to be done at which locations. -/
inductive Intent where
  | readOnly (read : Locations)
  | pathBased (write read : Locations)
  deriving DecidableEq

/-- A resource and what is to be done with it. -/
structure Scope where
  resource : String
  user : Option String
  intent : Intent
  deriving DecidableEq

namespace Scope

/-- Reading at some locations. -/
def readOnly (resource : String) (read : List String) : Scope :=
  ⟨resource, none, .readOnly (Locations.ofList read)⟩

/-- Writing at some locations, and reading at others besides. -/
def pathBased (resource : String) (write read : List String) : Scope :=
  ⟨resource, none, .pathBased (Locations.ofList write) (Locations.ofList read)⟩

/-- The same scope on behalf of a user. -/
def forUser (scope : Scope) (user : String) : Scope :=
  { scope with user := some user }

/-- Whether nothing is to be written. -/
def isReadOnly (scope : Scope) : Bool :=
  match scope.intent with
  | .readOnly _ => true
  | .pathBased _ _ => false

/-- The locations that may be written. -/
def writeLocations (scope : Scope) : Locations :=
  match scope.intent with
  | .readOnly _ => Locations.empty
  | .pathBased write _ => write

/-- The locations that may be read, among them all that may be written. -/
def readLocations (scope : Scope) : Locations :=
  match scope.intent with
  | .readOnly read => read
  | .pathBased write read => write.union read

end Scope

end StorageBroker
