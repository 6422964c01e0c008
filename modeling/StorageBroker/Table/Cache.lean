import StorageBroker.Table.Metadata
import StorageBroker.Table.Probe
import StorageBroker.Text.Span

/-!
# The metadata cache

The cache keeps one snapshot of metadata for a table, in the order of last use, up to a capacity.
A lookup that finds a snapshot asks a probe where the current metadata lies, and answers with the
snapshot only if that is the file the snapshot was read from. If the metadata lies elsewhere the
snapshot is dropped, unless another one has taken its place meanwhile; if its place is unknown the
lookup has no answer and the snapshot stays.

A capacity is room that is taken all at once when the cache is created (`Config.create`). How much
there is, is not for the cache to say: it is a parameter, and where there is too little nothing
comes of the cache, not even an error.

Every update makes a new snapshot with a stamp of its own, so an older snapshot is never taken for
a newer one with the same content. The steps are atomic, and the lookups of several tasks, updates
and invalidations may interleave in any way; what the probes answer stands in the steps.
-/

set_option autoImplicit false

namespace StorageBroker.TableCache

/-- What is known of the file that metadata was read from. -/
class Located (μ : Type) where
  location : μ → String

instance : Located LoadedMetadata := ⟨LoadedMetadata.metadataLocation⟩

/-- The number of a task. -/
abbrev TaskId := Nat

/-! ## Configuration -/

/-- How a cache is tuned. -/
structure Config where
  /-- The number of tables that are kept; all if there is no bound. -/
  capacity : Option Nat
  /-- The bound on a single probe, in milliseconds. -/
  probeTimeout : Nat
  deriving DecidableEq, Repr

/-- No bound on the tables, and ten seconds for a probe. -/
def Config.standard : Config := ⟨none, 10000⟩

/-- What is wrong with a configuration: no capacity, or else no time for probes. -/
def Config.fault? (config : Config) : Option TableError :=
  if config.capacity = some 0 then some .zeroCapacity
  else if config.probeTimeout = 0 then some .zeroTimeout
  else none

/-- What the checks of a configuration answer. -/
def Config.check (config : Config) : Except TableError Config :=
  match config.fault? with
  | some fault => .error fault
  | none => .ok config

/-- The memory there is: for how many tables room can be taken at once. -/
abbrev Memory := Nat → Bool

/-- Whether there is room for the capacity. Without a bound no room is taken in advance. -/
def Config.fits (memory : Memory) (config : Config) : Bool := config.capacity.all memory

/-- What creating a cache answers, if it answers. Room is taken once the capacity is known not to be
zero, and before the time for probes is looked at. -/
def Config.create (memory : Memory) (config : Config) : Option (Except TableError Config) :=
  if config.capacity = some 0 ∨ config.fits memory then some config.check else none

/-- Where there is room for the capacity, creation answers. -/
theorem Config.create_of_fits {memory : Memory} {config : Config}
    (fits : config.fits memory = true) : config.create memory = some config.check :=
  if_pos (.inr fits)

/-- What creation answers is what the checks answer. -/
theorem Config.check_of_create {memory : Memory} {config : Config}
    {answer : Except TableError Config} (answered : config.create memory = some answer) :
    config.check = answer := by
  unfold Config.create at answered
  split at answered
  · exact Option.some.inj answered
  · cases answered

/-! ## States -/

/-- A snapshot with the stamp of the update that brought it. -/
@[ext]
structure Stamped (μ : Type) where
  stamp : Nat
  snapshot : μ
  deriving DecidableEq

/-- How far a lookup has come. -/
inductive Phase where
  /-- A probe is in flight. -/
  | probing
  /-- The metadata lies elsewhere, and the snapshot is to be dropped. -/
  | dropping
  deriving DecidableEq, Repr

/-- A lookup that found a snapshot. -/
structure Lookup (μ : Type) where
  id : TableId
  found : Stamped μ
  phase : Phase
  deriving DecidableEq

/-- The state of a cache. -/
structure State (μ : Type) where
  /-- The snapshots, the one used last in front. -/
  entries : Keyed TableId (Stamped μ)
  nextStamp : Nat
  lookups : Keyed TaskId (Lookup μ)

/-- Sets an entry in front of all others. A new key beyond the capacity pushes the last one out. -/
def putFirst {α : Type} (capacity : Option Nat) (entries : Keyed TableId α) (id : TableId)
    (value : α) : Keyed TableId α :=
  let room :=
    match capacity, entries.entries.getLast? with
    | some bound, some last =>
      if entries.contains id || entries.size < bound then entries else entries.erase last.1
    | _, _ => entries
  room.insertFirst id value

/-! ## Steps -/

/-- A step of a run, with what comes from outside. -/
inductive Step (μ : Type) where
  | beginGet (task : TaskId) (id : TableId)
  | probed (task : TaskId) (result : ProbeResult)
  | drop (task : TaskId)
  /-- The caller of a lookup is gone. -/
  | abandon (task : TaskId)
  | update (id : TableId) (snapshot : μ)
  | invalidate (id : TableId)
  | clear

/-- What can be seen of a step from outside. -/
inductive Event (μ : Type) where
  | silent
  /-- A probe for the table begins. -/
  | probing (id : TableId)
  | answered (snapshot : Option μ)

namespace State

variable {μ : Type}

/-- A cache without entries. -/
def initial : State μ := ⟨Keyed.empty, 0, Keyed.empty⟩

/-- How many tables are kept. -/
def size (state : State μ) : Nat := state.entries.size

/-- Takes out the entry that a lookup found, unless another one has taken its place. -/
def dropFound (state : State μ) (lookup : Lookup μ) : Keyed TableId (Stamped μ) :=
  match state.entries.get? lookup.id with
  | some current =>
    if current.stamp = lookup.found.stamp then state.entries.erase lookup.id else state.entries
  | none => state.entries

/-- One step, if it can be taken: the state behind it, and what is seen of it. -/
def step [Located μ] (capacity : Option Nat) (state : State μ) :
    Step μ → Option (State μ × Event μ)
  | .beginGet task id =>
    match state.lookups.get? task with
    | some _ => none
    | none =>
      match state.entries.get? id with
      | none => some (state, .answered none)
      | some found =>
        some ({ state with
          entries := state.entries.touch id
          lookups := state.lookups.insert task ⟨id, found, .probing⟩ }, .probing id)
  | .probed task result =>
    match state.lookups.get? task with
    | some ⟨id, found, .probing⟩ =>
      match result.location? with
      | none => some ({ state with lookups := state.lookups.erase task }, .answered none)
      | some location =>
        if location = Located.location found.snapshot then
          some ({ state with lookups := state.lookups.erase task }, .answered (some found.snapshot))
        else
          some ({ state with lookups := state.lookups.insert task ⟨id, found, .dropping⟩ }, .silent)
    | _ => none
  | .drop task =>
    match state.lookups.get? task with
    | some lookup =>
      match lookup.phase with
      | .probing => none
      | .dropping =>
        some ({ state with
          entries := state.dropFound lookup
          lookups := state.lookups.erase task }, .answered none)
    | none => none
  | .abandon task =>
    match state.lookups.get? task with
    | some ⟨_, _, .probing⟩ => some ({ state with lookups := state.lookups.erase task }, .silent)
    | _ => none
  | .update id snapshot =>
    some ({ state with
      entries := putFirst capacity state.entries id ⟨state.nextStamp, snapshot⟩
      nextStamp := state.nextStamp + 1 }, .silent)
  | .invalidate id => some ({ state with entries := state.entries.erase id }, .silent)
  | .clear => some ({ state with entries := Keyed.empty }, .silent)

end State

/-- A cache as a record: its size, its probe and the time a probe may take. -/
def inspect (size : Nat) (probe : Probe) (config : Config) : String :=
  Text.record "MemoryMetadataCache"
    [("entries", toString size), ("probe", probe.inspect),
      ("probe_timeout", Text.span config.probeTimeout)] .complete

end StorageBroker.TableCache
