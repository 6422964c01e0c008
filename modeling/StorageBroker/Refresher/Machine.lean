import StorageBroker.Keyed
import StorageBroker.Refresher.Policy
import StorageBroker.Text.Span

/-!
# The refresher

Every resource has a slot of its own: an entry, a lock, and a mark that the entry was invalidated
while the slot was in use. The refresher tracks its slots in the order of their last use, the
latest first. A task takes hold of the slot of its resource, waits for the lock, and works on the
entry as long as it has the lock; it lets go of the slot last. A slot that no task holds is idle.
Only idle slots are ever taken out: by an invalidation of their resource, or, the least recently
used first, when a new resource would exceed the capacity.

A run is a sequence of steps, each of which is atomic. The steps of a task that gets a credential
are to begin, to acquire the lock, to sweep (to empty an entry that was invalidated), to decide
between the entry and a load, to settle the load, and to leave. What comes from outside, the
readings of the clock and the results of loads, stands in the steps. Any interleaving of the steps
of any number of tasks is a run, and a task may be abandoned whenever it waits: it gives the lock
back if it had it, and lets go of the slot like any other.
-/

set_option autoImplicit false

namespace StorageBroker.Refresher

/-- The number of a slot. Numbers are not used again. -/
abbrev SlotId := Nat

/-- The number of a task. -/
abbrev TaskId := Nat

/-! ## States -/

/-- The entry of a resource with its lock. -/
structure Slot where
  entry : Entry
  /-- The entry is to be emptied by the next task that has the lock. -/
  invalidated : Bool
  /-- The task that has the lock. -/
  owner : Option TaskId
  deriving DecidableEq

namespace Slot

/-- A slot as it is made. -/
def fresh : Slot := ⟨Entry.empty, false, none⟩

/-- The slot with its lock given to a task. -/
def ownedBy (slot : Slot) (id : TaskId) : Slot := { slot with owner := some id }

/-- The slot with its lock given back, and with a new entry. -/
def released (slot : Slot) (entry : Entry) : Slot := { slot with entry := entry, owner := none }

/-- The slot without the lock of a task that is gone, if it had it. -/
def freedBy (slot : Slot) (id : TaskId) : Slot :=
  if slot.owner = some id then { slot with owner := none } else slot

/-- The slot with its entry emptied if it was invalidated. -/
def swept (slot : Slot) : Slot :=
  if slot.invalidated then { slot with entry := Entry.empty, invalidated := false } else slot

/-- The slot with the mark that its entry is to be emptied. -/
def marked (slot : Slot) : Slot := { slot with invalidated := true }

/-- What is seen of the entry at an instant; one that is to be emptied counts as empty. -/
def freshness (slot : Slot) (now : Int64) : Freshness :=
  if slot.invalidated then .empty else slot.entry.freshness now

end Slot

/-- How far a task has come. -/
inductive Phase where
  /-- Waiting for the lock, to get a credential. -/
  | waiting
  /-- With the lock; the mark is not looked at yet. -/
  | locked
  /-- With the lock, and an entry that may be used. -/
  | swept
  /-- With the lock, while a load is in flight. -/
  | loading
  /-- Waiting for the lock, to look at the state of the entry. -/
  | waitingToLook
  /-- With the lock, to look at the state of the entry. -/
  | looking
  /-- Answered and without the lock, but still holding the slot. -/
  | leaving
  deriving DecidableEq, Repr

/-- A task that holds a slot. -/
structure Task where
  resource : String
  slot : SlotId
  phase : Phase
  deriving DecidableEq

/-- The state of a refresher. -/
structure State where
  /-- The slots of the tracked resources, the one used last in front. -/
  tracked : Keyed String SlotId
  slots : SlotId → Slot
  nextSlot : SlotId
  tasks : Keyed TaskId Task

namespace State

/-- A refresher that tracks nothing. -/
def initial : State := ⟨Keyed.empty, fun _ => Slot.fresh, 0, Keyed.empty⟩

/-- How many resources are tracked. -/
def size (state : State) : Nat := state.tracked.size

/-- Changes one slot. -/
def setSlot (state : State) (id : SlotId) (slot : Slot) : State :=
  { state with slots := fun other => if other = id then slot else state.slots other }

/-- Sets what a task is and how far it has come. -/
def setTask (state : State) (id : TaskId) (task : Task) : State :=
  { state with tasks := state.tasks.insert id task }

/-- Forgets a task, which lets go of its slot. -/
def dropTask (state : State) (id : TaskId) : State :=
  { state with tasks := state.tasks.erase id }

/-- Whether no task holds a slot. -/
def isIdle (state : State) (id : SlotId) : Bool :=
  state.tasks.entries.all fun task => task.2.slot ≠ id

end State

/-! ## Eviction -/

/-- The least recently used resource whose slot is idle. -/
def victim? (idle : SlotId → Bool) (tracked : Keyed String SlotId) : Option String :=
  (tracked.entries.reverse.find? fun entry => idle entry.2).map Prod.fst

theorem mem_keys_of_victim? {idle : SlotId → Bool} {tracked : Keyed String SlotId}
    {resource : String} (found : victim? idle tracked = some resource) :
    resource ∈ tracked.keys := by
  obtain ⟨entry, hit, rfl⟩ := Option.map_eq_some_iff.1 found
  exact List.mem_map_of_mem (List.mem_reverse.1 (List.mem_of_find?_eq_some hit))

theorem size_erase_lt {tracked : Keyed String SlotId} {resource : String}
    (member : resource ∈ tracked.keys) : (tracked.erase resource).size < tracked.size := by
  obtain ⟨entry, inside, same⟩ := List.mem_map.1 member
  exact List.length_filter_lt_length_iff_exists.2 ⟨entry, inside, by simp [same]⟩

/-- Takes out idle slots, the least recently used first, until the capacity is met or all that is
left is in use. -/
def evictIdle (idle : SlotId → Bool) (capacity : Nat) (tracked : Keyed String SlotId) :
    Keyed String SlotId :=
  if capacity < tracked.size then
    match _found : victim? idle tracked with
    | some resource => evictIdle idle capacity (tracked.erase resource)
    | none => tracked
  else tracked
termination_by tracked.size
decreasing_by exact size_erase_lt (mem_keys_of_victim? _found)

/-! ## Steps -/

/-- A step of a run, with what comes from outside. -/
inductive Step where
  /-- A task begins to get a credential. -/
  | beginGet (task : TaskId) (resource : String)
  /-- A task begins to look at the state of a resource. -/
  | beginLook (task : TaskId) (resource : String)
  | acquire (task : TaskId)
  | sweep (task : TaskId)
  | decide (task : TaskId) (now : Int64)
  | settle (task : TaskId) (result : LoadResult) (now : Int64)
  | look (task : TaskId) (now : Int64)
  | leave (task : TaskId)
  /-- The caller of a task that waits is gone. -/
  | abandon (task : TaskId)
  | invalidate (resource : String)
  deriving DecidableEq

/-- What can be seen of a step from outside. -/
inductive Event where
  | silent
  /-- Answered from the entry. -/
  | hit (credential : Credential)
  /-- A load for the resource begins. -/
  | loading (resource : String)
  /-- Answered after a load. -/
  | settled (answer : Except CredentialError Credential)
  | looked (freshness : Freshness)
  deriving DecidableEq

/-- How a task goes on when it takes a step: its next phase, its slot behind the step, and what is
seen of it. Nothing if the task cannot take the step. -/
def Phase.goOn? (policy : Policy) (id : TaskId) (resource : String) (slot : Slot) :
    Phase → Step → Option (Phase × Slot × Event)
  | .waiting, .acquire _ =>
    if slot.owner = none then some (.locked, slot.ownedBy id, .silent) else none
  | .waitingToLook, .acquire _ =>
    if slot.owner = none then some (.looking, slot.ownedBy id, .silent) else none
  | .locked, .sweep _ => some (.swept, slot.swept, .silent)
  | .swept, .decide _ now =>
    match slot.entry.fresh? now with
    | some credential => some (.leaving, slot.released slot.entry, .hit credential)
    | none => some (.loading, slot, .loading resource)
  | .loading, .settle _ result now =>
    let (answer, entry) := policy.settle resource slot.entry result now
    some (.leaving, slot.released entry, .settled answer)
  | .looking, .look _ now =>
    some (.leaving, slot.released slot.entry, .looked (slot.freshness now))
  | .waiting, .abandon _ | .loading, .abandon _ | .waitingToLook, .abandon _ =>
    some (.leaving, slot.freedBy id, .silent)
  | _, _ => none

namespace State

/-- The slot of a tracked resource, which becomes the one used last. The task holds the slot from
then on. -/
def joinSlot (state : State) (id : TaskId) (resource : String) (slot : SlotId) : State :=
  { state.setTask id ⟨resource, slot, .waiting⟩ with tracked := state.tracked.touch resource }

/-- A new slot for a resource that is not tracked, held by the task from then on. Idle slots may be
evicted for it. -/
def openSlot (state : State) (capacity : Nat) (id : TaskId) (resource : String) : State :=
  let held := state.setTask id ⟨resource, state.nextSlot, .waiting⟩
  { held.setSlot state.nextSlot Slot.fresh with
    tracked := evictIdle held.isIdle capacity (state.tracked.insertFirst resource state.nextSlot)
    nextSlot := state.nextSlot + 1 }

/-- Lets a task take hold of the slot of its resource, a new one if the resource is not tracked. -/
def takeSlot (state : State) (capacity : Nat) (id : TaskId) (resource : String) : State :=
  match state.tracked.get? resource with
  | some slot => state.joinSlot id resource slot
  | none => state.openSlot capacity id resource

/-- Lets a task go on to a phase, and changes its slot. -/
def advance (state : State) (id : TaskId) (task : Task) (phase : Phase) (slot : Slot) : State :=
  (state.setSlot task.slot slot).setTask id { task with phase := phase }

/-- Forgets what is kept for a resource: takes out an idle slot, marks one that is in use. -/
def invalidateResource (state : State) (resource : String) : State :=
  match state.tracked.get? resource with
  | none => state
  | some id =>
    if state.isIdle id then { state with tracked := state.tracked.erase resource }
    else state.setSlot id (state.slots id).marked

/-- Lets a task take a step of its own, if it can. -/
def goOn? (policy : Policy) (state : State) (id : TaskId) (taken : Step) :
    Option (State × Event) :=
  match state.tasks.get? id with
  | none => none
  | some task =>
    (task.phase.goOn? policy id task.resource (state.slots task.slot) taken).map
      fun (phase, slot, event) => (state.advance id task phase slot, event)

/-- One step, if it can be taken: the state behind it, and what is seen of it. -/
def step (policy : Policy) (state : State) : Step → Option (State × Event)
  | .beginGet id resource =>
    match state.tasks.get? id with
    | some _ => none
    | none => some (state.takeSlot policy.config.capacity id resource, .silent)
  | .beginLook id resource =>
    match state.tasks.get? id with
    | some _ => none
    | none =>
      match state.tracked.get? resource with
      | none => some (state, .looked .empty)
      | some slot => some (state.setTask id ⟨resource, slot, .waitingToLook⟩, .silent)
  | .acquire id => state.goOn? policy id (.acquire id)
  | .sweep id => state.goOn? policy id (.sweep id)
  | .decide id now => state.goOn? policy id (.decide id now)
  | .settle id result now => state.goOn? policy id (.settle id result now)
  | .look id now => state.goOn? policy id (.look id now)
  | .leave id =>
    match state.tasks.get? id with
    | none => none
    | some task =>
      match task.phase with
      | .leaving => some (state.dropTask id, .silent)
      | _ => none
  | .abandon id => state.goOn? policy id (.abandon id)
  | .invalidate resource => some (state.invalidateResource resource, .silent)

end State

/-! ## Records -/

/-- A refresher as a record: its configuration and how many resources it tracks. -/
def inspect (policy : Policy) (state : State) : String :=
  Text.record "CredentialRefresher"
    [("backend", policy.backend.label), ("has_fallback", toString policy.fallback.isSome),
      ("cached", toString state.size),
      ("config",
        Text.record "RefresherConfig"
          [("expiry_factor", Decimal.write .short policy.config.expiryFactor),
            ("capacity", toString policy.config.capacity),
            ("call_timeout", Text.span policy.config.callTimeout)] .complete)] .partly

end StorageBroker.Refresher
