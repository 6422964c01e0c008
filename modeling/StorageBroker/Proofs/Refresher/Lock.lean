import StorageBroker.Proofs.Refresher.Lane

/-!
# The lock of a lane

In every lane the slot is there as long as a task holds it, and a task that is past waiting and not
yet answered owns the lock of the slot (`LaneSound`). Hence one task has the lock at a time
(`LaneSound.lock_exclusive`), and while it has the lock no other task changes the slot
(`Move.behind_eq_of_locked`): all that can happen to it is an invalidation, which marks it. And no
lock is lost: its owner is a task that has come to need it (`LaneRecorded.owned`).
-/

set_option autoImplicit false

namespace StorageBroker.Refresher

/-! ## What moves do to a slot -/

namespace Slot

variable (slot : Slot) (id : TaskId) (entry : Entry)

@[simp] theorem entry_ownedBy : (slot.ownedBy id).entry = slot.entry := rfl

@[simp] theorem invalidated_ownedBy : (slot.ownedBy id).invalidated = slot.invalidated := rfl

@[simp] theorem entry_released : (slot.released entry).entry = entry := rfl

@[simp] theorem invalidated_released : (slot.released entry).invalidated = slot.invalidated := rfl

@[simp] theorem entry_marked : slot.marked.entry = slot.entry := rfl

@[simp] theorem invalidated_marked : slot.marked.invalidated = true := rfl

@[simp] theorem entry_freedBy : (slot.freedBy id).entry = slot.entry := by
  unfold freedBy
  split <;> rfl

@[simp] theorem invalidated_freedBy : (slot.freedBy id).invalidated = slot.invalidated := by
  unfold freedBy
  split <;> rfl

@[simp] theorem owner_swept : slot.swept.owner = slot.owner := by
  unfold swept
  split <;> rfl

/-- A sweep takes the mark away. -/
@[simp] theorem invalidated_swept : slot.swept.invalidated = false := by
  unfold swept
  split
  · rfl
  · next unmarked => exact Bool.eq_false_iff.2 unmarked

variable {slot}

theorem swept_of_not_invalidated (unmarked : slot.invalidated = false) : slot.swept = slot := by
  unfold swept
  rw [if_neg (Bool.eq_false_iff.1 unmarked)]

/-- A sweep empties an entry that is marked. -/
theorem entry_swept_of_invalidated (marked : slot.invalidated = true) :
    slot.swept.entry = Entry.empty := by
  unfold swept
  rw [if_pos marked]

end Slot

section Moves

variable {policy : Policy} {id other : TaskId} {resource : String} {step : Step} {event : Event}
  {before phase : Phase} {slot behind : Slot}

/-- The task that takes the step of a move. -/
theorem Move.task? (move : Move policy id resource step event before slot phase behind) :
    step.task? = some id := by
  cases move <;> rfl

/-- A task that goes on to a phase with the lock owns the lock. -/
theorem Move.owner (move : Move policy id resource step event before slot phase behind)
    (owned : before.hasLock = true → slot.owner = some id) (locks : phase.hasLock = true) :
    behind.owner = some id := by
  cases move with
  | acquire _ => rfl
  | acquireToLook _ => rfl
  | sweep => rw [Slot.owner_swept, owned rfl]
  | hit _ => cases locks
  | load _ => exact owned rfl
  | settle => cases locks
  | look => cases locks
  | abandon _ => cases locks

/-- While a task has the lock, no other task changes the slot. -/
theorem Move.behind_eq_of_locked
    (move : Move policy id resource step event before slot phase behind)
    (owned : before.hasLock = true → slot.owner = some id) (different : id ≠ other)
    (owner : slot.owner = some other) : behind = slot := by
  have notOwned : before.hasLock ≠ true := by
    intro locks
    exact different (Option.some.inj ((owned locks).symm.trans owner))
  cases move with
  | acquire free => cases free.symm.trans owner
  | acquireToLook free => cases free.symm.trans owner
  | sweep => exact absurd rfl notOwned
  | hit _ => exact absurd rfl notOwned
  | load _ => exact absurd rfl notOwned
  | settle => exact absurd rfl notOwned
  | look => exact absurd rfl notOwned
  | abandon _ =>
    apply if_neg
    rw [owner]
    intro same
    exact different (Option.some.inj same).symm

end Moves

/-! ## Sound lanes -/

/-- What holds of a lane at every moment of its course. -/
structure LaneSound (lane : Lane) : Prop where
  held : ∀ ⦃id phase⦄, lane.phases id = some phase → ∃ slot, lane.slot = some slot
  locked : ∀ ⦃id phase slot⦄, lane.phases id = some phase → phase.hasLock = true →
    lane.slot = some slot → slot.owner = some id

namespace LaneSound

variable {policy : Policy} {resource : String} {lane next : Lane} {step : Option Step}
  {event : Event}

theorem empty : LaneSound Lane.empty where
  held := by
    intro id phase found
    cases found
  locked := by
    intro id phase slot found
    cases found

/-- A lane that no task holds is sound, whatever its slot. -/
theorem of_idle {slot : Option Slot} (idle : lane.Idle) : LaneSound ⟨slot, lane.phases⟩ where
  held := by
    intro id phase found
    rw [idle id] at found
    cases found
  locked := by
    intro id phase slot found
    rw [idle id] at found
    cases found

theorem put {slot : Slot} {id : TaskId} {phase : Phase}
    (owner : phase.hasLock = true → slot.owner = some id)
    (others : ∀ other phase, id ≠ other → lane.phases other = some phase →
      phase.hasLock = true → slot.owner = some other) :
    LaneSound (lane.put (some slot) id (some phase)) where
  held := fun _ _ _ => ⟨slot, rfl⟩
  locked := by
    intro other otherPhase same found locks tracked
    cases tracked
    rw [Lane.phases_put] at found
    split at found
    · next himself =>
      cases found
      rw [← himself]
      exact owner locks
    · next different => exact others other otherPhase different found locks

variable (sound : LaneSound lane)
include sound

/-- **One task has the lock at a time.** -/
theorem lock_exclusive {first second : TaskId} {one two : Phase}
    (foundOne : lane.phases first = some one) (foundTwo : lane.phases second = some two)
    (locksOne : one.hasLock = true) (locksTwo : two.hasLock = true) : first = second := by
  obtain ⟨slot, tracked⟩ := sound.held foundOne
  have ownerOne := sound.locked foundOne locksOne tracked
  rw [sound.locked foundTwo locksTwo tracked] at ownerOne
  exact (Option.some.inj ownerOne).symm

/-- A lane without a slot has no tasks. -/
theorem idle_of_untracked (untracked : lane.slot = none) : lane.Idle := by
  intro id
  apply Option.eq_none_iff_forall_not_mem.2
  intro phase found
  obtain ⟨slot, tracked⟩ := sound.held found
  rw [untracked] at tracked
  cases tracked

theorem change (change : LaneChange policy resource lane step event next) : LaneSound next := by
  cases change with
  | elsewhere => exact sound
  | evicted tracked idle => exact .of_idle idle
  | join new tracked =>
    apply LaneSound.put
    · nofun
    · intro other phase _ found locks
      exact sound.locked found locks tracked
  | opening new untracked =>
    have idle := sound.idle_of_untracked untracked
    apply LaneSound.put
    · nofun
    · intro other phase _ found _
      rw [idle other] at found
      cases found
  | joinToLook new tracked =>
    apply LaneSound.put
    · nofun
    · intro other phase _ found locks
      exact sound.locked found locks tracked
  | lookAtNothing new untracked => exact sound
  | @move id step event before phase slot behind found tracked move =>
    have owned : before.hasLock = true → slot.owner = some id := by
      intro locks
      exact sound.locked found locks tracked
    apply LaneSound.put (move.owner owned)
    intro other phase different holds locks
    have owner := sound.locked holds locks tracked
    rw [move.behind_eq_of_locked owned different owner, owner]
  | @leave id found =>
    constructor
    · intro other phase holds
      rw [Lane.phases_put] at holds
      split at holds
      · cases holds
      · exact sound.held holds
    · intro other phase slot holds locks tracked
      rw [Lane.phases_put] at holds
      split at holds
      · cases holds
      · exact sound.locked holds locks tracked
  | invalidateNothing untracked => exact sound
  | invalidateIdle tracked idle => exact .of_idle idle
  | @invalidateHeld slot id phase tracked held =>
    refine ⟨fun _ _ _ => ⟨slot.marked, rfl⟩, ?_⟩
    intro other phase behind holds locks same
    have owner := sound.locked holds locks tracked
    rw [← Option.some.inj same]
    exact owner

end LaneSound

theorem LaneRecorded.sound {policy : Policy} {resource : String} {past : Course} {lane : Lane}
    (record : LaneRecorded policy resource past lane) : LaneSound lane := by
  induction record with
  | nothing => exact .empty
  | further _ here ih => exact ih.change here

/-! ## No lock is lost -/

section Owners

variable {policy : Policy} {resource : String} {past : Course} {lane next : Lane}
  {step : Option Step} {taken : Step} {event : Event} {id other : TaskId} {before phase : Phase}
  {slot behind : Slot}

/-- The lock is free behind a move, or the task that moves has it, or another one had it before. -/
theorem Move.of_owner (move : Move policy id resource taken event before slot phase behind)
    (owner : behind.owner = some other) :
    other = id ∧ phase.hasLock = true ∨ other ≠ id ∧ slot.owner = some other := by
  have mine : phase.hasLock = true → slot.owner = some other →
      other = id ∧ phase.hasLock = true ∨ other ≠ id ∧ slot.owner = some other := by
    intro locks owned
    by_cases same : other = id
    · exact .inl ⟨same, locks⟩
    · exact .inr ⟨same, owned⟩
  cases move with
  | acquire _ => exact .inl ⟨(Option.some.inj owner).symm, rfl⟩
  | acquireToLook _ => exact .inl ⟨(Option.some.inj owner).symm, rfl⟩
  | sweep => exact mine rfl (by rwa [Slot.owner_swept] at owner)
  | hit _ => cases owner
  | load _ => exact mine rfl owner
  | settle => cases owner
  | look => cases owner
  | abandon _ =>
    unfold Slot.freedBy at owner
    split at owner
    · cases owner
    · next another =>
      refine .inr ⟨?_, owner⟩
      rintro rfl
      exact another owner

/-- Whoever owns the lock of a lane is a task of it that has come to need the lock. -/
def Lane.Owned (lane : Lane) : Prop :=
  ∀ ⦃slot id⦄, lane.slot = some slot → slot.owner = some id →
    ∃ phase, lane.phases id = some phase ∧ phase.hasLock = true

/-- The lock stays with its owner when another task changes its phase. -/
theorem Lane.Owned.put (owned : lane.Owned) (tracked : lane.slot = some slot)
    (owner : slot.owner = some other) (different : id ≠ other) (behind : Option Slot)
    (phase : Option Phase) :
    ∃ mine, (lane.put behind id phase).phases other = some mine ∧ mine.hasLock = true := by
  obtain ⟨mine, found, locks⟩ := owned tracked owner
  exact ⟨mine, by rw [Lane.phases_put, if_neg different, found], locks⟩

theorem Lane.Owned.change (owned : lane.Owned)
    (change : LaneChange policy resource lane step event next) : next.Owned := by
  have apart : ∀ {beginner owner : TaskId} {slot : Slot}, lane.phases beginner = none →
      lane.slot = some slot → slot.owner = some owner → beginner ≠ owner := by
    rintro beginner _ slot new tracked owner rfl
    obtain ⟨phase, found, -⟩ := owned tracked owner
    cases new.symm.trans found
  intro last owner tracks mine
  cases change with
  | elsewhere => exact owned tracks mine
  | evicted _ _ => cases tracks
  | join new tracked =>
    cases tracks
    exact owned.put tracked mine (apart new tracked mine) _ _
  | opening _ _ =>
    cases tracks
    cases mine
  | joinToLook new tracked =>
    cases tracks
    exact owned.put tracked mine (apart new tracked mine) _ _
  | lookAtNothing _ _ => exact owned tracks mine
  | move found tracked move =>
    cases tracks
    rcases move.of_owner mine with ⟨rfl, locks⟩ | ⟨different, before⟩
    · exact ⟨_, by rw [Lane.phases_put, if_pos rfl], locks⟩
    · exact owned.put tracked before (Ne.symm different) _ _
  | leave found =>
    refine owned.put tracks mine ?_ _ _
    rintro rfl
    obtain ⟨phase, holds, locks⟩ := owned tracks mine
    cases holds.symm.trans found
    cases locks
  | invalidateNothing _ => exact owned tracks mine
  | invalidateIdle _ _ => cases tracks
  | invalidateHeld tracked _ =>
    cases tracks
    exact owned tracked mine

theorem LaneRecorded.owned (record : LaneRecorded policy resource past lane) : lane.Owned := by
  induction record with
  | nothing =>
    intro slot id tracked
    cases tracked
  | further _ here ih => exact ih.change here

end Owners

end StorageBroker.Refresher
