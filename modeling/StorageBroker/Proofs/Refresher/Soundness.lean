import StorageBroker.Proofs.History
import StorageBroker.Proofs.Refresher.Change

/-!
# What holds of every state of a refresher

The slot that a task holds is the slot by which its resource is tracked. This is preserved by every
step on its own (`HeldIsTracked.change`): a held slot is not idle, so it is neither evicted nor taken
out by an invalidation, and a resource with a tracked slot gets no other one.

A state is sound when moreover no slot is tracked for two resources, and the tracked slots are
numbered below the next one. Every state of a run is sound (`Sound.of_chronicle`).
-/

set_option autoImplicit false

namespace StorageBroker.Refresher

/-! ## Histories of a refresher -/

/-- The moments of a run, the latest in front. -/
abbrev Past := List (Moment State Step Event)

/-- The histories of the runs of a refresher that starts with nothing tracked. -/
abbrev Chronicle (policy : Policy) : Past → State → Prop :=
  Recorded (State.step policy) State.initial

/-- A policy with the standard configuration and without a fallback. -/
def Policy.standard : Policy where
  backend := .gcs
  fallback := none
  config := Config.standard
  valid := by decide +kernel
  fallback_backend := by simp

/-- A token that expires at an instant. -/
def sampleToken (expiry : Int64) (positive : 0 < expiry) : Credential :=
  .gcsToken ⟨"token", by decide⟩ ⟨expiry, positive⟩

/-- An expiry of tokens in several runs. -/
theorem sampleExpiry_pos : (0 : Int64) < 1001 := by decide

/-- The history of given steps under the standard policy, with the state that is reached. -/
def historyOf (steps : List Step) : Past × State :=
  replay (State.step Policy.standard) State.initial steps

theorem chronicle_historyOf (steps : List Step) :
    Chronicle Policy.standard (historyOf steps).1 (historyOf steps).2 :=
  recorded_replay steps

/-- The steps of a history with what was seen of them, the first in front. -/
def trace (past : Past) : List (Step × Event) :=
  (past.map fun moment => (moment.step, moment.event)).reverse

/-! ## Held slots are tracked -/

/-- Every slot that a task holds is the slot by which the resource of the task is tracked. -/
def State.HeldIsTracked (state : State) : Prop :=
  ∀ ⦃id task⦄, state.tasks.get? id = some task →
    state.tracked.get? task.resource = some task.slot

variable {policy : Policy} {state next : State} {step : Step} {event : Event}

/-- No step takes the slot of a resource away, or puts another in its place, while a task holds
it. -/
theorem State.HeldIsTracked.stays (tracks : state.HeldIsTracked)
    (change : Change policy state step event next) {id : TaskId} {task : Task}
    (holds : state.tasks.get? id = some task) :
    next.tracked.get? task.resource = some task.slot := by
  have tracked := tracks holds
  cases change with
  | join new _ => rw [tracked_joinSlot, tracked]
  | @opening _ resource new untracked =>
    have different : task.resource ≠ resource := by
      rintro rfl
      rw [untracked] at tracked
      cases tracked
    exact tracked_openSlot_of_held different new tracked holds
  | joinToLook _ _ => exact tracked
  | lookAtNothing _ _ => exact tracked
  | move _ _ => exact tracked
  | leave _ _ => exact tracked
  | invalidateNothing _ => exact tracked
  | @invalidateIdle resource slot isTracked idle =>
    have different : resource ≠ task.resource := by
      rintro rfl
      rw [isTracked] at tracked
      cases tracked
      exact (isIdle_iff state task.slot).1 idle id task holds rfl
    rw [Keyed.get?_erase, if_neg different, tracked]
  | invalidateHeld _ _ => exact tracked

/-- A task that was there before still has its slot, and a new one holds the slot it was given. -/
theorem State.HeldIsTracked.change (tracks : state.HeldIsTracked)
    (change : Change policy state step event next) : next.HeldIsTracked := by
  intro id task found
  have stays : state.tasks.get? id = some task →
      next.tracked.get? task.resource = some task.slot := tracks.stays change
  cases change with
  | @join new resource slot _ tracked =>
    rw [tasks_joinSlot] at found
    split at found
    · cases found
      rw [tracked_joinSlot, tracked]
    · exact stays found
  | @opening new resource _ _ =>
    rw [tasks_openSlot] at found
    split at found
    · cases found
      exact tracked_openSlot_self
    · exact stays found
  | @joinToLook new resource slot _ tracked =>
    rw [tasks_setTask] at found
    split at found
    · cases found
      exact tracked
    · exact stays found
  | lookAtNothing _ _ => exact stays found
  | @move mover before _ _ phase slot holds _ =>
    rw [tasks_advance] at found
    split at found
    · cases found
      have tracked := tracks holds
      exact tracked
    · exact stays found
  | leave _ _ =>
    rw [tasks_dropTask] at found
    split at found
    · cases found
    · exact stays found
  | invalidateNothing _ => exact stays found
  | invalidateIdle _ _ => exact stays found
  | invalidateHeld _ _ => exact stays found

/-! ## Sound states -/

/-- What holds of every state of a run. -/
structure Sound (state : State) : Prop where
  held : state.HeldIsTracked
  /-- No slot is tracked for two resources. -/
  apart : ∀ ⦃first second slot⦄, state.tracked.get? first = some slot →
    state.tracked.get? second = some slot → first = second
  /-- Slots to come have new numbers. -/
  numbered : ∀ ⦃resource slot⦄, state.tracked.get? resource = some slot → slot < state.nextSlot

namespace Sound

theorem initial : Sound State.initial where
  held := by
    intro id task found
    cases found
  apart := by
    intro first second slot found
    cases found
  numbered := by
    intro resource slot found
    cases found

variable (sound : Sound state)
include sound

/-- The tasks of different resources hold different slots. -/
theorem slot_ne {id : TaskId} {task : Task} {resource : String} {slot : SlotId}
    (found : state.tasks.get? id = some task) (tracked : state.tracked.get? resource = some slot)
    (different : task.resource ≠ resource) : task.slot ≠ slot := by
  rintro rfl
  exact different (sound.apart (sound.held found) tracked)

/-- No slot is tracked for two resources: the number of a new slot is above those of the older ones. -/
theorem change_apart (change : Change policy state step event next) :
    ∀ ⦃first second slot⦄, next.tracked.get? first = some slot →
      next.tracked.get? second = some slot → first = second := by
  intro first second slot one two
  cases change with
  | join _ _ =>
    rw [State.tracked_joinSlot] at one two
    exact sound.apart one two
  | @opening id resource _ _ =>
    have older : ∀ key, key ≠ resource →
        (state.openSlot policy.config.capacity id resource).tracked.get? key = some slot →
        slot ≠ state.nextSlot := by
      intro key different found
      exact Nat.ne_of_lt (sound.numbered (State.tracked_of_tracked_openSlot different found))
    by_cases here : first = resource
    · by_cases there : second = resource
      · rw [here, there]
      · rw [here, State.tracked_openSlot_self] at one
        exact absurd (Option.some.inj one).symm (older second there two)
    · by_cases there : second = resource
      · rw [there, State.tracked_openSlot_self] at two
        exact absurd (Option.some.inj two).symm (older first here one)
      · exact sound.apart (State.tracked_of_tracked_openSlot here one)
          (State.tracked_of_tracked_openSlot there two)
  | joinToLook _ _ => exact sound.apart one two
  | lookAtNothing _ _ => exact sound.apart one two
  | move _ _ => exact sound.apart one two
  | leave _ _ => exact sound.apart one two
  | invalidateNothing _ => exact sound.apart one two
  | invalidateIdle _ _ =>
    rw [Keyed.get?_erase] at one two
    split at one
    · cases one
    · split at two
      · cases two
      · exact sound.apart one two
  | invalidateHeld _ _ => exact sound.apart one two

theorem change_numbered (change : Change policy state step event next) :
    ∀ ⦃resource slot⦄, next.tracked.get? resource = some slot → slot < next.nextSlot := by
  intro key slot found
  cases change with
  | join _ _ =>
    rw [State.tracked_joinSlot] at found
    exact sound.numbered found
  | @opening _ resource _ _ =>
    by_cases here : key = resource
    · rw [here, State.tracked_openSlot_self] at found
      cases found
      exact Nat.lt_succ_self state.nextSlot
    · exact Nat.lt_succ_of_lt (sound.numbered (State.tracked_of_tracked_openSlot here found))
  | joinToLook _ _ => exact sound.numbered found
  | lookAtNothing _ _ => exact sound.numbered found
  | move _ _ => exact sound.numbered found
  | leave _ _ => exact sound.numbered found
  | invalidateNothing _ => exact sound.numbered found
  | invalidateIdle _ _ =>
    rw [Keyed.get?_erase] at found
    split at found
    · cases found
    · exact sound.numbered found
  | invalidateHeld _ _ => exact sound.numbered found

theorem change (change : Change policy state step event next) : Sound next where
  held := sound.held.change change
  apart := sound.change_apart change
  numbered := sound.change_numbered change

end Sound

/-- **Every state of a run is sound.** -/
theorem Sound.of_chronicle {past : Past} (record : Chronicle policy past state) : Sound state := by
  induction record with
  | nothing => exact .initial
  | further _ here ih => exact ih.change (change_of_step here)

end StorageBroker.Refresher
