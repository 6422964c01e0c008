import StorageBroker.Proofs.Keyed
import StorageBroker.Proofs.Refresher.Linear

/-!
# Tasks on their own

What a task meets that looks or asks for a credential while the other tasks do nothing, for a resource
whose slot no task holds. A look leaves the state as it was and tells how fresh the entry is as it will
be used, which is empty if the slot is marked (`Chronicle.lookAlone_eq`). A task that asks for a
credential is answered from that entry if it is fresh (`Chronicle.getAlone_of_fresh`), and loads
otherwise (`Chronicle.getAlone_of_stale`).
-/

set_option autoImplicit false

namespace StorageBroker.Refresher

/-! ## Tasks on their own -/

namespace State

/-- A task looks at a resource while the others do nothing. -/
def lookAlone (policy : Policy) (state : State) (id : TaskId) (resource : String) (now : Int64) :
    State × Event :=
  let begun := state.after policy (.beginLook id resource)
  match begun.2.reply? with
  | some _ => begun
  | none => begun.1.takeTurn policy id now

/-- A task asks for a credential while the others do nothing, up to its answer or to its load. -/
def getAlone (policy : Policy) (state : State) (id : TaskId) (resource : String) (now : Int64) :
    State × Event :=
  (state.after policy (.beginGet id resource)).1.takeTurn policy id now

/-- No task holds the slot of a resource. -/
def Unheld (state : State) (resource : String) : Prop :=
  ∀ slot, state.tracked.get? resource = some slot → state.isIdle slot = true

end State

section Slots

variable {slot : Slot} {id : TaskId}

theorem Slot.swept_ownedBy : (slot.ownedBy id).swept = slot.swept.ownedBy id := by
  unfold Slot.swept Slot.ownedBy
  split <;> rfl

/-- A lock that was taken and given back leaves the slot as it was. -/
theorem Slot.released_ownedBy (free : slot.owner = none) :
    (slot.ownedBy id).released slot.entry = slot := by
  obtain ⟨entry, invalidated, owner⟩ := slot
  cases free
  rfl

/-- What is answered from the entry of a slot bears no mark. -/
theorem Slot.swept_of_fresh {now : Int64} {credential : Credential}
    (fresh : slot.view.fresh? now = some credential) : slot.swept = slot := by
  refine Slot.swept_of_not_invalidated (Bool.eq_false_iff.2 fun marked => ?_)
  rw [Slot.view, if_pos marked] at fresh
  cases fresh

end Slots

namespace State

variable {policy : Policy} {state next : State} {id : TaskId} {task : Task} {resource : String}
  {number : SlotId} {slot behind : Slot} {phase later : Phase} {step : Step} {event : Event}
  {now : Int64}

/-- Of the moves of a task only the last one counts. -/
theorem advance_advance : (state.advance id task phase slot).advance id { task with phase := phase }
    later behind = state.advance id task later behind := by
  have slots : (fun other => if other = task.slot then behind else
      if other = task.slot then slot else state.slots other) =
      fun other => if other = task.slot then behind else state.slots other := by
    funext other
    split <;> rfl
  simp only [advance, setTask, setSlot, Keyed.insert_insert, slots]

theorem advance_setTask :
    (state.setTask id task).advance id task phase slot = state.advance id task phase slot := by
  simp only [advance, setTask, setSlot, Keyed.insert_insert]

theorem setSlot_self : state.setSlot number (state.slots number) = state := by
  have slots : (fun other => if other = number then state.slots number else state.slots other) =
      state.slots := by
    funext other
    split
    · next same => rw [same]
    · rfl
  simp only [setSlot, slots]

/-- A task that comes and goes leaves behind what it did to its slot. -/
theorem dropTask_advance (new : state.tasks.get? id = none) :
    (state.advance id task phase slot).dropTask id = state.setSlot task.slot slot := by
  simp only [advance, dropTask, setTask, setSlot, Keyed.erase_insert_of_new new]

/-! ### Turns -/

theorem after_of_change (change : Change policy state step event next) :
    state.after policy step = (next, event) := by
  rw [after, step_of_change change, Option.getD_some]

/-- A task goes on from where it has come to. -/
theorem after_advance {before : Phase}
    (move : Move policy id task.resource step event before slot phase behind) :
    (state.advance id task before slot).after policy step =
      (state.advance id task phase behind, event) := by
  have holds : (state.advance id task before slot).tasks.get? id =
      some { task with phase := before } := by rw [tasks_advance, if_pos rfl]
  have same : (state.advance id task before slot).slots task.slot = slot := by
    rw [slots_advance, if_pos rfl]
  rw [← same] at move
  rw [after_of_change (.move holds move), advance_advance]

/-- A task that has its answer leaves. -/
theorem leaveIfTold_advance {reply : Reply} (told : event.reply? = some reply) :
    leaveIfTold policy id (state.advance id task .leaving slot, event) =
      ((state.advance id task .leaving slot).dropTask id, event) := by
  have holds : (state.advance id task .leaving slot).tasks.get? id =
      some { task with phase := .leaving } := by rw [tasks_advance, if_pos rfl]
  rw [leaveIfTold, told]
  dsimp only
  rw [after_of_change (.leave holds rfl)]

/-- The turn of a task that waits to look. -/
theorem takeTurn_of_look (holds : state.tasks.get? id = some ⟨resource, number, .waitingToLook⟩)
    (free : (state.slots number).owner = none) :
    state.takeTurn policy id now =
      ((state.advance id ⟨resource, number, .waitingToLook⟩ .leaving (state.slots number)).dropTask id,
        .looked ((state.slots number).freshness now)) := by
  have locked : state.after policy (.acquire id) =
      (state.advance id ⟨resource, number, .waitingToLook⟩ .looking
        ((state.slots number).ownedBy id), .silent) := after_of_change (.move holds (.acquireToLook free))
  rw [takeTurn, locked]
  simp only [tasks_advance, if_true, Option.map_some]
  rw [after_advance .look, leaveIfTold_advance rfl, Slot.entry_ownedBy, Slot.released_ownedBy free]
  rfl

section Turns

variable (holds : state.tasks.get? id = some ⟨resource, number, .waiting⟩)
  (free : (state.slots number).owner = none)
include holds free

/-- The turn of a task that waits: it takes the lock, sweeps the slot, and decides. -/
theorem takeTurn_of_decide
    (decides : Move policy id resource (.decide id now) event .swept
      ((state.slots number).swept.ownedBy id) phase behind) :
    state.takeTurn policy id now =
      leaveIfTold policy id (state.advance id ⟨resource, number, .waiting⟩ phase behind, event) := by
  have locked : state.after policy (.acquire id) =
      (state.advance id ⟨resource, number, .waiting⟩ .locked ((state.slots number).ownedBy id),
        .silent) := after_of_change (.move holds (.acquire free))
  rw [takeTurn, locked]
  simp only [tasks_advance, if_true, Option.map_some]
  rw [after_advance .sweep, Slot.swept_ownedBy]
  dsimp only
  rw [after_advance decides]

theorem takeTurn_of_fresh {credential : Credential}
    (fresh : (state.slots number).view.fresh? now = some credential) :
    state.takeTurn policy id now =
      ((state.advance id ⟨resource, number, .waiting⟩ .leaving (state.slots number).swept).dropTask id,
        .hit credential) := by
  rw [← Slot.entry_swept_eq_view] at fresh
  have freeStill : (state.slots number).swept.owner = none := by rw [Slot.owner_swept, free]
  rw [takeTurn_of_decide holds free (.hit fresh), leaveIfTold_advance rfl, Slot.entry_ownedBy,
    Slot.released_ownedBy freeStill]

theorem takeTurn_of_stale (stale : (state.slots number).view.fresh? now = none) :
    state.takeTurn policy id now =
      (state.advance id ⟨resource, number, .waiting⟩ .loading ((state.slots number).swept.ownedBy id),
        .loading resource) := by
  rw [← Slot.entry_swept_eq_view] at stale
  rw [takeTurn_of_decide holds free (.load stale)]
  rfl

end Turns

end State

/-! ## Calls on an unheld resource -/

section Unheld

variable {policy : Policy} {past : Past} {state : State} {resource : String} {id : TaskId}
  {number : SlotId} {now : Int64}

theorem Chronicle.idle_of_unheld (record : Chronicle policy past state)
    (unheld : state.Unheld resource) : (state.lane resource).Idle := by
  intro id
  apply Option.eq_none_iff_forall_not_mem.2
  intro phase found
  obtain ⟨task, holds, rfl, -⟩ := State.exists_task_of_phases_lane found
  have idle := unheld task.slot ((Sound.of_chronicle record).held holds)
  rw [State.isIdle_of_held holds] at idle
  cases idle

/-- The lock of a slot that no task holds is free. -/
theorem Chronicle.owner_of_unheld (record : Chronicle policy past state)
    (unheld : state.Unheld resource) (tracked : state.tracked.get? resource = some number) :
    (state.slots number).owner = none := by
  apply Option.eq_none_iff_forall_not_mem.2
  intro owner owns
  obtain ⟨phase, found, -⟩ :=
    (laneRecorded_course record resource).owned (State.slot_lane tracked) owns
  cases (record.idle_of_unheld unheld owner).symm.trans found

theorem State.view_lane (tracked : state.tracked.get? resource = some number) :
    (state.lane resource).view = (state.slots number).view :=
  Lane.view_of_slot (State.slot_lane tracked)

variable (record : Chronicle policy past state) (unheld : state.Unheld resource)
  (new : state.tasks.get? id = none)
include record unheld new

/-- **A look tells how fresh the entry is, and leaves the state as it was.** -/
theorem Chronicle.lookAlone_eq : state.lookAlone policy id resource now =
    (state, .looked ((state.lane resource).view.freshness now)) := by
  cases tracked : state.tracked.get? resource with
  | none =>
    have untracked : (state.lane resource).slot = none := State.slot_lane_eq_none tracked
    rw [State.lookAlone, State.after_of_change (.lookAtNothing new tracked),
      Lane.view_of_untracked untracked]
    rfl
  | some number =>
    have free := record.owner_of_unheld unheld tracked
    rw [State.lookAlone, State.after_of_change (.joinToLook new tracked)]
    have holds : (state.setTask id ⟨resource, number, .waitingToLook⟩).tasks.get? id =
        some ⟨resource, number, .waitingToLook⟩ := by rw [State.tasks_setTask, if_pos rfl]
    dsimp only [Event.reply?]
    rw [State.takeTurn_of_look holds free, State.advance_setTask, State.dropTask_advance new,
      State.view_lane tracked, ← Slot.freshness_eq_view]
    exact congrArg (·, _) State.setSlot_self

/-- A task that is answered from the entry moves the resource to the front, and that is all. -/
theorem Chronicle.getAlone_of_fresh {credential : Credential}
    (fresh : (state.lane resource).view.fresh? now = some credential) :
    state.getAlone policy id resource now =
      ({ state with tracked := state.tracked.touch resource }, .hit credential) := by
  cases tracked : state.tracked.get? resource with
  | none =>
    rw [Lane.view_of_untracked (State.slot_lane_eq_none tracked)] at fresh
    cases fresh
  | some number =>
    rw [State.view_lane tracked] at fresh
    have free : ((state.joinSlot id resource number).slots number).owner = none :=
      record.owner_of_unheld unheld tracked
    have holds : (state.joinSlot id resource number).tasks.get? id =
        some ⟨resource, number, .waiting⟩ := by rw [State.tasks_joinSlot, if_pos rfl]
    let moved : State := { state with tracked := state.tracked.touch resource }
    have joins : state.joinSlot id resource number =
        moved.setTask id ⟨resource, number, .waiting⟩ := rfl
    have newToo : moved.tasks.get? id = none := new
    rw [State.getAlone, State.after_of_change (.join new tracked),
      State.takeTurn_of_fresh holds free fresh, State.slots_joinSlot, Slot.swept_of_fresh fresh, joins,
      State.advance_setTask, State.dropTask_advance newToo]
    exact congrArg (·, _) State.setSlot_self

/-- A task that is not answered from the entry comes to load, with the entry as it will be used. -/
theorem Chronicle.getAlone_of_stale (stale : (state.lane resource).view.fresh? now = none) :
    (state.getAlone policy id resource now).2 = .loading resource ∧
      ∃ number, (state.getAlone policy id resource now).1.tasks.get? id =
          some ⟨resource, number, .loading⟩ ∧
        ((state.getAlone policy id resource now).1.slots number).entry =
          (state.lane resource).view := by
  cases tracked : state.tracked.get? resource with
  | none =>
    have holds : (state.openSlot policy.config.capacity id resource).tasks.get? id =
        some ⟨resource, state.nextSlot, .waiting⟩ := by rw [State.tasks_openSlot, if_pos rfl]
    have slot : (state.openSlot policy.config.capacity id resource).slots state.nextSlot =
        Slot.fresh := by rw [State.slots_openSlot, if_pos rfl]
    rw [State.getAlone, State.after_of_change (.opening new tracked),
      State.takeTurn_of_stale holds (by rw [slot]; rfl) (by rw [slot]; rfl),
      Lane.view_of_untracked (State.slot_lane_eq_none tracked)]
    refine ⟨rfl, state.nextSlot, ?_, ?_⟩
    · rw [State.tasks_advance, if_pos rfl]
    · rw [State.slots_advance, if_pos rfl, slot]
      rfl
  | some number =>
    rw [State.view_lane tracked] at stale ⊢
    have free : ((state.joinSlot id resource number).slots number).owner = none :=
      record.owner_of_unheld unheld tracked
    have holds : (state.joinSlot id resource number).tasks.get? id =
        some ⟨resource, number, .waiting⟩ := by rw [State.tasks_joinSlot, if_pos rfl]
    rw [State.getAlone, State.after_of_change (.join new tracked),
      State.takeTurn_of_stale holds free stale]
    refine ⟨rfl, number, ?_, ?_⟩
    · rw [State.tasks_advance, if_pos rfl]
    · rw [State.slots_advance, if_pos rfl, Slot.entry_ownedBy, Slot.entry_swept_eq_view,
        State.slots_joinSlot]

end Unheld

end StorageBroker.Refresher
