import StorageBroker.Refresher.Turn

/-!
# What a step changes

A step either changes what is tracked (a task begins, a task leaves, a resource is invalidated) or
lets one task go on, which changes the phase of the task and the slot that it holds, and nothing
else. `Move` lists what a task can do when it goes on, with the slot before and behind, and `Change`
all that a step can do (`change_of_step`, `step_of_change`); what is proved of steps is proved of
these.

The changes are described by what they do to the lookups of a state. An eviction takes no slot that
is held (`get?_evictIdle_of_busy`) and brings none in (`get?_of_get?_evictIdle`).
-/

set_option autoImplicit false

namespace StorageBroker.Refresher

/-! ## Idle slots -/

namespace State

variable {state : State} {id : TaskId} {task : Task} {slot : SlotId}

theorem isIdle_iff (state : State) (slot : SlotId) :
    state.isIdle slot = true ↔ ∀ id task, state.tasks.get? id = some task → task.slot ≠ slot := by
  simp only [isIdle, List.all_eq_true, decide_eq_true_eq, Keyed.get?_eq_some_iff, Prod.forall]

/-- A slot that a task holds is not idle. -/
theorem isIdle_of_held (found : state.tasks.get? id = some task) :
    state.isIdle task.slot = false := by
  apply Bool.eq_false_iff.2
  intro idle
  exact (isIdle_iff state task.slot).1 idle id task found rfl

/-- A slot that is not idle is held. -/
theorem exists_holder (busy : state.isIdle slot = false) :
    ∃ id task, state.tasks.get? id = some task ∧ task.slot = slot := by
  apply Classical.byContradiction
  intro none
  apply Bool.eq_false_iff.1 busy
  apply (isIdle_iff state slot).2
  intro id task found same
  exact none ⟨id, task, found, same⟩

end State

/-! ## Eviction -/

section Eviction

variable {idle : SlotId → Bool} {capacity : Nat} {tracked : Keyed String SlotId}
  {resource : String} {slot : SlotId}

/-- The resource chosen for eviction has an idle slot. -/
theorem exists_idle_of_victim? (found : victim? idle tracked = some resource) :
    ∃ slot, tracked.get? resource = some slot ∧ idle slot = true := by
  obtain ⟨entry, hit, rfl⟩ := Option.map_eq_some_iff.1 found
  refine ⟨entry.2, ?_, by simpa using List.find?_some hit⟩
  rw [Keyed.get?_eq_some_iff]
  exact List.mem_reverse.1 (List.mem_of_find?_eq_some hit)

/-- An eviction takes no slot that is in use. -/
theorem get?_evictIdle_of_busy (found : tracked.get? resource = some slot)
    (busy : idle slot = false) :
    (evictIdle idle capacity tracked).get? resource = some slot := by
  fun_induction evictIdle idle capacity tracked with
  | case1 tracked above victim chosen ih =>
    obtain ⟨other, tracks, isIdle⟩ := exists_idle_of_victim? chosen
    refine ih ?_
    have different : victim ≠ resource := by
      rintro rfl
      rw [found] at tracks
      cases tracks
      exact Bool.false_ne_true (busy.symm.trans isIdle)
    rw [Keyed.get?_erase, if_neg different, found]
  | case2 tracked above none => exact found
  | case3 tracked within => exact found

/-- An eviction brings nothing in. -/
theorem get?_of_get?_evictIdle
    (found : (evictIdle idle capacity tracked).get? resource = some slot) :
    tracked.get? resource = some slot := by
  fun_induction evictIdle idle capacity tracked with
  | case1 tracked above victim chosen ih =>
    have kept := ih found
    rw [Keyed.get?_erase] at kept
    split at kept
    · cases kept
    · exact kept
  | case2 tracked above none => exact found
  | case3 tracked within => exact found

end Eviction

/-! ## Changes of a state -/

namespace State

variable (state : State) (capacity : Nat) (id other : TaskId) (task : Task) (phase : Phase)
  (resource : String) (number : SlotId) (slot : Slot)

@[simp] theorem tasks_setTask :
    (state.setTask id task).tasks.get? other =
      if id = other then some task else state.tasks.get? other :=
  Keyed.get?_insert state.tasks id other task

@[simp] theorem tasks_advance :
    (state.advance id task phase slot).tasks.get? other =
      if id = other then some { task with phase := phase } else state.tasks.get? other :=
  Keyed.get?_insert state.tasks id other _

@[simp] theorem slots_advance :
    (state.advance id task phase slot).slots number =
      if number = task.slot then slot else state.slots number := rfl

@[simp] theorem tracked_advance : (state.advance id task phase slot).tracked = state.tracked := rfl

@[simp] theorem nextSlot_advance :
    (state.advance id task phase slot).nextSlot = state.nextSlot := rfl

@[simp] theorem tasks_dropTask :
    (state.dropTask id).tasks.get? other = if id = other then none else state.tasks.get? other :=
  Keyed.get?_erase state.tasks id other

@[simp] theorem tasks_joinSlot :
    (state.joinSlot id resource number).tasks.get? other =
      if id = other then some ⟨resource, number, .waiting⟩ else state.tasks.get? other :=
  Keyed.get?_insert state.tasks id other _

@[simp] theorem slots_joinSlot : (state.joinSlot id resource number).slots = state.slots := rfl

@[simp] theorem tracked_joinSlot (key : String) :
    (state.joinSlot id resource number).tracked.get? key = state.tracked.get? key :=
  Keyed.get?_touch state.tracked resource key

@[simp] theorem nextSlot_joinSlot :
    (state.joinSlot id resource number).nextSlot = state.nextSlot := rfl

@[simp] theorem tasks_openSlot :
    (state.openSlot capacity id resource).tasks.get? other =
      if id = other then some ⟨resource, state.nextSlot, .waiting⟩ else state.tasks.get? other :=
  Keyed.get?_insert state.tasks id other _

@[simp] theorem slots_openSlot :
    (state.openSlot capacity id resource).slots number =
      if number = state.nextSlot then Slot.fresh else state.slots number := rfl

@[simp] theorem nextSlot_openSlot :
    (state.openSlot capacity id resource).nextSlot = state.nextSlot + 1 := rfl

@[simp] theorem slots_setSlot (other : SlotId) :
    (state.setSlot number slot).slots other =
      if other = number then slot else state.slots other := rfl

variable {state capacity id other resource number}

/-- The new slot is tracked: its own task holds it, so it is not evicted at once. -/
theorem tracked_openSlot_self :
    (state.openSlot capacity id resource).tracked.get? resource = some state.nextSlot := by
  have held : (state.setTask id ⟨resource, state.nextSlot, .waiting⟩).tasks.get? id =
      some ⟨resource, state.nextSlot, .waiting⟩ := by
    rw [tasks_setTask, if_pos rfl]
  exact get?_evictIdle_of_busy (by simp) (isIdle_of_held held)

/-- What another resource is tracked by behind a new slot, it was tracked by before. -/
theorem tracked_of_tracked_openSlot {key : String} (different : key ≠ resource)
    (found : (state.openSlot capacity id resource).tracked.get? key = some number) :
    state.tracked.get? key = some number := by
  have inserted := get?_of_get?_evictIdle found
  rwa [Keyed.get?_insertFirst, if_neg different.symm] at inserted

/-- A slot that a task holds stays tracked when a new one is made. -/
theorem tracked_openSlot_of_held {key : String} {holder : Task} (different : key ≠ resource)
    (new : state.tasks.get? id = none) (found : state.tracked.get? key = some holder.slot)
    (held : state.tasks.get? other = some holder) :
    (state.openSlot capacity id resource).tracked.get? key = some holder.slot := by
  have apart : id ≠ other := by
    rintro rfl
    rw [new] at held
    cases held
  have stillHeld : (state.setTask id ⟨resource, state.nextSlot, .waiting⟩).tasks.get? other =
      some holder := by
    rw [tasks_setTask, if_neg apart, held]
  refine get?_evictIdle_of_busy ?_ (isIdle_of_held stillHeld)
  rw [Keyed.get?_insertFirst, if_neg different.symm, found]

end State

/-! ## What a task can do -/

/-- The task that takes a step; an invalidation is nobody's. -/
def Step.task? : Step → Option TaskId
  | .beginGet id _ | .beginLook id _ | .acquire id | .sweep id | .decide id _ | .settle id _ _
  | .look id _ | .leave id | .abandon id => some id
  | .invalidate _ => none

/-- The phases in which a task waits, and may be abandoned. -/
inductive Phase.Waits : Phase → Prop where
  | waiting : Waits .waiting
  | loading : Waits .loading
  | waitingToLook : Waits .waitingToLook

/-- The phases in which a task has the lock of its slot. -/
def Phase.hasLock : Phase → Bool
  | .locked | .swept | .loading | .looking => true
  | .waiting | .waitingToLook | .leaving => false

/-- What a task does when it goes on: the step and what is seen of it, the phase and the slot of the
task before, and its phase and its slot behind. -/
inductive Move (policy : Policy) (id : TaskId) (resource : String) :
    Step → Event → Phase → Slot → Phase → Slot → Prop where
  | acquire {slot : Slot} (free : slot.owner = none) :
      Move policy id resource (.acquire id) .silent .waiting slot .locked (slot.ownedBy id)
  | acquireToLook {slot : Slot} (free : slot.owner = none) :
      Move policy id resource (.acquire id) .silent .waitingToLook slot .looking (slot.ownedBy id)
  | sweep {slot : Slot} :
      Move policy id resource (.sweep id) .silent .locked slot .swept slot.swept
  | hit {slot : Slot} {now : Int64} {credential : Credential}
      (fresh : slot.entry.fresh? now = some credential) :
      Move policy id resource (.decide id now) (.hit credential) .swept slot .leaving
        (slot.released slot.entry)
  | load {slot : Slot} {now : Int64} (stale : slot.entry.fresh? now = none) :
      Move policy id resource (.decide id now) (.loading resource) .swept slot .loading slot
  | settle {slot : Slot} {result : LoadResult} {now : Int64} :
      Move policy id resource (.settle id result now)
        (.settled (policy.settle resource slot.entry result now).1) .loading slot .leaving
        (slot.released (policy.settle resource slot.entry result now).2)
  | look {slot : Slot} {now : Int64} :
      Move policy id resource (.look id now) (.looked (slot.freshness now)) .looking slot .leaving
        (slot.released slot.entry)
  | abandon {slot : Slot} {phase : Phase} (waits : phase.Waits) :
      Move policy id resource (.abandon id) .silent phase slot .leaving (slot.freedBy id)

theorem move_of_goOn? {policy : Policy} {id : TaskId} {resource : String} {before : Phase}
    {slot : Slot} {step : Step} {phase : Phase} {behind : Slot} {event : Event}
    (own : step.task? = some id)
    (goesOn : before.goOn? policy id resource slot step = some (phase, behind, event)) :
    Move policy id resource step event before slot phase behind := by
  unfold Phase.goOn? at goesOn
  split at goesOn
  case h_1 =>
    split at goesOn
    · next free =>
      cases goesOn
      cases own
      exact .acquire free
    · cases goesOn
  case h_2 =>
    split at goesOn
    · next free =>
      cases goesOn
      cases own
      exact .acquireToLook free
    · cases goesOn
  case h_3 =>
    cases goesOn
    cases own
    exact .sweep
  case h_4 =>
    cases own
    split at goesOn
    · next credential fresh =>
      cases goesOn
      exact .hit fresh
    · next stale =>
      cases goesOn
      exact .load stale
  case h_5 =>
    cases goesOn
    cases own
    exact .settle
  case h_6 =>
    cases goesOn
    cases own
    exact .look
  case h_7 =>
    cases goesOn
    cases own
    exact .abandon .waiting
  case h_8 =>
    cases goesOn
    cases own
    exact .abandon .loading
  case h_9 =>
    cases goesOn
    cases own
    exact .abandon .waitingToLook
  case h_10 => cases goesOn

/-- A task can go on to wherever it moves. -/
theorem goOn?_of_move {policy : Policy} {id : TaskId} {resource : String} {before : Phase}
    {slot : Slot} {step : Step} {phase : Phase} {behind : Slot} {event : Event}
    (move : Move policy id resource step event before slot phase behind) :
    before.goOn? policy id resource slot step = some (phase, behind, event) := by
  cases move with
  | acquire free => exact if_pos free
  | acquireToLook free => exact if_pos free
  | sweep => rfl
  | hit fresh =>
    rw [Phase.goOn?]
    split
    · next credential found => rw [Option.some.inj (fresh.symm.trans found)]
    · next stale => cases fresh.symm.trans stale
  | load stale =>
    rw [Phase.goOn?]
    split
    · next credential found => cases stale.symm.trans found
    · rfl
  | settle => rfl
  | look => rfl
  | abandon waits => cases waits <;> rfl

/-! ## What a step can do -/

/-- All that a step can do to a state. -/
inductive Change (policy : Policy) (state : State) : Step → Event → State → Prop where
  | join {id : TaskId} {resource : String} {slot : SlotId} (new : state.tasks.get? id = none)
      (tracked : state.tracked.get? resource = some slot) :
      Change policy state (.beginGet id resource) .silent (state.joinSlot id resource slot)
  | opening {id : TaskId} {resource : String} (new : state.tasks.get? id = none)
      (untracked : state.tracked.get? resource = none) :
      Change policy state (.beginGet id resource) .silent
        (state.openSlot policy.config.capacity id resource)
  | joinToLook {id : TaskId} {resource : String} {slot : SlotId}
      (new : state.tasks.get? id = none) (tracked : state.tracked.get? resource = some slot) :
      Change policy state (.beginLook id resource) .silent
        (state.setTask id ⟨resource, slot, .waitingToLook⟩)
  | lookAtNothing {id : TaskId} {resource : String} (new : state.tasks.get? id = none)
      (untracked : state.tracked.get? resource = none) :
      Change policy state (.beginLook id resource) (.looked .empty) state
  | move {id : TaskId} {task : Task} {step : Step} {event : Event} {phase : Phase} {slot : Slot}
      (found : state.tasks.get? id = some task)
      (move : Move policy id task.resource step event task.phase (state.slots task.slot) phase slot) :
      Change policy state step event (state.advance id task phase slot)
  | leave {id : TaskId} {task : Task} (found : state.tasks.get? id = some task)
      (leaving : task.phase = .leaving) :
      Change policy state (.leave id) .silent (state.dropTask id)
  | invalidateNothing {resource : String} (untracked : state.tracked.get? resource = none) :
      Change policy state (.invalidate resource) .silent state
  | invalidateIdle {resource : String} {slot : SlotId}
      (tracked : state.tracked.get? resource = some slot) (idle : state.isIdle slot = true) :
      Change policy state (.invalidate resource) .silent
        { state with tracked := state.tracked.erase resource }
  | invalidateHeld {resource : String} {slot : SlotId}
      (tracked : state.tracked.get? resource = some slot) (busy : state.isIdle slot = false) :
      Change policy state (.invalidate resource) .silent
        (state.setSlot slot (state.slots slot).marked)

theorem change_of_goOn? {policy : Policy} {state next : State} {id : TaskId} {step : Step}
    {event : Event} (own : step.task? = some id)
    (taken : state.goOn? policy id step = some (next, event)) :
    Change policy state step event next := by
  unfold State.goOn? at taken
  split at taken
  · cases taken
  · next task found =>
    obtain ⟨⟨phase, slot, seen⟩, goesOn, same⟩ := Option.map_eq_some_iff.1 taken
    cases same
    exact .move found (move_of_goOn? own goesOn)

/-- **A step does one of the listed changes.** -/
theorem change_of_step {policy : Policy} {state next : State} {step : Step} {event : Event}
    (taken : state.step policy step = some (next, event)) :
    Change policy state step event next := by
  cases step with
  | beginGet id resource =>
    simp only [State.step, State.takeSlot] at taken
    split at taken
    · cases taken
    · next new =>
      cases taken
      split
      · next slot tracked => exact .join new tracked
      · next untracked => exact .opening new untracked
  | beginLook id resource =>
    simp only [State.step] at taken
    split at taken
    · cases taken
    · next new =>
      split at taken
      · next untracked =>
        cases taken
        exact .lookAtNothing new untracked
      · next slot tracked =>
        cases taken
        exact .joinToLook new tracked
  | acquire id => exact change_of_goOn? rfl taken
  | sweep id => exact change_of_goOn? rfl taken
  | decide id now => exact change_of_goOn? rfl taken
  | settle id result now => exact change_of_goOn? rfl taken
  | look id now => exact change_of_goOn? rfl taken
  | abandon id => exact change_of_goOn? rfl taken
  | leave id =>
    simp only [State.step] at taken
    split at taken
    · cases taken
    · next task found =>
      split at taken
      · next leaving =>
        cases taken
        exact .leave found leaving
      · cases taken
  | invalidate resource =>
    simp only [State.step, State.invalidateResource] at taken
    cases taken
    split
    · next untracked => exact .invalidateNothing untracked
    · next slot tracked =>
      split
      · next idle => exact .invalidateIdle tracked idle
      · next busy => exact .invalidateHeld tracked (Bool.eq_false_iff.2 busy)

/-- Each of the listed changes is a step that can be taken. -/
theorem step_of_change {policy : Policy} {state next : State} {step : Step} {event : Event}
    (change : Change policy state step event next) :
    state.step policy step = some (next, event) := by
  cases change with
  | join new tracked => simp only [State.step, new, State.takeSlot, tracked]
  | opening new untracked => simp only [State.step, new, State.takeSlot, untracked]
  | joinToLook new tracked => simp only [State.step, new, tracked]
  | lookAtNothing new untracked => simp only [State.step, new, untracked]
  | @move id task _ _ phase slot found move =>
    have goesOn : state.goOn? policy id step = some (state.advance id task phase slot, event) := by
      simp only [State.goOn?, found, goOn?_of_move move, Option.map_some]
    generalize task.phase = before at move
    cases move <;> exact goesOn
  | leave found leaving => simp only [State.step, found, leaving]
  | invalidateNothing untracked => simp only [State.step, State.invalidateResource, untracked]
  | invalidateIdle tracked idle =>
    simp only [State.step, State.invalidateResource, tracked, idle, if_true]
  | invalidateHeld tracked busy =>
    simp only [State.step, State.invalidateResource, tracked, busy, Bool.false_eq_true, if_false]

end StorageBroker.Refresher
