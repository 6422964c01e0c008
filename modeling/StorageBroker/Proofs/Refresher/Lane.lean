import StorageBroker.Proofs.Refresher.Soundness

/-!
# What belongs to one resource

The lane of a resource is what a refresher keeps for it: its slot, if it is tracked, and the phases
of the tasks that hold the slot. A step of a refresher takes a step in the lane of one resource; in
every other lane it changes nothing, or it takes an idle slot away (`LaneChange`). So the history of
a run, seen from one resource, is a course of its lane (`laneRecorded_course`), and what is claimed
of one resource is proved of its lane alone.
-/

set_option autoImplicit false

namespace StorageBroker.Refresher

/-! ## Lanes -/

/-- The slot of a resource, and how far the tasks have come that hold it. -/
@[ext] structure Lane where
  slot : Option Slot
  phases : TaskId → Option Phase

namespace Lane

/-- The lane of a resource that is not tracked. -/
def empty : Lane := ⟨none, fun _ => none⟩

/-- The lane with another slot, and one task in another phase. -/
def put (lane : Lane) (slot : Option Slot) (id : TaskId) (phase : Option Phase) : Lane :=
  ⟨slot, fun other => if id = other then phase else lane.phases other⟩

/-- No task holds the slot. -/
def Idle (lane : Lane) : Prop := ∀ id, lane.phases id = none

variable (lane : Lane) (slot : Option Slot) (id other : TaskId) (phase : Option Phase)

@[simp] theorem slot_put : (lane.put slot id phase).slot = slot := rfl

@[simp] theorem phases_put :
    (lane.put slot id phase).phases other = if id = other then phase else lane.phases other := rfl

end Lane

/-- The resource that a step is about. -/
def State.subject? (state : State) : Step → Option String
  | .beginGet _ resource | .beginLook _ resource | .invalidate resource => some resource
  | .acquire id | .sweep id | .decide id _ | .settle id _ _ | .look id _ | .leave id | .abandon id =>
    (state.tasks.get? id).map Task.resource

/-- The lane of a resource. -/
def State.lane (state : State) (resource : String) : Lane where
  slot := (state.tracked.get? resource).map state.slots
  phases id := (state.tasks.get? id).bind fun task =>
    if task.resource = resource then some task.phase else none

theorem Move.subject? {policy : Policy} {state : State} {id : TaskId} {resource : String}
    {step : Step} {event : Event} {before phase : Phase} {slot behind : Slot}
    (move : Move policy id resource step event before slot phase behind) :
    state.subject? step = (state.tasks.get? id).map Task.resource := by
  cases move <;> rfl

/-- A moment as it is seen from one resource. Of a step that is not about the resource nothing is
seen but its outcome. -/
def laneMoment (resource : String) (moment : Moment State Step Event) :
    Moment Lane (Option Step) Event :=
  if moment.before.subject? moment.step = some resource then
    ⟨moment.before.lane resource, some moment.step, moment.event, moment.after.lane resource⟩
  else ⟨moment.before.lane resource, none, .silent, moment.after.lane resource⟩

/-- The moments of a lane, the latest in front. -/
abbrev Course := List (Moment Lane (Option Step) Event)

/-- A history as it is seen from one resource. -/
def course (resource : String) (past : Past) : Course := past.map (laneMoment resource)

/-! ## What happens in a lane -/

/-- All that a step can do to the lane of a resource. A step about another resource is `none`. -/
inductive LaneChange (policy : Policy) (resource : String) (lane : Lane) :
    Option Step → Event → Lane → Prop where
  | elsewhere : LaneChange policy resource lane none .silent lane
  | evicted {slot : Slot} (tracked : lane.slot = some slot) (idle : lane.Idle) :
      LaneChange policy resource lane none .silent ⟨none, lane.phases⟩
  | join {id : TaskId} {slot : Slot} (new : lane.phases id = none)
      (tracked : lane.slot = some slot) :
      LaneChange policy resource lane (some (.beginGet id resource)) .silent
        (lane.put (some slot) id (some .waiting))
  | opening {id : TaskId} (new : lane.phases id = none) (untracked : lane.slot = none) :
      LaneChange policy resource lane (some (.beginGet id resource)) .silent
        (lane.put (some Slot.fresh) id (some .waiting))
  | joinToLook {id : TaskId} {slot : Slot} (new : lane.phases id = none)
      (tracked : lane.slot = some slot) :
      LaneChange policy resource lane (some (.beginLook id resource)) .silent
        (lane.put (some slot) id (some .waitingToLook))
  | lookAtNothing {id : TaskId} (new : lane.phases id = none) (untracked : lane.slot = none) :
      LaneChange policy resource lane (some (.beginLook id resource)) (.looked .empty) lane
  | move {id : TaskId} {step : Step} {event : Event} {before phase : Phase} {slot behind : Slot}
      (found : lane.phases id = some before) (tracked : lane.slot = some slot)
      (move : Move policy id resource step event before slot phase behind) :
      LaneChange policy resource lane (some step) event (lane.put (some behind) id (some phase))
  | leave {id : TaskId} (found : lane.phases id = some .leaving) :
      LaneChange policy resource lane (some (.leave id)) .silent (lane.put lane.slot id none)
  | invalidateNothing (untracked : lane.slot = none) :
      LaneChange policy resource lane (some (.invalidate resource)) .silent lane
  | invalidateIdle {slot : Slot} (tracked : lane.slot = some slot) (idle : lane.Idle) :
      LaneChange policy resource lane (some (.invalidate resource)) .silent ⟨none, lane.phases⟩
  | invalidateHeld {slot : Slot} {id : TaskId} {phase : Phase} (tracked : lane.slot = some slot)
      (held : lane.phases id = some phase) :
      LaneChange policy resource lane (some (.invalidate resource)) .silent
        ⟨some slot.marked, lane.phases⟩

/-- The courses of a lane that starts empty. -/
inductive LaneRecorded (policy : Policy) (resource : String) : Course → Lane → Prop where
  | nothing : LaneRecorded policy resource [] Lane.empty
  | further {past : Course} {lane next : Lane} {step : Option Step} {event : Event}
      (record : LaneRecorded policy resource past lane)
      (here : LaneChange policy resource lane step event next) :
      LaneRecorded policy resource (⟨lane, step, event, next⟩ :: past) next

/-! ## The lanes of a state and of the next one -/

namespace State

variable {state next : State} {resource : String} {id other : TaskId} {task : Task}
  {slot : SlotId}

theorem slot_lane (tracked : state.tracked.get? resource = some slot) :
    (state.lane resource).slot = some (state.slots slot) := by
  rw [lane, tracked, Option.map_some]

theorem slot_lane_setSlot (slot : SlotId) (content : Slot) :
    ((state.setSlot slot content).lane resource).slot =
      (state.tracked.get? resource).map fun other =>
        if other = slot then content else state.slots other := rfl

theorem slot_lane_advance (phase : Phase) (content : Slot) :
    ((state.advance id task phase content).lane resource).slot =
      (state.tracked.get? resource).map fun other =>
        if other = task.slot then content else state.slots other := rfl

theorem slot_lane_eq_none (untracked : state.tracked.get? resource = none) :
    (state.lane resource).slot = none := by
  rw [lane, untracked, Option.map_none]

theorem phases_lane (found : state.tasks.get? id = some task) :
    (state.lane task.resource).phases id = some task.phase := by
  simp [lane, found]

theorem phases_lane_of_ne (found : state.tasks.get? id = some task)
    (different : task.resource ≠ resource) : (state.lane resource).phases id = none := by
  simp [lane, found, different]

theorem phases_lane_of_new (new : state.tasks.get? id = none) :
    (state.lane resource).phases id = none := by
  simp [lane, new]

theorem phases_lane_congr (same : next.tasks.get? id = state.tasks.get? id) :
    (next.lane resource).phases id = (state.lane resource).phases id := by
  simp only [lane, same]

/-- The task of a phase in a lane. -/
theorem exists_task_of_phases_lane {phase : Phase}
    (found : (state.lane resource).phases id = some phase) :
    ∃ task, state.tasks.get? id = some task ∧ task.resource = resource ∧ task.phase = phase := by
  obtain ⟨task, holds, mine⟩ := Option.bind_eq_some_iff.1 found
  split at mine
  · next same => exact ⟨task, holds, same, Option.some.inj mine⟩
  · cases mine

/-- The lane behind a step that changes one task and what the lane is tracked by. -/
theorem lane_eq_put {phase : Option Phase} {slot : Option Slot}
    (others : ∀ other, id ≠ other → next.tasks.get? other = state.tasks.get? other)
    (mine : (next.lane resource).phases id = phase) (slots : (next.lane resource).slot = slot) :
    next.lane resource = (state.lane resource).put slot id phase := by
  apply Lane.ext slots
  funext other
  rw [Lane.phases_put]
  split
  · next same => rw [← same, mine]
  · next different => exact phases_lane_congr (others other different)

/-- The lane behind a step that changes one task, which is not a task of the lane. -/
theorem lane_eq_self
    (others : ∀ other, id ≠ other → next.tasks.get? other = state.tasks.get? other)
    (before : (state.lane resource).phases id = none)
    (behind : (next.lane resource).phases id = none)
    (slots : (next.lane resource).slot = (state.lane resource).slot) :
    next.lane resource = state.lane resource := by
  apply Lane.ext slots
  funext other
  by_cases same : id = other
  · rw [← same, before, behind]
  · exact phases_lane_congr (others other same)

/-! ### The lane of the resource that a step is about -/

variable (capacity : Nat) (phase : Phase) (content : Slot)

theorem lane_joinSlot_self (tracked : state.tracked.get? resource = some slot) :
    (state.joinSlot id resource slot).lane resource =
      (state.lane resource).put (some (state.slots slot)) id (some .waiting) :=
  lane_eq_put (fun other different => by rw [tasks_joinSlot, if_neg different])
    (by simp [lane]) (slot_lane (by rw [tracked_joinSlot, tracked]))

theorem lane_openSlot_self :
    (state.openSlot capacity id resource).lane resource =
      (state.lane resource).put (some Slot.fresh) id (some .waiting) :=
  lane_eq_put (fun other different => by rw [tasks_openSlot, if_neg different])
    (by simp [lane]) (by rw [slot_lane tracked_openSlot_self, slots_openSlot, if_pos rfl])

theorem lane_setTask_self (tracked : state.tracked.get? resource = some slot) :
    (state.setTask id ⟨resource, slot, phase⟩).lane resource =
      (state.lane resource).put (some (state.slots slot)) id (some phase) :=
  lane_eq_put (fun other different => by rw [tasks_setTask, if_neg different])
    (by simp [lane]) (slot_lane tracked)

theorem lane_advance_self (tracked : state.tracked.get? task.resource = some task.slot) :
    (state.advance id task phase content).lane task.resource =
      (state.lane task.resource).put (some content) id (some phase) :=
  lane_eq_put (fun other different => by rw [tasks_advance, if_neg different])
    (by simp [lane]) (by rw [slot_lane_advance, tracked, Option.map_some, if_pos rfl])

theorem lane_dropTask_self :
    (state.dropTask id).lane resource =
      (state.lane resource).put (state.lane resource).slot id none :=
  lane_eq_put (fun other different => by rw [tasks_dropTask, if_neg different])
    (by simp [lane]) rfl

theorem lane_erase_self :
    State.lane { state with tracked := state.tracked.erase resource } resource =
      ⟨none, (state.lane resource).phases⟩ :=
  Lane.ext (slot_lane_eq_none (by rw [Keyed.get?_erase, if_pos rfl])) rfl

theorem lane_setSlot_self (tracked : state.tracked.get? resource = some slot) :
    (state.setSlot slot content).lane resource =
      ⟨some content, (state.lane resource).phases⟩ :=
  Lane.ext (by rw [slot_lane_setSlot, tracked, Option.map_some, if_pos rfl]) rfl

/-! ### The lanes of other resources -/

variable {capacity phase content} {other : String}

theorem lane_joinSlot_of_ne (new : state.tasks.get? id = none) (different : other ≠ resource) :
    (state.joinSlot id other slot).lane resource = state.lane resource :=
  lane_eq_self (fun _ apart => by rw [tasks_joinSlot, if_neg apart]) (phases_lane_of_new new)
    (by simp [lane, different]) (by simp [lane])

theorem phases_lane_openSlot_of_ne (new : state.tasks.get? id = none)
    (different : other ≠ resource) :
    ((state.openSlot capacity id other).lane resource).phases = (state.lane resource).phases := by
  funext holder
  by_cases himself : id = holder
  · rw [← himself, phases_lane_of_new new]
    simp [lane, different]
  · exact phases_lane_congr (by rw [tasks_openSlot, if_neg himself])

theorem lane_setTask_of_ne (new : state.tasks.get? id = none) (different : other ≠ resource) :
    (state.setTask id ⟨other, slot, phase⟩).lane resource = state.lane resource :=
  lane_eq_self (fun _ apart => by rw [tasks_setTask, if_neg apart]) (phases_lane_of_new new)
    (by simp [lane, different]) rfl

/-- A slot that is not the one tracked for a resource may change without its lane. -/
theorem slot_lane_setSlot_of_ne
    (apart : ∀ number, state.tracked.get? resource = some number → number ≠ slot) :
    ((state.setSlot slot content).lane resource).slot = (state.lane resource).slot :=
  Option.map_congr fun number tracked => if_neg (apart number tracked)

theorem lane_advance_of_ne (found : state.tasks.get? id = some task)
    (different : task.resource ≠ resource)
    (apart : ∀ number, state.tracked.get? resource = some number → number ≠ task.slot) :
    (state.advance id task phase content).lane resource = state.lane resource :=
  lane_eq_self (fun _ another => by rw [tasks_advance, if_neg another])
    (phases_lane_of_ne found different) (by simp [lane, different])
    (slot_lane_setSlot_of_ne apart)

theorem lane_dropTask_of_ne (found : state.tasks.get? id = some task)
    (different : task.resource ≠ resource) :
    (state.dropTask id).lane resource = state.lane resource :=
  lane_eq_self (fun _ apart => by rw [tasks_dropTask, if_neg apart])
    (phases_lane_of_ne found different) (by simp [lane]) rfl

theorem lane_erase_of_ne (different : other ≠ resource) :
    State.lane { state with tracked := state.tracked.erase other } resource =
      state.lane resource :=
  Lane.ext (by simp [lane, different]) rfl

end State

/-! ## A run, seen from one resource -/

section Projection

variable {policy : Policy} {state next : State} {resource : String} {step : Step} {event : Event}

namespace Sound

theorem idle_lane (sound : Sound state) {slot : SlotId}
    (tracked : state.tracked.get? resource = some slot) (idle : state.isIdle slot = true) :
    (state.lane resource).Idle := by
  intro id
  apply Option.eq_none_iff_forall_not_mem.2
  intro phase found
  obtain ⟨task, holds, rfl, -⟩ := State.exists_task_of_phases_lane found
  have same := sound.held holds
  rw [tracked] at same
  cases same
  exact (State.isIdle_iff state _).1 idle id task holds rfl

theorem exists_phase (sound : Sound state) {slot : SlotId}
    (tracked : state.tracked.get? resource = some slot) (busy : state.isIdle slot = false) :
    ∃ id phase, (state.lane resource).phases id = some phase := by
  obtain ⟨id, task, holds, rfl⟩ := State.exists_holder busy
  obtain rfl := sound.apart (sound.held holds) tracked
  exact ⟨id, task.phase, State.phases_lane holds⟩

/-- A new slot for one resource leaves the lane of another one as it is, or takes its idle slot
away; a slot with a holder is not evicted. -/
theorem lane_change_of_opening (sound : Sound state) {id : TaskId} {other : String}
    (new : state.tasks.get? id = none) (different : other ≠ resource) :
    LaneChange policy resource (state.lane resource) none .silent
      ((state.openSlot policy.config.capacity id other).lane resource) := by
  have phases : ((state.openSlot policy.config.capacity id other).lane resource).phases =
      (state.lane resource).phases := State.phases_lane_openSlot_of_ne new different
  cases kept : (state.openSlot policy.config.capacity id other).tracked.get? resource with
  | some slot =>
    have tracked := State.tracked_of_tracked_openSlot different.symm kept
    have older := Nat.ne_of_lt (sound.numbered tracked)
    have slots : ((state.openSlot policy.config.capacity id other).lane resource).slot =
        (state.lane resource).slot := by
      rw [State.slot_lane kept, State.slot_lane tracked, State.slots_openSlot, if_neg older]
    rw [Lane.ext slots phases]
    exact .elsewhere
  | none =>
    have behind : (state.openSlot policy.config.capacity id other).lane resource =
        ⟨none, (state.lane resource).phases⟩ := Lane.ext (State.slot_lane_eq_none kept) phases
    rw [behind]
    cases before : state.tracked.get? resource with
    | some slot =>
      refine .evicted (State.slot_lane before) ?_
      intro holder
      apply Option.eq_none_iff_forall_not_mem.2
      intro phase found
      obtain ⟨task, holds, rfl, -⟩ := State.exists_task_of_phases_lane found
      have stays : (state.openSlot policy.config.capacity id other).tracked.get? task.resource =
          some task.slot :=
        State.tracked_openSlot_of_held different.symm new (sound.held holds) holds
      rw [kept] at stays
      cases stays
    | none =>
      have same : (⟨none, (state.lane resource).phases⟩ : Lane) = state.lane resource :=
        Lane.ext (State.slot_lane_eq_none before).symm rfl
      rw [same]
      exact .elsewhere

/-- A step that is about a resource is a step in its lane. -/
theorem lane_change (sound : Sound state) (change : Change policy state step event next)
    (about : state.subject? step = some resource) :
    LaneChange policy resource (state.lane resource) (some step) event (next.lane resource) := by
  cases change with
  | join new tracked =>
    cases about
    rw [State.lane_joinSlot_self tracked]
    exact .join (State.phases_lane_of_new new) (State.slot_lane tracked)
  | opening new untracked =>
    cases about
    rw [State.lane_openSlot_self]
    exact .opening (State.phases_lane_of_new new) (State.slot_lane_eq_none untracked)
  | joinToLook new tracked =>
    cases about
    rw [State.lane_setTask_self _ tracked]
    exact .joinToLook (State.phases_lane_of_new new) (State.slot_lane tracked)
  | lookAtNothing new untracked =>
    cases about
    exact .lookAtNothing (State.phases_lane_of_new new) (State.slot_lane_eq_none untracked)
  | move found move =>
    rw [move.subject?, found] at about
    cases about
    rw [State.lane_advance_self _ _ (sound.held found)]
    exact .move (State.phases_lane found) (State.slot_lane (sound.held found)) move
  | leave found leaving =>
    rw [State.subject?, found] at about
    cases about
    rw [State.lane_dropTask_self]
    exact .leave (leaving ▸ State.phases_lane found)
  | invalidateNothing untracked =>
    cases about
    exact .invalidateNothing (State.slot_lane_eq_none untracked)
  | invalidateIdle tracked idle =>
    cases about
    rw [State.lane_erase_self]
    exact .invalidateIdle (State.slot_lane tracked) (sound.idle_lane tracked idle)
  | invalidateHeld tracked busy =>
    cases about
    obtain ⟨id, phase, held⟩ := sound.exists_phase tracked busy
    rw [State.lane_setSlot_self _ tracked]
    exact .invalidateHeld (State.slot_lane tracked) held

/-- A step about another resource leaves a lane as it is, or takes its idle slot away. -/
theorem lane_change_of_ne (sound : Sound state) (change : Change policy state step event next)
    (away : state.subject? step ≠ some resource) :
    LaneChange policy resource (state.lane resource) none .silent (next.lane resource) := by
  cases change with
  | join new tracked =>
    rw [State.lane_joinSlot_of_ne new fun same => away (congrArg some same)]
    exact .elsewhere
  | opening new untracked =>
    exact sound.lane_change_of_opening new fun same => away (congrArg some same)
  | joinToLook new tracked =>
    rw [State.lane_setTask_of_ne new fun same => away (congrArg some same)]
    exact .elsewhere
  | lookAtNothing new untracked => exact .elsewhere
  | @move id task _ _ phase slot found move =>
    have different : task.resource ≠ resource := by
      rw [move.subject?, found] at away
      exact fun same => away (congrArg some same)
    have apart : ∀ number, state.tracked.get? resource = some number → number ≠ task.slot := by
      intro number tracked
      exact (sound.slot_ne found tracked different).symm
    rw [State.lane_advance_of_ne found different apart]
    exact .elsewhere
  | @leave id task found leaving =>
    have different : task.resource ≠ resource := by
      rw [State.subject?, found] at away
      exact fun same => away (congrArg some same)
    rw [State.lane_dropTask_of_ne found different]
    exact .elsewhere
  | invalidateNothing untracked => exact .elsewhere
  | invalidateIdle tracked idle =>
    rw [State.lane_erase_of_ne fun same => away (congrArg some same)]
    exact .elsewhere
  | @invalidateHeld other slot tracked busy =>
    have apart : ∀ number, state.tracked.get? resource = some number → number ≠ slot := by
      rintro number mine rfl
      exact away (congrArg some (sound.apart tracked mine))
    have behind : (state.setSlot slot (state.slots slot).marked).lane resource =
        state.lane resource := Lane.ext (State.slot_lane_setSlot_of_ne apart) rfl
    rw [behind]
    exact .elsewhere

end Sound

/-- **A history, seen from one resource, is a course of its lane.** -/
theorem laneRecorded_course {past : Past} (record : Chronicle policy past state)
    (resource : String) :
    LaneRecorded policy resource (course resource past) (state.lane resource) := by
  induction record with
  | nothing => exact .nothing
  | @further past state reached step event record here ih =>
    have sound := Sound.of_chronicle record
    have change := change_of_step here
    rw [course, List.map_cons, laneMoment]
    split
    · next about => exact ih.further (sound.lane_change change about)
    · next away => exact ih.further (sound.lane_change_of_ne change away)

end Projection

end StorageBroker.Refresher
