import StorageBroker.Proofs.Refresher.Calls
import StorageBroker.Proofs.Refresher.Origin

/-!
# Resources do not interfere

What happens to one resource in a run is what happens in a refresher without a capacity that is used
for this resource alone. That refresher takes the steps of the run that are about the resource, in
their order and with what came from outside, and it invalidates the resource wherever the run has
evicted its slot (`projected`). The same is seen of each of its steps, and at the end the resource has
the same entry, mark, lock and tasks (`resources_isolated`). It takes nothing out by itself
(`tracked_of_stepUnbounded`).

The two refreshers are compared by the lane of the resource (`Alone`). Every change of a lane that is
about its resource can be made by the refresher that is used for it alone (`Alone.exists_change`).
-/

set_option autoImplicit false

namespace StorageBroker.Refresher

/-! ## Without a capacity -/

/-- A policy with another capacity. -/
def Policy.withCapacity (policy : Policy) (capacity : Nat) (positive : capacity ≠ 0) : Policy where
  backend := policy.backend
  fallback := policy.fallback
  config := { policy.config with capacity := capacity }
  valid := ⟨policy.valid.1, positive, policy.valid.2.2⟩
  fallback_backend := policy.fallback_backend

/-- A step of a refresher without a capacity: there is always room for one more resource. -/
def State.stepUnbounded (policy : Policy) (state : State) (step : Step) : Option (State × Event) :=
  state.step (policy.withCapacity (state.size + 1) (Nat.succ_ne_zero state.size)) step

section Unbounded

variable {policy : Policy} {state next : State} {step : Step} {event : Event} {resource : String}
  {slot : SlotId}

/-- Where there is room nothing is evicted. -/
theorem evictIdle_of_size_le {idle : SlotId → Bool} {capacity : Nat} {tracked : Keyed String SlotId}
    (room : tracked.size ≤ capacity) : evictIdle idle capacity tracked = tracked := by
  rw [evictIdle, if_neg (Nat.not_lt.2 room)]

/-- **Without a capacity nothing is taken out** but what is invalidated. -/
theorem tracked_of_stepUnbounded (taken : state.stepUnbounded policy step = some (next, event))
    (tracked : state.tracked.get? resource = some slot) (valid : step ≠ .invalidate resource) :
    next.tracked.get? resource = some slot := by
  cases change_of_step taken with
  | join _ _ => rw [State.tracked_joinSlot, tracked]
  | @opening id other new untracked =>
    have different : other ≠ resource := by
      rintro rfl
      cases untracked.symm.trans tracked
    have room : (state.tracked.insertFirst other state.nextSlot).size ≤ state.size + 1 :=
      Nat.succ_le_succ (List.length_filter_le _ _)
    rw [State.openSlot]
    dsimp only [Policy.withCapacity]
    rw [evictIdle_of_size_le room, Keyed.get?_insertFirst, if_neg different, tracked]
  | invalidateIdle _ _ =>
    rw [Keyed.get?_erase, if_neg fun same => valid (congrArg Step.invalidate same), tracked]
  | _ => exact tracked

/-- The capacity has no say in what a task does. -/
theorem Move.withCapacity {id : TaskId} {before phase : Phase} {content behind : Slot}
    {capacity : Nat} (positive : capacity ≠ 0)
    (move : Move policy id resource step event before content phase behind) :
    Move (policy.withCapacity capacity positive) id resource step event before content phase
      behind := by
  cases move with
  | acquire free => exact .acquire free
  | acquireToLook free => exact .acquireToLook free
  | sweep => exact .sweep
  | hit fresh => exact .hit fresh
  | load stale => exact .load stale
  | settle => exact .settle
  | look => exact .look
  | abandon waits => exact .abandon waits

end Unbounded

/-! ## What concerns one resource -/

/-- The step that a moment of a lane comes to for its resource, with what was seen of it. An eviction
comes to an invalidation. -/
def projected? (resource : String) (moment : Moment Lane (Option Step) Event) :
    Option (Step × Event) :=
  match moment.step with
  | some step => some (step, moment.event)
  | none => if Evicts moment then some (.invalidate resource, .silent) else none

/-- The steps of a course that are about its resource, with what was seen of them, the first in front.
An eviction of its slot stands there as an invalidation. -/
def projected (resource : String) (past : Course) : List (Step × Event) :=
  (past.filterMap (projected? resource)).reverse

/-- The history of a refresher without a capacity that takes the steps of a course which are about its
resource, and no others, with the state that is reached. -/
def aloneHistory (policy : Policy) (resource : String) (past : Course) : Past × State :=
  replay (State.stepUnbounded policy) State.initial ((projected resource past).map Prod.fst)

/-- A task that begins in the lane of a resource begins with the resource. -/
theorem LaneChange.resource_of_began {policy : Policy} {resource other : String} {lane next : Lane}
    {step : Step} {event : Event} {id : TaskId} {phase : Phase}
    (here : LaneChange policy resource lane (some step) event next)
    (began : phase.BeganBy id other step) : other = resource := by
  have begins : step = .beginGet id other ∨ step = .beginLook id other := by
    cases phase with
    | waitingToLook | looking => exact .inr began
    | leaving => exact began
    | _ => exact .inl began
  rcases begins with rfl | rfl
  · cases here with
    | join _ _ => rfl
    | opening _ _ => rfl
    | move _ _ move => cases move
  · cases here with
    | joinToLook _ _ => rfl
    | lookAtNothing _ _ => rfl
    | move _ _ move => cases move

/-- A state of a refresher that is used for one resource alone, and the lane of the resource. -/
structure Alone (resource : String) (lane : Lane) (state : State) : Prop where
  sound : Sound state
  same : state.lane resource = lane
  only : ∀ ⦃id task⦄, state.tasks.get? id = some task → task.resource = resource

namespace Alone

variable {policy : Policy} {resource : String} {lane next : Lane} {state reached : State}
  {step : Step} {event : Event} {id : TaskId} {phase : Phase} {slot : Slot}

theorem initial : Alone resource Lane.empty State.initial where
  sound := .initial
  same := rfl
  only := by
    intro id task found
    cases found

section Lookups

variable (alone : Alone resource lane state)
include alone

/-- A task that is not in the lane is not there at all. -/
theorem new (missing : lane.phases id = none) : state.tasks.get? id = none := by
  apply Option.eq_none_iff_forall_not_mem.2
  intro task found
  obtain rfl := alone.only found
  rw [← alone.same, State.phases_lane found] at missing
  cases missing

theorem exists_task (found : lane.phases id = some phase) :
    ∃ task, state.tasks.get? id = some task ∧ task.resource = resource ∧ task.phase = phase := by
  rw [← alone.same] at found
  exact State.exists_task_of_phases_lane found

theorem exists_slot (tracked : lane.slot = some slot) :
    ∃ number, state.tracked.get? resource = some number ∧ state.slots number = slot := by
  rw [← alone.same] at tracked
  exact Option.map_eq_some_iff.1 tracked

theorem untracked (missing : lane.slot = none) : state.tracked.get? resource = none := by
  rw [← alone.same] at missing
  exact Option.map_eq_none_iff.1 missing

theorem isIdle (idle : lane.Idle) (number : SlotId) : state.isIdle number = true := by
  apply (State.isIdle_iff state number).2
  intro id task found
  cases (alone.new (idle id)).symm.trans found

/-- A change of the lane leaves what is about the resource alone. -/
theorem further (here : LaneChange policy resource lane (some step) event next) {policy : Policy}
    (change : Change policy state step event reached) (same : reached.lane resource = next) :
    Alone resource next reached where
  sound := alone.sound.change change
  same := same
  only := by
    intro id task found
    cases change.taskChange found with
    | stays held _ => exact alone.only held
    | begins _ began _ => exact here.resource_of_began began
    | moves held resources _ => rw [← resources, alone.only held]

/-- **Every change of the lane that is about the resource can be made by a refresher that is used for
the resource alone**, whatever its capacity. -/
theorem exists_change (here : LaneChange policy resource lane (some step) event next)
    {capacity : Nat} (positive : capacity ≠ 0) :
    ∃ reached, Change (policy.withCapacity capacity positive) state step event reached ∧
      reached.lane resource = next := by
  cases here with
  | join missing tracked =>
    obtain ⟨number, found, rfl⟩ := alone.exists_slot tracked
    refine ⟨_, .join (alone.new missing) found, ?_⟩
    rw [State.lane_joinSlot_self found, alone.same]
  | opening missing absent =>
    refine ⟨_, .opening (alone.new missing) (alone.untracked absent), ?_⟩
    rw [State.lane_openSlot_self, alone.same]
  | joinToLook missing tracked =>
    obtain ⟨number, found, rfl⟩ := alone.exists_slot tracked
    refine ⟨_, .joinToLook (alone.new missing) found, ?_⟩
    rw [State.lane_setTask_self _ found, alone.same]
  | lookAtNothing missing absent =>
    exact ⟨_, .lookAtNothing (alone.new missing) (alone.untracked absent), alone.same⟩
  | move found tracked move =>
    obtain ⟨task, holds, rfl, rfl⟩ := alone.exists_task found
    obtain ⟨number, tracks, rfl⟩ := alone.exists_slot tracked
    have held := alone.sound.held holds
    cases tracks.symm.trans held
    refine ⟨_, .move holds (move.withCapacity positive), ?_⟩
    rw [State.lane_advance_self _ _ held, alone.same]
  | leave found =>
    obtain ⟨task, holds, rfl, leaving⟩ := alone.exists_task found
    refine ⟨_, .leave holds leaving, ?_⟩
    rw [State.lane_dropTask_self, alone.same]
  | invalidateNothing absent => exact ⟨_, .invalidateNothing (alone.untracked absent), alone.same⟩
  | invalidateIdle tracked idle =>
    obtain ⟨number, found, rfl⟩ := alone.exists_slot tracked
    refine ⟨_, .invalidateIdle found (alone.isIdle idle number), ?_⟩
    rw [State.lane_erase_self, alone.same]
  | invalidateHeld tracked held =>
    obtain ⟨number, found, rfl⟩ := alone.exists_slot tracked
    obtain ⟨task, holds, rfl, -⟩ := alone.exists_task held
    have own := alone.sound.held holds
    cases found.symm.trans own
    refine ⟨_, .invalidateHeld found (State.isIdle_of_held holds), ?_⟩
    rw [State.lane_setSlot_self _ found, alone.same]

end Lookups

/-- A refresher that is used for the resource alone takes the step, and the same is seen of it. -/
theorem extend {past : Past × State} (alone : Alone resource lane past.2)
    (here : LaneChange policy resource lane (some step) event next) :
    trace (extend (State.stepUnbounded policy) past step).1 = trace past.1 ++ [(step, event)] ∧
      Alone resource next (extend (State.stepUnbounded policy) past step).2 := by
  obtain ⟨reached, change, same⟩ := alone.exists_change here (Nat.succ_ne_zero past.2.size)
  have taken : past.2.stepUnbounded policy step = some (reached, event) := step_of_change change
  rw [extend_of_some taken]
  refine ⟨?_, alone.further here change same⟩
  rw [trace, List.map_cons, List.reverse_cons]
  rfl

end Alone

/-! ## Runs, seen from one resource -/

section Runs

variable {policy : Policy} {resource : String} {lane next : Lane} {past : Course}
  {moment : Moment Lane (Option Step) Event}

theorem projected_cons_of_none (nothing : projected? resource moment = none) :
    projected resource (moment :: past) = projected resource past := by
  rw [projected, List.filterMap_cons_none nothing, projected]

theorem projected_cons_of_some {seen : Step × Event} (here : projected? resource moment = some seen) :
    projected resource (moment :: past) = projected resource past ++ [seen] := by
  rw [projected, List.filterMap_cons_some here, List.reverse_cons, projected]

/-- A refresher without a capacity that takes the steps of a course which are about its resource: the
same is seen of them, and the lane is the same. -/
structure Repeats (policy : Policy) (resource : String) (past : Course) (lane : Lane) : Prop where
  seen : trace (aloneHistory policy resource past).1 = projected resource past
  alone : Alone resource lane (aloneHistory policy resource past).2

/-- A moment that comes to nothing is passed over. -/
theorem Repeats.skip (repeats : Repeats policy resource past lane)
    (nothing : projected? resource moment = none) :
    Repeats policy resource (moment :: past) lane := by
  constructor
  · rw [aloneHistory, projected_cons_of_none nothing]
    exact repeats.seen
  · rw [aloneHistory, projected_cons_of_none nothing]
    exact repeats.alone

/-- A step more is taken where a moment comes to a step. -/
theorem Repeats.concat {step : Step} {event : Event} (repeats : Repeats policy resource past lane)
    (comes : projected? resource moment = some (step, event))
    (here : LaneChange policy resource lane (some step) event next) :
    Repeats policy resource (moment :: past) next := by
  obtain ⟨seen, alone⟩ := repeats.alone.extend here
  have further : aloneHistory policy resource (moment :: past) =
      extend (State.stepUnbounded policy) (aloneHistory policy resource past) step := by
    rw [aloneHistory, projected_cons_of_some comes, List.map_append, List.map_singleton,
      replay_concat, aloneHistory]
  constructor
  · rw [further, seen, repeats.seen, projected_cons_of_some comes]
  · rw [further]
    exact alone

/-- **A course of a lane is repeated by a refresher that is used for its resource alone.** -/
theorem LaneRecorded.repeats (record : LaneRecorded policy resource past lane) :
    Repeats policy resource past lane := by
  induction record with
  | nothing => exact ⟨rfl, .initial⟩
  | @further past lane next step event record here ih =>
    cases step with
    | some taken => exact ih.concat rfl here
    | none =>
      cases here with
      | elsewhere =>
        refine ih.skip (if_neg ?_)
        intro evicts
        cases evicts.2.1.symm.trans evicts.2.2
      | evicted tracked idle =>
        refine ih.concat (if_pos ⟨rfl, ?_, rfl⟩) (.invalidateIdle tracked idle)
        rw [tracked]
        rfl

/-- A slot whose lane no task is in is idle. -/
theorem Sound.isIdle_of_idle_lane {state : State} {slot : SlotId} (sound : Sound state)
    (tracked : state.tracked.get? resource = some slot) (idle : (state.lane resource).Idle) :
    state.isIdle slot = true := by
  cases busy : state.isIdle slot with
  | true => rfl
  | false =>
    obtain ⟨id, phase, found⟩ := sound.exists_phase tracked busy
    cases (idle id).symm.trans found

end Runs

/-- **Resources do not interfere.** Take any run of a refresher, whatever its capacity, and a resource.

* The steps of the run that are about the resource, with an invalidation wherever its slot was
  evicted, are taken by a refresher without a capacity that takes no other steps. The same is seen of
  each of them: the same loads, and the same answers. And at the end the resource has the same lane.
* The refresher without a capacity evicts nothing: by none of its steps is a resource no longer tracked
  but by an invalidation of that resource.
* A step about another resource leaves the lane of the resource, which is its entry, its mark, its
  lock and its tasks, as it is; or it takes the slot away while it is idle, and leaves nothing. -/
theorem resources_isolated {policy : Policy} {past : Past} {state : State} (resource : String)
    (record : Chronicle policy past state) :
    (trace (aloneHistory policy resource (course resource past)).1 =
        projected resource (course resource past) ∧
      (aloneHistory policy resource (course resource past)).2.lane resource =
        state.lane resource) ∧
    (∀ (current next : State) (step : Step) (event : Event) (other : String) (slot : SlotId),
      current.stepUnbounded policy step = some (next, event) →
        current.tracked.get? other = some slot → step ≠ .invalidate other →
          next.tracked.get? other = some slot) ∧
    (∀ (step : Step) (event : Event) (next : State),
      state.step policy step = some (next, event) → state.subject? step ≠ some resource →
        next.lane resource = state.lane resource ∨
        ∃ slot, state.tracked.get? resource = some slot ∧ state.isIdle slot = true ∧
          next.lane resource = Lane.empty) := by
  refine ⟨?_, ?_, ?_⟩
  · have repeats := (laneRecorded_course record resource).repeats
    exact ⟨repeats.seen, repeats.alone.same⟩
  · intro current next step event other slot taken tracked valid
    exact tracked_of_stepUnbounded taken tracked valid
  · intro step event next taken away
    have sound := Sound.of_chronicle record
    have here := sound.lane_change_of_ne (change_of_step taken) away
    generalize behind : next.lane resource = after at here
    cases here with
    | elsewhere => exact .inl rfl
    | evicted tracked idle =>
      obtain ⟨slot, found, -⟩ := Option.map_eq_some_iff.1 tracked
      refine .inr ⟨slot, found, sound.isIdle_of_idle_lane found idle, ?_⟩
      exact Lane.ext rfl (funext idle)

theorem resources_isolated_crowded :
    Chronicle Policy.narrow crowdedHistory.1 crowdedHistory.2 ∧
      (projected "a" (course "a" crowdedHistory.1)).map Prod.fst =
        [.beginGet 1 "a", .acquire 1, .sweep 1, .decide 1 0,
          .settle 1 (.answered (.ok [sampleToken 900 (by decide), sampleKeyToken 1100 (by decide)])) 1,
          .leave 1, .invalidate "a", .beginGet 3 "a", .acquire 3, .sweep 3, .decide 3 3] ∧
      trace (aloneHistory Policy.narrow "a" (course "a" crowdedHistory.1)).1 =
        projected "a" (course "a" crowdedHistory.1) ∧
      ∃ next event, crowdedHistory.2.step Policy.narrow (.leave 2) = some (next, event) ∧
        (next.lane "a" = crowdedHistory.2.lane "a" ∨
          ∃ slot, crowdedHistory.2.tracked.get? "a" = some slot ∧
            crowdedHistory.2.isIdle slot = true ∧ next.lane "a" = Lane.empty) := by
  have record : Chronicle Policy.narrow crowdedHistory.1 crowdedHistory.2 := recorded_replay crowded
  obtain ⟨alone, -, others⟩ := resources_isolated "a" record
  have left : (crowdedHistory.2.step Policy.narrow (.leave 2)).isSome = true := by decide +kernel
  obtain ⟨⟨next, event⟩, taken⟩ := Option.isSome_iff_exists.1 left
  exact ⟨record, by decide +kernel, alone.1, next, event, taken,
    others _ event next taken (by decide +kernel)⟩

end StorageBroker.Refresher
