import StorageBroker.Proofs.Refresher.Lock

/-!
# One load at a time

The loads that are in flight for a resource are read off what is seen of a run (`inFlight`). They are
the loads of the tasks that have come to load (`mem_inFlight_course_iff`). Such a task has the lock of
its slot, and all tasks of a resource hold one slot, the tracked one; so there is one load at a time
(`single_flight`).
-/

set_option autoImplicit false

namespace StorageBroker.Refresher

/-- The tasks whose loads are in flight. A load begins when a task decides for it, and ends when it
is settled or when its caller is gone. -/
def inFlight : Course → List TaskId
  | [] => []
  | moment :: past =>
    match moment.step, moment.event with
    | some (.decide id _), .loading _ => id :: inFlight past
    | some (.settle id _ _), _ | some (.abandon id), _ =>
      (inFlight past).filter fun other => other ≠ id
    | _, _ => inFlight past

section InFlight

variable {policy : Policy} {resource : String} {lane next : Lane} {step : Option Step}
  {event : Event} {past : Course} {id other : TaskId} {slot : Option Slot} {phase : Option Phase}

/-- Who loads when a task changes its phase that does not load. -/
theorem Lane.loading_put_iff (before : lane.phases id ≠ some .loading)
    (behind : phase ≠ some .loading) :
    (lane.put slot id phase).phases other = some .loading ↔ lane.phases other = some .loading := by
  rw [Lane.phases_put]
  split
  · next same =>
    subst same
    constructor
    · intro loads
      exact absurd loads behind
    · intro loads
      exact absurd loads before
  · exact Iff.rfl

/-- The tasks in flight are those that load, and each is counted once. -/
structure Flight (past : Course) (lane : Lane) : Prop where
  mem_iff : ∀ id, id ∈ inFlight past ↔ lane.phases id = some .loading
  nodup : (inFlight past).Nodup

namespace Flight

variable (flight : Flight past lane)
include flight

/-- A step that begins no load and ends none. -/
theorem unaffected (same : inFlight (⟨lane, step, event, next⟩ :: past) = inFlight past)
    (loading : ∀ id, next.phases id = some .loading ↔ lane.phases id = some .loading) :
    Flight (⟨lane, step, event, next⟩ :: past) next := by
  constructor
  · intro id
    rw [same, flight.mem_iff, loading]
  · rw [same]
    exact flight.nodup

/-- The load of a task ends, if it has one. -/
theorem ends (leaves : inFlight (⟨lane, step, event, lane.put slot id (some .leaving)⟩ :: past) =
      (inFlight past).filter fun other => other ≠ id) :
    Flight (⟨lane, step, event, lane.put slot id (some .leaving)⟩ :: past)
      (lane.put slot id (some .leaving)) := by
  constructor
  · intro other
    rw [leaves, List.mem_filter, flight.mem_iff, Lane.phases_put]
    by_cases same : id = other
    · simp [same]
    · simp [same, Ne.symm same]
  · rw [leaves]
    exact flight.nodup.filter _

theorem move {id : TaskId} {step : Step} {before phase : Phase} {slot behind : Slot}
    (found : lane.phases id = some before)
    (move : Move policy id resource step event before slot phase behind) :
    Flight (⟨lane, some step, event, lane.put (some behind) id (some phase)⟩ :: past)
      (lane.put (some behind) id (some phase)) := by
  have stays : before ≠ .loading → phase ≠ .loading →
      inFlight (⟨lane, some step, event, lane.put (some behind) id (some phase)⟩ :: past) =
        inFlight past →
      Flight (⟨lane, some step, event, lane.put (some behind) id (some phase)⟩ :: past)
        (lane.put (some behind) id (some phase)) := by
    intro notBefore notBehind same
    apply flight.unaffected same
    intro other
    apply Lane.loading_put_iff
    · intro loads
      exact notBefore (Option.some.inj (found.symm.trans loads))
    · intro loads
      exact notBehind (Option.some.inj loads)
  cases move with
  | acquire _ => exact stays nofun nofun rfl
  | acquireToLook _ => exact stays nofun nofun rfl
  | sweep => exact stays nofun nofun rfl
  | hit _ => exact stays nofun nofun rfl
  | load _ =>
    constructor
    · intro other
      rw [inFlight, List.mem_cons, flight.mem_iff, Lane.phases_put]
      by_cases same : id = other
      · simp [same]
      · simp [same, Ne.symm same]
    · refine List.nodup_cons.2 ⟨?_, flight.nodup⟩
      intro inside
      rw [flight.mem_iff, found] at inside
      cases inside
  | settle => exact flight.ends rfl
  | look => exact stays nofun nofun rfl
  | abandon _ => exact flight.ends rfl

theorem change (here : LaneChange policy resource lane step event next) :
    Flight (⟨lane, step, event, next⟩ :: past) next := by
  have begins : ∀ {id : TaskId}, lane.phases id = none → lane.phases id ≠ some .loading := by
    intro id new loads
    cases new.symm.trans loads
  cases here with
  | elsewhere => exact flight.unaffected rfl fun _ => Iff.rfl
  | evicted _ _ => exact flight.unaffected rfl fun _ => Iff.rfl
  | join new _ => exact flight.unaffected rfl fun _ => Lane.loading_put_iff (begins new) nofun
  | opening new _ => exact flight.unaffected rfl fun _ => Lane.loading_put_iff (begins new) nofun
  | joinToLook new _ =>
    exact flight.unaffected rfl fun _ => Lane.loading_put_iff (begins new) nofun
  | lookAtNothing _ _ => exact flight.unaffected rfl fun _ => Iff.rfl
  | move found _ move => exact flight.move found move
  | leave found =>
    exact flight.unaffected rfl fun _ => Lane.loading_put_iff (by rw [found]; nofun) nofun
  | invalidateNothing _ => exact flight.unaffected rfl fun _ => Iff.rfl
  | invalidateIdle _ _ => exact flight.unaffected rfl fun _ => Iff.rfl
  | invalidateHeld _ _ => exact flight.unaffected rfl fun _ => Iff.rfl

end Flight

theorem LaneRecorded.flight (record : LaneRecorded policy resource past lane) :
    Flight past lane := by
  induction record with
  | nothing => exact ⟨fun id => by simp [inFlight, Lane.empty], List.nodup_nil⟩
  | further _ here ih => exact ih.change here

/-- A list without repetition whose members are all the same has at most one. -/
theorem length_le_one_of_nodup {α : Type} {list : List α} (distinct : list.Nodup)
    (same : ∀ first ∈ list, ∀ second ∈ list, first = second) : list.length ≤ 1 := by
  match list, distinct with
  | [], _ => exact Nat.zero_le 1
  | [_], _ => exact Nat.le_refl 1
  | first :: second :: rest, distinct =>
    have equal := same first (by simp) second (by simp)
    exact absurd (by simp [equal]) (List.nodup_cons.1 distinct).1

theorem LaneRecorded.length_inFlight_le_one (record : LaneRecorded policy resource past lane) :
    (inFlight past).length ≤ 1 := by
  apply length_le_one_of_nodup record.flight.nodup
  intro first one second two
  rw [record.flight.mem_iff] at one two
  exact record.sound.lock_exclusive one two rfl rfl

end InFlight

/-- The loads that are in flight for a resource are those of its tasks that have come to load. -/
theorem mem_inFlight_course_iff {policy : Policy} {past : Past} {state : State}
    (record : Chronicle policy past state) (resource : String) (id : TaskId) :
    id ∈ inFlight (course resource past) ↔
      ∃ slot, state.tasks.get? id = some ⟨resource, slot, .loading⟩ := by
  rw [(laneRecorded_course record resource).flight.mem_iff]
  constructor
  · intro loads
    obtain ⟨task, found, rfl, phase⟩ := State.exists_task_of_phases_lane loads
    refine ⟨task.slot, ?_⟩
    rw [found, ← phase]
  · rintro ⟨slot, found⟩
    exact State.phases_lane found

/-- **One load of a resource is in flight at a time, in every state of every run.** The invariant
behind it is that a slot which a task holds is the one tracked for the resource of the task: it
holds of the initial state, every step preserves it, and no step takes the tracked slot of a task
away or puts another one in its place. -/
theorem single_flight (policy : Policy) :
    (∀ (past : Past) (state : State), Chronicle policy past state →
      state.HeldIsTracked ∧ ∀ resource, (inFlight (course resource past)).length ≤ 1 ∧
        ∀ id, id ∈ inFlight (course resource past) ↔
          ∃ slot, state.tasks.get? id = some ⟨resource, slot, .loading⟩) ∧
    State.initial.HeldIsTracked ∧
    ∀ (state next : State) (step : Step) (event : Event), state.HeldIsTracked →
      state.step policy step = some (next, event) →
        next.HeldIsTracked ∧ ∀ id task, state.tasks.get? id = some task →
          next.tracked.get? task.resource = some task.slot := by
  refine ⟨?_, Sound.initial.held, ?_⟩
  · intro past state record
    refine ⟨(Sound.of_chronicle record).held, ?_⟩
    intro resource
    constructor
    · exact (laneRecorded_course record resource).length_inFlight_le_one
    · exact mem_inFlight_course_iff record resource
  · intro state next step event tracks taken
    have change := change_of_step taken
    exact ⟨tracks.change change, fun id task holds => tracks.stays change holds⟩

/-- A load is in flight and another task waits; then the resource is invalidated, and one more task
begins. -/
def contested : List Step :=
  [.beginGet 1 "r", .acquire 1, .sweep 1, .decide 1 0, .beginGet 2 "r", .invalidate "r",
    .beginGet 3 "r"]

theorem single_flight_contested :
    Chronicle Policy.standard (historyOf contested).1 (historyOf contested).2 ∧
      inFlight (course "r" (historyOf contested).1) = [1] ∧
      (inFlight (course "r" (historyOf contested).1)).length ≤ 1 ∧
      (historyOf contested).2.step Policy.standard (.invalidate "r") =
        some ((historyOf contested).2.invalidateResource "r", .silent) ∧
      ((historyOf contested).2.invalidateResource "r").HeldIsTracked := by
  have record := chronicle_historyOf contested
  have flight := single_flight Policy.standard
  have held := (flight.1 _ _ record).1
  exact ⟨record, by decide +kernel, ((flight.1 _ _ record).2 "r").1, rfl,
    (flight.2.2 _ _ (.invalidate "r") .silent held rfl).1⟩

end StorageBroker.Refresher
