import Mathlib.Data.List.Perm.Basic
import Mathlib.Data.List.Nodup
import StorageBroker.Proofs.Refresher.SingleFlight

/-!
# The balance of loads and answers

Whoever is answered was served from the entry or has begun a load, and whoever has begun a load was
answered, or is gone, or the load is in flight. So the tasks that were served or have begun loads are
those that were answered, or dropped their loads, or load (`LaneRecorded.balance`).

A task that is on its way to a credential stays so until it is answered or abandoned
(`LaneRecorded.seeks_of_append`).
-/

set_option autoImplicit false

namespace StorageBroker.Refresher

/-! ## Who begins loads and who is answered -/

/-- The task that is served from the entry at a moment. -/
def served? (moment : Moment Lane (Option Step) Event) : Option TaskId :=
  match moment.event with
  | .hit _ => moment.step.bind Step.task?
  | .silent | .loading _ | .settled _ | .looked _ => none

/-- The task that begins a load at a moment. -/
def loader? (moment : Moment Lane (Option Step) Event) : Option TaskId :=
  match moment.event with
  | .loading _ => moment.step.bind Step.task?
  | .silent | .hit _ | .settled _ | .looked _ => none

/-- The task that is answered at a moment, from the entry or after its load. -/
def answered? (moment : Moment Lane (Option Step) Event) : Option TaskId :=
  match moment.event with
  | .hit _ | .settled _ => moment.step.bind Step.task?
  | .silent | .loading _ | .looked _ => none

/-- The task whose caller is gone at a moment while it loads. -/
def dropped? (moment : Moment Lane (Option Step) Event) : Option TaskId :=
  match moment.step with
  | some (.abandon id) => if moment.before.phases id = some .loading then some id else none
  | _ => none

/-- The tasks that were served from the entry, each as often as it was. -/
def served (past : Course) : List TaskId := past.filterMap served?

/-- The tasks that have begun loads, each as often as it has. -/
def loaders (past : Course) : List TaskId := past.filterMap loader?

/-- The tasks that were answered, each as often as it was. -/
def answered (past : Course) : List TaskId := past.filterMap answered?

/-- The tasks that have dropped their loads, each as often as it has. -/
def dropped (past : Course) : List TaskId := past.filterMap dropped?

section Balance

variable {policy : Policy} {resource : String} {past : Course} {lane : Lane} {id other : TaskId}

/-- A load in flight is counted once. -/
theorem Flight.perm_cons (flight : Flight past lane) (loads : lane.phases id = some .loading) :
    (inFlight past).Perm (id :: (inFlight past).filter fun other => other ≠ id) := by
  have others : (inFlight past).erase id = (inFlight past).filter fun other => other ≠ id := by
    rw [flight.nodup.erase_eq_filter]
    exact List.filter_congr fun other _ => by rw [bne, beq_eq_decide, decide_not]
  rw [← others]
  exact List.perm_cons_erase ((flight.mem_iff id).2 loads)

/-- Where a task has no load in flight, none ends. -/
theorem Flight.filter_inFlight (flight : Flight past lane)
    (quiet : lane.phases id ≠ some .loading) :
    ((inFlight past).filter fun task => task ≠ id) = inFlight past := by
  rw [List.filter_eq_self]
  intro task inside
  rw [decide_eq_true_iff]
  rintro rfl
  exact quiet ((flight.mem_iff task).1 inside)

theorem dropped_cons_abandon {next : Lane} {event : Event} :
    dropped (⟨lane, some (.abandon id), event, next⟩ :: past) =
      if lane.phases id = some .loading then id :: dropped past else dropped past := by
  by_cases loads : lane.phases id = some .loading <;> simp [dropped, dropped?, loads]

/-- **The balance of loads and answers**, for every task. -/
theorem LaneRecorded.balance (record : LaneRecorded policy resource past lane) (id : TaskId) :
    (served past).count id + (loaders past).count id =
      (answered past).count id + (dropped past).count id + (inFlight past).count id := by
  induction record with
  | nothing => rfl
  | @further past lane next step event record here ih =>
    cases here with
    | @move mover _ _ before _ slot behind found tracked move =>
      cases move with
      | hit _ =>
        change (mover :: served past).count id + (loaders past).count id =
          (mover :: answered past).count id + (dropped past).count id + (inFlight past).count id
        rw [List.count_cons, List.count_cons]
        omega
      | load _ =>
        change (served past).count id + (mover :: loaders past).count id =
          (answered past).count id + (dropped past).count id + (mover :: inFlight past).count id
        rw [List.count_cons, List.count_cons]
        omega
      | settle =>
        have ends := (record.flight.perm_cons found).count_eq id
        change (served past).count id + (loaders past).count id =
          (mover :: answered past).count id + (dropped past).count id +
            ((inFlight past).filter fun other => other ≠ mover).count id
        rw [List.count_cons] at ends ⊢
        omega
      | abandon waits =>
        change (served past).count id + (loaders past).count id =
          (answered past).count id + (dropped _).count id +
            ((inFlight past).filter fun other => other ≠ mover).count id
        rw [dropped_cons_abandon]
        split
        · next loads =>
          have ends := (record.flight.perm_cons loads).count_eq id
          rw [List.count_cons] at ends ⊢
          omega
        · next quiet =>
          rw [record.flight.filter_inFlight quiet]
          exact ih
      | _ => exact ih
    | _ => exact ih

end Balance

/-! ## Who is on the way to a credential -/

/-- Whether a task is to get a credential and is not answered yet. -/
def Phase.seeks : Phase → Bool
  | .waiting | .locked | .swept | .loading => true
  | .waitingToLook | .looking | .leaving => false

/-- A task is on its way to a credential. -/
def Lane.Seeks (lane : Lane) (id : TaskId) : Prop :=
  ∃ phase, lane.phases id = some phase ∧ phase.seeks = true

/-- The caller of a task that waits is gone at a moment. -/
def Abandons (id : TaskId) (moment : Moment Lane (Option Step) Event) : Prop :=
  moment.step = some (.abandon id)

section Seeks

variable {policy : Policy} {resource : String} {past later : Course} {lane next start : Lane}
  {step : Option Step} {taken : Step} {event : Event} {id other : TaskId} {before phase : Phase}
  {slot behind : Slot}

/-- The task stays as it was when another one changes its phase. -/
theorem Lane.Seeks.put (seeks : lane.Seeks id) (different : other ≠ id) (slot : Option Slot)
    (phase : Option Phase) : (lane.put slot other phase).Seeks id := by
  obtain ⟨mine, found, onTheWay⟩ := seeks
  exact ⟨mine, by rw [Lane.phases_put, if_neg different, found], onTheWay⟩

/-- A task on its way goes on, or it is answered, or it is abandoned. -/
theorem Move.seeks (move : Move policy id resource taken event before slot phase behind)
    (seeks : before.seeks = true) : phase.seeks = true ∨
      answered? ⟨lane, some taken, event, next⟩ = some id ∨ taken = .abandon id := by
  cases move with
  | acquire _ => exact .inl rfl
  | acquireToLook _ => cases seeks
  | sweep => exact .inl rfl
  | hit _ => exact .inr (.inl rfl)
  | load _ => exact .inl rfl
  | settle => exact .inr (.inl rfl)
  | look => cases seeks
  | abandon _ => exact .inr (.inr rfl)

theorem LaneChange.seeks (here : LaneChange policy resource lane step event next)
    (seeks : lane.Seeks id) : next.Seeks id ∨
      answered? ⟨lane, step, event, next⟩ = some id ∨ Abandons id ⟨lane, step, event, next⟩ := by
  have apart : ∀ {other : TaskId}, lane.phases other = none → other ≠ id := by
    rintro other new rfl
    obtain ⟨phase, found, -⟩ := seeks
    cases new.symm.trans found
  cases here with
  | elsewhere => exact .inl seeks
  | evicted _ _ => exact .inl seeks
  | join new _ => exact .inl (seeks.put (apart new) _ _)
  | opening new _ => exact .inl (seeks.put (apart new) _ _)
  | joinToLook new _ => exact .inl (seeks.put (apart new) _ _)
  | lookAtNothing _ _ => exact .inl seeks
  | @move mover _ _ before phase slot behind found tracked move =>
    by_cases same : mover = id
    · subst same
      obtain ⟨mine, holds, onTheWay⟩ := seeks
      cases holds.symm.trans found
      rcases move.seeks onTheWay with further | answered | rfl
      · exact .inl ⟨phase, by rw [Lane.phases_put, if_pos rfl], further⟩
      · exact .inr (.inl answered)
      · exact .inr (.inr rfl)
    · exact .inl (seeks.put same _ _)
  | leave found =>
    refine .inl (seeks.put ?_ _ _)
    rintro rfl
    obtain ⟨mine, holds, onTheWay⟩ := seeks
    cases holds.symm.trans found
    cases onTheWay
  | invalidateNothing _ => exact .inl seeks
  | invalidateIdle _ _ => exact .inl seeks
  | invalidateHeld _ _ => exact .inl seeks

theorem course_append (resource : String) (later past : Past) :
    course resource (later ++ past) = course resource later ++ course resource past :=
  List.map_append

theorem LaneRecorded.eq_of_same (record : LaneRecorded policy resource past lane)
    (other : LaneRecorded policy resource past next) : lane = next := by
  cases record <;> cases other <;> rfl

/-- **No task is lost on its way to a credential**: it is answered or abandoned, or still on its
way. -/
theorem LaneRecorded.seeks_of_append (record : LaneRecorded policy resource (later ++ past) lane)
    (before : LaneRecorded policy resource past start) (seeks : start.Seeks id) :
    lane.Seeks id ∨ id ∈ answered later ∨ ∃ moment ∈ later, Abandons id moment := by
  induction later generalizing lane with
  | nil =>
    rw [record.eq_of_same before]
    exact .inl seeks
  | cons moment later ih =>
    cases record with
    | further record here =>
      rw [answered, List.filterMap_cons]
      rcases ih record with still | told | ⟨earlier, member, abandons⟩
      · rcases here.seeks still with goesOn | told | abandons
        · exact .inl goesOn
        · rw [told]
          exact .inr (.inl List.mem_cons_self)
        · exact .inr (.inr ⟨_, List.mem_cons_self, abandons⟩)
      · refine .inr (.inl ?_)
        split
        · exact told
        · exact List.mem_cons_of_mem _ told
      · exact .inr (.inr ⟨earlier, List.mem_cons_of_mem _ member, abandons⟩)

end Seeks

end StorageBroker.Refresher
