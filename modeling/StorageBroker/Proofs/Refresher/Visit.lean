import StorageBroker.Proofs.Refresher.Arrival

/-!
# The visits of tasks

What holds of a refresher often turns on instants: when a task began, when it was given the lock, when
it decided between the entry and a load. These are read off the course of a lane (`begun`, `taken`,
`decided`). A task that holds the slot has begun (`LaneRecorded.exists_begun`), one that has the lock
was given it (`LaneRecorded.exists_taken`), and one whose load is in flight found the entry not fresh
when it began the load, and the entry is still the same (`LaneRecorded.exists_decided`).
-/

set_option autoImplicit false

namespace StorageBroker.Refresher

/-! ## The steps of a task -/

/-- Whether a task begins with a step. -/
def Step.begins? : Step → Option Unit
  | .beginGet _ _ | .beginLook _ _ => some ()
  | _ => none

/-- Whether a task is given the lock with a step. -/
def Step.acquires? : Step → Option Unit
  | .acquire _ => some ()
  | _ => none

/-- The reading of the clock by which a task decides between the entry and a load. -/
def Step.reading? : Step → Option Int64
  | .decide _ now => some now
  | _ => none

section Tasks

variable {β : Type}

/-- The instant of the last step of a task from which something can be read, with what is read. -/
def lastStep? (id : TaskId) (read : Step → Option β) (past : Course) : Option (Nat × β) :=
  latest? (fun moment => moment.step.bind fun step =>
    if step.task? = some id then read step else none) past

/-- When a task began. -/
def begun (id : TaskId) (past : Course) : Option Nat :=
  (lastStep? id Step.begins? past).map Prod.fst

/-- When a task was given the lock. -/
def taken (id : TaskId) (past : Course) : Option Nat :=
  (lastStep? id Step.acquires? past).map Prod.fst

/-- When a task decided between the entry and a load, with its reading of the clock. -/
def decided (id : TaskId) (past : Course) : Option (Nat × Int64) :=
  lastStep? id Step.reading? past

variable {id : TaskId} {read : Step → Option β} {past : Course} {before after : Lane}
  {step : Step} {event : Event}

/-- A step of another task, or of none, tells nothing of a task. -/
theorem lastStep?_cons_of_ne (another : step.task? ≠ some id) :
    lastStep? id read (⟨before, some step, event, after⟩ :: past) = lastStep? id read past :=
  latest?.cons_of_none (if_neg another)

/-- A step from which nothing is read is passed over. -/
theorem lastStep?_cons_of_none (missing : read step = none) :
    lastStep? id read (⟨before, some step, event, after⟩ :: past) = lastStep? id read past := by
  refine latest?.cons_of_none ?_
  rw [Option.bind_some, missing, ite_self]

theorem lastStep?_cons_of_some {found : β} (own : step.task? = some id)
    (here : read step = some found) :
    lastStep? id read (⟨before, some step, event, after⟩ :: past) = some (past.length, found) :=
  latest?.cons_of_some ((if_pos own).trans here)

/-- A task that has begun began when it did, whatever steps are taken then. -/
theorem begun_cons_of_none (passed : step.begins? = none) :
    begun id (⟨before, some step, event, after⟩ :: past) = begun id past := by
  rw [begun, lastStep?_cons_of_none passed, begun]

theorem taken_cons_acquire :
    taken id (⟨before, some (.acquire id), event, after⟩ :: past) = some past.length := by
  simp [taken, lastStep?, latest?, Step.task?, Step.acquires?]

theorem decided_cons_decide (now : Int64) :
    decided id (⟨before, some (.decide id now), event, after⟩ :: past) =
      some (past.length, now) := by
  simp [decided, lastStep?, latest?, Step.task?, Step.reading?]

theorem begun_lt_length {instant : Nat} (begins : begun id past = some instant) :
    instant < past.length := by
  obtain ⟨last, found, rfl⟩ := Option.map_eq_some_iff.1 begins
  exact latest?.lt_length found

theorem taken_lt_length {instant : Nat} (takes : taken id past = some instant) :
    instant < past.length := by
  obtain ⟨last, found, rfl⟩ := Option.map_eq_some_iff.1 takes
  exact latest?.lt_length found

end Tasks

section Visits

variable {policy : Policy} {resource : String} {id : TaskId} {step beginning : Step}
  {event : Event} {before phase : Phase} {slot behind : Slot} {past : Course} {lane : Lane}

namespace Move

variable (move : Move policy id resource step event before slot phase behind)
include move

theorem begins? : step.begins? = none := by
  cases move <;> rfl

/-- A task began as it began, wherever it goes. -/
theorem beganBy (began : before.BeganBy id resource beginning) :
    phase.BeganBy id resource beginning := by
  cases move with
  | acquire _ => exact began
  | acquireToLook _ => exact began
  | sweep => exact began
  | hit _ => exact .inl began
  | load _ => exact began
  | settle => exact .inl began
  | look => exact .inr began
  | abandon waits =>
    cases waits with
    | waiting => exact .inl began
    | loading => exact .inl began
    | waitingToLook => exact .inr began

/-- A task has the lock because it is given it now or had it before. -/
theorem acquires_or_hasLock (locks : phase.hasLock = true) :
    step = .acquire id ∨ step.acquires? = none ∧ before.hasLock = true := by
  cases move with
  | acquire _ => exact .inl rfl
  | acquireToLook _ => exact .inl rfl
  | sweep => exact .inr ⟨rfl, rfl⟩
  | load _ => exact .inr ⟨rfl, rfl⟩
  | hit _ => cases locks
  | settle => cases locks
  | look => cases locks
  | abandon _ => cases locks

end Move

theorem Phase.BeganBy.begins? (began : phase.BeganBy id resource beginning) :
    beginning.begins? = some () := by
  cases phase with
  | leaving => rcases began with rfl | rfl <;> rfl
  | _ => cases began; rfl

/-- What a task still knows of its last steps when others take theirs. -/
theorem lastStep?_cons_of_another {β : Type} {read : Step → Option β} {after : Lane}
    {step : Option Step} (another : ∀ taken, step = some taken → taken.task? ≠ some id) :
    lastStep? id read (⟨lane, step, event, after⟩ :: past) = lastStep? id read past := by
  cases step with
  | none => rfl
  | some taken => exact latest?.cons_of_none (if_neg (another taken rfl))

namespace LaneRecorded

/-- A task has begun. -/
theorem exists_begun (record : LaneRecorded policy resource past lane)
    (found : lane.phases id = some phase) :
    ∃ instant, begun id past = some instant ∧
      Occurs (fun moment => ∃ beginning, moment.step = some beginning ∧
        phase.BeganBy id resource beginning) instant past := by
  induction record generalizing phase with
  | nothing => cases found
  | @further past lane next step event record here ih =>
    cases record.sound.arrival here found with
    | stays held another _ =>
      obtain ⟨instant, same, occurs⟩ := ih held
      rw [begun, lastStep?_cons_of_another another]
      exact ⟨instant, same, occurs.later⟩
    | begins own began _ =>
      refine ⟨past.length, ?_, .here _ past ⟨_, rfl, began⟩⟩
      rw [begun, lastStep?_cons_of_some own began.begins?, Option.map_some]
    | moves held _ _ move =>
      obtain ⟨instant, same, occurs⟩ := ih held
      rw [begun, lastStep?_cons_of_none move.begins?]
      refine ⟨instant, same, .later (occurs.mono ?_)⟩
      intro moment holds
      obtain ⟨beginning, taken, began⟩ := holds
      exact ⟨beginning, taken, move.beganBy began⟩

/-- A task with the lock was given it. -/
theorem exists_taken (record : LaneRecorded policy resource past lane)
    (found : lane.phases id = some phase) (locks : phase.hasLock = true) :
    ∃ instant, taken id past = some instant ∧
      Occurs (fun moment => moment.step = some (.acquire id)) instant past := by
  induction record generalizing phase with
  | nothing => cases found
  | @further past lane next step event record here ih =>
    cases record.sound.arrival here found with
    | stays held another _ =>
      obtain ⟨instant, same, occurs⟩ := ih held locks
      rw [taken, lastStep?_cons_of_another another]
      exact ⟨instant, same, occurs.later⟩
    | begins _ _ waits =>
      rw [waits] at locks
      cases locks
    | moves held _ _ move =>
      rcases move.acquires_or_hasLock locks with acquires | ⟨passed, locked⟩
      · rw [taken, lastStep?_cons_of_some move.task? (by rw [acquires]; rfl)]
        exact ⟨past.length, rfl, .here _ past (congrArg some acquires)⟩
      · obtain ⟨instant, same, occurs⟩ := ih held locked
        rw [taken, lastStep?_cons_of_none passed]
        exact ⟨instant, same, occurs.later⟩

/-- A task whose load is in flight began it when the entry was not fresh; the entry is the same
still. -/
theorem exists_decided (record : LaneRecorded policy resource past lane)
    (found : lane.phases id = some .loading) (tracked : lane.slot = some slot) :
    ∃ instant now, decided id past = some (instant, now) ∧ slot.entry.fresh? now = none ∧
      Occurs (fun moment => moment.step = some (.decide id now) ∧
        moment.event = .loading resource) instant past := by
  induction record generalizing slot with
  | nothing => cases found
  | @further past lane next step event record here ih =>
    cases record.sound.arrival here found with
    | stays held another slots =>
      obtain ⟨before, tracks, same⟩ := slots rfl
      obtain ⟨instant, now, last, stale, occurs⟩ := ih held tracks
      have entry : slot.entry = before.entry := by
        rcases same with ⟨same, -⟩ | ⟨same, -⟩
        · rw [tracked] at same
          rw [Option.some.inj same]
        · rw [tracked] at same
          rw [Option.some.inj same, Slot.entry_marked]
      rw [decided, lastStep?_cons_of_another another, entry]
      exact ⟨instant, now, last, stale, occurs.later⟩
    | begins _ _ waits => cases waits
    | moves held tracks behind move =>
      cases move with
      | @load _ now stale =>
        rw [tracked] at behind
        cases behind
        exact ⟨past.length, now, decided_cons_decide now, stale, .here _ past ⟨rfl, rfl⟩⟩

end LaneRecorded

end Visits

end StorageBroker.Refresher
