import StorageBroker.Proofs.Refresher.Origin

/-!
# How a task comes out of its load

A task that loads has swept its slot before: an entry that was marked was emptied then, and since
then nobody else has touched the entry (`LaneRecorded.exists_sweptFrom`). So what a settled load does
to the entry of a resource is said in terms of the slot as the task had found it
(`Chronicle.exists_loadingVisit`), and all that the step itself does is told by
`Change.exists_settlement`; a load that is abandoned does nothing to it (`Change.exists_abandoned`).
A task whose turn it is can always go on (`exists_decision`, `exists_settle`).
-/

set_option autoImplicit false

namespace StorageBroker.Refresher

/-! ## The sweep -/

/-- The slot as a task found it when it swept it, with the instant of the sweep. -/
def sweptFrom (id : TaskId) (past : Course) : Option (Nat × Slot) :=
  latest? (fun moment => if moment.step = some (.sweep id) then moment.before.slot else none) past

section Sweeps

variable {policy : Policy} {resource : String} {id : TaskId} {past : Course} {lane : Lane}
  {phase : Phase} {slot : Slot}

theorem sweptFrom_cons_of_ne {moment : Moment Lane (Option Step) Event}
    (another : moment.step ≠ some (.sweep id)) :
    sweptFrom id (moment :: past) = sweptFrom id past :=
  latest?.cons_of_none (if_neg another)

theorem sweptFrom_cons_sweep {next : Lane} {event : Event} (tracked : lane.slot = some slot) :
    sweptFrom id (⟨lane, some (.sweep id), event, next⟩ :: past) = some (past.length, slot) :=
  latest?.cons_of_some ((if_pos rfl).trans tracked)

/-- The entry that a task may use is the one it found when it swept the slot, or empty if it was
marked then. -/
theorem LaneRecorded.exists_sweptFrom (record : LaneRecorded policy resource past lane)
    (found : lane.phases id = some phase) (uses : phase = .swept ∨ phase = .loading)
    (tracked : lane.slot = some slot) :
    ∃ instant before, sweptFrom id past = some (instant, before) ∧
      slot.entry = before.swept.entry := by
  have locks : phase.hasLock = true := by
    rcases uses with rfl | rfl <;> rfl
  induction record generalizing phase slot with
  | nothing => cases found
  | @further past lane next step event record here ih =>
    cases record.sound.arrival here found with
    | stays held another slots =>
      have passed : step ≠ some (.sweep id) := by
        intro same
        exact another _ same rfl
      rw [sweptFrom_cons_of_ne passed]
      obtain ⟨before, tracks, ⟨same, -⟩ | ⟨same, -⟩⟩ := slots locks
      · rw [Option.some.inj (tracked.symm.trans same)]
        exact ih held uses tracks locks
      · rw [Option.some.inj (tracked.symm.trans same), Slot.entry_marked]
        exact ih held uses tracks locks
    | begins _ _ waits =>
      rw [waits] at locks
      cases locks
    | moves held tracks behind move =>
      rw [Option.some.inj (tracked.symm.trans behind)]
      cases move with
      | sweep => exact ⟨past.length, _, sweptFrom_cons_sweep tracks, rfl⟩
      | load _ =>
        rw [sweptFrom_cons_of_ne (by rintro ⟨⟩)]
        exact ih held (.inl rfl) tracks rfl
      | _ => rcases uses with same | same <;> cases same

end Sweeps

/-! ## A load in flight -/

/-- What is known of a task whose load is in flight: the slot it holds is the one of its resource; it
began the load by a reading of the clock at which the entry was not fresh; and the entry is the one
it had found when it swept the slot, or empty if it was marked then. -/
structure LoadingVisit (past : Past) (state : State) (id : TaskId) (task : Task) (reading : Int64)
    (found : Slot) : Prop where
  holds : state.tasks.get? id = some task
  loads : task.phase = .loading
  tracked : state.tracked.get? task.resource = some task.slot
  began : ∃ instant, decided id (course task.resource past) = some (instant, reading)
  swept : ∃ instant, sweptFrom id (course task.resource past) = some (instant, found)
  entry : (state.slots task.slot).entry = found.swept.entry
  stale : (state.slots task.slot).entry.fresh? reading = none

section Settlements

variable {policy : Policy} {past : Past} {state next : State} {id : TaskId} {task : Task}
  {event : Event}

theorem Chronicle.exists_loadingVisit (record : Chronicle policy past state)
    (holds : state.tasks.get? id = some task) (loads : task.phase = .loading) :
    ∃ reading found, LoadingVisit past state id task reading found := by
  have laneRecord := laneRecorded_course record task.resource
  have tracked := (Sound.of_chronicle record).held holds
  have phase : (state.lane task.resource).phases id = some .loading :=
    loads ▸ State.phases_lane holds
  have slot := State.slot_lane tracked
  obtain ⟨began, reading, begins, stale, -⟩ := laneRecord.exists_decided phase slot
  obtain ⟨instant, found, swept, entry⟩ := laneRecord.exists_sweptFrom phase (.inr rfl) slot
  exact ⟨reading, found, holds, loads, tracked, ⟨began, begins⟩, ⟨instant, swept⟩, entry, stale⟩

/-- Whoever may use the entry can decide between it and a load, and the entry settles which. -/
theorem exists_decision (holds : state.tasks.get? id = some task) (mayUse : task.phase = .swept)
    (now : Int64) : ∃ next, state.step policy (.decide id now) = some (next,
      match (state.slots task.slot).entry.fresh? now with
      | some credential => .hit credential
      | none => .loading task.resource) := by
  cases fresh : (state.slots task.slot).entry.fresh? now with
  | some credential =>
    have move : Move policy id task.resource (.decide id now) (.hit credential) .swept
        (state.slots task.slot) .leaving _ := .hit fresh
    rw [← mayUse] at move
    exact ⟨_, step_of_change (.move holds move)⟩
  | none =>
    have move : Move policy id task.resource (.decide id now) (.loading task.resource) .swept
        (state.slots task.slot) .loading _ := .load fresh
    rw [← mayUse] at move
    exact ⟨_, step_of_change (.move holds move)⟩

/-- A load in flight can be settled with whatever it came to. -/
theorem exists_settle (holds : state.tasks.get? id = some task) (loads : task.phase = .loading)
    (result : LoadResult) (now : Int64) : ∃ next, state.step policy (.settle id result now) =
      some (next,
        .settled (policy.settle task.resource (state.slots task.slot).entry result now).1) := by
  have move : Move policy id task.resource (.settle id result now) _ .loading
      (state.slots task.slot) .leaving _ := .settle
  rw [← loads] at move
  exact ⟨_, step_of_change (.move holds move)⟩

/-- All that an abandoned task does: the lock is given back. -/
theorem Change.exists_abandoned (change : Change policy state (.abandon id) event next) :
    ∃ task, state.tasks.get? id = some task ∧ event = .silent ∧ next.tracked = state.tracked ∧
      (next.slots task.slot).entry = (state.slots task.slot).entry := by
  cases change with
  | @move _ task _ _ _ _ found move =>
    generalize task.phase = before at move
    cases move with
    | abandon _ =>
      refine ⟨task, found, rfl, rfl, ?_⟩
      rw [State.slots_advance, if_pos rfl, Slot.entry_freedBy]

end Settlements

end StorageBroker.Refresher
