import StorageBroker.Proofs.Refresher.Economy
import StorageBroker.Proofs.Refresher.Settlement

/-!
# Entries that are overdue

An entry is overdue by a reading of the clock when what it holds is stale then and no load for it is
in flight. It stays so as long as no task decides (`LaneRecorded.overdue_of_append`), so the next task
that decides, by a reading that is not earlier, loads (`Overdue.loading_of_decide`). A load that stores
nothing leaves the entry overdue (`LaneRecorded.overdue_of_settle`).

Whatever is stale before the end of time is a token (`LaneRecorded.isToken_of_holding`).
-/

set_option autoImplicit false

namespace StorageBroker.Refresher

/-- No load is in flight, and what the entry holds is stale by a reading of the clock. -/
structure Overdue (reading : Int64) (lane : Lane) : Prop where
  quiet : ∀ id, lane.phases id ≠ some .loading
  stale : ∀ holding, lane.holding? = some holding → holding.staleFrom ≤ reading

section Lanes

variable {policy : Policy} {resource : String} {past later : Course} {lane next : Lane}
  {step : Option Step} {event : Event} {id : TaskId} {slot : Slot} {reading now : Int64}
  {result : LoadResult} {holding : Holding}

/-- Nothing comes into an entry by a sweep. -/
theorem Slot.holding_of_swept (holds : slot.swept.entry.holding = some holding) :
    slot.entry.holding = some holding := by
  cases marked : slot.invalidated with
  | true =>
    rw [entry_swept_of_invalidated marked] at holds
    cases holds
  | false =>
    rw [swept_of_not_invalidated marked] at holds
    exact holds

/-- While no load is in flight nothing comes into an entry. -/
theorem LaneChange.holding_of_quiet (here : LaneChange policy resource lane step event next)
    (quiet : ∀ id, lane.phases id ≠ some .loading) (holds : next.holding? = some holding) :
    lane.holding? = some holding := by
  obtain ⟨behind, tracks, entry⟩ := Option.bind_eq_some_iff.1 holds
  cases here.entryChange tracks with
  | keeps tracked same _ _ =>
    rw [Lane.holding?_of_slot tracked, ← same, entry]
  | opens _ same =>
    rw [same] at entry
    cases entry
  | marks tracked same =>
    rw [same, Slot.entry_marked] at entry
    rw [Lane.holding?_of_slot tracked, entry]
  | sweeps _ tracked same =>
    rw [same] at entry
    rw [Lane.holding?_of_slot tracked, Slot.holding_of_swept entry]
  | settles found _ _ => exact absurd found (quiet _)

/-- An entry stays overdue while no task decides. -/
theorem Overdue.further (overdue : Overdue reading lane) (sound : LaneSound lane)
    (here : LaneChange policy resource lane step event next)
    (waits : ∀ id now, step ≠ some (.decide id now)) : Overdue reading next where
  quiet := by
    intro id found
    cases sound.arrival here found with
    | stays holds _ _ => exact overdue.quiet id holds
    | begins _ _ unlocked => cases unlocked
    | moves _ _ _ move =>
      cases move
      exact waits _ _ rfl
  stale := by
    intro holding holds
    exact overdue.stale holding (here.holding_of_quiet overdue.quiet holds)

theorem LaneRecorded.overdue_of_append {moment : Moment Lane (Option Step) Event}
    (record : LaneRecorded policy resource (later ++ moment :: past) lane)
    (overdue : Overdue reading moment.after) (waits : ∀ other ∈ later, ¬ Decides other) :
    Overdue reading lane := by
  induction later generalizing lane with
  | nil =>
    cases record
    exact overdue
  | cons last later ih =>
    obtain ⟨waitsNow, waitsBefore⟩ := List.forall_mem_cons.1 waits
    cases record with
    | further record here =>
      refine (ih record waitsBefore).further record.sound here ?_
      rintro id now rfl
      exact waitsNow ⟨id, now, rfl⟩

/-- A task that decides about an overdue entry loads, unless the clock has gone back. -/
theorem Overdue.loading_of_decide (overdue : Overdue reading lane)
    (here : LaneChange policy resource lane (some (.decide id now)) event next)
    (late : reading ≤ now) : event = .loading resource := by
  cases here with
  | move _ tracked move =>
    cases move with
    | load _ => rfl
    | hit fresh =>
      obtain ⟨holding, holds, -⟩ := Option.map_eq_some_iff.1 (Entry.credential?_of_fresh? fresh)
      have stale := overdue.stale holding ((Lane.holding?_of_slot tracked).trans holds)
      rw [Entry.fresh?_of_holding holds, if_pos (Int64.le_trans stale late)] at fresh
      cases fresh

/-- A load that stores nothing leaves the entry overdue by the reading at which it began. -/
theorem LaneRecorded.overdue_of_settle {began : Nat}
    (record : LaneRecorded policy resource past lane)
    (here : LaneChange policy resource lane (some (.settle id result now)) event next)
    (nothing : policy.stored? result now = none)
    (decides : decided id past = some (began, reading)) : Overdue reading next := by
  obtain ⟨slot, behind, loads, tracked, tracks⟩ := here.loading_of_settle
  refine ⟨record.quiet_of_settle here, ?_⟩
  intro holding holds
  obtain ⟨instant, seen, decidedToo, stale, -⟩ := record.exists_decided loads tracked
  cases decides.symm.trans decidedToo
  cases here.entryChange tracks with
  | keeps _ _ _ plain => exact (plain _ rfl).elim
  | settles _ before same =>
    cases tracked.symm.trans before
    rw [Lane.holding?_of_slot tracks, same, Slot.entry_released, Policy.settle_entry, nothing,
      Option.none_or] at holds
    rw [Entry.fresh?_of_holding holds] at stale
    split at stale
    · assumption
    · cases stale

/-- Of what a load stores only a token can be stale before the end of time. -/
theorem Policy.isToken_of_stored? (stored : policy.stored? result now = some holding)
    (early : holding.staleFrom < Int64.maxValue) : holding.credential.kind.isToken = true := by
  have endless {credential : Credential} (same : (⟨credential, Int64.maxValue⟩ : Holding) = holding) :
      holding.credential.kind.isToken = true := by
    rw [← same] at early
    exact absurd early Int64.lt_irrefl
  unfold stored? at stored
  split at stored
  · cases stored
  · split at stored
    · obtain ⟨fallback, -, same⟩ := Option.map_eq_some_iff.1 stored
      exact endless same
    · split at stored
      · exact endless (Option.some.inj stored)
      · next expiring =>
        split at stored
        · cases stored
        · cases stored
          rw [← Credential.isExpiring_eq_isToken]
          simpa using expiring

/-- What is stale before the end of time is a token. -/
theorem LaneRecorded.isToken_of_holding (record : LaneRecorded policy resource past lane)
    (holds : lane.holding? = some holding) (early : holding.staleFrom < Int64.maxValue) :
    holding.credential.kind.isToken = true := by
  rw [← record.map_holding_kept] at holds
  obtain ⟨store, keeps, rfl⟩ := Option.map_eq_some_iff.1 holds
  obtain ⟨id, reading, result, now, -, -, -, stored⟩ :=
    record.loaded_of_mem_stores (mem_stores_of_kept keeps)
  exact Policy.isToken_of_stored? stored early

end Lanes

section Runs

variable {policy : Policy} {past later : Past} {state next reached last : State} {id other : TaskId}
  {task : Task} {event seen : Event} {result : LoadResult} {now reading again : Int64} {began : Nat}

/-- What the entry of a load in flight holds is a token, if the load began before the end of time. -/
theorem LoadingVisit.isToken_of_credential? {found : Slot} {credential : Credential}
    (visit : LoadingVisit past state id task reading found) (record : Chronicle policy past state)
    (early : reading < Int64.maxValue)
    (holds : (state.slots task.slot).entry.credential? = some credential) :
    credential.kind.isToken = true := by
  obtain ⟨holding, held, rfl⟩ := Option.map_eq_some_iff.1 holds
  have stale := visit.stale
  rw [Entry.fresh?_of_holding held] at stale
  split at stale
  · next passed =>
    refine (laneRecorded_course record task.resource).isToken_of_holding ?_
      (Int64.lt_of_le_of_lt passed early)
    rw [Lane.holding?_of_slot (State.slot_lane visit.tracked), held]
  · cases stale

/-- When a load has stored nothing, the next task that decides about the resource loads, unless the
clock has gone back. -/
theorem Chronicle.loading_after_unstored (record : Chronicle policy past state)
    (taken : state.step policy (.settle id result now) = some (next, event))
    (holds : state.tasks.get? id = some task)
    (decides : decided id (course task.resource past) = some (began, reading))
    (nothing : policy.stored? result now = none)
    (further : Chronicle policy (later ++ ⟨state, .settle id result now, event, next⟩ :: past) reached)
    (waits : ∀ moment ∈ course task.resource later, ¬ Decides moment)
    (goesOn : reached.step policy (.decide other again) = some (last, seen))
    (about : reached.subject? (.decide other again) = some task.resource)
    (late : reading ≤ again) : seen = .loading task.resource := by
  have own : state.subject? (.settle id result now) = some task.resource := by
    rw [State.subject?, holds, Option.map_some]
  have here := (Sound.of_chronicle record).lane_change (change_of_step taken) own
  have overdue := (laneRecorded_course record task.resource).overdue_of_settle here nothing decides
  have laneRecord := laneRecorded_course further task.resource
  simp only [course, List.map_append, List.map_cons] at laneRecord
  have still : Overdue reading (reached.lane task.resource) := by
    refine laneRecord.overdue_of_append ?_ waits
    rw [laneMoment, if_pos own]
    exact overdue
  exact still.loading_of_decide
    ((Sound.of_chronicle further).lane_change (change_of_step goesOn) about) late

end Runs

end StorageBroker.Refresher
