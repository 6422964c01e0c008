import StorageBroker.Proofs.Refresher.Visit

/-!
# What loads have stored

`stores` lists what the loads of a course have stored, each with the instants at which its task was
given the lock, its load began and it was stored. `kept` is the store that the entry holds. That this
is what the entry holds is a theorem (`LaneRecorded.map_holding_kept`), and what becomes of it in a
step is said once for all (`LaneRecorded.keptChange`).
-/

set_option autoImplicit false

namespace StorageBroker.Refresher

/-! ## What a load brings -/

/-- What a load that ended at `now` brings into the entry, if anything. -/
def Policy.stored? (policy : Policy) (result : LoadResult) (now : Int64) : Option Holding :=
  match policy.answerOf result with
  | .error _ => none
  | .ok candidates =>
    match policy.backend.select candidates with
    | none => policy.fallback.map fun fallback => ⟨fallback, Int64.maxValue⟩
    | some credential =>
      if !credential.isExpiring then some ⟨credential, Int64.maxValue⟩
      else if credential.expiryMillis ≤ now then none
      else some ⟨credential, policy.staleFrom now credential.expiryMillis⟩

/-- The entry behind a load: what the load stored, or else what it was. -/
theorem Policy.settle_entry (policy : Policy) (resource : String) (entry : Entry)
    (result : LoadResult) (now : Int64) :
    (policy.settle resource entry result now).2.holding =
      (policy.stored? result now).or entry.holding := by
  unfold Policy.settle Policy.stored?
  cases policy.answerOf result with
  | error error =>
    dsimp only
    split <;> rfl
  | ok candidates =>
    dsimp only
    cases policy.backend.select candidates with
    | none => cases policy.fallback <;> rfl
    | some credential =>
      dsimp only
      split
      · rfl
      · split <;> rfl

/-- A credential that a load stored: when the task was given the lock, when its load began, when it
was stored, and what was stored. -/
structure Store where
  taken : Nat
  began : Nat
  stored : Nat
  holding : Holding
  deriving DecidableEq

/-- What is stored by a step, if it settles a load. -/
def storing? (policy : Policy) (past : Course) (step : Option Step) : Option Store :=
  match step with
  | some (.settle id result now) => do
    let holding ← policy.stored? result now
    let taken ← taken id past
    let (began, _) ← decided id past
    some ⟨taken, began, past.length, holding⟩
  | _ => none

/-- All that was stored in a course, the latest in front. -/
def stores (policy : Policy) : Course → List Store
  | [] => []
  | moment :: past => (storing? policy past moment.step).toList ++ stores policy past

/-- What the entry of a lane holds. -/
def Lane.holding? (lane : Lane) : Option Holding := lane.slot.bind fun slot => slot.entry.holding

/-- The store that the entry holds: the last one, unless the entry was empty since. -/
def kept (policy : Policy) : Course → Option Store
  | [] => none
  | moment :: past =>
    if moment.after.holding?.isSome then (storing? policy past moment.step).or (kept policy past)
    else none

section Stores

variable {policy : Policy} {resource : String} {id : TaskId} {past : Course} {lane next : Lane}
  {step : Option Step} {event : Event} {slot : Slot} {store : Store}

theorem Lane.holding?_of_slot (tracked : lane.slot = some slot) :
    lane.holding? = slot.entry.holding := by
  rw [holding?, tracked, Option.bind_some]

theorem storing?_of_plain (plain : ∀ taken, step = some taken → taken.Plain) :
    storing? policy past step = none := by
  unfold storing?
  split
  · exact (plain _ rfl).elim
  · rfl

theorem storing?_settle {result : LoadResult} {now reading : Int64} {acquired began : Nat}
    (takes : taken id past = some acquired) (decides : decided id past = some (began, reading)) :
    storing? policy past (some (.settle id result now)) =
      (policy.stored? result now).map fun holding => ⟨acquired, began, past.length, holding⟩ := by
  simp only [storing?, takes, decides]
  cases policy.stored? result now <;> rfl

/-- Only a settled load stores. -/
theorem exists_settle_of_storing? (storing : storing? policy past step = some store) :
    ∃ id result now reading, step = some (.settle id result now) ∧
      policy.stored? result now = some store.holding ∧ taken id past = some store.taken ∧
      decided id past = some (store.began, reading) ∧ store.stored = past.length := by
  unfold storing? at storing
  split at storing
  · next id result now =>
    simp only [Option.bind_eq_bind, Option.bind_eq_some_iff, Option.some.injEq] at storing
    obtain ⟨holding, brings, acquired, takes, ⟨began, reading⟩, decides, rfl⟩ := storing
    exact ⟨id, result, now, reading, rfl, brings, takes, decides, rfl⟩
  · cases storing

/-- A task that goes on with the lock stores nothing. -/
theorem Move.storing?_eq_none {taken : Step} {before phase : Phase} {slot behind : Slot}
    (move : Move policy id resource taken event before slot phase behind)
    (locks : phase.hasLock = true) : storing? policy past (some taken) = none := by
  cases move with
  | settle => cases locks
  | _ => rfl

/-- Nothing is kept of an empty entry. -/
theorem kept_cons_of_empty (empty : next.holding? = none) :
    kept policy (⟨lane, step, event, next⟩ :: past) = none := by
  rw [kept, empty]
  rfl

theorem kept_cons_of_store
    (storing : storing? policy past step = some store)
    (holds : next.holding? = some store.holding) :
    kept policy (⟨lane, step, event, next⟩ :: past) = some store := by
  rw [kept, holds, storing]
  rfl

/-- What an entry keeps that stays as it is. -/
theorem kept_cons_of_same (holds : (kept policy past).map Store.holding = lane.holding?)
    (storing : storing? policy past step = none)
    (same : next.holding? = lane.holding?) :
    kept policy (⟨lane, step, event, next⟩ :: past) = kept policy past := by
  rw [kept, storing, same, ← holds]
  cases kept policy past <;> rfl

/-- What becomes of the store that the entry holds, where a slot is there behind the step: it is
kept, or it is kept under a mark, or the entry is empty, or another one is stored. `current` is what
is kept then, and `stored` is what is stored by the step. -/
inductive KeptChange (policy : Policy) (resource : String) (past : Course) (lane : Lane)
    (step : Option Step) (behind : Slot) (current stored : Option Store) : Prop where
  | keeps {slot : Slot} (tracked : lane.slot = some slot) (still : current = kept policy past)
      (nothing : stored = none) (entry : behind.entry.holding = slot.entry.holding)
      (mark : behind.invalidated = slot.invalidated) (valid : step ≠ some (.invalidate resource))
  | marks {slot : Slot} (tracked : lane.slot = some slot) (still : current = kept policy past)
      (nothing : stored = none) (entry : behind.entry.holding = slot.entry.holding)
      (mark : behind.invalidated = true) (invalidates : step = some (.invalidate resource))
  | empties (gone : current = none) (nothing : stored = none)
      (empty : behind.entry.holding = none) (valid : step ≠ some (.invalidate resource))
      (marked : ∀ slot, lane.slot = some slot → slot.invalidated = true)
  | stores {id : TaskId} {slot : Slot} {result : LoadResult} {now reading : Int64} {store : Store}
      (settles : step = some (.settle id result now))
      (found : lane.phases id = some .loading) (tracked : lane.slot = some slot)
      (new : current = some store) (brought : stored = some store)
      (holds : behind.entry.holding = some store.holding)
      (mark : behind.invalidated = slot.invalidated) (takes : taken id past = some store.taken)
      (decides : decided id past = some (store.began, reading)) (instant : store.stored = past.length)

theorem LaneRecorded.keptChange (record : LaneRecorded policy resource past lane)
    (holds : (kept policy past).map Store.holding = lane.holding?)
    (here : LaneChange policy resource lane step event next) (tracked : next.slot = some slot) :
    KeptChange policy resource past lane step slot
      (kept policy (⟨lane, step, event, next⟩ :: past)) (storing? policy past step) := by
  have behind := Lane.holding?_of_slot tracked
  cases here.entryChange tracked with
  | keeps tracks entry mark plain =>
    have same : next.holding? = lane.holding? := by
      rw [behind, entry, Lane.holding?_of_slot tracks]
    have nothing : storing? policy past step = none := storing?_of_plain plain
    exact .keeps tracks (kept_cons_of_same holds nothing same) nothing
      (congrArg Entry.holding entry) mark fun invalidates => plain _ invalidates
  | opens untracked same =>
    have empty : slot.entry.holding = none := by
      rw [same]
      rfl
    refine .empties (kept_cons_of_empty (behind.trans empty)) rfl empty nofun ?_
    intro before tracks
    cases untracked.symm.trans tracks
  | marks tracks same =>
    have entry : slot.entry.holding = _ := congrArg (fun slot => slot.entry.holding) same
    have still : next.holding? = lane.holding? := by
      rw [behind, entry, Slot.entry_marked, Lane.holding?_of_slot tracks]
    exact .marks tracks (kept_cons_of_same holds rfl still) rfl entry (by rw [same]; rfl) rfl
  | @sweeps id before found tracks same =>
    cases marked : before.invalidated with
    | true =>
      have empty : slot.entry.holding = none := by
        rw [same, Slot.entry_swept_of_invalidated marked]
        rfl
      refine .empties (kept_cons_of_empty (behind.trans empty)) rfl empty nofun ?_
      intro other tracked
      rw [← Option.some.inj (tracks.symm.trans tracked), marked]
    | false =>
      rw [Slot.swept_of_not_invalidated marked] at same
      have still : next.holding? = lane.holding? := by
        rw [behind, same, Lane.holding?_of_slot tracks]
      exact .keeps tracks (kept_cons_of_same holds rfl still) rfl (by rw [same]) (by rw [same]) nofun
  | @settles id result now before found tracks same =>
    obtain ⟨acquired, takes, -⟩ := record.exists_taken found rfl
    obtain ⟨began, reading, decides, -⟩ := record.exists_decided found tracks
    have mark : slot.invalidated = before.invalidated := by rw [same, Slot.invalidated_released]
    have entry : slot.entry.holding = (policy.stored? result now).or before.entry.holding := by
      rw [same, Slot.entry_released, Policy.settle_entry]
    have storing : storing? policy past (some (.settle id result now)) =
        (policy.stored? result now).map fun holding => ⟨acquired, began, past.length, holding⟩ :=
      storing?_settle takes decides
    cases stored : policy.stored? result now with
    | none =>
      rw [stored] at entry storing
      have still : next.holding? = lane.holding? := by
        rw [behind, entry, Lane.holding?_of_slot tracks]
        rfl
      exact .keeps tracks (kept_cons_of_same holds storing still) storing entry mark nofun
    | some holding =>
      rw [stored] at entry storing
      exact .stores rfl found tracks (kept_cons_of_store storing (behind.trans entry)) storing entry
        mark takes decides rfl

/-- **What is said to be kept is what the entry holds.** -/
theorem LaneRecorded.map_holding_kept (record : LaneRecorded policy resource past lane) :
    (kept policy past).map Store.holding = lane.holding? := by
  induction record with
  | nothing => rfl
  | @further past lane next step event record here ih =>
    cases tracked : next.slot with
    | none =>
      have empty : next.holding? = none := by rw [Lane.holding?, tracked, Option.bind_none]
      rw [kept_cons_of_empty empty, empty, Option.map_none]
    | some behind =>
      rw [Lane.holding?_of_slot tracked]
      cases record.keptChange ih here tracked with
      | keeps tracks still _ entry _ _ =>
        rw [still, ih, entry, Lane.holding?_of_slot tracks]
      | marks tracks still _ entry _ _ =>
        rw [still, ih, entry, Lane.holding?_of_slot tracks]
      | empties gone _ empty _ _ => rw [gone, empty, Option.map_none]
      | stores _ _ _ new _ holds _ _ _ _ => rw [new, holds, Option.map_some]

/-- What is kept was stored. -/
theorem mem_stores_of_kept (keeps : kept policy past = some store) : store ∈ stores policy past := by
  induction past with
  | nil => cases keeps
  | cons moment past ih =>
    rw [kept] at keeps
    split at keeps
    · rw [stores, List.mem_append, Option.mem_toList]
      rcases Option.or_eq_some_iff.1 keeps with new | ⟨-, older⟩
      · exact .inl new
      · exact .inr (ih older)
    · cases keeps

/-- Only a load in flight is settled, and its slot stays. -/
theorem LaneChange.loading_of_settle {result : LoadResult} {now : Int64}
    (here : LaneChange policy resource lane (some (.settle id result now)) event next) :
    ∃ slot behind, lane.phases id = some .loading ∧ lane.slot = some slot ∧
      next.slot = some behind := by
  cases here with
  | move found tracked move =>
    cases move
    exact ⟨_, _, found, tracked, rfl⟩

/-- A store is what the load of a task has brought, and its instants are those at which the task was
given the lock, began the load and settled it. -/
def Loaded (policy : Policy) (resource : String) (past : Course) (store : Store) : Prop :=
  ∃ id reading result now,
    Occurs (fun moment => moment.step = some (.acquire id)) store.taken past ∧
    Occurs (fun moment => moment.step = some (.decide id reading) ∧
      moment.event = .loading resource) store.began past ∧
    Occurs (fun moment => moment.step = some (.settle id result now)) store.stored past ∧
    policy.stored? result now = some store.holding

theorem Loaded.later {moment : Moment Lane (Option Step) Event}
    (loaded : Loaded policy resource past store) :
    Loaded policy resource (moment :: past) store := by
  obtain ⟨id, reading, result, now, takes, begins, settles, brings⟩ := loaded
  exact ⟨id, reading, result, now, takes.later, begins.later, settles.later, brings⟩

theorem LaneRecorded.loaded_of_mem_stores (record : LaneRecorded policy resource past lane)
    (member : store ∈ stores policy past) : Loaded policy resource past store := by
  induction record with
  | nothing => cases member
  | @further past lane next step event record here ih =>
    rw [stores, List.mem_append, Option.mem_toList] at member
    rcases member with new | older
    · obtain ⟨id, result, now, reading, rfl, brings, takes, decides, instant⟩ :=
        exists_settle_of_storing? new
      obtain ⟨slot, -, found, tracked, -⟩ := here.loading_of_settle
      obtain ⟨acquired, acquires, occurs⟩ := record.exists_taken found rfl
      obtain ⟨began, seen, begins, -, loads⟩ := record.exists_decided found tracked
      rw [takes] at acquires
      rw [decides] at begins
      cases acquires
      cases begins
      refine ⟨id, reading, result, now, occurs.later, loads.later, ?_, brings⟩
      rw [instant]
      exact .here _ past rfl
    · exact (ih older).later

theorem LaneRecorded.taken_lt_length_of_mem (record : LaneRecorded policy resource past lane)
    (member : store ∈ stores policy past) : store.taken < past.length := by
  obtain ⟨id, reading, result, now, takes, -⟩ := record.loaded_of_mem_stores member
  exact takes.lt_length

theorem LaneRecorded.stored_lt_length_of_mem (record : LaneRecorded policy resource past lane)
    (member : store ∈ stores policy past) : store.stored < past.length := by
  obtain ⟨id, reading, result, now, -, -, settles, -⟩ := record.loaded_of_mem_stores member
  exact settles.lt_length

end Stores

end StorageBroker.Refresher
