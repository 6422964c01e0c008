import StorageBroker.Proofs.Refresher.Store

/-!
# Invalidations are barriers

A task that begins to get a credential after its resource was invalidated is not served from an entry
that a load wrote which had begun before (`invalidation_barrier`). The invariant (`Barrier`) follows
an invalidation through the lane: an entry that is older than the invalidation is marked, and so is
the slot of a load that is older, whose result is still to come; a task that has swept the entry and
finds an older store in it began before the invalidation.
-/

set_option autoImplicit false

namespace StorageBroker.Refresher

/-- The resource is invalidated. -/
def Invalidates (resource : String) (moment : Moment Lane (Option Step) Event) : Prop :=
  moment.step = some (.invalidate resource)

instance (resource : String) : DecidablePred (Invalidates resource) :=
  fun moment => inferInstanceAs (Decidable (moment.step = some (.invalidate resource)))

/-- A task is served from the entry: it finds it fresh, or it falls back on it, whatever its age,
because its load failed. -/
inductive FromEntry (policy : Policy) (id : TaskId) : Step → Event → Credential → Prop where
  | hit {now : Int64} {credential : Credential} :
      FromEntry policy id (.decide id now) (.hit credential) credential
  | stale {result : LoadResult} {now : Int64} {error : CredentialError} {credential : Credential}
      (failed : policy.answerOf result = .error error) :
      FromEntry policy id (.settle id result now) (.settled (.ok credential)) credential

/-- What holds of a lane and its course, with respect to the invalidations of its resource. -/
structure Barrier (policy : Policy) (resource : String) (past : Course) (lane : Lane) : Prop where
  /-- An entry whose load began before an invalidation is marked. -/
  entry : ∀ ⦃store slot instant⦄, kept policy past = some store → lane.slot = some slot →
    Occurs (Invalidates resource) instant past → store.began ≤ instant → slot.invalidated = true
  /-- The slot of a load in flight that began before an invalidation is marked. -/
  load : ∀ ⦃id slot began reading instant⦄, lane.phases id = some .loading →
    lane.slot = some slot → decided id past = some (began, reading) →
    Occurs (Invalidates resource) instant past → began ≤ instant → slot.invalidated = true
  /-- A task that may use an entry whose load began before an invalidation had begun by then. -/
  user : ∀ ⦃id phase start store instant⦄, lane.phases id = some phase →
    phase = .swept ∨ phase = .loading → begun id past = some start → kept policy past = some store →
    Occurs (Invalidates resource) instant past → store.began ≤ instant → start ≤ instant

namespace Barrier

variable {policy : Policy} {resource : String} {past : Course} {lane next : Lane}
  {step : Option Step} {event : Event}

theorem nothing : Barrier policy resource [] Lane.empty where
  entry := by
    intro store slot instant same
    cases same
  load := by
    intro id slot began reading instant found
    cases found
  user := by
    intro id phase start store instant found
    cases found

section Steps

variable (barrier : Barrier policy resource past lane)
  (record : LaneRecorded policy resource past lane)
  (here : LaneChange policy resource lane step event next)
include barrier record here

theorem entry_step {store : Store} {slot : Slot} {instant : Nat}
    (keeps : kept policy (⟨lane, step, event, next⟩ :: past) = some store)
    (tracked : next.slot = some slot)
    (occurs : Occurs (Invalidates resource) instant (⟨lane, step, event, next⟩ :: past))
    (older : store.began ≤ instant) : slot.invalidated = true := by
  cases record.keptChange record.map_holding_kept here tracked with
  | keeps tracks still _ _ mark valid =>
    rw [mark]
    exact barrier.entry (still.symm.trans keeps) tracks (occurs.of_cons valid) older
  | marks _ _ _ _ mark _ => exact mark
  | empties gone _ _ _ _ => cases gone.symm.trans keeps
  | stores settles found tracks new _ _ mark _ decides _ =>
    have same := Option.some.inj (new.symm.trans keeps)
    have valid : step ≠ some (.invalidate resource) := by
      intro invalidates
      cases settles.symm.trans invalidates
    rw [mark]
    exact barrier.load found tracks decides (occurs.of_cons valid) (same ▸ older)

/-- A load that begins only now has seen no invalidation yet. -/
theorem load_step {id : TaskId} {slot : Slot} {began : Nat} {reading : Int64} {instant : Nat}
    (found : next.phases id = some .loading) (tracked : next.slot = some slot)
    (decides : decided id (⟨lane, step, event, next⟩ :: past) = some (began, reading))
    (occurs : Occurs (Invalidates resource) instant (⟨lane, step, event, next⟩ :: past))
    (older : began ≤ instant) : slot.invalidated = true := by
  cases record.sound.arrival here found with
  | stays holds another slots =>
    rw [decided, lastStep?_cons_of_another another] at decides
    obtain ⟨before, tracks, ⟨same, valid⟩ | ⟨same, -⟩⟩ := slots rfl
    · have unchanged := Option.some.inj (same.symm.trans tracked)
      rw [← unchanged]
      exact barrier.load holds tracks decides (occurs.of_cons valid) older
    · rw [← Option.some.inj (same.symm.trans tracked)]
      rfl
  | begins _ _ waits => cases waits
  | moves holds tracks behind move =>
    cases move with
    | @load _ now stale =>
      rw [decided_cons_decide] at decides
      cases decides
      have before := (occurs.of_cons (by rintro ⟨⟩)).lt_length
      omega

/-- An entry from before an invalidation would have been marked, and would be empty behind the sweep. While
a task has the lock, no other one stores anything. -/
theorem user_step {id : TaskId} {phase : Phase} {start : Nat} {store : Store} {instant : Nat}
    (found : next.phases id = some phase) (uses : phase = .swept ∨ phase = .loading)
    (begins : begun id (⟨lane, step, event, next⟩ :: past) = some start)
    (keeps : kept policy (⟨lane, step, event, next⟩ :: past) = some store)
    (occurs : Occurs (Invalidates resource) instant (⟨lane, step, event, next⟩ :: past))
    (older : store.began ≤ instant) : start ≤ instant := by
  have locks : phase.hasLock = true := by
    rcases uses with rfl | rfl <;> rfl
  obtain ⟨slot, tracked⟩ := (record.sound.change here).held found
  have change := record.keptChange record.map_holding_kept here tracked
  cases record.sound.arrival here found with
  | stays holds another _ =>
    rw [begun, lastStep?_cons_of_another another] at begins
    cases change with
    | keeps _ still _ _ _ valid =>
      exact barrier.user holds uses begins (still.symm.trans keeps) (occurs.of_cons valid) older
    | marks _ still _ _ _ _ =>
      rcases occurs with ⟨now, -⟩ | occurs
      · rw [now]
        exact Nat.le_of_lt (begun_lt_length begins)
      · exact barrier.user holds uses begins (still.symm.trans keeps) occurs older
    | empties gone _ _ _ _ => cases gone.symm.trans keeps
    | stores settles loads _ _ _ _ _ _ _ _ =>
      have same := record.sound.lock_exclusive loads holds rfl locks
      exact absurd (congrArg some same) (another _ settles)
  | begins _ _ waits =>
    rw [waits] at locks
    cases locks
  | moves holds tracks behind move =>
    rw [begun, lastStep?_cons_of_none move.begins?] at begins
    cases change with
    | keeps tracks still _ _ mark valid =>
      have keptBefore := still.symm.trans keeps
      have earlier := occurs.of_cons valid
      cases move with
      | sweep =>
        rw [tracked] at behind
        rw [Option.some.inj behind, Slot.invalidated_swept] at mark
        have marked := barrier.entry keptBefore tracks earlier older
        cases mark.trans marked
      | load _ => exact barrier.user holds (.inl rfl) begins keptBefore earlier older
      | _ => rcases uses with same | same <;> cases same
    | marks _ _ _ _ _ invalidates =>
      cases Option.some.inj invalidates
      cases move
    | empties gone _ _ _ _ => cases gone.symm.trans keeps
    | stores settles _ _ _ _ _ _ _ _ _ =>
      cases Option.some.inj settles
      cases move
      rcases uses with same | same <;> cases same

end Steps

theorem further (barrier : Barrier policy resource past lane)
    (record : LaneRecorded policy resource past lane)
    (here : LaneChange policy resource lane step event next) :
    Barrier policy resource (⟨lane, step, event, next⟩ :: past) next where
  entry := by
    intro store slot instant keeps tracked occurs older
    exact barrier.entry_step record here keeps tracked occurs older
  load := by
    intro id slot began reading instant found tracked decides occurs older
    exact barrier.load_step record here found tracked decides occurs older
  user := by
    intro id phase start store instant found uses begins keeps occurs older
    exact barrier.user_step record here found uses begins keeps occurs older

end Barrier

theorem LaneRecorded.barrier {policy : Policy} {resource : String} {past : Course} {lane : Lane}
    (record : LaneRecorded policy resource past lane) : Barrier policy resource past lane := by
  induction record with
  | nothing => exact .nothing
  | further record here ih => exact ih.further record here

/-! ## Who is served from the entry -/

theorem credential?_of_settle_ok {policy : Policy} {resource : String} {entry : Entry}
    {result : LoadResult} {now : Int64} {error : CredentialError} {credential : Credential}
    (failed : policy.answerOf result = .error error)
    (served : (policy.settle resource entry result now).1 = .ok credential) :
    entry.credential? = some credential := by
  unfold Policy.settle at served
  rw [failed] at served
  dsimp only at served
  split at served
  · cases served
  · unfold Policy.serveStale at served
    dsimp only at served
    split at served
    · next same =>
      cases served
      exact same
    · cases served

theorem Move.served {policy : Policy} {id mover : TaskId} {resource : String} {step : Step}
    {event : Event} {before phase : Phase} {slot behind : Slot} {credential : Credential}
    (move : Move policy mover resource step event before slot phase behind)
    (served : FromEntry policy id step event credential) :
    mover = id ∧ (before = .swept ∨ before = .loading) ∧
      slot.entry.credential? = some credential := by
  generalize seen : event = sight at served
  cases served with
  | hit =>
    cases move with
    | hit fresh =>
      cases seen
      exact ⟨rfl, .inl rfl, Entry.credential?_of_fresh? fresh⟩
    | load _ => cases seen
  | stale failed =>
    cases move with
    | settle => exact ⟨rfl, .inr rfl, credential?_of_settle_ok failed (Event.settled.inj seen)⟩

/-- In the lane of its resource, a task that is served from the entry finds the credential there. -/
theorem LaneRecorded.exists_kept_of_served {policy : Policy} {id : TaskId} {resource : String}
    {past : Course} {lane next : Lane} {step : Step} {event : Event} {credential : Credential}
    (record : LaneRecorded policy resource past lane)
    (here : LaneChange policy resource lane (some step) event next)
    (served : FromEntry policy id step event credential) :
    ∃ phase store, lane.phases id = some phase ∧ (phase = .swept ∨ phase = .loading) ∧
      kept policy past = some store ∧ store.holding.credential = credential := by
  cases here with
  | @move mover _ _ before _ slot _ found tracked move =>
    obtain ⟨rfl, uses, holds⟩ := move.served served
    obtain ⟨holding, held, same⟩ := Option.map_eq_some_iff.1 holds
    have keeps := record.map_holding_kept
    rw [Lane.holding?_of_slot tracked, held] at keeps
    obtain ⟨store, stored, rfl⟩ := Option.map_eq_some_iff.1 keeps
    exact ⟨before, store, found, uses, stored, same⟩
  | _ => cases served

/-- **An invalidation is a barrier.** Whenever a task is served from the entry, be it fresh or stale,
the entry was written by a load that began after every invalidation of the resource that came before
the task began. -/
theorem invalidation_barrier {policy : Policy} {past : Past} {state next : State} {step : Step}
    {event : Event} {id : TaskId} {resource : String} {credential : Credential}
    (record : Chronicle policy past state) (taken : state.step policy step = some (next, event))
    (about : state.subject? step = some resource)
    (served : FromEntry policy id step event credential) :
    ∃ start store,
      begun id (course resource past) = some start ∧
      Occurs (fun moment => moment.step = some (.beginGet id resource)) start
        (course resource past) ∧
      kept policy (course resource past) = some store ∧
      (state.lane resource).holding? = some store.holding ∧
      store.holding.credential = credential ∧
      Loaded policy resource (course resource past) store ∧
      ∀ instant, Occurs (Invalidates resource) instant (course resource past) →
        instant < start → instant < store.began := by
  have here : LaneChange policy resource (state.lane resource) (some step) event
      (next.lane resource) := (Sound.of_chronicle record).lane_change (change_of_step taken) about
  have laneRecord := laneRecorded_course record resource
  obtain ⟨phase, store, found, uses, keeps, same⟩ := laneRecord.exists_kept_of_served here served
  obtain ⟨start, begins, occurs⟩ := laneRecord.exists_begun found
  refine ⟨start, store, begins, occurs.mono ?_, keeps, ?_, same, ?_, ?_⟩
  · rintro moment ⟨beginning, began, get⟩
    rcases uses with rfl | rfl <;> exact began.trans (congrArg some get)
  · rw [← laneRecord.map_holding_kept, keeps, Option.map_some]
  · exact laneRecord.loaded_of_mem_stores (mem_stores_of_kept keeps)
  · intro instant invalidated earlier
    apply Nat.lt_of_not_le
    intro older
    have later := laneRecord.barrier.user found uses begins keeps invalidated older
    omega

/-- An invalidation comes while a load is in flight. The load is settled all the same; the next task
sweeps what it stored away and loads again. -/
def overtaken : List Step :=
  [.beginGet 1 "r", .acquire 1, .sweep 1, .decide 1 0, .invalidate "r",
    .settle 1 (.answered (.ok [sampleToken 1000 (by decide)])) 1, .leave 1,
    .beginGet 2 "r", .acquire 2, .sweep 2, .decide 2 2,
    .settle 2 (.answered (.ok [sampleToken 2000 (by decide)])) 3, .leave 2,
    .beginGet 3 "r", .acquire 3, .sweep 3]

theorem invalidation_barrier_overtaken :
    Chronicle Policy.standard (historyOf overtaken).1 (historyOf overtaken).2 ∧
      Occurs (Invalidates "r") 4 (course "r" (historyOf overtaken).1) ∧
      ∃ (start : Nat) (store : Store), begun 3 (course "r" (historyOf overtaken).1) = some start ∧
        kept Policy.standard (course "r" (historyOf overtaken).1) = some store ∧
        store.holding.credential = sampleToken 2000 (by decide) ∧
        ∀ instant, Occurs (Invalidates "r") instant (course "r" (historyOf overtaken).1) →
          instant < start → instant < store.began := by
  have record := chronicle_historyOf overtaken
  have served : ((historyOf overtaken).2.step Policy.standard (.decide 3 4)).map Prod.snd =
      some (.hit (sampleToken 2000 (by decide))) := by decide +kernel
  have about : (historyOf overtaken).2.subject? (.decide 3 4) = some "r" := by decide +kernel
  obtain ⟨⟨next, event⟩, taken, hit⟩ := Option.map_eq_some_iff.1 served
  cases hit
  obtain ⟨start, store, begins, -, keeps, -, same, -, later⟩ :=
    invalidation_barrier record taken about .hit
  exact ⟨record, by decide +kernel, start, store, begins, keeps, same, later⟩

end StorageBroker.Refresher
