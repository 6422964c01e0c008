import StorageBroker.Proofs.Refresher.Store

/-!
# No load without need

A load begins only where it has to (`no_redundant_load`): nothing was stored yet, or what was stored
was withdrawn, or the clock has come to the instant from which on the last store is stale. The
invariant (`Economy`) says that the last store stands in the entry, and is not marked, unless it was
withdrawn since its task was given the lock. As long as a store is not withdrawn and the clock is
early, every task that decides is served with it (`LaneRecorded.sustained`).
-/

set_option autoImplicit false

namespace StorageBroker.Refresher

/-- What is kept for the resource is withdrawn: the resource is invalidated, or its slot is evicted. -/
def Withdraws (resource : String) (moment : Moment Lane (Option Step) Event) : Prop :=
  moment.step = some (.invalidate resource) ∨
    moment.before.slot.isSome = true ∧ moment.after.slot.isSome = false

instance (resource : String) : DecidablePred (Withdraws resource) :=
  fun moment => inferInstanceAs (Decidable (moment.step = some (.invalidate resource) ∨
    moment.before.slot.isSome = true ∧ moment.after.slot.isSome = false))

/-- What holds of a lane and its course, with respect to what was stored. -/
structure Economy (policy : Policy) (resource : String) (past : Course) (lane : Lane) : Prop where
  /-- The last store stands in the entry, which is not marked, unless it was withdrawn since its
  task was given the lock. -/
  last : ∀ ⦃store⦄, (stores policy past).head? = some store →
    OccursSince (Withdraws resource) store.taken past ∨
      kept policy past = some store ∧ ∃ slot, lane.slot = some slot ∧ slot.invalidated = false
  /-- A mark that a task finds after its sweep was made since the task was given the lock. -/
  marked : ∀ ⦃id phase slot acquired⦄, lane.phases id = some phase →
    phase = .swept ∨ phase = .loading → lane.slot = some slot → slot.invalidated = true →
    taken id past = some acquired → OccursSince (Withdraws resource) acquired past
  /-- A task with the lock was given it after the tasks of all stores. -/
  newest : ∀ ⦃id phase acquired store⦄, lane.phases id = some phase → phase.hasLock = true →
    taken id past = some acquired → store ∈ stores policy past → store.taken < acquired
  /-- Of two stores the later one belongs to the task that was given the lock later. -/
  ordered : (stores policy past).Pairwise fun newer older => older.taken < newer.taken

namespace Economy

variable {policy : Policy} {resource : String} {past : Course} {lane next : Lane}
  {step : Option Step} {event : Event} {id : TaskId} {phase : Phase} {store : Store}

theorem nothing : Economy policy resource [] Lane.empty where
  last := by
    intro store found
    cases found
  marked := by
    intro id phase slot acquired found
    cases found
  newest := by
    intro id phase acquired store found
    cases found
  ordered := List.Pairwise.nil

section Steps

variable (economy : Economy policy resource past lane)
  (record : LaneRecorded policy resource past lane)
  (here : LaneChange policy resource lane step event next)
include record here

/-- Only the task with the lock stores. -/
theorem storing?_eq_none_of_another (found : lane.phases id = some phase)
    (locks : phase.hasLock = true) (another : ∀ taken, step = some taken → taken.task? ≠ some id) :
    storing? policy past step = none := by
  apply Option.eq_none_iff_forall_not_mem.2
  intro store storing
  obtain ⟨other, result, now, reading, rfl, -⟩ := exists_settle_of_storing? storing
  obtain ⟨slot, behind, loads, -, -⟩ := here.loading_of_settle
  have same := record.sound.lock_exclusive loads found rfl locks
  exact another _ rfl (congrArg some same)

include economy

theorem last_step (found : (stores policy (⟨lane, step, event, next⟩ :: past)).head? = some store) :
    OccursSince (Withdraws resource) store.taken (⟨lane, step, event, next⟩ :: past) ∨
      kept policy (⟨lane, step, event, next⟩ :: past) = some store ∧
        ∃ slot, next.slot = some slot ∧ slot.invalidated = false := by
  rw [stores] at found
  cases storing : storing? policy past step with
  | none =>
    rw [storing] at found
    have before := record.taken_lt_length_of_mem (List.mem_of_head? found)
    rcases economy.last found with withdrawn | ⟨keeps, slot, tracked, unmarked⟩
    · exact .inl withdrawn.later
    · cases tracks : next.slot with
      | none =>
        refine .inl (.here before (.inr ⟨?_, ?_⟩))
        · rw [tracked]
          rfl
        · rw [tracks]
          rfl
      | some behind =>
        cases record.keptChange record.map_holding_kept here tracks with
        | keeps same still _ _ mark _ =>
          rw [tracked] at same
          rw [← Option.some.inj same, unmarked] at mark
          exact .inr ⟨still.trans keeps, behind, rfl, mark⟩
        | marks _ _ _ _ _ invalidates => exact .inl (.here before (.inl invalidates))
        | empties _ _ _ _ marked => cases unmarked.symm.trans (marked slot tracked)
        | stores _ _ _ _ brought _ _ _ _ _ => cases storing.symm.trans brought
  | some new =>
    rw [storing] at found
    cases found
    obtain ⟨id, result, now, reading, rfl, -, takes, -, -⟩ := exists_settle_of_storing? storing
    obtain ⟨slot, behind, loads, tracked, tracks⟩ := here.loading_of_settle
    cases record.keptChange record.map_holding_kept here tracks with
    | keeps _ _ nothing _ _ _ => cases storing.symm.trans nothing
    | marks _ _ _ _ _ invalidates => cases invalidates
    | empties _ nothing _ _ _ => cases storing.symm.trans nothing
    | stores _ _ same keeps brought _ mark _ _ _ =>
      cases storing.symm.trans brought
      cases tracked.symm.trans same
      cases marked : slot.invalidated with
      | true => exact .inl (economy.marked loads (.inr rfl) tracked marked takes).later
      | false => exact .inr ⟨keeps, behind, tracks, mark.trans marked⟩

theorem marked_step {slot : Slot} {acquired : Nat} (found : next.phases id = some phase)
    (uses : phase = .swept ∨ phase = .loading) (tracked : next.slot = some slot)
    (mark : slot.invalidated = true)
    (takes : taken id (⟨lane, step, event, next⟩ :: past) = some acquired) :
    OccursSince (Withdraws resource) acquired (⟨lane, step, event, next⟩ :: past) := by
  have locks : phase.hasLock = true := by
    rcases uses with rfl | rfl <;> rfl
  cases record.sound.arrival here found with
  | stays holds another slots =>
    rw [taken, lastStep?_cons_of_another another] at takes
    obtain ⟨before, tracks, ⟨same, -⟩ | ⟨-, invalidates⟩⟩ := slots locks
    · rw [Option.some.inj (tracked.symm.trans same)] at mark
      exact (economy.marked holds uses tracks mark takes).later
    · exact .here (taken_lt_length takes) (.inl invalidates)
  | begins _ _ waits =>
    rw [waits] at locks
    cases locks
  | moves holds tracks behind move =>
    have same := Option.some.inj (tracked.symm.trans behind)
    cases move with
    | sweep =>
      rw [same, Slot.invalidated_swept] at mark
      cases mark
    | load _ =>
      rw [same] at mark
      rw [taken, lastStep?_cons_of_none rfl] at takes
      exact (economy.marked holds (.inl rfl) tracks mark takes).later
    | _ => rcases uses with same | same <;> cases same

/-- A task that is given the lock now is given it after all that was stored. -/
theorem newest_step {acquired : Nat} (found : next.phases id = some phase)
    (locks : phase.hasLock = true)
    (takes : taken id (⟨lane, step, event, next⟩ :: past) = some acquired)
    (member : store ∈ stores policy (⟨lane, step, event, next⟩ :: past)) :
    store.taken < acquired := by
  cases record.sound.arrival here found with
  | stays holds another _ =>
    rw [stores, storing?_eq_none_of_another record here holds locks another] at member
    rw [taken, lastStep?_cons_of_another another] at takes
    exact economy.newest holds locks takes member
  | begins _ _ waits =>
    rw [waits] at locks
    cases locks
  | moves holds _ _ move =>
    rw [stores, move.storing?_eq_none locks] at member
    rcases move.acquires_or_hasLock locks with rfl | ⟨passed, locked⟩
    · rw [taken_cons_acquire] at takes
      cases takes
      exact record.taken_lt_length_of_mem member
    · rw [taken, lastStep?_cons_of_none passed] at takes
      exact economy.newest holds locked takes member

omit record in
theorem ordered_step : (stores policy (⟨lane, step, event, next⟩ :: past)).Pairwise
    fun newer older => older.taken < newer.taken := by
  rw [stores]
  cases storing : storing? policy past step with
  | none => exact economy.ordered
  | some store =>
    obtain ⟨id, result, now, reading, rfl, -, takes, -, -⟩ := exists_settle_of_storing? storing
    obtain ⟨slot, behind, loads, -, -⟩ := here.loading_of_settle
    refine List.pairwise_cons.2 ⟨?_, economy.ordered⟩
    intro older member
    exact economy.newest loads rfl takes member

theorem further : Economy policy resource (⟨lane, step, event, next⟩ :: past) next where
  last := by
    intro store found
    exact economy.last_step record here found
  marked := by
    intro id phase slot acquired found uses tracked mark takes
    exact economy.marked_step record here found uses tracked mark takes
  newest := by
    intro id phase acquired store found locks takes member
    exact economy.newest_step record here found locks takes member
  ordered := economy.ordered_step here

end Steps

end Economy

theorem LaneRecorded.economy {policy : Policy} {resource : String} {past : Course} {lane : Lane}
    (record : LaneRecorded policy resource past lane) : Economy policy resource past lane := by
  induction record with
  | nothing => exact .nothing
  | further record here ih => exact ih.further record here

/-! ## While a store lasts -/

/-- A task decides by a reading of the clock that is not before an instant. -/
def DecidesFrom (limit : Int64) (moment : Moment Lane (Option Step) Event) : Prop :=
  ∃ now, moment.step.bind Step.reading? = some now ∧ limit ≤ now

instance (limit : Int64) : DecidablePred (DecidesFrom limit) := fun moment =>
  match reads : moment.step.bind Step.reading? with
  | some now =>
    decidable_of_iff (limit ≤ now) ⟨fun late => ⟨now, reads, late⟩, fun ⟨_, same, late⟩ =>
      Option.some.inj (reads.symm.trans same) ▸ late⟩
  | none => isFalse fun ⟨_, same, _⟩ => by cases reads.symm.trans same

/-- A store lasts: it was not withdrawn since its task was given the lock, and no task that decided
since it was stored read the clock when it was stale. -/
structure Lasting (resource : String) (past : Course) (store : Store) : Prop where
  kept : ¬ OccursSince (Withdraws resource) store.taken past
  early : ¬ OccursSince (DecidesFrom store.holding.staleFrom) store.stored past

/-- A task decides between the entry and a load. -/
def Decides (moment : Moment Lane (Option Step) Event) : Prop :=
  ∃ id now, moment.step = some (.decide id now)

/-- Since a store was stored, no load began, and each task that decided was served with it. -/
def ServesSince (resource : String) (past : Course) (store : Store) : Prop :=
  ∀ instant, store.stored < instant →
    ¬ Occurs (fun moment => moment.event = .loading resource) instant past ∧
    (Occurs Decides instant past →
      Occurs (fun moment => moment.event = .hit store.holding.credential) instant past)

section Lasting

variable {policy : Policy} {resource : String} {past : Course} {lane next : Lane}
  {step : Option Step} {event : Event} {id : TaskId} {store : Store} {slot : Slot} {now : Int64}

/-- The last store is fresh as long as it lasts. -/
theorem LaneRecorded.fresh?_of_last (record : LaneRecorded policy resource past lane)
    (last : (stores policy past).head? = some store)
    (lasts : ¬ OccursSince (Withdraws resource) store.taken past) (tracked : lane.slot = some slot)
    (early : now < store.holding.staleFrom) :
    slot.entry.fresh? now = some store.holding.credential := by
  rcases record.economy.last last with withdrawn | ⟨keeps, -⟩
  · exact absurd withdrawn lasts
  · have holds := record.map_holding_kept
    rw [keeps, Option.map_some, Lane.holding?_of_slot tracked] at holds
    rw [Entry.fresh?_of_holding holds.symm, if_neg (Int64.not_le.2 early)]

theorem Lasting.of_cons {moment : Moment Lane (Option Step) Event}
    (lasting : Lasting resource (moment :: past) store) : Lasting resource past store where
  kept := by
    intro withdrawn
    exact lasting.kept withdrawn.later
  early := by
    intro late
    exact lasting.early late.later

/-- A task that decides while a store lasts is served with it. -/
theorem LaneRecorded.hit_of_lasting (record : LaneRecorded policy resource past lane)
    (here : LaneChange policy resource lane (some (.decide id now)) event next)
    (last : (stores policy past).head? = some store) (stored : store.stored < past.length)
    (lasting : Lasting resource (⟨lane, some (.decide id now), event, next⟩ :: past) store) :
    event = .hit store.holding.credential := by
  have early : now < store.holding.staleFrom := by
    refine Int64.not_le.1 fun late => lasting.early (.here stored ?_)
    exact ⟨now, rfl, late⟩
  cases here with
  | move found tracked move =>
    have fresh := record.fresh?_of_last last lasting.of_cons.kept tracked early
    cases move with
    | hit serves =>
      rw [fresh] at serves
      rw [Option.some.inj serves]
    | load stale => cases fresh.symm.trans stale

/-- A load begins with a decision. -/
theorem LaneChange.decides_of_loading {other : String}
    (here : LaneChange policy resource lane step (.loading other) next) :
    ∃ id now, step = some (.decide id now) := by
  cases here with
  | move _ _ move =>
    cases move
    exact ⟨_, _, rfl⟩

/-- While no load is in flight nothing is stored. -/
theorem LaneChange.storing?_eq_none (here : LaneChange policy resource lane step event next)
    (quiet : ∀ id, lane.phases id ≠ some .loading) : storing? policy past step = none := by
  apply Option.eq_none_iff_forall_not_mem.2
  intro store storing
  obtain ⟨id, result, now, reading, rfl, -⟩ := exists_settle_of_storing? storing
  obtain ⟨slot, behind, loads, -⟩ := here.loading_of_settle
  exact quiet id loads

/-- Behind a moment at which a load is settled no load is in flight. -/
theorem LaneRecorded.quiet_of_settle {result : LoadResult}
    (record : LaneRecorded policy resource past lane)
    (here : LaneChange policy resource lane (some (.settle id result now)) event next) :
    ∀ other, next.phases other ≠ some .loading := by
  intro other found
  cases record.sound.arrival here found with
  | stays holds another _ =>
    obtain ⟨slot, behind, loads, -⟩ := here.loading_of_settle
    have same := record.sound.lock_exclusive loads holds rfl rfl
    exact another _ rfl (congrArg some same)
  | begins _ _ waits => cases waits
  | moves _ _ _ move => cases move

theorem LaneRecorded.sustained (record : LaneRecorded policy resource past lane)
    (member : store ∈ stores policy past) (lasting : Lasting resource past store) :
    (stores policy past).head? = some store ∧ (∀ id, lane.phases id ≠ some .loading) ∧
      ServesSince resource past store := by
  induction record with
  | nothing => cases member
  | @further past lane next step event record here ih =>
    rw [stores, List.mem_append, Option.mem_toList] at member
    rcases member with new | older
    · have last : (stores policy (⟨lane, step, event, next⟩ :: past)).head? = some store := by
        rw [stores, new]
        rfl
      obtain ⟨id, result, now, reading, rfl, -, -, -, stored⟩ := exists_settle_of_storing? new
      refine ⟨last, record.quiet_of_settle here, ?_⟩
      intro instant later
      have beyond : ¬ instant < past.length + 1 := by omega
      constructor
      · intro occurs
        exact beyond occurs.lt_length
      · intro occurs
        exact absurd occurs.lt_length beyond
    · obtain ⟨last, quiet, serves⟩ := ih older lasting.of_cons
      have stored := record.stored_lt_length_of_mem older
      have nothing : storing? policy past step = none := here.storing?_eq_none quiet
      have idle : event ≠ .loading resource := by
        rintro rfl
        obtain ⟨id, now, rfl⟩ := here.decides_of_loading
        cases record.hit_of_lasting here last stored lasting
      refine ⟨?_, ?_, ?_⟩
      · rw [stores, nothing]
        exact last
      · intro id found
        cases record.sound.arrival here found with
        | stays holds _ _ => exact quiet id holds
        | begins _ _ waits => cases waits
        | moves _ _ _ move =>
          cases move
          exact idle rfl
      · intro instant later
        obtain ⟨quietSince, served⟩ := serves instant later
        constructor
        · intro loads
          exact quietSince (loads.of_cons idle)
        · rintro (⟨now, id, reading, same⟩ | before)
          · cases same
            rw [now]
            exact .here _ past (record.hit_of_lasting here last stored lasting)
          · exact (served before).later

end Lasting

/-! ## Where a load begins -/

/-- A task that loads finds the last store stale, or it was withdrawn. -/
theorem LaneRecorded.stale_of_load {policy : Policy} {resource : String} {past : Course}
    {lane next : Lane} {id : TaskId} {now : Int64} {latest : Store}
    (record : LaneRecorded policy resource past lane)
    (here : LaneChange policy resource lane (some (.decide id now)) (.loading resource) next)
    (last : (stores policy past).head? = some latest) :
    OccursSince (Withdraws resource) latest.taken past ∨ latest.holding.staleFrom ≤ now := by
  by_cases withdrawn : OccursSince (Withdraws resource) latest.taken past
  · exact .inl withdrawn
  · right
    apply Int64.not_lt.1
    intro early
    cases here with
    | move _ tracked move =>
      cases move with
      | load stale => cases (record.fresh?_of_last last withdrawn tracked early).symm.trans stale

theorem Move.resource_of_loading {policy : Policy} {id : TaskId} {resource other : String}
    {step : Step} {before phase : Phase} {slot behind : Slot}
    (move : Move policy id resource step (.loading other) before slot phase behind) :
    resource = other := by
  cases move
  rfl

/-- A step with which a load begins is about the resource of the load. -/
theorem Change.subject?_of_loading {policy : Policy} {state next : State} {step : Step}
    {resource : String} (change : Change policy state step (.loading resource) next) :
    state.subject? step = some resource := by
  cases change with
  | move found move =>
    rw [move.subject?, found, Option.map_some, move.resource_of_loading]

/-- **No load without need.** Where a credential of the resource was stored, a load begins only if
what is kept was withdrawn since the task of that store was given the lock, or if the task that
begins the load has read the clock when the last store was stale. And as long as a store lasts, no
load begins, and every task that decides is served with the credential that was stored. -/
theorem no_redundant_load {policy : Policy} {past : Past} {state : State} {resource : String}
    {store : Store} (record : Chronicle policy past state)
    (member : store ∈ stores policy (course resource past)) :
    (∀ (id : TaskId) (now : Int64) (next : State),
      state.step policy (.decide id now) = some (next, .loading resource) →
        OccursSince (Withdraws resource) store.taken (course resource past) ∨
          ∃ latest, (stores policy (course resource past)).head? = some latest ∧
            latest.holding.staleFrom ≤ now) ∧
    (Lasting resource (course resource past) store →
      ServesSince resource (course resource past) store) := by
  have laneRecord := laneRecorded_course record resource
  refine ⟨?_, fun lasting => (laneRecord.sustained member lasting).2.2⟩
  intro id now next taken
  obtain ⟨latest, older, list⟩ : ∃ latest older,
      stores policy (course resource past) = latest :: older :=
    List.exists_cons_of_ne_nil (List.ne_nil_of_mem member)
  have last : (stores policy (course resource past)).head? = some latest := by
    rw [list, List.head?_cons]
  have here : LaneChange policy resource (state.lane resource) (some (.decide id now))
      (.loading resource) (next.lane resource) := by
    have change := change_of_step taken
    exact (Sound.of_chronicle record).lane_change change change.subject?_of_loading
  rcases laneRecord.stale_of_load here last with withdrawn | stale
  · refine .inl (withdrawn.of_le ?_)
    have ordered := laneRecord.economy.ordered
    rw [list] at member ordered
    rcases List.mem_cons.1 member with rfl | before
    · exact Nat.le_refl _
    · exact Nat.le_of_lt ((List.pairwise_cons.1 ordered).1 store before)
  · exact .inr ⟨latest, last, stale⟩

/-- Two tasks wait while the first one loads; both are served with what it stores. -/
def shared : List Step :=
  [.beginGet 1 "r", .acquire 1, .beginGet 2 "r", .sweep 1, .decide 1 0, .beginGet 3 "r",
    .settle 1 (.answered (.ok [sampleToken 1001 sampleExpiry_pos])) 1, .acquire 3, .leave 1, .sweep 3,
    .decide 3 500, .acquire 2, .leave 3, .sweep 2, .decide 2 900, .leave 2,
    .beginGet 1 "r", .acquire 1, .sweep 1]

/-- What the first task stores. -/
def sharedStore : Store := ⟨1, 4, 6, ⟨sampleToken 1001 sampleExpiry_pos, 901⟩⟩

theorem no_redundant_load_shared :
    Chronicle Policy.standard (historyOf shared).1 (historyOf shared).2 ∧
      sharedStore ∈ stores Policy.standard (course "r" (historyOf shared).1) ∧
      Lasting "r" (course "r" (historyOf shared).1) sharedStore ∧
      ServesSince "r" (course "r" (historyOf shared).1) sharedStore ∧
      ((historyOf shared).2.step Policy.standard (.decide 1 901)).map Prod.snd =
        some (.loading "r") ∧
      (OccursSince (Withdraws "r") sharedStore.taken (course "r" (historyOf shared).1) ∨
        ∃ latest, (stores Policy.standard (course "r" (historyOf shared).1)).head? = some latest ∧
          latest.holding.staleFrom ≤ 901) := by
  have record := chronicle_historyOf shared
  have member : sharedStore ∈ stores Policy.standard (course "r" (historyOf shared).1) := by
    decide +kernel
  have lasting : Lasting "r" (course "r" (historyOf shared).1) sharedStore :=
    ⟨by decide +kernel, by decide +kernel⟩
  have loads : ((historyOf shared).2.step Policy.standard (.decide 1 901)).map Prod.snd =
      some (.loading "r") := by decide +kernel
  obtain ⟨⟨next, event⟩, taken, begins⟩ := Option.map_eq_some_iff.1 loads
  cases begins
  have economy := no_redundant_load record member
  exact ⟨record, member, lasting, economy.2 lasting, loads, economy.1 1 901 next taken⟩

end StorageBroker.Refresher
