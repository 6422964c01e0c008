import StorageBroker.Proofs.Refresher.Barrier

/-!
# Where credentials come from

What a caller is given for a resource is the fallback that the refresher was set up with, or one of
the candidates with which a load for this very resource was answered, and it belongs to the backend of
the refresher. The same holds of what the entry of a resource holds (`provenance`).

Only a settled load writes into an entry (`Policy.Brings`), and it is settled in the lane of its
resource. A task that has come to load began the load for the resource it got its slot for, and has
taken no other step since (`Chronicle.exists_load`). So the answer that a load is settled with was
given to a load for the resource of the entry (`Chronicle.supplied`).
-/

set_option autoImplicit false

namespace StorageBroker.Refresher

/-! ## What a load brings -/

/-- The credential that a load with a result brings: the one selected among its candidates, or the
fallback. -/
inductive Policy.Brings (policy : Policy) (result : LoadResult) (credential : Credential) : Prop where
  | selected {candidates : List Credential} (answered : result = .answered (.ok candidates))
      (selects : policy.backend.select candidates = some credential)
  | fallback (same : policy.fallback = some credential)

namespace Policy

variable {policy : Policy} {resource : String} {entry : Entry} {result : LoadResult} {now : Int64}
  {candidates : List Credential} {credential : Credential} {holding : Holding}

theorem eq_answered_of_answerOf (answer : policy.answerOf result = .ok candidates) :
    result = .answered (.ok candidates) := by
  cases result with
  | answered other => exact congrArg LoadResult.answered answer
  | timedOut => cases answer

/-- What a load stores it has brought. -/
theorem brings_of_stored? (stored : policy.stored? result now = some holding) :
    policy.Brings result holding.credential := by
  unfold stored? at stored
  split at stored
  · cases stored
  · next candidates answer =>
    have answered := eq_answered_of_answerOf answer
    split at stored
    · obtain ⟨fallback, same, rfl⟩ := Option.map_eq_some_iff.1 stored
      exact .fallback same
    · next selected selects =>
      split at stored
      · cases stored
        exact .selected answered selects
      · split at stored
        · cases stored
        · cases stored
          exact .selected answered selects

/-- A caller is given what a load has brought, or what the entry held. -/
theorem brings_or_held_of_settle
    (told : (policy.settle resource entry result now).1 = .ok credential) :
    policy.Brings result credential ∨ entry.credential? = some credential := by
  cases answer : policy.answerOf result with
  | error error => exact .inr (credential?_of_settle_ok answer told)
  | ok candidates =>
    have answered := eq_answered_of_answerOf answer
    unfold settle at told
    simp only [answer] at told
    split at told
    · split at told
      · next fallback same =>
        cases told
        exact .inl (.fallback same)
      · cases told
    · next selected selects =>
      refine .inl (.selected answered ?_)
      split at told
      · cases told
        exact selects
      · split at told <;> cases told <;> exact selects

end Policy

/-! ## What a task has done -/

/-- A task takes a step. -/
def TakenBy (id : TaskId) (moment : Moment State Step Event) : Prop := moment.step.task? = some id

/-- A task begins. -/
def BegunBy (id : TaskId) (moment : Moment State Step Event) : Prop :=
  moment.step.task? = some id ∧ moment.step.begins? = some ()

/-- A task got hold of its slot to get a credential for the resource, and has not begun anew since. -/
def Gets (id : TaskId) (resource : String) (past : Past) : Prop :=
  ∃ start, Occurs (fun moment => moment.step = .beginGet id resource) start past ∧
    ¬ OccursSince (BegunBy id) start past

/-- A load for the resource was answered with candidates: a task began it, and the next step of the
task was to settle it with this answer. -/
def Supplied (resource : String) (candidates : List Credential) (past : Past) : Prop :=
  ∃ id reading now began ended,
    Occurs (fun moment => moment.step = .decide id reading ∧
      moment.event = .loading resource) began past ∧
    Occurs (fun moment => moment.step = .settle id (.answered (.ok candidates)) now) ended past ∧
    began < ended ∧
    ∀ instant, began < instant → instant < ended → ¬ Occurs (TakenBy id) instant past

/-- How a task comes to be there behind a step: it was there and another one took the step, or it
begins, or it moves. -/
inductive TaskChange (policy : Policy) (state : State) (id : TaskId) (task : Task) :
    Step → Event → Prop where
  | stays {step : Step} {event : Event} (found : state.tasks.get? id = some task)
      (another : step.task? ≠ some id) : TaskChange policy state id task step event
  | begins {step : Step} {event : Event} (own : step.task? = some id)
      (began : task.phase.BeganBy id task.resource step) (waits : task.phase.hasLock = false) :
      TaskChange policy state id task step event
  | moves {before : Task} {step : Step} {event : Event} {behind : Slot}
      (found : state.tasks.get? id = some before) (same : before.resource = task.resource)
      (move : Move policy id task.resource step event before.phase (state.slots before.slot)
        task.phase behind) : TaskChange policy state id task step event

section Tasks

variable {policy : Policy} {state next : State} {step : Step} {event : Event} {id : TaskId}
  {task : Task} {resource : String} {past : Past} {candidates : List Credential} {now : Int64}

theorem Change.taskChange (change : Change policy state step event next)
    (found : next.tasks.get? id = some task) : TaskChange policy state id task step event := by
  have another : ∀ {other : TaskId}, other ≠ id → some other ≠ some id := by
    intro other different same
    exact different (Option.some.inj same)
  cases change with
  | join _ _ =>
    rw [State.tasks_joinSlot] at found
    split at found
    · next same =>
      cases found
      subst same
      exact .begins rfl rfl rfl
    · next different => exact .stays found (another different)
  | opening _ _ =>
    rw [State.tasks_openSlot] at found
    split at found
    · next same =>
      cases found
      subst same
      exact .begins rfl rfl rfl
    · next different => exact .stays found (another different)
  | joinToLook _ _ =>
    rw [State.tasks_setTask] at found
    split at found
    · next same =>
      cases found
      subst same
      exact .begins rfl rfl rfl
    · next different => exact .stays found (another different)
  | lookAtNothing new _ =>
    refine .stays found (another ?_)
    rintro rfl
    cases new.symm.trans found
  | move holds move =>
    rw [State.tasks_advance] at found
    split at found
    · next same =>
      cases found
      subst same
      exact .moves holds rfl move
    · next different =>
      refine .stays found ?_
      rw [move.task?]
      exact another different
  | leave _ _ =>
    rw [State.tasks_dropTask] at found
    split at found
    · cases found
    · next different => exact .stays found (another different)
  | invalidateNothing _ => exact .stays found (Option.some_ne_none id).symm
  | invalidateIdle _ _ => exact .stays found (Option.some_ne_none id).symm
  | invalidateHeld _ _ => exact .stays found (Option.some_ne_none id).symm

/-- A task has begun with one of the steps by which it can have come to its phase. -/
theorem Chronicle.exists_beginning (record : Chronicle policy past state)
    (found : state.tasks.get? id = some task) :
    ∃ start, Occurs (fun moment => task.phase.BeganBy id task.resource moment.step) start past ∧
      ¬ OccursSince (BegunBy id) start past := by
  induction record generalizing task with
  | nothing => cases found
  | @further past state reached step event record here ih =>
    cases (change_of_step here).taskChange found with
    | stays held another =>
      obtain ⟨start, began, still⟩ := ih held
      exact ⟨start, began.later, OccursSince.not_cons still fun begun => another begun.1⟩
    | begins own began _ =>
      exact ⟨past.length, .here _ past began, OccursSince.not_since_last⟩
    | @moves before _ _ _ held same move =>
      obtain ⟨start, began, still⟩ := ih held
      rw [same] at began
      refine ⟨start, .later (began.mono fun _ => move.beganBy), OccursSince.not_cons still ?_⟩
      rintro ⟨-, begins⟩
      cases move.begins?.symm.trans begins

/-- A task that was not there at the start of a run began the load that is in flight in the course of
the run, for its resource, and has taken no step since. -/
theorem exists_load_of_new {start : State} (run : Recorded (State.step policy) start past state)
    (new : start.tasks.get? id = none) (found : state.tasks.get? id = some task)
    (loads : task.phase = .loading) :
    ∃ reading began, Occurs (fun moment => moment.step = .decide id reading ∧
        moment.event = .loading task.resource) began past ∧
      ¬ OccursSince (TakenBy id) began past := by
  induction run generalizing task with
  | nothing => cases new.symm.trans found
  | @further past state reached step event record here ih =>
    cases (change_of_step here).taskChange found with
    | stays held another =>
      obtain ⟨reading, began, begins, still⟩ := ih held loads
      exact ⟨reading, began, begins.later, OccursSince.not_cons still another⟩
    | begins _ _ waits =>
      rw [loads] at waits
      cases waits
    | @moves before _ _ _ _ _ move =>
      rw [loads] at move
      generalize before.phase = earlier at move
      cases move
      exact ⟨_, past.length, .here _ past ⟨rfl, rfl⟩, OccursSince.not_since_last⟩

/-- A task whose load is in flight began it for its resource, and has taken no step since. -/
theorem Chronicle.exists_load (record : Chronicle policy past state)
    (found : state.tasks.get? id = some task) (loads : task.phase = .loading) :
    ∃ reading began, Occurs (fun moment => moment.step = .decide id reading ∧
        moment.event = .loading task.resource) began past ∧
      ¬ OccursSince (TakenBy id) began past :=
  exists_load_of_new record rfl found loads

/-- All that settling a load does: the caller is told, and the entry becomes, what the load means. -/
theorem Change.exists_settlement {result : LoadResult}
    (change : Change policy state (.settle id result now) event next) :
    ∃ task, state.tasks.get? id = some task ∧ task.phase = .loading ∧
      next.tracked = state.tracked ∧
      event = .settled
        (policy.settle task.resource (state.slots task.slot).entry result now).1 ∧
      (next.slots task.slot).entry =
        (policy.settle task.resource (state.slots task.slot).entry result now).2 := by
  cases change with
  | @move _ task _ _ _ _ found move =>
    generalize phase : task.phase = before at move
    cases move
    refine ⟨task, found, phase, rfl, rfl, ?_⟩
    rw [State.slots_advance, if_pos rfl, Slot.entry_released]

/-- A task that settles a load has come to load, and its slot is left with what the load means for
the entry. -/
theorem Change.exists_settled {result : LoadResult}
    (change : Change policy state (.settle id result now) event next) :
    ∃ task, state.tasks.get? id = some task ∧ task.phase = .loading ∧
      (next.slots task.slot).entry =
        (policy.settle task.resource (state.slots task.slot).entry result now).2 := by
  obtain ⟨task, found, loads, -, -, entry⟩ := change.exists_settlement
  exact ⟨task, found, loads, entry⟩

theorem Supplied.append (later : Past) (supplied : Supplied resource candidates past) :
    Supplied resource candidates (later ++ past) := by
  obtain ⟨id, reading, now, began, ended, begins, settles, before, alone⟩ := supplied
  refine ⟨id, reading, now, began, ended, begins.append later, settles.append later, before, ?_⟩
  intro instant after early occurs
  exact alone instant after early (occurs.of_append (Nat.lt_trans early settles.lt_length))

/-- A load that is settled was begun for the resource of its task. -/
theorem Chronicle.supplied_of_settle (record : Chronicle policy past state)
    (taken : state.step policy (.settle id (.answered (.ok candidates)) now) = some (next, event))
    (about : state.subject? (.settle id (.answered (.ok candidates)) now) = some resource) :
    Supplied resource candidates
      (⟨state, .settle id (.answered (.ok candidates)) now, event, next⟩ :: past) := by
  obtain ⟨task, found, loads, -⟩ := (change_of_step taken).exists_settled
  rw [State.subject?, found] at about
  cases about
  obtain ⟨reading, began, begins, still⟩ := record.exists_load found loads
  refine ⟨id, reading, now, began, past.length, begins.later, .here _ past rfl,
    begins.lt_length, ?_⟩
  intro instant after early occurs
  rcases occurs with ⟨last, -⟩ | occurs
  · omega
  · exact still ⟨instant, after, occurs⟩

/-- The answer that a load is settled with was given to a load for the resource. -/
theorem Chronicle.supplied {instant : Nat} (record : Chronicle policy past state)
    (settles : Occurs (fun moment => moment.step = .settle id (.answered (.ok candidates)) now ∧
      moment.before.subject? moment.step = some resource) instant past) :
    Supplied resource candidates past := by
  obtain ⟨later, ⟨before, step, event, after⟩, earlier, rfl, -, ⟨same, about⟩, recorded, taken⟩ :=
    record.exists_before settles
  dsimp only at same about recorded taken
  subst same
  exact (Chronicle.supplied_of_settle recorded taken about).append later

end Tasks

/-! ## Provenance -/

/-- A credential is the fallback, or a candidate with which a load for the resource was answered; and
it belongs to the backend. -/
structure Provenance (backend : Backend) (fallback : Option Credential) (resource : String)
    (past : Past) (credential : Credential) : Prop where
  source : fallback = some credential ∨
    ∃ candidates, Supplied resource candidates past ∧ credential ∈ candidates
  backend : credential.kind.backend = backend

section Provenances

variable {policy : Policy} {state next : State} {step : Step} {event : Event} {resource : String}
  {past : Past} {credential : Credential}

theorem Provenance.later {backend : Backend} {fallback : Option Credential}
    (provenance : Provenance backend fallback resource past credential)
    (moment : Moment State Step Event) :
    Provenance backend fallback resource (moment :: past) credential := by
  refine ⟨?_, provenance.backend⟩
  rcases provenance.source with same | ⟨candidates, supplied, member⟩
  · exact .inl same
  · exact .inr ⟨candidates, supplied.append [moment], member⟩

/-- A step in the course of a resource is about the resource. -/
theorem occurs_of_course {instant : Nat}
    (occurs : Occurs (fun moment => moment.step = some step) instant (course resource past)) :
    Occurs (fun moment => moment.step = step ∧
      moment.before.subject? moment.step = some resource) instant past := by
  refine (occurs.of_map).mono ?_
  intro moment same
  rw [laneMoment] at same
  split at same
  · next about => exact ⟨Option.some.inj same, about⟩
  · cases same

theorem Chronicle.provenance_of_brings {id : TaskId} {result : LoadResult} {now : Int64}
    {instant : Nat} (record : Chronicle policy past state)
    (settles : Occurs (fun moment => moment.step = .settle id result now ∧
      moment.before.subject? moment.step = some resource) instant past)
    (brings : policy.Brings result credential) :
    Provenance policy.backend policy.fallback resource past credential := by
  cases brings with
  | selected answered selects =>
    subst answered
    obtain ⟨member, belongs⟩ := Backend.of_select selects
    exact ⟨.inr ⟨_, record.supplied settles, member⟩, belongs⟩
  | fallback same => exact ⟨.inl same, policy.fallback_backend credential same⟩

/-- What the entry of a resource holds has come from a load for it, or is the fallback. -/
theorem Chronicle.provenance_of_holding {holding : Holding} (record : Chronicle policy past state)
    (holds : (state.lane resource).holding? = some holding) :
    Provenance policy.backend policy.fallback resource past holding.credential := by
  have laneRecord := laneRecorded_course record resource
  rw [← laneRecord.map_holding_kept] at holds
  obtain ⟨store, keeps, rfl⟩ := Option.map_eq_some_iff.1 holds
  obtain ⟨id, reading, result, now, -, -, settles, stored⟩ :=
    laneRecord.loaded_of_mem_stores (mem_stores_of_kept keeps)
  exact record.provenance_of_brings (occurs_of_course settles) (Policy.brings_of_stored? stored)

theorem Chronicle.provenance_of_credential? {slot : SlotId} (record : Chronicle policy past state)
    (tracked : state.tracked.get? resource = some slot)
    (holds : (state.slots slot).entry.credential? = some credential) :
    Provenance policy.backend policy.fallback resource past credential := by
  obtain ⟨holding, held, rfl⟩ := Option.map_eq_some_iff.1 holds
  refine record.provenance_of_holding ?_
  rw [Lane.holding?_of_slot (State.slot_lane tracked), held]

/-- What a caller is given has come from a load for the resource, or is the fallback; and it was for
this resource that the caller asked. -/
theorem Chronicle.provenance_of_reply (record : Chronicle policy past state)
    (taken : state.step policy step = some (next, event))
    (told : event.reply? = some (.credential (.ok credential))) :
    ∃ id resource, step.task? = some id ∧ Gets id resource past ∧
      Provenance policy.backend policy.fallback resource (⟨state, step, event, next⟩ :: past)
        credential := by
  have held := (Sound.of_chronicle record).held
  cases change_of_step taken with
  | @move id task _ _ _ _ found move =>
    have gets : task.phase = .swept ∨ task.phase = .loading → Gets id task.resource past := by
      intro phase
      obtain ⟨start, began, still⟩ := record.exists_beginning found
      rcases phase with phase | phase <;> rw [phase] at began <;> exact ⟨start, began, still⟩
    generalize phase : task.phase = before at move gets
    refine ⟨id, task.resource, move.task?, ?_⟩
    cases move with
    | hit fresh =>
      cases told
      have holds := Entry.credential?_of_fresh? fresh
      exact ⟨gets (.inl rfl), (record.provenance_of_credential? (held found) holds).later _⟩
    | settle =>
      refine ⟨gets (.inr rfl), ?_⟩
      simp only [Event.reply?, Option.some.injEq, Reply.credential.injEq] at told
      rcases Policy.brings_or_held_of_settle told with brings | holds
      · refine Chronicle.provenance_of_brings (record.further taken) (.here _ past ⟨rfl, ?_⟩) brings
        rw [State.subject?, found, Option.map_some]
      · exact (record.provenance_of_credential? (held found) holds).later _
    | _ => cases told
  | _ => cases told

end Provenances

/-- **Credentials do not stray.** Take a refresher that was set up for a backend with a fallback, and
any run of it. A caller that is given a credential had asked for a resource, and the credential is
the fallback or a candidate with which a load for this resource was answered; and it belongs to the
backend. So does, for its resource, whatever the entry of a tracked resource or of a task holds. -/
theorem provenance {backend : Backend} {fallback : Option Credential} {config : Config}
    {policy : Policy} (created : Policy.create backend fallback config = .ok policy)
    {past : Past} {state : State} (record : Chronicle policy past state) :
    (∀ (step : Step) (event : Event) (next : State) (credential : Credential),
      state.step policy step = some (next, event) →
      event.reply? = some (.credential (.ok credential)) →
        ∃ id resource, step.task? = some id ∧ Gets id resource past ∧
          Provenance backend fallback resource (⟨state, step, event, next⟩ :: past) credential) ∧
    (∀ (resource : String) (slot : SlotId) (credential : Credential),
      state.tracked.get? resource = some slot →
      (state.slots slot).entry.credential? = some credential →
        Provenance backend fallback resource past credential) ∧
    (∀ (id : TaskId) (task : Task) (credential : Credential),
      state.tasks.get? id = some task →
      (state.slots task.slot).entry.credential? = some credential →
        Provenance backend fallback task.resource past credential) := by
  obtain ⟨rfl, rfl, rfl⟩ := Policy.of_create created
  refine ⟨?_, ?_, ?_⟩
  · intro step event next credential taken told
    exact record.provenance_of_reply taken told
  · intro resource slot credential tracked holds
    exact record.provenance_of_credential? tracked holds
  · intro id task credential found holds
    exact record.provenance_of_credential? ((Sound.of_chronicle record).held found) holds

/-- A secret key. -/
def sampleKey : Credential := .s3SecretKey ⟨⟨"id", by decide⟩, ⟨"secret", by decide⟩⟩

/-- A token of the same backend that expires at an instant. -/
def sampleKeyToken (expiry : Int64) (positive : 0 < expiry) : Credential :=
  .s3Token ⟨⟨"id", by decide⟩, ⟨"secret", by decide⟩⟩ ⟨"session", by decide⟩ ⟨expiry, positive⟩

/-- A policy with a fallback that keeps one resource apart from those in use. -/
def Policy.narrow : Policy where
  backend := .s3
  fallback := some sampleKey
  config := { Config.standard with capacity := 1 }
  valid := by decide +kernel
  fallback_backend := by
    rintro credential ⟨⟩
    rfl

/-- The token of one resource is loaded and evicted, then two resources are loaded at a time. The
load of the other one brings a token of another backend only. -/
def crowded : List Step :=
  [.beginGet 1 "a", .acquire 1, .sweep 1, .decide 1 0,
    .settle 1 (.answered (.ok [sampleToken 900 (by decide), sampleKeyToken 1100 (by decide)])) 1,
    .leave 1, .beginGet 2 "b", .acquire 2, .sweep 2, .beginGet 3 "a", .decide 2 2, .acquire 3,
    .sweep 3, .decide 3 3, .settle 2 (.answered (.ok [sampleToken 900 (by decide)])) 4]

/-- The history of `crowded`, with the state that is reached. -/
def crowdedHistory : Past × State :=
  replay (State.step Policy.narrow) State.initial crowded

theorem provenance_crowded :
    Policy.create .s3 (some sampleKey) Policy.narrow.config = .ok Policy.narrow ∧
      Chronicle Policy.narrow crowdedHistory.1 crowdedHistory.2 ∧
      Provenance .s3 (some sampleKey) "b" crowdedHistory.1 sampleKey ∧
      ∃ next, crowdedHistory.2.step Policy.narrow
          (.settle 3 (.answered (.ok [sampleKeyToken 2000 (by decide)])) 5) =
          some (next, .settled (.ok (sampleKeyToken 2000 (by decide)))) ∧
        ∃ id resource, some 3 = some id ∧ Gets id resource crowdedHistory.1 ∧
          Provenance .s3 (some sampleKey) resource
            (⟨crowdedHistory.2, .settle 3 (.answered (.ok [sampleKeyToken 2000 (by decide)])) 5,
              .settled (.ok (sampleKeyToken 2000 (by decide))), next⟩ :: crowdedHistory.1)
            (sampleKeyToken 2000 (by decide)) := by
  have created := Policy.create_self Policy.narrow
  have record : Chronicle Policy.narrow crowdedHistory.1 crowdedHistory.2 := recorded_replay crowded
  have origins := provenance created record
  have tracked : crowdedHistory.2.tracked.get? "b" = some 1 := by decide +kernel
  have holds : (crowdedHistory.2.slots 1).entry.credential? = some sampleKey := by decide +kernel
  have told : (crowdedHistory.2.step Policy.narrow
      (.settle 3 (.answered (.ok [sampleKeyToken 2000 (by decide)])) 5)).map Prod.snd =
      some (.settled (.ok (sampleKeyToken 2000 (by decide)))) := by decide +kernel
  obtain ⟨⟨next, event⟩, taken, same⟩ := Option.map_eq_some_iff.1 told
  cases same
  exact ⟨created, record, origins.2.1 "b" 1 sampleKey tracked holds, next, taken,
    origins.1 _ _ next _ taken rfl⟩

end StorageBroker.Refresher
