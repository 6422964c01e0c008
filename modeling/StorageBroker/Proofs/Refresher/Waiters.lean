import Mathlib.Data.List.Perm.Subperm
import StorageBroker.Proofs.Refresher.Balance
import StorageBroker.Proofs.Refresher.Failure
import StorageBroker.Proofs.Refresher.Economy

/-!
# Waiting while loads fail

While all loads fail, what is kept for a resource stays as it is, and stale (`Stalled`). Those who wait
for a load are not served by its failure: the next one finds the entry as stale as before, and loads
as well. Everybody is given the last good credential in the end, but each after a load of its own, one
after another (`waiters_load_in_turn`).
-/

set_option autoImplicit false

namespace StorageBroker.Refresher

/-! ## While loads fail -/

/-- A load fails, and not for a malformed credential. -/
def Policy.Fails (policy : Policy) (result : LoadResult) : Prop :=
  ∃ error, policy.answerOf result = .error error ∧ error.isInvalid = false

instance (policy : Policy) : DecidablePred policy.Fails := fun result =>
  match answer : policy.answerOf result with
  | .error error =>
    decidable_of_iff (error.isInvalid = false) ⟨fun valid => ⟨error, answer, valid⟩,
      fun ⟨_, same, valid⟩ => Except.error.inj (answer.symm.trans same) ▸ valid⟩
  | .ok _ => isFalse fun ⟨_, same, _⟩ => by cases answer.symm.trans same

/-- Who decides between the entry and a load reads the clock as it may be read, and who settles a load
has seen it fail. -/
def Step.Failing (policy : Policy) (reads : Int64 → Prop) : Step → Prop
  | .decide _ now => reads now
  | .settle _ result _ => policy.Fails result
  | .beginGet _ _ | .beginLook _ _ | .acquire _ | .sweep _ | .look _ _ | .leave _ | .abandon _
  | .invalidate _ => True

instance (policy : Policy) (reads : Int64 → Prop) [DecidablePred reads] :
    DecidablePred (Step.Failing policy reads)
  | .decide _ now => inferInstanceAs (Decidable (reads now))
  | .settle _ result _ => inferInstanceAs (Decidable (policy.Fails result))
  | .beginGet _ _ | .beginLook _ _ | .acquire _ | .sweep _ | .look _ _ | .leave _ | .abandon _
  | .invalidate _ => inferInstanceAs (Decidable True)

/-- At a moment nothing is withdrawn, and no load succeeds. (A slot that a task holds is not evicted, so
what is kept is only withdrawn by an invalidation as long as one waits for it.) -/
structure LoadsFail (policy : Policy) (resource : String) (reads : Int64 → Prop)
    (moment : Moment Lane (Option Step) Event) : Prop where
  keeps : ¬ Withdraws resource moment
  failing : ∀ step ∈ moment.step, step.Failing policy reads

instance (policy : Policy) (resource : String) (reads : Int64 → Prop) [DecidablePred reads] :
    DecidablePred (LoadsFail policy resource reads) := fun moment =>
  decidable_of_iff (¬ Withdraws resource moment ∧
    ∀ step ∈ moment.step, step.Failing policy reads)
    ⟨fun ⟨keeps, failing⟩ => ⟨keeps, failing⟩, fun fails => ⟨fails.keeps, fails.failing⟩⟩

/-- What the entry of a lane holds is stale by a reading of the clock, and the entry is not marked. -/
structure Stalled (holding : Holding) (now : Int64) (lane : Lane) : Prop where
  keeps : ∃ slot, lane.slot = some slot ∧ slot.invalidated = false ∧
    slot.entry.holding = some holding
  stale : holding.staleFrom ≤ now

section Failures

variable {policy : Policy} {resource : String} {past later : Course} {lane next start : Lane}
  {step : Option Step} {event : Event} {id : TaskId} {slot : Slot} {holding : Holding}
  {now reading : Int64} {result : LoadResult} {answer : Except CredentialError Credential}

/-- A load that fails is covered by what the entry holds, and leaves it as it is. -/
theorem Policy.Fails.settle (fails : policy.Fails result)
    (holds : slot.entry.holding = some holding) :
    policy.settle resource slot.entry result now = (.ok holding.credential, slot.entry) := by
  obtain ⟨error, failed, valid⟩ := fails
  have held : slot.entry.credential? = some holding.credential := by
    rw [Entry.credential?, holds, Option.map_some]
  rw [Policy.settle_of_failed failed valid, Policy.serveStale_of_held held]

/-- Nobody is served with what is stale. -/
theorem Stalled.fresh?_eq_none (stalled : Stalled holding now lane) (tracked : lane.slot = some slot)
    (late : now ≤ reading) : slot.entry.fresh? reading = none := by
  obtain ⟨same, tracks, -, holds⟩ := stalled.keeps
  cases tracked.symm.trans tracks
  rw [Entry.fresh?_of_holding holds, if_pos (Int64.le_trans stalled.stale late)]

section Steps

variable (stalled : Stalled holding now lane)
  (here : LaneChange policy resource lane step event next)
  (failing : LoadsFail policy resource (now ≤ ·) ⟨lane, step, event, next⟩)
include stalled here failing

/-- What is kept stays as it is while loads fail. -/
theorem Stalled.further : Stalled holding now next := by
  obtain ⟨slot, tracked, unmarked, holds⟩ := stalled.keeps
  refine ⟨?_, stalled.stale⟩
  cases tracks : next.slot with
  | none => exact absurd (.inr ⟨by rw [tracked]; rfl, by rw [tracks]; rfl⟩) failing.keeps
  | some behind =>
    refine ⟨behind, rfl, ?_⟩
    cases here.entryChange tracks with
    | keeps same entry mark _ =>
      cases tracked.symm.trans same
      rw [entry, mark]
      exact ⟨unmarked, holds⟩
    | opens untracked _ => cases tracked.symm.trans untracked
    | marks _ _ => exact absurd (.inl rfl) failing.keeps
    | sweeps _ same swept =>
      cases tracked.symm.trans same
      rw [swept, Slot.swept_of_not_invalidated unmarked]
      exact ⟨unmarked, holds⟩
    | settles _ same settled =>
      cases tracked.symm.trans same
      have fails : policy.Fails _ := failing.failing _ rfl
      rw [settled, fails.settle holds]
      exact ⟨unmarked, holds⟩

/-- Whoever decides between the entry and a load while loads fail begins a load. -/
theorem Stalled.loads (decides : Decides ⟨lane, step, event, next⟩) : event = .loading resource := by
  obtain ⟨id, reading, rfl⟩ := decides
  cases here with
  | move _ tracked move =>
    cases move with
    | hit fresh =>
      have late : now ≤ reading := failing.failing _ rfl
      cases (stalled.fresh?_eq_none tracked late).symm.trans fresh
    | load _ => rfl

/-- Whoever is answered while loads fail has loaded, and is given the last good credential. -/
theorem Stalled.told (told : event.reply? = some (.credential answer)) :
    event = .settled (.ok holding.credential) := by
  obtain ⟨slot, tracked, -, holds⟩ := stalled.keeps
  cases here with
  | move _ same move =>
    cases tracked.symm.trans same
    cases move with
    | hit fresh =>
      have late : now ≤ _ := failing.failing _ rfl
      cases (stalled.fresh?_eq_none tracked late).symm.trans fresh
    | settle =>
      have fails : policy.Fails _ := failing.failing _ rfl
      rw [fails.settle holds]
    | _ => cases told
  | _ => cases told

end Steps

/-- What a lane keeps stays as long as loads fail: whoever decides loads, and whoever is answered is
given what is kept. -/
theorem LaneRecorded.stalled_of_append (record : LaneRecorded policy resource (later ++ past) lane)
    (before : LaneRecorded policy resource past start) (stalled : Stalled holding now start)
    (failing : ∀ moment ∈ later, LoadsFail policy resource (now ≤ ·) moment) :
    Stalled holding now lane ∧
      (∀ moment ∈ later, Decides moment → moment.event = .loading resource) ∧
      ∀ moment ∈ later, ∀ answer, moment.event.reply? = some (.credential answer) →
        moment.event = .settled (.ok holding.credential) := by
  induction later generalizing lane with
  | nil =>
    rw [record.eq_of_same before]
    exact ⟨stalled, List.forall_mem_nil _, List.forall_mem_nil _⟩
  | cons moment later ih =>
    obtain ⟨last, earlier⟩ := List.forall_mem_cons.1 failing
    cases record with
    | further record here =>
      obtain ⟨still, loads, told⟩ := ih record earlier
      refine ⟨still.further here last, List.forall_mem_cons.2 ⟨still.loads here last, loads⟩,
        List.forall_mem_cons.2 ⟨?_, told⟩⟩
      intro answer reply
      exact still.told here last reply

end Failures

/-! ## Everybody can be answered -/

/-- From a history a run can go on while loads fail, to a lane; on the way a task is answered. -/
def Leads (policy : Policy) (resource : String) (now : Int64) (past : Past) (told : Option TaskId)
    (target : Lane) : Prop :=
  ∃ later last, Chronicle policy (later ++ past) last ∧
    (∀ moment ∈ course resource later, LoadsFail policy resource (· = now) moment) ∧
    (∀ id ∈ told, id ∈ answered (course resource later)) ∧ last.lane resource = target

theorem Lane.put_put (lane : Lane) (slot behind : Option Slot) (id : TaskId)
    (phase next : Option Phase) :
    (lane.put slot id phase).put behind id next = lane.put behind id next := by
  have phases : ((lane.put slot id phase).put behind id next).phases =
      (lane.put behind id next).phases := by
    funext other
    simp only [Lane.phases_put]
    split <;> rfl
  exact Lane.ext rfl phases

section Leads

variable {policy : Policy} {resource : String} {past : Past} {state : State} {step : Step}
  {event : Event} {id other : TaskId} {before phase : Phase} {slot behind : Slot}
  {holding : Holding} {now : Int64} {told more : Option TaskId} {lane target further : Lane}

/-- What matters of a slot is its entry and its mark. -/
theorem Stalled.put (stalled : Stalled holding now lane) (tracked : lane.slot = some slot)
    (entry : behind.entry = slot.entry) (mark : behind.invalidated = slot.invalidated) (id : TaskId)
    (phase : Option Phase) : Stalled holding now (lane.put (some behind) id phase) := by
  obtain ⟨same, tracks, unmarked, holds⟩ := stalled.keeps
  cases tracked.symm.trans tracks
  exact ⟨⟨behind, rfl, mark.trans unmarked, entry ▸ holds⟩, stalled.stale⟩

/-- A run goes on to a lane and from there to another one. -/
theorem Leads.trans (leads : Leads policy resource now past told target)
    (goesOn : ∀ past state, Chronicle policy past state → state.lane resource = target →
      Leads policy resource now past more further) :
    Leads policy resource now past more further := by
  obtain ⟨later, last, record, failing, -, reached⟩ := leads
  obtain ⟨latest, final, longer, fails, answers, behind⟩ := goesOn _ last record reached
  rw [← List.append_assoc] at longer
  refine ⟨latest ++ later, final, longer, ?_, ?_, behind⟩
  · rw [course_append, List.forall_mem_append]
    exact ⟨fails, failing⟩
  · intro id asked
    rw [course_append, answered, List.filterMap_append]
    exact List.mem_append_left _ (answers id asked)

/-- A run goes on with a move. -/
theorem Leads.of_move (record : Chronicle policy past state) (same : state.lane resource = lane)
    (found : lane.phases id = some before) (tracked : lane.slot = some slot)
    (move : Move policy id resource step event before slot phase behind)
    (failing : step.Failing policy (· = now)) :
    Leads policy resource now past
      (answered? ⟨lane, some step, event, lane.put (some behind) id (some phase)⟩)
      (lane.put (some behind) id (some phase)) := by
  subst same
  obtain ⟨task, holds, rfl, rfl⟩ := State.exists_task_of_phases_lane found
  have held := (Sound.of_chronicle record).held holds
  cases (State.slot_lane held).symm.trans tracked
  have reached : (state.advance id task phase behind).lane task.resource =
      (state.lane task.resource).put (some behind) id (some phase) :=
    State.lane_advance_self phase behind held
  have about : state.subject? step = some task.resource := by
    rw [move.subject?, holds, Option.map_some]
  have moment : laneMoment task.resource
      ⟨state, step, event, state.advance id task phase behind⟩ =
      ⟨state.lane task.resource, some step, event,
        (state.lane task.resource).put (some behind) id (some phase)⟩ := by
    rw [laneMoment, if_pos about, reached]
  refine ⟨[⟨state, step, event, _⟩], _, record.further (step_of_change (.move holds move)), ?_, ?_,
    reached⟩
  · rw [course, List.map_singleton, moment, List.forall_mem_singleton]
    refine ⟨?_, fun same taken => ?_⟩
    · rintro (invalidates | ⟨-, untracked⟩)
      · cases Option.some.inj invalidates
        cases move.task?
      · cases untracked
    · cases taken
      exact failing
  · intro id asked
    rw [course, List.map_singleton, moment, answered, List.filterMap_cons_some asked]
    exact List.mem_cons_self

section Release

variable (record : Chronicle policy past state) (same : state.lane resource = lane)
  (stalled : Stalled holding now lane) (tracked : lane.slot = some slot)
include record same stalled tracked

/-- A load can be cut off, so that its task is answered and gives the lock back. -/
theorem Leads.release_of_loading (found : lane.phases id = some .loading) :
    Leads policy resource now past (some id)
      (lane.put (some (slot.released slot.entry)) id (some .leaving)) := by
  obtain ⟨other, tracks, -, holds⟩ := stalled.keeps
  cases tracked.symm.trans tracks
  have fails : policy.Fails .timedOut := ⟨_, rfl, rfl⟩
  have settles : Move policy id resource (.settle id .timedOut now) _ .loading slot .leaving _ :=
    .settle
  rw [fails.settle holds] at settles
  exact .of_move record same found tracked settles fails

/-- A task that decides loads, as nothing is fresh. -/
theorem Leads.release_of_swept (found : lane.phases id = some .swept) :
    Leads policy resource now past (some id)
      (lane.put (some (slot.released slot.entry)) id (some .leaving)) := by
  have loads : Move policy id resource (.decide id now) _ .swept slot .loading slot :=
    .load (stalled.fresh?_eq_none tracked (Int64.le_refl now))
  refine (Leads.of_move record same found tracked loads rfl).trans fun past state further same => ?_
  rw [← Lane.put_put lane (some slot) _ id (some .loading)]
  exact .release_of_loading further same (stalled.put tracked rfl rfl id _) rfl
    (by rw [Lane.phases_put, if_pos rfl])

/-- A task that has the lock finds no mark. -/
theorem Leads.release_of_locked (found : lane.phases id = some .locked) :
    Leads policy resource now past (some id)
      (lane.put (some (slot.released slot.entry)) id (some .leaving)) := by
  obtain ⟨other, tracks, unmarked, -⟩ := stalled.keeps
  cases tracked.symm.trans tracks
  have sweeps : Move policy id resource (.sweep id) _ .locked slot .swept slot.swept := .sweep
  rw [Slot.swept_of_not_invalidated unmarked] at sweeps
  refine (Leads.of_move record same found tracked sweeps trivial).trans
    fun past state further same => ?_
  rw [← Lane.put_put lane (some slot) _ id (some .swept)]
  exact .release_of_swept further same (stalled.put tracked rfl rfl id _) rfl
    (by rw [Lane.phases_put, if_pos rfl])

/-- Whoever has the lock can give it back. -/
theorem Leads.release (found : lane.phases id = some phase) (locks : phase.hasLock = true) :
    ∃ told, Leads policy resource now past told
      (lane.put (some (slot.released slot.entry)) id (some .leaving)) := by
  cases phase with
  | waiting => cases locks
  | locked => exact ⟨some id, .release_of_locked record same stalled tracked found⟩
  | swept => exact ⟨some id, .release_of_swept record same stalled tracked found⟩
  | loading => exact ⟨some id, .release_of_loading record same stalled tracked found⟩
  | waitingToLook => cases locks
  | looking =>
    have looks : Move policy id resource (.look id now) _ .looking slot .leaving _ := .look
    exact ⟨none, .of_move record same found tracked looks trivial⟩
  | leaving => cases locks

/-- A task that waits can be answered when the lock is free. -/
theorem Leads.release_of_waiting (found : lane.phases id = some .waiting)
    (free : slot.owner = none) : Leads policy resource now past (some id)
      (lane.put (some (slot.released slot.entry)) id (some .leaving)) := by
  have acquires : Move policy id resource (.acquire id) _ .waiting slot .locked (slot.ownedBy id) :=
    .acquire free
  refine (Leads.of_move record same found tracked acquires trivial).trans
    fun past state further same => ?_
  have still : Stalled holding now (lane.put (some (slot.ownedBy id)) id (some .locked)) :=
    stalled.put tracked (slot.entry_ownedBy id) (slot.invalidated_ownedBy id) id _
  have released : slot.released slot.entry = (slot.ownedBy id).released (slot.ownedBy id).entry := rfl
  rw [released, ← Lane.put_put lane (some (slot.ownedBy id)) _ id (some .locked)]
  exact .release_of_locked further same still rfl (by rw [Lane.phases_put, if_pos rfl])

end Release

/-- **Whoever is on its way can be answered**, also when no load succeeds. A task that has the lock gives
it back first. -/
theorem Leads.exists_of_seeks (record : Chronicle policy past state)
    (stalled : Stalled holding now (state.lane resource)) (seeks : (state.lane resource).Seeks id) :
    ∃ target, Leads policy resource now past (some id) target := by
  obtain ⟨phase, found, onTheWay⟩ := seeks
  obtain ⟨slot, tracked, -⟩ := stalled.keeps
  cases phase with
  | waiting =>
    cases owner : slot.owner with
    | none => exact ⟨_, .release_of_waiting record rfl stalled tracked found owner⟩
    | some other =>
      obtain ⟨phase, holds, locks⟩ := (laneRecorded_course record resource).owned tracked owner
      obtain ⟨told, leads⟩ := Leads.release record rfl stalled tracked holds locks
      have different : other ≠ id := by
        rintro rfl
        cases holds.symm.trans found
        cases locks
      have waits : ((state.lane resource).put (some (slot.released slot.entry)) other
          (some .leaving)).phases id = some .waiting := by
        rw [Lane.phases_put, if_neg different, found]
      have still : Stalled holding now ((state.lane resource).put
          (some (slot.released slot.entry)) other (some .leaving)) :=
        stalled.put tracked (slot.entry_released _) (slot.invalidated_released _) other _
      exact ⟨_, leads.trans fun past state further same =>
        .release_of_waiting further same still rfl waits rfl⟩
  | locked => exact ⟨_, .release_of_locked record rfl stalled tracked found⟩
  | swept => exact ⟨_, .release_of_swept record rfl stalled tracked found⟩
  | loading => exact ⟨_, .release_of_loading record rfl stalled tracked found⟩
  | waitingToLook => cases onTheWay
  | looking => cases onTheWay
  | leaving => cases onTheWay

end Leads

/-! ## One load after another -/

section Turns

variable {policy : Policy} {resource : String} {past later : Course} {lane start : Lane}
  {loader : TaskId}

/-- A load that is in flight is the only one. -/
theorem LaneRecorded.inFlight_eq (record : LaneRecorded policy resource past lane)
    (loads : loader ∈ inFlight past) : inFlight past = [loader] := by
  have single := record.length_inFlight_le_one
  match flying : inFlight past, loads, single with
  | [other], loads, _ => rw [List.mem_singleton.1 loads]

/-- Where nobody is served from the entry, every answer has a load of its own. -/
theorem LaneRecorded.perm_of_append (record : LaneRecorded policy resource (later ++ past) lane)
    (before : LaneRecorded policy resource past start) (nobody : served later = []) :
    (inFlight past ++ loaders later).Perm
      (answered later ++ dropped later ++ inFlight (later ++ past)) := by
  apply List.perm_iff_count.2
  intro id
  have total := record.balance id
  have earlier := before.balance id
  simp only [served, loaders, answered, dropped, List.filterMap_append, List.count_append]
    at nobody total earlier ⊢
  rw [nobody, List.count_nil] at total
  omega

end Turns

/-- What comes of those who wait for a load while loads fail. -/
structure InTurn (policy : Policy) (resource : String) (loader : TaskId) (holding : Holding)
    (now : Int64) (past later : Past) (state last : State) : Prop where
  /-- What is kept stays as it is, and stale. -/
  stalled : Stalled holding now (last.lane resource)
  /-- Whoever has its turn begins a load, -/
  loads : ∀ moment ∈ course resource later, Decides moment → moment.event = .loading resource
  /-- and whoever is answered is given the last good credential, after a load. -/
  told : ∀ moment ∈ course resource later, ∀ answer,
    moment.event.reply? = some (.credential answer) →
      moment.event = .settled (.ok holding.credential)
  /-- The tasks whose load was in flight, or has begun since, are those that were answered since, or
  have dropped their loads, or load, each as often. -/
  balanced : (loader :: loaders (course resource later)).Perm
    (answered (course resource later) ++ dropped (course resource later) ++
      inFlight (course resource (later ++ past)))
  /-- So the source is called at least once for each of those who are answered. -/
  apiece : ∀ callers : List TaskId, callers.Nodup →
    (∀ id ∈ callers, id ∈ answered (course resource later)) →
      callers.length ≤ (loaders (course resource later)).length + 1
  /-- Nobody is lost. -/
  unlost : ∀ id, (state.lane resource).Seeks id →
    (last.lane resource).Seeks id ∨ id ∈ answered (course resource later) ∨
      ∃ moment ∈ course resource later, Abandons id moment
  /-- And nobody is stuck. -/
  answerable : ∀ id, (last.lane resource).Seeks id →
    ∃ target, Leads policy resource now (later ++ past) (some id) target

/-- **Those who wait for a load that fails load one after another.** Take a run in which a load for a
resource is in flight while the entry holds a stale credential and is not marked, and let it go on,
with any number of tasks. As long as nothing is withdrawn, the clock does not go back, and loads fail,
but not for a malformed credential, everybody who is answered is given the last good credential, and
each after a load of its own: a failed load is not shared. -/
theorem waiters_load_in_turn {policy : Policy} {resource : String} {loader : TaskId}
    {holding : Holding} {now : Int64} {past later : Past} {state last : State}
    (record : Chronicle policy past state) (further : Chronicle policy (later ++ past) last)
    (loads : loader ∈ inFlight (course resource past))
    (stalled : Stalled holding now (state.lane resource))
    (failing : ∀ moment ∈ course resource later, LoadsFail policy resource (now ≤ ·) moment) :
    InTurn policy resource loader holding now past later state last := by
  have before := laneRecorded_course record resource
  have behind := laneRecorded_course further resource
  rw [course_append] at behind
  obtain ⟨still, begins, told⟩ := behind.stalled_of_append before stalled failing
  have nobody : served (course resource later) = [] := by
    rw [served, List.filterMap_eq_nil_iff]
    rintro ⟨lane, step, event, next⟩ member
    cases event with
    | hit credential => cases told _ member _ rfl
    | _ => rfl
  have balanced := behind.perm_of_append before nobody
  rw [← course_append, before.inFlight_eq loads] at balanced
  refine ⟨still, begins, told, balanced, ?_, fun id seeks => behind.seeks_of_append before seeks,
    fun id seeks => Leads.exists_of_seeks further still seeks⟩
  intro callers distinct answers
  have callersFew : callers.length ≤ (answered (course resource later)).length :=
    (List.subperm_of_subset distinct answers).length_le
  have counted := balanced.length_eq
  simp only [List.length_append, List.length_cons, List.length_nil] at counted
  omega

/-- A stale token is kept, one task loads, and two others wait for it. -/
def besieged : List Step :=
  [.beginGet 1 "r", .acquire 1, .sweep 1, .decide 1 0,
    .settle 1 (.answered (.ok [sampleToken 1001 sampleExpiry_pos])) 0, .leave 1,
    .beginGet 2 "r", .acquire 2, .sweep 2, .decide 2 950, .beginGet 3 "r", .beginGet 4 "r"]

/-- Each of the three is answered after its own load is cut off. -/
def besiegedFurther : List Step :=
  [.settle 2 .timedOut 950, .leave 2, .acquire 3, .sweep 3, .decide 3 950, .settle 3 .timedOut 950,
    .leave 3, .acquire 4, .sweep 4, .decide 4 950, .settle 4 .timedOut 950, .leave 4]

/-- The history of `besiegedFurther` behind `besieged`, with the state that is reached. -/
def besiegedHistory : Past × State :=
  replay (State.step Policy.standard) (historyOf besieged).2 besiegedFurther

theorem chronicle_besiegedHistory :
    Chronicle Policy.standard (besiegedHistory.1 ++ (historyOf besieged).1) besiegedHistory.2 :=
  (chronicle_historyOf besieged).append (recorded_replay besiegedFurther)

theorem stalled_besieged : Stalled ⟨sampleToken 1001 sampleExpiry_pos, 900⟩ 950
    ((historyOf besieged).2.lane "r") := by
  have keeps : ((historyOf besieged).2.lane "r").slot =
      some ⟨⟨some ⟨sampleToken 1001 sampleExpiry_pos, 900⟩⟩, false, some 2⟩ := by decide +kernel
  exact ⟨⟨_, keeps, rfl, rfl⟩, by decide⟩

theorem waiters_load_in_turn_besieged :
    2 ∈ inFlight (course "r" (historyOf besieged).1) ∧
      (∀ moment ∈ course "r" besiegedHistory.1,
        LoadsFail Policy.standard "r" ((950 : Int64) ≤ ·) moment) ∧
      InTurn Policy.standard "r" 2 ⟨sampleToken 1001 sampleExpiry_pos, 900⟩ 950
        (historyOf besieged).1 besiegedHistory.1 (historyOf besieged).2 besiegedHistory.2 ∧
      answered (course "r" besiegedHistory.1) = [4, 3, 2] ∧
      loaders (course "r" besiegedHistory.1) = [4, 3] := by
  have loads : 2 ∈ inFlight (course "r" (historyOf besieged).1) := by decide +kernel
  have failing : ∀ moment ∈ course "r" besiegedHistory.1,
      LoadsFail Policy.standard "r" ((950 : Int64) ≤ ·) moment := by decide +kernel
  exact ⟨loads, failing,
    waiters_load_in_turn (chronicle_historyOf besieged) chronicle_besiegedHistory loads
      stalled_besieged failing,
    by decide +kernel, by decide +kernel⟩

/-- Those who wait for a load share it also when it fails: while a load is in flight, all others that
are there wait, and the entry holds a stale credential and is not marked, let nobody else come,
nothing be withdrawn, the clock stand, and loads fail, but not for a malformed credential; when all
have been answered they were given the last good credential, and no other load has begun. -/
def Policy.SharesFailedLoads (policy : Policy) : Prop :=
  ∀ ⦃resource : String⦄ ⦃holding : Holding⦄ ⦃now : Int64⦄ ⦃past later : Past⦄ ⦃state last : State⦄
    (loader : TaskId) (callers : List TaskId),
    Chronicle policy past state → Chronicle policy (later ++ past) last →
    inFlight (course resource past) = [loader] → Stalled holding now (state.lane resource) →
    2 ≤ callers.length → callers.Nodup → loader ∈ callers →
    (∀ id ∈ callers, id ≠ loader → (state.lane resource).phases id = some .waiting) →
    (∀ moment ∈ course resource later, LoadsFail policy resource (· = now) moment) →
    (∀ moment ∈ course resource later, moment.step.bind Step.begins? = none) →
    (∀ id ∈ callers, id ∈ answered (course resource later)) →
      (∀ moment ∈ course resource later, ∀ answer,
        moment.event.reply? = some (.credential answer) → answer = .ok holding.credential) ∧
      loaders (course resource later) = []

/-- Three tasks take three loads. -/
theorem standard_not_sharesFailedLoads : ¬ Policy.standard.SharesFailedLoads := by
  intro shares
  have shared := shares 2 [2, 3, 4] (chronicle_historyOf besieged) chronicle_besiegedHistory
    (by decide +kernel) stalled_besieged (by decide) (by decide) (by decide) (by decide +kernel)
    (by decide +kernel) (by decide +kernel) (by decide +kernel)
  have begun : loaders (course "r" besiegedHistory.1) = [4, 3] := by decide +kernel
  cases begun.symm.trans shared.2

end StorageBroker.Refresher
