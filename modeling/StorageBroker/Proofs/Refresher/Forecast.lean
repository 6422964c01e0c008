import StorageBroker.Proofs.Refresher.Alone
import StorageBroker.Proofs.Refresher.Waiters

/-!
# What a look foretells

A look at a resource whose slot no task holds tells what the next task would meet that asks for a
credential at the same reading of the clock (`look_foretells_get`): it is fresh where the task is
answered from the entry; stale where the task loads, and is given the last good credential should the
load fail; and empty where it loads and has nothing to fall back on.

Looks leave no trace: whatever tasks look, however often, what is tracked, the entries and the marks
stay as they are (`Untouched.of_looks`).
-/

set_option autoImplicit false

namespace StorageBroker.Refresher

/-! ## Loads that are on the way -/

/-- A run leads from a state to another one. -/
def State.Reaches (policy : Policy) (state reached : State) : Prop :=
  ∃ recent : Past, Recorded (State.step policy) state recent reached

namespace State

variable (policy : Policy) (state : State) (id : TaskId) (resource : String) (now : Int64)

theorem Reaches.trans {policy : Policy} {state middle reached : State}
    (first : state.Reaches policy middle) (second : middle.Reaches policy reached) :
    state.Reaches policy reached := by
  obtain ⟨earlier, run⟩ := first
  obtain ⟨later, goesOn⟩ := second
  exact ⟨later ++ earlier, run.append goesOn⟩

theorem reaches_after (step : Step) : state.Reaches policy (state.after policy step).1 := by
  rw [after]
  cases taken : state.step policy step with
  | none => exact ⟨[], .nothing⟩
  | some reached => exact ⟨[_], .further .nothing taken⟩

theorem reaches_leaveIfTold (reached : State × Event) :
    reached.1.Reaches policy (leaveIfTold policy id reached).1 := by
  rw [leaveIfTold]
  split
  · exact reached.1.reaches_after policy (.leave id)
  · exact ⟨[], .nothing⟩

/-- A turn is a stretch of a run. -/
theorem reaches_takeTurn : state.Reaches policy (state.takeTurn policy id now).1 := by
  rw [takeTurn]
  have locked := state.reaches_after policy (.acquire id)
  split
  · exact (locked.trans (reaches_after policy _ (.look id now))).trans
      (reaches_leaveIfTold policy id _)
  · exact ((locked.trans (reaches_after policy _ (.sweep id))).trans
      (reaches_after policy _ (.decide id now))).trans (reaches_leaveIfTold policy id _)
  · exact locked

theorem reaches_getAlone : state.Reaches policy (state.getAlone policy id resource now).1 :=
  (state.reaches_after policy (.beginGet id resource)).trans (reaches_takeTurn policy _ id now)

end State

section Loads

variable {policy : Policy} {past later : Past} {state next reached : State} {id : TaskId} {task : Task}
  {step : Step} {event : Event}

/-- A task is not touched by the steps of others. -/
theorem Change.holds_of_another (change : Change policy state step event next)
    (holds : state.tasks.get? id = some task) (another : step.task? ≠ some id) :
    next.tasks.get? id = some task := by
  have apart : ∀ {other : TaskId}, some other ≠ some id → other ≠ id := by
    rintro other different rfl
    exact different rfl
  cases change with
  | join _ _ => rw [State.tasks_joinSlot, if_neg (apart another), holds]
  | opening _ _ => rw [State.tasks_openSlot, if_neg (apart another), holds]
  | joinToLook _ _ => rw [State.tasks_setTask, if_neg (apart another), holds]
  | lookAtNothing _ _ => exact holds
  | move _ move =>
    rw [move.task?] at another
    rw [State.tasks_advance, if_neg (apart another), holds]
  | leave _ _ => rw [State.tasks_dropTask, if_neg (apart another), holds]
  | invalidateNothing _ => exact holds
  | invalidateIdle _ _ => exact holds
  | invalidateHeld _ _ => exact holds

theorem holds_of_others (run : Recorded (State.step policy) state later reached)
    (holds : state.tasks.get? id = some task)
    (others : ∀ moment ∈ later, moment.step.task? ≠ some id) :
    reached.tasks.get? id = some task := by
  induction run with
  | nothing => exact holds
  | further _ here ih =>
    obtain ⟨another, before⟩ := List.forall_mem_cons.1 others
    exact (change_of_step here).holds_of_another (ih before) another

/-- What a task found when it swept the slot is not changed by the steps of others. -/
theorem sweptFrom_course_of_others (resource : String)
    (others : ∀ moment ∈ later, moment.step.task? ≠ some id) :
    sweptFrom id (course resource (later ++ past)) = sweptFrom id (course resource past) := by
  induction later with
  | nil => rfl
  | cons moment later ih =>
    obtain ⟨another, before⟩ := List.forall_mem_cons.1 others
    rw [← ih before]
    refine sweptFrom_cons_of_ne ?_
    rw [laneMoment]
    split
    · intro same
      rw [Option.some.inj same] at another
      exact another rfl
    · exact (Option.some_ne_none _).symm

/-- While a load is on the way, whatever others do, the entry stays as it is. -/
theorem Chronicle.entry_of_others (record : Chronicle policy past state)
    (run : Recorded (State.step policy) state later reached)
    (holds : state.tasks.get? id = some task) (loads : task.phase = .loading)
    (others : ∀ moment ∈ later, moment.step.task? ≠ some id) :
    (reached.slots task.slot).entry = (state.slots task.slot).entry := by
  obtain ⟨_, found, visit⟩ := record.exists_loadingVisit holds loads
  have further : Chronicle policy (later ++ past) reached := record.append run
  obtain ⟨_, foundToo, visitToo⟩ :=
    further.exists_loadingVisit (holds_of_others run holds others) loads
  obtain ⟨_, swept⟩ := visit.swept
  obtain ⟨_, sweptToo⟩ := visitToo.swept
  rw [sweptFrom_course_of_others _ others, swept] at sweptToo
  cases sweptToo
  rw [visitToo.entry, visit.entry]

end Loads

/-- Should the load of a task fail, and not for a malformed credential, then the caller is told an
answer as described, whatever other tasks have done while the load was on the way. -/
def FailureTells (policy : Policy) (state : State) (id : TaskId)
    (told : Except CredentialError Credential → Prop) : Prop :=
  ∀ (later : Past) (reached : State) (result : LoadResult) (ended : Int64),
    Recorded (State.step policy) state later reached →
    (∀ moment ∈ later, moment.step.task? ≠ some id) → policy.Fails result →
      ∃ next answer, reached.step policy (.settle id result ended) = some (next, .settled answer) ∧
        told answer

section Failures

variable {policy : Policy} {past : Past} {state : State} {id : TaskId} {task : Task}
  {told other : Except CredentialError Credential → Prop}

/-- The load of a task that loads ends in one answer. -/
theorem FailureTells.and (tells : FailureTells policy state id told)
    (tellsToo : FailureTells policy state id other) : ∃ answer, told answer ∧ other answer := by
  have fails : policy.Fails .timedOut := ⟨_, rfl, rfl⟩
  obtain ⟨next, answer, ends, first⟩ :=
    tells [] state .timedOut 0 .nothing (List.forall_mem_nil _) fails
  obtain ⟨_, _, endsToo, second⟩ :=
    tellsToo [] state .timedOut 0 .nothing (List.forall_mem_nil _) fails
  cases ends.symm.trans endsToo
  exact ⟨answer, first, second⟩

/-- A load that fails is answered by what the entry held when it began. -/
theorem Chronicle.failureTells (record : Chronicle policy past state)
    (holds : state.tasks.get? id = some task) (loads : task.phase = .loading)
    (serves : ∀ error, told
      (Policy.serveStale task.resource (state.slots task.slot).entry error)) :
    FailureTells policy state id told := by
  intro later reached result ended run others fails
  have still := holds_of_others run holds others
  obtain ⟨error, failed, valid⟩ := fails
  obtain ⟨next, settles⟩ := exists_settle still loads result ended
  refine ⟨next, _, settles, ?_⟩
  rw [Policy.settle_of_failed failed valid, record.entry_of_others run holds loads others]
  exact serves error

end Failures

/-! ## Looks leave no trace -/

/-- What is tracked, in which order, the entries and the marks are as they were. -/
structure Untouched (state next : State) : Prop where
  tracked : next.tracked = state.tracked
  entry : ∀ number, (next.slots number).entry = (state.slots number).entry
  mark : ∀ number, (next.slots number).invalidated = (state.slots number).invalidated

/-- The steps of tasks that look: they begin, go on or are abandoned, and leave. -/
def State.Looks (state : State) : Step → Prop
  | .beginLook _ _ | .look _ _ | .leave _ => True
  | .acquire id | .abandon id => (state.tasks.get? id).map Task.phase = some .waitingToLook
  | .beginGet _ _ | .sweep _ | .decide _ _ | .settle _ _ _ | .invalidate _ => False

instance (state : State) : DecidablePred state.Looks
  | .beginLook _ _ | .look _ _ | .leave _ => inferInstanceAs (Decidable True)
  | .acquire _ | .abandon _ => inferInstanceAs (Decidable (_ = _))
  | .beginGet _ _ | .sweep _ | .decide _ _ | .settle _ _ _ | .invalidate _ =>
    inferInstanceAs (Decidable False)

namespace Untouched

variable {policy : Policy} {state middle next reached : State} {later : Past} {step : Step}
  {event : Event} {id : TaskId} {task : Task} {phase : Phase} {behind : Slot}

theorem refl (state : State) : Untouched state state :=
  ⟨rfl, fun _ => rfl, fun _ => rfl⟩

theorem trans (first : Untouched state middle) (second : Untouched middle next) :
    Untouched state next where
  tracked := second.tracked.trans first.tracked
  entry := fun number => (second.entry number).trans (first.entry number)
  mark := fun number => (second.mark number).trans (first.mark number)

theorem of_advance (entry : behind.entry = (state.slots task.slot).entry)
    (mark : behind.invalidated = (state.slots task.slot).invalidated) :
    Untouched state (state.advance id task phase behind) where
  tracked := rfl
  entry := by
    intro number
    rw [State.slots_advance]
    split
    · next same => rw [same, entry]
    · rfl
  mark := by
    intro number
    rw [State.slots_advance]
    split
    · next same => rw [same, mark]
    · rfl

/-- What a task does that looks. -/
theorem of_move {slot : Slot} {before : Phase} {resource : String}
    (move : Move policy id resource step event before slot phase behind)
    (found : (state.tasks.get? id).map Task.phase = some before) (looks : state.Looks step) :
    behind.entry = slot.entry ∧ behind.invalidated = slot.invalidated ∧
      ∀ resource, event ≠ .loading resource := by
  cases move with
  | acquire _ => cases found.symm.trans looks
  | acquireToLook _ => exact ⟨rfl, rfl, nofun⟩
  | look => exact ⟨rfl, rfl, nofun⟩
  | abandon _ => exact ⟨Slot.entry_freedBy slot id, Slot.invalidated_freedBy slot id, nofun⟩
  | _ => exact looks.elim

/-- A step of a task that looks touches nothing and begins no load. -/
theorem of_change (looks : state.Looks step) (change : Change policy state step event next) :
    Untouched state next ∧ ∀ resource, event ≠ .loading resource := by
  cases change with
  | join _ _ | opening _ _ | invalidateNothing _ | invalidateIdle _ _ | invalidateHeld _ _ =>
    exact looks.elim
  | joinToLook _ _ => exact ⟨⟨rfl, fun _ => rfl, fun _ => rfl⟩, nofun⟩
  | lookAtNothing _ _ => exact ⟨.refl _, nofun⟩
  | move found move =>
    obtain ⟨entry, mark, silent⟩ := of_move move (by rw [found, Option.map_some]) looks
    exact ⟨.of_advance entry mark, silent⟩
  | leave _ _ => exact ⟨⟨rfl, fun _ => rfl, fun _ => rfl⟩, nofun⟩

/-- **Tasks that look touch nothing and load nothing**, however many they are and however often they
look. -/
theorem of_looks (run : Recorded (State.step policy) state later reached)
    (looks : ∀ moment ∈ later, moment.before.Looks moment.step) :
    Untouched state reached ∧ ∀ moment ∈ later, ∀ resource, moment.event ≠ .loading resource := by
  induction run with
  | nothing => exact ⟨.refl state, List.forall_mem_nil _⟩
  | further _ here ih =>
    obtain ⟨last, before⟩ := List.forall_mem_cons.1 looks
    obtain ⟨same, quiet⟩ := ih before
    obtain ⟨still, silent⟩ := of_change last (change_of_step here)
    exact ⟨same.trans still, List.forall_mem_cons.2 ⟨silent, quiet⟩⟩

end Untouched

/-! ## Looks foretell -/

/-- A credential is the last good one for a resource: what the last load for the resource that stored
anything has stored. -/
def LastGood (policy : Policy) (past : Past) (resource : String) (credential : Credential) : Prop :=
  ∃ store, (stores policy (course resource past)).head? = some store ∧
    store.holding.credential = credential

/-- What the next task would meet, if it asked for a credential now and other tasks did nothing until
it has its answer or loads. -/
structure Foretells (policy : Policy) (past : Past) (state : State) (id : TaskId) (resource : String)
    (now : Int64) (freshness : Freshness) : Prop where
  /-- It would be answered from the entry, without a load. -/
  fresh : freshness = .fresh ↔ ∃ credential, LastGood policy past resource credential ∧
    (state.getAlone policy id resource now).2 = .hit credential
  /-- It would load, and be given the last good credential should the load fail. -/
  stale : freshness = .stale ↔
    (state.getAlone policy id resource now).2 = .loading resource ∧
      ∃ credential, LastGood policy past resource credential ∧
        FailureTells policy (state.getAlone policy id resource now).1 id
          fun answer => answer = .ok credential
  /-- It would load, and be told that no credential is to be had should the load fail. -/
  empty : freshness = .empty ↔
    (state.getAlone policy id resource now).2 = .loading resource ∧
      FailureTells policy (state.getAlone policy id resource now).1 id
        fun answer => ∃ error, answer = .error error ∧ error.isUnavailable = true

section Looks

variable {policy : Policy} {past : Past} {state : State} {id : TaskId} {resource : String}
  {now : Int64} {lane : Lane} {entry : Entry} {credential : Credential}

theorem Entry.freshness_eq_empty_iff : entry.freshness now = .empty ↔ entry.credential? = none := by
  unfold Entry.freshness Entry.credential?
  cases entry.holding with
  | none => exact ⟨fun _ => rfl, fun _ => rfl⟩
  | some holding =>
    dsimp only
    split <;> exact ⟨nofun, nofun⟩

theorem Entry.exists_credential (held : entry.freshness now ≠ .empty) :
    ∃ credential, entry.credential? = some credential :=
  Option.ne_none_iff_exists'.1 fun nothing => held (freshness_eq_empty_iff.2 nothing)

theorem Entry.fresh?_eq_none (unfresh : entry.freshness now ≠ .fresh) : entry.fresh? now = none := by
  unfold Entry.fresh?
  split
  · next fresh => exact absurd fresh unfresh
  · rfl
  · rfl

/-- What can be seen of an entry was stored last. -/
theorem LaneRecorded.exists_store_of_view {past : Course}
    (record : LaneRecorded policy resource past lane)
    (seen : lane.view.credential? = some credential) :
    ∃ store, (stores policy past).head? = some store ∧ store.holding.credential = credential := by
  obtain ⟨holding, held, rfl⟩ := Option.map_eq_some_iff.1 seen
  cases tracked : lane.slot with
  | none =>
    rw [Lane.view_of_untracked tracked] at held
    cases held
  | some slot =>
    rw [Lane.view_of_slot tracked, Slot.view] at held
    split at held
    · cases held
    · have keeps := record.map_holding_kept
      rw [Lane.holding?_of_slot tracked, held] at keeps
      obtain ⟨store, kept, rfl⟩ := Option.map_eq_some_iff.1 keeps
      exact ⟨store, head?_stores_of_kept kept, rfl⟩

variable (record : Chronicle policy past state) (unheld : state.Unheld resource)
  (new : state.tasks.get? id = none)
include record unheld new

/-- Should the load of the next task fail, its answer is what can be seen of the entry now. -/
theorem Chronicle.failureTells_getAlone {told : Except CredentialError Credential → Prop}
    (stale : (state.lane resource).view.fresh? now = none)
    (serves : ∀ error, told (Policy.serveStale resource (state.lane resource).view error)) :
    FailureTells policy (state.getAlone policy id resource now).1 id told := by
  obtain ⟨-, number, holds, entry⟩ := record.getAlone_of_stale unheld new stale
  obtain ⟨recent, run⟩ := state.reaches_getAlone policy id resource now
  have further : Chronicle policy (recent ++ past) (state.getAlone policy id resource now).1 :=
    record.append run
  refine further.failureTells holds rfl fun error => ?_
  rw [entry]
  exact serves error

/-- **How fresh the entry is that can be seen tells what the next task would meet.** -/
theorem Chronicle.foretells :
    Foretells policy past state id resource now ((state.lane resource).view.freshness now) := by
  have laneRecord := laneRecorded_course record resource
  cases freshness : (state.lane resource).view.freshness now with
  | fresh =>
    obtain ⟨credential, held⟩ := Entry.exists_credential (by rw [freshness]; nofun)
    have fresh : (state.lane resource).view.fresh? now = some credential := by
      rw [Entry.fresh?, freshness, held]
    have hit := congrArg Prod.snd (record.getAlone_of_fresh unheld new fresh)
    have apart : (state.getAlone policy id resource now).2 ≠ .loading resource := by
      rw [hit]
      nofun
    exact ⟨⟨fun _ => ⟨credential, laneRecord.exists_store_of_view held, hit⟩, fun _ => rfl⟩,
      ⟨nofun, fun told => absurd told.1 apart⟩, ⟨nofun, fun told => absurd told.1 apart⟩⟩
  | stale =>
    obtain ⟨credential, held⟩ := Entry.exists_credential (by rw [freshness]; nofun)
    have stale : (state.lane resource).view.fresh? now = none :=
      Entry.fresh?_eq_none (by rw [freshness]; nofun)
    have loads := (record.getAlone_of_stale unheld new stale).1
    have covered : FailureTells policy (state.getAlone policy id resource now).1 id
        fun answer => answer = .ok credential :=
      record.failureTells_getAlone unheld new stale fun _ => Policy.serveStale_of_held held
    refine ⟨⟨nofun, ?_⟩,
      ⟨fun _ => ⟨loads, credential, laneRecord.exists_store_of_view held, covered⟩, fun _ => rfl⟩,
      ⟨nofun, ?_⟩⟩
    · rintro ⟨_, -, hit⟩
      cases loads.symm.trans hit
    · rintro ⟨-, uncovered⟩
      obtain ⟨_, rfl, _, same, -⟩ := covered.and uncovered
      cases same
  | empty =>
    have nothing := Entry.freshness_eq_empty_iff.1 freshness
    have stale : (state.lane resource).view.fresh? now = none :=
      Entry.fresh?_eq_none (by rw [freshness]; nofun)
    have loads := (record.getAlone_of_stale unheld new stale).1
    have uncovered : FailureTells policy (state.getAlone policy id resource now).1 id
        fun answer => ∃ error, answer = .error error ∧ error.isUnavailable = true :=
      record.failureTells_getAlone unheld new stale fun error =>
        ⟨.loadFailed resource error, Policy.serveStale_of_empty nothing, rfl⟩
    refine ⟨⟨nofun, ?_⟩, ⟨nofun, ?_⟩, ⟨fun _ => ⟨loads, uncovered⟩, fun _ => rfl⟩⟩
    · rintro ⟨_, -, hit⟩
      cases loads.symm.trans hit
    · rintro ⟨-, _, -, covered⟩
      obtain ⟨_, rfl, _, same, -⟩ := covered.and uncovered
      cases same

end Looks

/-- **A look foretells what the next task would meet.** In every reachable state:

* A look at a resource whose slot no task holds, made while the other tasks do nothing, leaves the
  state as it is. It tells that the entry is fresh, stale or empty exactly if a task that asks for a
  credential next, at the same reading of the clock, is answered from the entry with the last good
  credential, loads and is given the last good credential should the load fail, or loads and is told
  that none is to be had should it fail. While the load is on the way other tasks may do as they like;
  and a load that fails for a malformed credential is left out. A task that is answered from the entry
  moves the resource to the front, and that is all that it changes.
* As long as tasks only look and leave, at any resources and in any order, what is tracked and in which
  order, the entries and the marks stay as they are, and no load begins. -/
theorem look_foretells_get {policy : Policy} {past : Past} {state : State}
    (record : Chronicle policy past state) :
    (∀ (resource : String) (id : TaskId) (now : Int64), state.Unheld resource →
      state.tasks.get? id = none →
        (∃ freshness, state.lookAlone policy id resource now = (state, .looked freshness) ∧
          Foretells policy past state id resource now freshness) ∧
        ∀ credential, (state.getAlone policy id resource now).2 = .hit credential →
          (state.getAlone policy id resource now).1 =
            { state with tracked := state.tracked.touch resource }) ∧
    (∀ (later : Past) (reached : State), Recorded (State.step policy) state later reached →
      (∀ moment ∈ later, moment.before.Looks moment.step) →
        Untouched state reached ∧
        ∀ moment ∈ later, ∀ resource, moment.event ≠ .loading resource) := by
  refine ⟨fun resource id now unheld new => ⟨?_, ?_⟩, fun _ _ run looks => Untouched.of_looks run looks⟩
  · exact ⟨_, record.lookAlone_eq unheld new, record.foretells unheld new⟩
  · intro credential hit
    cases fresh : (state.lane resource).view.fresh? now with
    | none =>
      have loads := (record.getAlone_of_stale unheld new fresh).1
      cases loads.symm.trans hit
    | some _ => rw [record.getAlone_of_fresh unheld new fresh]

/-- A token is stored. Then a task looks, and as it holds the slot the resource is invalidated, so that
the slot is marked and nobody holds it when the task has left; another resource is in use. -/
def leftMarked : List Step :=
  [.beginGet 1 "r", .acquire 1, .sweep 1, .decide 1 0,
    .settle 1 (.answered (.ok [sampleToken 1001 sampleExpiry_pos])) 1, .leave 1,
    .beginGet 2 "q", .acquire 2, .sweep 2, .decide 2 2,
    .beginLook 3 "r", .acquire 3, .invalidate "r", .look 3 3, .leave 3]

/-- Two tasks look, at the marked slot and at the one in use. -/
def glances : List Step :=
  [.beginLook 4 "r", .beginLook 5 "q", .acquire 4, .look 4 4, .leave 4]

/-- The history of `glances` behind `leftMarked`, with the state that is reached. -/
def glancesHistory : Past × State :=
  replay (State.step Policy.standard) (historyOf leftMarked).2 glances

/-- A marked slot is seen as empty, and the next task loads; if the load fails it is told that no
credential is to be had, although one was stored. The looks leave the mark where it is. -/
theorem look_foretells_get_marked :
    (stores Policy.standard (course "r" (historyOf leftMarked).1)).length = 1 ∧
      ((historyOf leftMarked).2.slots 0).invalidated = true ∧
      (∃ freshness,
        (historyOf leftMarked).2.lookAlone Policy.standard 4 "r" 3 =
          ((historyOf leftMarked).2, .looked freshness) ∧
        Foretells Policy.standard (historyOf leftMarked).1 (historyOf leftMarked).2 4 "r" 3
          freshness) ∧
      glancesHistory.1.length = 5 ∧ Untouched (historyOf leftMarked).2 glancesHistory.2 := by
  have record := chronicle_historyOf leftMarked
  have unheld : (historyOf leftMarked).2.Unheld "r" := by
    intro number tracked
    have zero : (historyOf leftMarked).2.tracked.get? "r" = some 0 := by decide +kernel
    cases zero.symm.trans tracked
    decide +kernel
  have new : (historyOf leftMarked).2.tasks.get? 4 = none := by decide +kernel
  have run : Recorded (State.step Policy.standard) (historyOf leftMarked).2 glancesHistory.1
      glancesHistory.2 := recorded_replay glances
  have looks : ∀ moment ∈ glancesHistory.1, moment.before.Looks moment.step := by decide +kernel
  obtain ⟨foretold, untouched⟩ := look_foretells_get record
  exact ⟨by decide +kernel, by decide +kernel, (foretold "r" 4 3 unheld new).1, by decide +kernel,
    (untouched _ _ run looks).1⟩

end StorageBroker.Refresher
