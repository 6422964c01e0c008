import StorageBroker.Proofs.History
import StorageBroker.Proofs.Table.Change

/-!
# Where entries and lookups come from

An entry of the cache was made by an update for its table, and nothing has superseded it since
(`Chronicle.exists_installed`). No two updates make entries with one stamp, so the stamp tells the
update (`Chronicle.installs_unique`).

A lookup that is under way found its entry when its task looked it up for the last time, and how far
it has come tells what its task has done since: nothing while the probe is asked, and nothing but
being told another location once the snapshot is rejected (`Chronicle.exists_lookup`). What was found
had been installed before, and nothing superseded it in between (`Chronicle.exists_installed_before`).
-/

set_option autoImplicit false

namespace StorageBroker.TableCache

/-- What has happened to a cache. -/
abbrev Past (μ : Type) := List (Moment (State μ) (Step μ) (Event μ))

/-- The histories of the runs of a cache. -/
abbrev Chronicle {μ : Type} [Located μ] (capacity : Option Nat) : Past μ → State μ → Prop :=
  Recorded (State.step capacity) State.initial

section Definitions

variable {μ : Type}

/-! ## Updates -/

/-- An update makes an entry for a table. The entry gets a stamp of its own. -/
def Installs (id : TableId) (entry : Stamped μ)
    (moment : Moment (State μ) (Step μ) (Event μ)) : Prop :=
  moment.step = .update id entry.snapshot ∧ moment.before.nextStamp = entry.stamp

/-- A moment at which whatever is kept of a table is replaced or withdrawn. -/
def Supersedes (id : TableId) (moment : Moment (State μ) (Step μ) (Event μ)) : Prop :=
  moment.step.Supersedes id

/-! ## Lookups -/

/-- A task takes a step of its lookup. -/
def TakenBy (task : TaskId) (moment : Moment (State μ) (Step μ) (Event μ)) : Prop :=
  moment.step.task? = some task

/-- The table that a task looks up at a moment, and the entry that is kept of it. -/
def looksUp? (task : TaskId) (moment : Moment (State μ) (Step μ) (Event μ)) :
    Option (TableId × Option (Stamped μ)) :=
  match moment.step with
  | .beginGet other id => if other = task then some (id, moment.before.entries.get? id) else none
  | _ => none

theorem looksUp?_eq_some_iff {task : TaskId} {moment : Moment (State μ) (Step μ) (Event μ)}
    {id : TableId} {found : Option (Stamped μ)} :
    looksUp? task moment = some (id, found) ↔
      moment.step = .beginGet task id ∧ moment.before.entries.get? id = found := by
  constructor
  · intro looks
    unfold looksUp? at looks
    split at looks
    · next step =>
      split at looks
      · next same =>
        cases looks
        exact ⟨same ▸ step, rfl⟩
      · cases looks
    · cases looks
  · rintro ⟨step, rfl⟩
    simp only [looksUp?, step, if_pos]

theorem looksUp?_of_another {task : TaskId} {moment : Moment (State μ) (Step μ) (Event μ)}
    (another : moment.step.task? ≠ some task) : looksUp? task moment = none := by
  cases looks : looksUp? task moment with
  | none => rfl
  | some found =>
    obtain ⟨step, -⟩ := looksUp?_eq_some_iff.1 looks
    rw [step] at another
    exact absurd rfl another

/-- When a task looked up a table for the last time, with the table and the entry it found. -/
def lookedUp? (task : TaskId) (past : Past μ) : Option (Nat × TableId × Option (Stamped μ)) :=
  latest? (looksUp? task) past

/-- The table that a probe is asked about by a task at a moment. -/
def probe? (task : TaskId) (moment : Moment (State μ) (Step μ) (Event μ)) : Option TableId :=
  match moment.event with
  | .probing id => if moment.step.task? = some task then some id else none
  | _ => none

/-- The tables that probes were asked about by a task in its last lookup, the latest in front. -/
def probes (task : TaskId) : Past μ → List TableId
  | [] => []
  | moment :: past =>
    (probe? task moment).toList ++ if (looksUp? task moment).isSome then [] else probes task past

/-- All that a task has done since an instant is to be told, by its probe, a location other than that
of a snapshot. -/
def Rejected [Located μ] (task : TaskId) (snapshot : μ) (looked : Nat) (past : Past μ) : Prop :=
  ∃ location told, looked < told ∧
    Occurs (fun moment => moment.step = .probed task (.answered (.ok (some location)))) told past ∧
    location ≠ Located.location snapshot ∧
    ∀ instant, looked < instant → Occurs (TakenBy task) instant past → instant = told

/-- What a task has done since it looked up a snapshot, by how far the lookup has come. -/
def Phase.Reached [Located μ] (phase : Phase) (task : TaskId) (snapshot : μ) (looked : Nat)
    (past : Past μ) : Prop :=
  match phase with
  | .probing => ¬ OccursSince (TakenBy task) looked past
  | .dropping => Rejected task snapshot looked past

end Definitions

variable {μ : Type} [Located μ] {capacity : Option Nat} {state next : State μ} {step : Step μ}
  {event : Event μ} {past : Past μ} {id : TableId} {entry : Stamped μ} {task : TaskId}
  {lookup : Lookup μ}

/-! ## The stamps of entries -/

theorem Change.nextStamp_le (change : Change capacity state step event next) :
    state.nextStamp ≤ next.nextStamp := by
  cases change with
  | update => exact Nat.le_succ state.nextStamp
  | _ => exact Nat.le_refl state.nextStamp

/-- The stamps to come are greater than those of the entries that were made. -/
theorem Chronicle.stamp_lt {installed : Nat} (record : Chronicle capacity past state)
    (installs : Occurs (Installs id entry) installed past) : entry.stamp < state.nextStamp := by
  induction record with
  | nothing => exact installs.elim
  | @further past state reached step event record here ih =>
    rcases installs with ⟨-, same, stamp⟩ | before
    · dsimp only at same stamp
      subst same
      cases change_of_step here
      rw [← stamp]
      exact Nat.lt_succ_self state.nextStamp
    · exact Nat.lt_of_lt_of_le (ih before) (change_of_step here).nextStamp_le

/-- **A stamp tells the update.** Entries with one stamp were made by one update. -/
theorem Chronicle.installs_unique {other : TableId} {twin : Stamped μ} {installed again : Nat}
    (record : Chronicle capacity past state)
    (installs : Occurs (Installs id entry) installed past)
    (installsTwin : Occurs (Installs other twin) again past) (stamp : entry.stamp = twin.stamp) :
    installed = again ∧ entry = twin := by
  induction record with
  | nothing => exact installs.elim
  | @further past state reached step event record here ih =>
    rcases installs with ⟨first, same, own⟩ | before
    · rcases installsTwin with ⟨second, sameTwin, -⟩ | beforeTwin
      · obtain ⟨-, snapshot⟩ := Step.update.inj (same.symm.trans sameTwin)
        exact ⟨first.trans second.symm, Stamped.ext stamp snapshot⟩
      · exact absurd (own.trans stamp) (Nat.ne_of_gt (Chronicle.stamp_lt record beforeTwin))
    · rcases installsTwin with ⟨-, -, own⟩ | beforeTwin
      · exact absurd (own.trans stamp.symm) (Nat.ne_of_gt (Chronicle.stamp_lt record before))
      · exact ih before beforeTwin

/-! ## Entries -/

/-- An entry was made by an update for its table, and nothing has superseded it. -/
theorem Chronicle.exists_installed (record : Chronicle capacity past state)
    (present : state.entries.get? id = some entry) :
    ∃ installed, Occurs (Installs id entry) installed past ∧
      ¬ OccursSince (Supersedes id) installed past := by
  induction record with
  | nothing => cases present
  | @further past state reached step event record here ih =>
    rcases (change_of_step here).entry_cases present with made | ⟨before, keeps⟩
    · exact ⟨past.length, .here _ past made, OccursSince.not_since_last⟩
    · obtain ⟨installed, installs, still⟩ := ih before
      exact ⟨installed, installs.later, OccursSince.not_cons still keeps⟩

/-! ## Lookups -/

theorem Phase.Reached.later {phase : Phase} {snapshot : μ} {looked : Nat}
    {moment : Moment (State μ) (Step μ) (Event μ)}
    (reached : phase.Reached task snapshot looked past)
    (another : moment.step.task? ≠ some task) :
    phase.Reached task snapshot looked (moment :: past) := by
  cases phase with
  | probing => exact OccursSince.not_cons reached another
  | dropping =>
    obtain ⟨location, told, after, tells, differs, alone⟩ := reached
    refine ⟨location, told, after, tells.later, differs, ?_⟩
    intro instant since occurs
    exact alone instant since (occurs.of_cons another)

/-- A lookup found its entry when its task looked it up for the last time, and what the task has done
since is told by how far the lookup has come. -/
theorem Chronicle.exists_lookup (record : Chronicle capacity past state)
    (under : state.lookups.get? task = some lookup) :
    ∃ looked, lookedUp? task past = some (looked, lookup.id, some lookup.found) ∧
      lookup.phase.Reached task lookup.found.snapshot looked past := by
  induction record generalizing lookup with
  | nothing => cases under
  | @further past state reached step event record here ih =>
    cases (change_of_step here).lookupChange under with
    | stays found another =>
      obtain ⟨looked, last, phase⟩ := ih found
      exact ⟨looked, (latest?.cons_of_none (looksUp?_of_another another)).trans last,
        phase.later another⟩
    | @finds id found present =>
      refine ⟨past.length, latest?.cons_of_some ?_, OccursSince.not_since_last⟩
      exact looksUp?_eq_some_iff.2 ⟨rfl, present⟩
    | @rejects id found location asked differs =>
      obtain ⟨looked, last, still⟩ := ih asked
      refine ⟨looked, (latest?.cons_of_none rfl).trans last, location, past.length,
        latest?.lt_length last, .here _ past rfl, differs, ?_⟩
      rintro instant since (⟨same, -⟩ | before)
      · exact same
      · exact absurd ⟨instant, since, before⟩ still

/-- An entry that was found had been installed, and was not superseded before it was found. -/
theorem Chronicle.exists_installed_before {looked : Nat} (record : Chronicle capacity past state)
    (last : lookedUp? task past = some (looked, id, some entry)) :
    ∃ installed, installed < looked ∧ Occurs (Installs id entry) installed past ∧
      ∀ instant, Occurs (Supersedes id) instant past → instant < looked → instant ≤ installed := by
  obtain ⟨later, moment, earlier, rfl, rfl, looks, recorded, -⟩ :=
    record.exists_before (latest?.occurs last)
  have present : moment.before.entries.get? id = some entry := by
    obtain ⟨-, kept⟩ := looksUp?_eq_some_iff.1 looks
    exact kept
  obtain ⟨installed, installs, still⟩ := Chronicle.exists_installed recorded present
  rw [List.append_cons]
  refine ⟨installed, installs.lt_length, installs.append _, ?_⟩
  intro instant supersedes before
  rw [← Nat.not_lt]
  intro after
  exact still ⟨instant, after, supersedes.of_append before⟩

/-! ## Probes -/

/-- A probe is asked about the table that is looked up, if an entry is found. -/
theorem Change.probe?_eq (change : Change capacity state step event next) :
    probe? task ⟨state, step, event, next⟩ =
      (looksUp? task ⟨state, step, event, next⟩).bind fun (id, found) => found.map fun _ => id := by
  cases change with
  | @miss other id _ absent =>
    simp only [probe?, looksUp?, absent]
    split <;> rfl
  | @find other id found _ present =>
    simp only [probe?, looksUp?, Step.task?, Option.some.injEq, present]
    split <;> rfl
  | _ => rfl

/-- A lookup that found an entry has asked one probe, about its table; one that found none has asked
none. -/
theorem Chronicle.probes_of_lookedUp? {looked : Nat} {found : Option (Stamped μ)}
    (record : Chronicle capacity past state)
    (last : lookedUp? task past = some (looked, id, found)) :
    probes task past = (found.map fun _ => id).toList := by
  induction record with
  | nothing => cases last
  | @further past state reached step event record here ih =>
    have asks : probe? task ⟨state, step, event, reached⟩ = _ := (change_of_step here).probe?_eq
    unfold probes
    cases looks : looksUp? task ⟨state, step, event, reached⟩ with
    | none =>
      rw [lookedUp?, latest?.cons_of_none looks] at last
      rw [asks, looks, ih last]
      rfl
    | some here =>
      cases (latest?.cons_of_some looks).symm.trans last
      rw [asks, looks]
      exact List.append_nil _

/-! ## A run -/

/-- A table. -/
def sampleTable : TableId := ⟨["sales"], "orders"⟩

/-- Metadata that was read from a file. -/
def sampleMetadata (file : String) : LoadedMetadata := ⟨file, .bare 2 "sales/orders"⟩

/-- A snapshot is withdrawn while its lookup is under way, and an equal one is put in its place. The
lookup is told another location, a second lookup begins, and a third one for a table that is not
kept. -/
def reinsertion : List (Step LoadedMetadata) :=
  [.update sampleTable (sampleMetadata "1"), .beginGet 1 sampleTable, .invalidate sampleTable,
    .update sampleTable (sampleMetadata "1"), .probed 1 (.answered (.ok (some "2"))),
    .beginGet 2 sampleTable, .beginGet 3 ⟨["sales"], "returns"⟩]

/-- The history of `reinsertion`, with the state that is reached. -/
def reinsertionHistory : Past LoadedMetadata × State LoadedMetadata :=
  replay (State.step (some 1)) State.initial reinsertion

theorem chronicle_reinsertion :
    Chronicle (some 1) reinsertionHistory.1 reinsertionHistory.2 :=
  recorded_replay reinsertion

end StorageBroker.TableCache
