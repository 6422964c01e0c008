import StorageBroker.Proofs.Table.Origin

/-!
# How entries go

An entry stays from the update that made it until it is replaced, withdrawn or cleared, or put out
for lack of room, or until a lookup drops it that had found this very entry and was told another
location (`Removes`, `Chronicle.removes`).

The entry that a lookup found and the one that it drops have one stamp, and a stamp tells the update.
So a lookup never drops an entry that was installed after it began, whatever became of the older one
and however alike the snapshots are. Lookups put nothing in and leave the other tables alone
(`no_lost_update`).
-/

set_option autoImplicit false

namespace StorageBroker.TableCache

/-- A step takes out the entry of a table. -/
inductive Removes {μ : Type} [Located μ] (capacity : Option Nat) (id : TableId) (entry : Stamped μ)
    (past : Past μ) (state : State μ) : Step μ → Prop where
  | replaced {snapshot : μ} : Removes capacity id entry past state (.update id snapshot)
  | invalidated : Removes capacity id entry past state (.invalidate id)
  | cleared : Removes capacity id entry past state .clear
  /-- The entry of another table needs the room. -/
  | evicted {other : TableId} {snapshot : μ} (displaces : Displaces capacity state.entries other id) :
      Removes capacity id entry past state (.update other snapshot)
  /-- A lookup found this entry, and its probe told another location. -/
  | rejected {task : TaskId} {looked : Nat}
      (finds : lookedUp? task past = some (looked, id, some entry))
      (told : Rejected task entry.snapshot looked past) :
      Removes capacity id entry past state (.drop task)

section Removals

variable {μ : Type} [Located μ] {capacity : Option Nat} {state next : State μ} {step : Step μ}
  {event : Event μ} {past : Past μ} {id : TableId} {entry : Stamped μ} {task : TaskId}

/-- The stamp tells whether what is kept is what a lookup found. -/
theorem Chronicle.eq_found_of_stamp {lookup : Lookup μ} (record : Chronicle capacity past state)
    (under : state.lookups.get? task = some lookup) (present : state.entries.get? id = some entry)
    (stamp : entry.stamp = lookup.found.stamp) : entry = lookup.found := by
  obtain ⟨looked, finds, -⟩ := Chronicle.exists_lookup record under
  obtain ⟨first, -, installs, -⟩ := Chronicle.exists_installed_before record finds
  obtain ⟨second, reinstalls, -⟩ := Chronicle.exists_installed record present
  exact (Chronicle.installs_unique record reinstalls installs stamp).2

/-- **An entry goes only in one of the listed ways.** What a lookup drops has the stamp of what it found, so
it is the very entry that was found. -/
theorem Chronicle.removes (record : Chronicle capacity past state)
    (taken : state.step capacity step = some (next, event))
    (present : state.entries.get? id = some entry) (gone : next.entries.get? id ≠ some entry) :
    Removes capacity id entry past state step := by
  cases change_of_step taken with
  | miss _ _ => exact absurd present gone
  | find _ _ => exact absurd ((Keyed.get?_touch _ _ _).trans present) gone
  | unknown _ _ => exact absurd present gone
  | confirm _ _ => exact absurd present gone
  | reject _ _ _ => exact absurd present gone
  | @drop task other found rejected =>
    obtain ⟨same, stamp⟩ := State.eq_of_dropped present gone
    dsimp only at same stamp
    subst same
    cases Chronicle.eq_found_of_stamp record rejected present stamp
    obtain ⟨looked, finds, told⟩ := Chronicle.exists_lookup record rejected
    exact .rejected finds told
  | abandon _ => exact absurd present gone
  | @update other snapshot =>
    by_cases same : other = id
    · subst same
      exact .replaced
    · rcases get?_putFirst_of_ne same with stays | ⟨-, displaces⟩
      · exact absurd (stays.trans present) gone
      · exact .evicted displaces
  | @invalidate other =>
    by_cases same : other = id
    · subst same
      exact .invalidated
    · exact absurd (by rw [Keyed.get?_erase, if_neg same, present]) gone
  | clear => exact .cleared

/-- An entry that was made is there still, or there was a moment at which it went. -/
theorem Chronicle.present_or_removed {installed : Nat} (record : Chronicle capacity past state)
    (installs : Occurs (Installs id entry) installed past) :
    state.entries.get? id = some entry ∨
      ∃ later moment earlier, past = later ++ moment :: earlier ∧ installed < earlier.length ∧
        moment.before.entries.get? id = some entry ∧
        Removes capacity id entry earlier moment.before moment.step := by
  induction record with
  | nothing => exact installs.elim
  | @further past state reached step event record here ih =>
    rcases installs with ⟨-, same, stamp⟩ | before
    · dsimp only at same stamp
      subst same
      cases change_of_step here
      rw [get?_putFirst_self, stamp]
      exact .inl rfl
    · rcases ih before with present | ⟨later, moment, earlier, rfl, removed⟩
      · by_cases stays : reached.entries.get? id = some entry
        · exact .inl stays
        · exact .inr ⟨[], ⟨state, step, event, reached⟩, past, rfl, before.lt_length, present,
            Chronicle.removes record here present stays⟩
      · exact .inr ⟨⟨state, step, event, reached⟩ :: later, moment, earlier, rfl, removed⟩

/-- A lookup takes out nothing but an entry that it found, once it was told another location. -/
theorem Removes.of_task? (removes : Removes capacity id entry past state step)
    (own : step.task? = some task) :
    ∃ looked, lookedUp? task past = some (looked, id, some entry) ∧
      Rejected task entry.snapshot looked past := by
  cases removes with
  | replaced => cases own
  | invalidated => cases own
  | cleared => cases own
  | evicted _ => cases own
  | rejected finds told =>
    cases own
    exact ⟨_, finds, told⟩

/-- A lookup puts nothing in. -/
theorem Change.present_of_task? (change : Change capacity state step event next)
    (own : step.task? = some task) (present : next.entries.get? id = some entry) :
    state.entries.get? id = some entry := by
  rcases change.entry_cases present with ⟨rfl, -⟩ | ⟨before, -⟩
  · cases own
  · exact before

/-- A lookup leaves the entries of other tables as they are. -/
theorem Change.get?_of_task? (change : Change capacity state step event next)
    (own : step.task? = some task) (other : state.subject? step ≠ some id) :
    next.entries.get? id = state.entries.get? id := by
  cases change with
  | find _ _ => exact Keyed.get?_touch _ _ _
  | drop rejected =>
    refine State.get?_dropFound_of_ne ?_
    rintro rfl
    exact other (by rw [State.subject?, rejected]; rfl)
  | update => cases own
  | invalidate => cases own
  | clear => cases own
  | _ => rfl

/-- A lookup leaves an entry that was installed after it began. -/
theorem Chronicle.stays_of_installed_since {looked installed : Nat} {found : Option (Stamped μ)}
    (record : Chronicle capacity past state)
    (taken : state.step capacity step = some (next, event)) (own : step.task? = some task)
    (finds : lookedUp? task past = some (looked, id, found))
    (installs : Occurs (Installs id entry) installed past) (since : looked < installed)
    (present : state.entries.get? id = some entry) : next.entries.get? id = some entry := by
  by_cases stays : next.entries.get? id = some entry
  · exact stays
  · obtain ⟨began, findsThis, -⟩ :=
      (Chronicle.removes record taken present stays).of_task? own
    cases finds.symm.trans findsThis
    obtain ⟨first, before, installsFirst, -⟩ := Chronicle.exists_installed_before record findsThis
    obtain ⟨rfl, -⟩ := Chronicle.installs_unique record installs installsFirst rfl
    exact absurd before (Nat.lt_asymm since)

/-- What a probe tells takes no entry out; if it tells no location, the lookup is over. -/
theorem Change.of_probed {result : ProbeResult}
    (change : Change capacity state (.probed task result) event next) :
    next.entries = state.entries ∧
      (result.location? = none → event = .answered none ∧ next.lookups.get? task = none) := by
  cases change with
  | unknown _ _ =>
    refine ⟨rfl, fun _ => ⟨rfl, ?_⟩⟩
    rw [Keyed.get?_erase, if_pos rfl]
  | confirm _ there => exact ⟨rfl, fun nowhere => nomatch there.symm.trans nowhere⟩
  | reject _ elsewhere _ => exact ⟨rfl, fun nowhere => nomatch elsewhere.symm.trans nowhere⟩

end Removals

/-- **No update is lost.** In any run, an entry that an update made is there still, or there was a
moment at which it went in one of the listed ways; and it will only go in one of these. A lookup puts
nothing in, leaves the other tables alone, and leaves an entry that was installed after it began. What
a probe tells takes out nothing, and a lookup that is told no location ends at that. -/
theorem no_lost_update {μ : Type} [Located μ] {capacity : Option Nat} {past : Past μ}
    {state : State μ} (record : Chronicle capacity past state) :
    (∀ (id : TableId) (entry : Stamped μ) (installed : Nat),
      Occurs (Installs id entry) installed past →
        state.entries.get? id = some entry ∨
        ∃ later moment earlier, past = later ++ moment :: earlier ∧ installed < earlier.length ∧
          moment.before.entries.get? id = some entry ∧
          Removes capacity id entry earlier moment.before moment.step) ∧
    (∀ (step : Step μ) (event : Event μ) (next : State μ),
      state.step capacity step = some (next, event) →
        (∀ (id : TableId) (entry : Stamped μ), state.entries.get? id = some entry →
          next.entries.get? id ≠ some entry → Removes capacity id entry past state step) ∧
        ∀ (task : TaskId), step.task? = some task →
          (∀ (id : TableId) (entry : Stamped μ), next.entries.get? id = some entry →
            state.entries.get? id = some entry) ∧
          (∀ (id : TableId), state.subject? step ≠ some id →
            next.entries.get? id = state.entries.get? id) ∧
          (∀ (id : TableId) (entry : Stamped μ) (found : Option (Stamped μ))
            (looked installed : Nat), lookedUp? task past = some (looked, id, found) →
            Occurs (Installs id entry) installed past → looked < installed →
            state.entries.get? id = some entry → next.entries.get? id = some entry)) ∧
    (∀ (task : TaskId) (result : ProbeResult) (event : Event μ) (next : State μ),
      state.step capacity (.probed task result) = some (next, event) →
        next.entries = state.entries ∧
        (result.location? = none → event = .answered none ∧ next.lookups.get? task = none)) := by
  refine ⟨?_, ?_, ?_⟩
  · intro id entry installed installs
    exact Chronicle.present_or_removed record installs
  · intro step event next taken
    refine ⟨?_, ?_⟩
    · intro id entry present gone
      exact Chronicle.removes record taken present gone
    · intro task own
      have change := change_of_step taken
      refine ⟨?_, ?_, ?_⟩
      · intro id entry present
        exact change.present_of_task? own present
      · intro id other
        exact change.get?_of_task? own other
      · intro id entry found looked installed finds installs since present
        exact Chronicle.stays_of_installed_since record taken own finds installs since present
  · intro task result event next taken
    exact (change_of_step taken).of_probed

theorem no_lost_update_reinserted :
    Chronicle (some 1) reinsertionHistory.1 reinsertionHistory.2 ∧
      (∃ later moment earlier, reinsertionHistory.1 = later ++ moment :: earlier ∧
        0 < earlier.length ∧
        moment.before.entries.get? sampleTable = some ⟨0, sampleMetadata "1"⟩ ∧
        Removes (some 1) sampleTable ⟨0, sampleMetadata "1"⟩ earlier moment.before moment.step) ∧
      (∃ next event, reinsertionHistory.2.step (some 1) (.drop 1) = some (next, event) ∧
        next.entries.get? sampleTable = some ⟨1, sampleMetadata "1"⟩) ∧
      ∃ next, reinsertionHistory.2.step (some 1) (.probed 2 .timedOut) =
          some (next, .answered none) ∧
        next.entries = reinsertionHistory.2.entries := by
  obtain ⟨kept, steps, probes⟩ := no_lost_update chronicle_reinsertion
  have present : reinsertionHistory.2.entries.get? sampleTable =
      some ⟨1, sampleMetadata "1"⟩ := by decide +kernel
  have older : Occurs (Installs sampleTable ⟨0, sampleMetadata "1"⟩) 0 reinsertionHistory.1 :=
    .inr (.inr (.inr (.inr (.inr (.inr (.inl ⟨rfl, rfl, rfl⟩))))))
  have newer : Occurs (Installs sampleTable ⟨1, sampleMetadata "1"⟩) 3 reinsertionHistory.1 :=
    .inr (.inr (.inr (.inl ⟨rfl, rfl, rfl⟩)))
  have finds : lookedUp? 1 reinsertionHistory.1 =
      some (1, sampleTable, some ⟨0, sampleMetadata "1"⟩) := by decide +kernel
  refine ⟨chronicle_reinsertion, ?_, ⟨_, _, rfl, ?_⟩, _, rfl, (probes 2 .timedOut _ _ rfl).1⟩
  · refine (kept _ _ 0 older).resolve_left ?_
    rw [present]
    decide
  · exact ((steps (.drop 1) _ _ rfl).2 1 rfl).2.2 _ _ _ 1 3 finds newer (by decide) present

end StorageBroker.TableCache
