import StorageBroker.Table.Cache

/-!
# What a step of the cache changes

`Change` lists what a step can do: a lookup misses, or finds a snapshot and begins to probe; a probe
leaves it unknown where the metadata lies, confirms the snapshot or rejects it; a rejected snapshot is
dropped; a lookup is abandoned; and entries are put, taken out and cleared from outside
(`change_of_step`).

From it the entries behind a step are told from those before it. An entry that is there behind a step
was there before or is put by the step (`Change.entry_cases`), and a lookup that is under way behind a
step was under way before, or it begins, or it is rejected (`Change.lookupChange`). A new table puts
out the one used last when there is no room (`Displaces`).
-/

set_option autoImplicit false

namespace StorageBroker.TableCache

variable {μ : Type}

/-! ## Putting and dropping -/

/-- An entry for a table that is not kept puts out the entry of another table: the capacity is reached,
and no table was used longer ago. -/
structure Displaces {α : Type} (capacity : Option Nat) (entries : Keyed TableId α)
    (id other : TableId) : Prop where
  new : entries.get? id = none
  full : ∃ bound, capacity = some bound ∧ bound ≤ entries.size
  last : entries.keys.getLast? = some other

section Entries

variable {α : Type} {capacity : Option Nat} {entries : Keyed TableId α} {id other : TableId}
  {value : α}

@[simp] theorem get?_putFirst_self : (putFirst capacity entries id value).get? id = some value := by
  simp [putFirst]

/-- Behind a new entry the entry of another table is as it was, or it was put out. -/
theorem get?_putFirst_of_ne (different : id ≠ other) :
    (putFirst capacity entries id value).get? other = entries.get? other ∨
      (putFirst capacity entries id value).get? other = none ∧
        Displaces capacity entries id other := by
  unfold putFirst
  dsimp only
  rw [Keyed.get?_insertFirst, if_neg different]
  cases capacity with
  | none => exact .inl rfl
  | some bound =>
    cases isLast : entries.entries.getLast? with
    | none => exact .inl rfl
    | some last =>
      dsimp only
      split
      · exact .inl rfl
      · next full =>
        simp only [Keyed.contains, Bool.or_eq_true, decide_eq_true_eq, not_or, Nat.not_lt,
          Option.not_isSome_iff_eq_none] at full
        rw [Keyed.get?_erase]
        split
        · next same =>
          refine .inr ⟨rfl, full.1, ⟨bound, rfl, full.2⟩, ?_⟩
          rw [Keyed.keys, List.getLast?_map, isLast, Option.map_some, same]
        · exact .inl rfl

/-- A new entry brings in no other one. -/
theorem get?_of_get?_putFirst (different : id ≠ other) {present : α}
    (found : (putFirst capacity entries id value).get? other = some present) :
    entries.get? other = some present := by
  rcases get?_putFirst_of_ne different with same | ⟨gone, -⟩
  · rw [← same, found]
  · cases gone.symm.trans found

end Entries

section Drop

variable {state : State μ} {lookup : Lookup μ} {current : Stamped μ} {other : TableId}

theorem State.get?_dropFound_of_ne (different : lookup.id ≠ other) :
    (state.dropFound lookup).get? other = state.entries.get? other := by
  unfold dropFound
  split
  · split
    · rw [Keyed.get?_erase, if_neg different]
    · rfl
  · rfl

/-- Only an entry for the table of the lookup, with the stamp that was found, is dropped. -/
theorem State.eq_of_dropped (present : state.entries.get? other = some current)
    (dropped : (state.dropFound lookup).get? other ≠ some current) :
    lookup.id = other ∧ current.stamp = lookup.found.stamp := by
  by_cases same : lookup.id = other
  · subst same
    refine ⟨rfl, ?_⟩
    unfold dropFound at dropped
    rw [present] at dropped
    dsimp only at dropped
    split at dropped
    · next stamp => exact stamp
    · exact absurd present dropped
  · rw [State.get?_dropFound_of_ne same] at dropped
    exact absurd present dropped

/-- Dropping brings nothing in. -/
theorem State.get?_of_get?_dropFound (found : (state.dropFound lookup).get? other = some current) :
    state.entries.get? other = some current := by
  unfold dropFound at found
  split at found
  · split at found
    · rw [Keyed.get?_erase] at found
      split at found
      · cases found
      · exact found
    · exact found
  · exact found

end Drop

/-! ## What a step can do -/

/-- All that a step can do to a state. -/
inductive Change [Located μ] (capacity : Option Nat) (state : State μ) :
    Step μ → Event μ → State μ → Prop where
  | miss {task : TaskId} {id : TableId} (new : state.lookups.get? task = none)
      (absent : state.entries.get? id = none) :
      Change capacity state (.beginGet task id) (.answered none) state
  | find {task : TaskId} {id : TableId} {found : Stamped μ} (new : state.lookups.get? task = none)
      (present : state.entries.get? id = some found) :
      Change capacity state (.beginGet task id) (.probing id)
        { state with
          entries := state.entries.touch id
          lookups := state.lookups.insert task ⟨id, found, .probing⟩ }
  | unknown {task : TaskId} {id : TableId} {found : Stamped μ} {result : ProbeResult}
      (asks : state.lookups.get? task = some ⟨id, found, .probing⟩)
      (nowhere : result.location? = none) :
      Change capacity state (.probed task result) (.answered none)
        { state with lookups := state.lookups.erase task }
  | confirm {task : TaskId} {id : TableId} {found : Stamped μ} {result : ProbeResult}
      (asks : state.lookups.get? task = some ⟨id, found, .probing⟩)
      (there : result.location? = some (Located.location found.snapshot)) :
      Change capacity state (.probed task result) (.answered (some found.snapshot))
        { state with lookups := state.lookups.erase task }
  | reject {task : TaskId} {id : TableId} {found : Stamped μ} {result : ProbeResult}
      {location : String} (asks : state.lookups.get? task = some ⟨id, found, .probing⟩)
      (elsewhere : result.location? = some location)
      (differs : location ≠ Located.location found.snapshot) :
      Change capacity state (.probed task result) .silent
        { state with lookups := state.lookups.insert task ⟨id, found, .dropping⟩ }
  | drop {task : TaskId} {id : TableId} {found : Stamped μ}
      (rejected : state.lookups.get? task = some ⟨id, found, .dropping⟩) :
      Change capacity state (.drop task) (.answered none)
        { state with
          entries := state.dropFound ⟨id, found, .dropping⟩
          lookups := state.lookups.erase task }
  | abandon {task : TaskId} {id : TableId} {found : Stamped μ}
      (asks : state.lookups.get? task = some ⟨id, found, .probing⟩) :
      Change capacity state (.abandon task) .silent
        { state with lookups := state.lookups.erase task }
  | update {id : TableId} {snapshot : μ} :
      Change capacity state (.update id snapshot) .silent
        { state with
          entries := putFirst capacity state.entries id ⟨state.nextStamp, snapshot⟩
          nextStamp := state.nextStamp + 1 }
  | invalidate {id : TableId} :
      Change capacity state (.invalidate id) .silent
        { state with entries := state.entries.erase id }
  | clear : Change capacity state .clear .silent { state with entries := Keyed.empty }

/-- **A step does one of the listed changes.** -/
theorem change_of_step [Located μ] {capacity : Option Nat} {state next : State μ} {step : Step μ}
    {event : Event μ} (taken : state.step capacity step = some (next, event)) :
    Change capacity state step event next := by
  cases step with
  | beginGet task id =>
    simp only [State.step] at taken
    split at taken
    · cases taken
    · next new =>
      split at taken
      · next absent =>
        cases taken
        exact .miss new absent
      · next found present =>
        cases taken
        exact .find new present
  | probed task result =>
    simp only [State.step] at taken
    split at taken
    · next id found asks =>
      split at taken
      · next nowhere =>
        cases taken
        exact .unknown asks nowhere
      · next location known =>
        split at taken
        · next same =>
          cases taken
          exact .confirm asks (same ▸ known)
        · next differs =>
          cases taken
          exact .reject asks known differs
    · cases taken
  | drop task =>
    simp only [State.step] at taken
    split at taken
    · next lookup under =>
      obtain ⟨id, found, phase⟩ := lookup
      cases phase with
      | probing => cases taken
      | dropping =>
        cases taken
        exact .drop under
    · cases taken
  | abandon task =>
    simp only [State.step] at taken
    split at taken
    · next id found asks =>
      cases taken
      exact .abandon asks
    · cases taken
  | update id snapshot =>
    cases taken
    exact .update
  | invalidate id =>
    cases taken
    exact .invalidate
  | clear =>
    cases taken
    exact .clear

/-! ## Entries and lookups behind a step -/

/-- The task whose lookup takes a step; updates, invalidations and clearing are nobody's. -/
def Step.task? : Step μ → Option TaskId
  | .beginGet task _ | .probed task _ | .drop task | .abandon task => some task
  | .update _ _ | .invalidate _ | .clear => none

/-- Whether a step replaces or withdraws whatever is kept of a table. -/
def Step.Supersedes (id : TableId) : Step μ → Prop
  | .update other _ | .invalidate other => other = id
  | .clear => True
  | .beginGet _ _ | .probed _ _ | .drop _ | .abandon _ => False

instance (id : TableId) : DecidablePred (Step.Supersedes (μ := μ) id)
  | .update other _ | .invalidate other => inferInstanceAs (Decidable (other = id))
  | .clear => inferInstanceAs (Decidable True)
  | .beginGet _ _ | .probed _ _ | .drop _ | .abandon _ => inferInstanceAs (Decidable False)

/-- The steps of lookups replace and withdraw nothing. -/
theorem Step.not_supersedes {step : Step μ} {task : TaskId} {id : TableId}
    (own : step.task? = some task) : ¬ step.Supersedes id := by
  intro supersedes
  cases step with
  | update _ _ => cases own
  | invalidate _ => cases own
  | clear => cases own
  | _ => exact supersedes

/-- The table that a step is about; clearing is about none in particular. -/
def State.subject? (state : State μ) : Step μ → Option TableId
  | .beginGet _ id | .update id _ | .invalidate id => some id
  | .probed task _ | .drop task | .abandon task => (state.lookups.get? task).map Lookup.id
  | .clear => none

section Behind

variable [Located μ] {capacity : Option Nat} {state next : State μ} {step : Step μ}
  {event : Event μ} {id : TableId} {entry : Stamped μ} {task : TaskId} {lookup : Lookup μ}

/-- An entry that is there behind a step is put by the step, or it was there before. -/
theorem Change.entry_cases (change : Change capacity state step event next)
    (present : next.entries.get? id = some entry) :
    step = .update id entry.snapshot ∧ state.nextStamp = entry.stamp ∨
      state.entries.get? id = some entry ∧ ¬ step.Supersedes id := by
  cases change with
  | miss _ _ => exact .inr ⟨present, Step.not_supersedes rfl⟩
  | find _ _ => exact .inr ⟨(Keyed.get?_touch _ _ _).symm.trans present, Step.not_supersedes rfl⟩
  | unknown _ _ => exact .inr ⟨present, Step.not_supersedes rfl⟩
  | confirm _ _ => exact .inr ⟨present, Step.not_supersedes rfl⟩
  | reject _ _ _ => exact .inr ⟨present, Step.not_supersedes rfl⟩
  | drop _ => exact .inr ⟨State.get?_of_get?_dropFound present, Step.not_supersedes rfl⟩
  | abandon _ => exact .inr ⟨present, Step.not_supersedes rfl⟩
  | @update other snapshot =>
    by_cases same : other = id
    · subst same
      rw [get?_putFirst_self] at present
      cases present
      exact .inl ⟨rfl, rfl⟩
    · exact .inr ⟨get?_of_get?_putFirst same present, same⟩
  | @invalidate other =>
    rw [Keyed.get?_erase] at present
    split at present
    · cases present
    · next different => exact .inr ⟨present, different⟩
  | clear => cases present

/-- How a lookup comes to be under way behind a step: it was under way and another one took the step,
or it begins with an entry that it finds, or its probe rejects the snapshot. -/
inductive LookupChange (state : State μ) (task : TaskId) :
    Step μ → Event μ → Lookup μ → Prop where
  | stays {step : Step μ} {event : Event μ} {lookup : Lookup μ}
      (found : state.lookups.get? task = some lookup) (another : step.task? ≠ some task) :
      LookupChange state task step event lookup
  | finds {id : TableId} {found : Stamped μ} (present : state.entries.get? id = some found) :
      LookupChange state task (.beginGet task id) (.probing id) ⟨id, found, .probing⟩
  | rejects {id : TableId} {found : Stamped μ} {location : String}
      (asked : state.lookups.get? task = some ⟨id, found, .probing⟩)
      (differs : location ≠ Located.location found.snapshot) :
      LookupChange state task (.probed task (.answered (.ok (some location)))) .silent
        ⟨id, found, .dropping⟩

/-- Whatever step another task takes, it leaves the lookup of this one alone. -/
theorem Change.lookupChange (change : Change capacity state step event next)
    (under : next.lookups.get? task = some lookup) :
    LookupChange state task step event lookup := by
  have stays : ∀ {other : TaskId}, other ≠ task → step.task? = some other →
      state.lookups.get? task = some lookup → LookupChange state task step event lookup := by
    intro other different own found
    refine .stays found ?_
    rw [own]
    intro same
    exact different (Option.some.inj same)
  have erased : ∀ {other : TaskId}, step.task? = some other →
      (state.lookups.erase other).get? task = some lookup →
      LookupChange state task step event lookup := by
    intro other own found
    rw [Keyed.get?_erase] at found
    split at found
    · cases found
    · next different => exact stays different own found
  cases change with
  | miss new _ =>
    refine stays ?_ rfl under
    rintro rfl
    cases new.symm.trans under
  | find _ present =>
    rw [Keyed.get?_insert] at under
    split at under
    · next same =>
      cases under
      subst same
      exact .finds present
    · next different => exact stays different rfl under
  | unknown _ _ => exact erased rfl under
  | confirm _ _ => exact erased rfl under
  | reject asks elsewhere differs =>
    rw [Keyed.get?_insert] at under
    split at under
    · next same =>
      cases under
      subst same
      rw [ProbeResult.location?_eq_some_iff] at elsewhere
      subst elsewhere
      exact .rejects asks differs
    · next different => exact stays different rfl under
  | drop _ => exact erased rfl under
  | abandon _ => exact erased rfl under
  | update => exact .stays under (Option.some_ne_none task).symm
  | invalidate => exact .stays under (Option.some_ne_none task).symm
  | clear => exact .stays under (Option.some_ne_none task).symm

end Behind

end StorageBroker.TableCache
