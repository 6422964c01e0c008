import StorageBroker.Proofs.Refresher.Lock

/-!
# How phases and entries come about

What a step does to a lane is looked at from two sides: how a task comes to be in a phase behind the
step (`Arrival`), and how the slot behind the step comes about (`EntryChange`). The invariants of
lanes and their courses are proved by these cases, rather than by those of all steps.
-/

set_option autoImplicit false

namespace StorageBroker.Refresher

/-! ## How a task comes to a phase -/

/-- The steps with which a task that has come to a phase can have begun. -/
def Phase.BeganBy (id : TaskId) (resource : String) : Phase → Step → Prop
  | .waiting, step | .locked, step | .swept, step | .loading, step =>
    step = .beginGet id resource
  | .waitingToLook, step | .looking, step => step = .beginLook id resource
  | .leaving, step => step = .beginGet id resource ∨ step = .beginLook id resource

/-- How a task comes to be in a phase behind a step: it was in this phase before, and if it had the
lock the slot is as it was or marked; or it begins; or it moves. -/
inductive Arrival (policy : Policy) (resource : String) (lane next : Lane) (id : TaskId)
    (phase : Phase) : Option Step → Event → Prop where
  | stays {step : Option Step} {event : Event} (found : lane.phases id = some phase)
      (another : ∀ taken, step = some taken → taken.task? ≠ some id)
      (slots : phase.hasLock = true → ∃ slot, lane.slot = some slot ∧
        (next.slot = some slot ∧ step ≠ some (.invalidate resource) ∨
          next.slot = some slot.marked ∧ step = some (.invalidate resource))) :
      Arrival policy resource lane next id phase step event
  | begins {step : Step} (own : step.task? = some id) (began : phase.BeganBy id resource step)
      (waits : phase.hasLock = false) : Arrival policy resource lane next id phase (some step) .silent
  | moves {step : Step} {event : Event} {before : Phase} {slot behind : Slot}
      (found : lane.phases id = some before) (tracked : lane.slot = some slot)
      (tracks : next.slot = some behind)
      (move : Move policy id resource step event before slot phase behind) :
      Arrival policy resource lane next id phase (some step) event

section Arrivals

variable {policy : Policy} {resource : String} {lane next : Lane} {step : Option Step}
  {event : Event} {id : TaskId} {phase : Phase}

/-- A task stays in its phase when its slot is left alone as long as it has the lock. -/
theorem Arrival.still (sound : LaneSound lane) (found : lane.phases id = some phase)
    (another : ∀ taken, step = some taken → taken.task? ≠ some id)
    (valid : step ≠ some (.invalidate resource))
    (slots : ∀ slot, lane.slot = some slot → slot.owner = some id → next.slot = some slot) :
    Arrival policy resource lane next id phase step event := by
  refine .stays found another ?_
  intro locks
  obtain ⟨slot, tracked⟩ := sound.held found
  have same := slots slot tracked (sound.locked found locks tracked)
  exact ⟨slot, tracked, .inl ⟨same, valid⟩⟩

/-- A task stays in its phase when another one takes a step that leaves the slot alone. -/
theorem Arrival.still_of_ne {taken : Step} {other : TaskId} (sound : LaneSound lane)
    (own : taken.task? = some other) (different : other ≠ id)
    (found : lane.phases id = some phase)
    (slots : ∀ slot, lane.slot = some slot → slot.owner = some id → next.slot = some slot) :
    Arrival policy resource lane next id phase (some taken) event := by
  refine .still sound found ?_ ?_ slots
  · rintro step ⟨⟩ same
    exact different (Option.some.inj (own.symm.trans same))
  · rintro ⟨⟩
    cases own

/-- A task begins, and the others stay in their phases. -/
theorem Arrival.of_begins {taken : Step} {beginner : TaskId} {first : Phase} {slot : Slot}
    (sound : LaneSound lane) (own : taken.task? = some beginner)
    (began : first.BeganBy beginner resource taken) (waits : first.hasLock = false)
    (same : ∀ other, lane.slot = some other → slot = other)
    (found : (lane.put (some slot) beginner (some first)).phases id = some phase) :
    Arrival policy resource lane (lane.put (some slot) beginner (some first)) id phase
      (some taken) .silent := by
  rw [Lane.phases_put] at found
  split at found
  · next himself =>
    cases found
    subst himself
    exact .begins own began waits
  · next different =>
    refine .still_of_ne sound own different found ?_
    intro other tracked _
    exact congrArg some (same other tracked)

theorem LaneSound.arrival (sound : LaneSound lane)
    (change : LaneChange policy resource lane step event next)
    (found : next.phases id = some phase) :
    Arrival policy resource lane next id phase step event := by
  cases change with
  | elsewhere => exact .still sound found nofun nofun fun _ tracked _ => tracked
  | evicted _ idle =>
    rw [idle id] at found
    cases found
  | join _ tracked =>
    refine .of_begins sound rfl rfl rfl ?_ found
    intro other tracks
    exact Option.some.inj (tracked.symm.trans tracks)
  | opening _ untracked =>
    refine .of_begins sound rfl rfl rfl ?_ found
    intro other tracks
    cases untracked.symm.trans tracks
  | joinToLook _ tracked =>
    refine .of_begins sound rfl rfl rfl ?_ found
    intro other tracks
    exact Option.some.inj (tracked.symm.trans tracks)
  | lookAtNothing _ untracked =>
    rw [sound.idle_of_untracked untracked id] at found
    cases found
  | move holds tracked move =>
    rw [Lane.phases_put] at found
    split at found
    · next himself =>
      cases found
      subst himself
      exact .moves holds tracked rfl move
    · next different =>
      refine .still_of_ne sound move.task? different found ?_
      intro other tracks owned
      cases tracked.symm.trans tracks
      exact congrArg some
        (move.behind_eq_of_locked (fun locks => sound.locked holds locks tracked) different owned)
  | leave _ =>
    rw [Lane.phases_put] at found
    split at found
    · cases found
    · next different => exact .still_of_ne sound rfl different found fun _ tracked _ => tracked
  | invalidateNothing untracked =>
    rw [sound.idle_of_untracked untracked id] at found
    cases found
  | invalidateIdle _ idle =>
    rw [idle id] at found
    cases found
  | invalidateHeld tracked _ =>
    refine .stays found ?_ fun _ => ⟨_, tracked, .inr ⟨rfl, rfl⟩⟩
    rintro taken ⟨⟩ own
    cases own

end Arrivals

/-! ## What becomes of the entry -/

/-- Whether a step leaves entries and marks alone, apart from evictions. -/
def Step.Plain : Step → Prop
  | .settle _ _ _ | .invalidate _ | .sweep _ => False
  | _ => True

/-- How the slot behind a step comes about, but for its owner: the entry and the mark stay; or the
slot is new; or it is marked; or a task sweeps it; or a load is settled. -/
inductive EntryChange (policy : Policy) (resource : String) (lane : Lane) (behind : Slot) :
    Option Step → Event → Prop where
  | keeps {step : Option Step} {event : Event} {slot : Slot} (tracked : lane.slot = some slot)
      (entry : behind.entry = slot.entry) (mark : behind.invalidated = slot.invalidated)
      (plain : ∀ taken, step = some taken → taken.Plain) :
      EntryChange policy resource lane behind step event
  | opens {id : TaskId} (untracked : lane.slot = none) (same : behind = Slot.fresh) :
      EntryChange policy resource lane behind (some (.beginGet id resource)) .silent
  | marks {slot : Slot} (tracked : lane.slot = some slot) (same : behind = slot.marked) :
      EntryChange policy resource lane behind (some (.invalidate resource)) .silent
  | sweeps {id : TaskId} {slot : Slot} (found : lane.phases id = some .locked)
      (tracked : lane.slot = some slot) (same : behind = slot.swept) :
      EntryChange policy resource lane behind (some (.sweep id)) .silent
  | settles {id : TaskId} {result : LoadResult} {now : Int64} {slot : Slot}
      (found : lane.phases id = some .loading) (tracked : lane.slot = some slot)
      (same : behind = slot.released (policy.settle resource slot.entry result now).2) :
      EntryChange policy resource lane behind (some (.settle id result now))
        (.settled (policy.settle resource slot.entry result now).1)

theorem Move.entryChange {policy : Policy} {id : TaskId} {resource : String} {step : Step}
    {event : Event} {before phase : Phase} {slot behind : Slot} {lane : Lane}
    (move : Move policy id resource step event before slot phase behind)
    (found : lane.phases id = some before) (tracked : lane.slot = some slot) :
    EntryChange policy resource lane behind (some step) event := by
  have keeps : behind.entry = slot.entry → behind.invalidated = slot.invalidated → step.Plain →
      EntryChange policy resource lane behind (some step) event := by
    intro entry mark plain
    refine .keeps tracked entry mark ?_
    rintro taken ⟨⟩
    exact plain
  cases move with
  | acquire _ => exact keeps rfl rfl trivial
  | acquireToLook _ => exact keeps rfl rfl trivial
  | sweep => exact .sweeps found tracked rfl
  | hit _ => exact keeps rfl rfl trivial
  | load _ => exact keeps rfl rfl trivial
  | settle => exact .settles found tracked rfl
  | look => exact keeps rfl rfl trivial
  | abandon _ => exact keeps (Slot.entry_freedBy slot id) (Slot.invalidated_freedBy slot id) trivial

theorem LaneChange.entryChange {policy : Policy} {resource : String} {lane next : Lane}
    {step : Option Step} {event : Event} {behind : Slot}
    (change : LaneChange policy resource lane step event next)
    (tracked : next.slot = some behind) :
    EntryChange policy resource lane behind step event := by
  cases change with
  | elsewhere => exact .keeps tracked rfl rfl fun _ same => by cases same
  | evicted _ _ => cases tracked
  | join _ tracks =>
    cases tracked
    exact .keeps tracks rfl rfl fun _ same => Option.some.inj same ▸ trivial
  | opening _ untracked => exact .opens untracked (Option.some.inj tracked).symm
  | joinToLook _ tracks =>
    cases tracked
    exact .keeps tracks rfl rfl fun _ same => Option.some.inj same ▸ trivial
  | lookAtNothing _ untracked =>
    rw [untracked] at tracked
    cases tracked
  | move found tracks move =>
    cases tracked
    exact move.entryChange found tracks
  | leave _ => exact .keeps tracked rfl rfl fun _ same => Option.some.inj same ▸ trivial
  | invalidateNothing untracked =>
    rw [untracked] at tracked
    cases tracked
  | invalidateIdle _ _ => cases tracked
  | invalidateHeld tracks _ => exact .marks tracks (Option.some.inj tracked).symm

end StorageBroker.Refresher
