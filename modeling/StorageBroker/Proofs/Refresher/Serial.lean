import StorageBroker.Proofs.Refresher.Change
import StorageBroker.Refresher.Turn

/-!
# Calls one at a time

A deed is what a caller asks for, with what comes from outside: the readings of the clock, and what a
load comes to. `State.perform` lets one task do a deed from beginning to end, and `State.serially`
does so with one deed after another.

What a deed means is said apart from the machine, by what it does to the entry of its resource and by
what comes of it (`Means`). In a state without tasks the machine does what is meant
(`Quiet.perform`).
-/

set_option autoImplicit false

namespace StorageBroker.Refresher

/-! ## Deeds -/

/-- What is done by a call, with what comes from outside. -/
inductive Deed where
  /-- A credential is got: with the reading of the clock by which it is decided, and if there is a
  load, with its result and the reading of the clock when it has ended. -/
  | get (reading : Int64) (load : Option (LoadResult × Int64))
  /-- The state is looked at: with a reading of the clock, unless there was nothing to look at. -/
  | look (reading : Option Int64)
  | invalidate
  deriving DecidableEq

/-- What comes of a deed: what the caller is told, and whether something was loaded. -/
structure Outcome where
  told : Option Reply
  loaded : Bool
  deriving DecidableEq

/-- One task does a deed, while no other one does anything: the state when it has left, and what came
of it. The spare reading of the clock is for a deed that has none and turns out to need one; a task
whose deed has no load and turns out to need one is told nothing. -/
def State.perform (policy : Policy) (resource : String) (spare : Int64) (state : State) :
    Deed → State × Outcome
  | .get reading load =>
    let begun := (state.after policy (.beginGet 0 resource)).1
    let turned := begun.takeTurn policy 0 reading
    match turned.2, load with
    | .loading _, some (result, now) =>
      let finished := turned.1.finishLoad policy 0 result now
      (finished.1, ⟨finished.2.reply?, true⟩)
    | .loading _, none => (turned.1, ⟨none, true⟩)
    | event, _ => (turned.1, ⟨event.reply?, false⟩)
  | .look reading =>
    let begun := state.after policy (.beginLook 0 resource)
    match begun.2.reply? with
    | some reply => (begun.1, ⟨some reply, false⟩)
    | none =>
      let turned := begun.1.takeTurn policy 0 (reading.getD spare)
      (turned.1, ⟨turned.2.reply?, false⟩)
  | .invalidate => ((state.after policy (.invalidate resource)).1, ⟨none, false⟩)

/-- What comes of deeds that are done one after another. -/
def State.serially (policy : Policy) (resource : String) (spare : Int64) :
    State → List Deed → List Outcome
  | _, [] => []
  | state, deed :: rest =>
    let done := state.perform policy resource spare deed
    done.2 :: done.1.serially policy resource spare rest

/-! ## What deeds mean -/

/-- What a deed means: the entry before it, the entry behind it, and what comes of it. -/
inductive Means (policy : Policy) (resource : String) :
    Entry → Deed → Entry → Outcome → Prop where
  | hit {entry : Entry} {reading : Int64} {credential : Credential}
      (fresh : entry.fresh? reading = some credential) :
      Means policy resource entry (.get reading none) entry
        ⟨some (.credential (.ok credential)), false⟩
  | load {entry : Entry} {reading : Int64} {result : LoadResult} {now : Int64}
      (stale : entry.fresh? reading = none) :
      Means policy resource entry (.get reading (some (result, now)))
        (policy.settle resource entry result now).2
        ⟨some (.credential (policy.settle resource entry result now).1), true⟩
  | look {entry : Entry} {reading : Int64} :
      Means policy resource entry (.look (some reading)) entry
        ⟨some (.freshness (entry.freshness reading)), false⟩
  | lookAtNothing :
      Means policy resource Entry.empty (.look none) Entry.empty ⟨some (.freshness .empty), false⟩
  | invalidate {entry : Entry} :
      Means policy resource entry .invalidate Entry.empty ⟨none, false⟩

/-! ## A task by itself -/

/-- One task is there, in a phase, and it holds the slot of the resource. -/
structure Solo (resource : String) (slot : Slot) (phase : Phase) (state : State) : Prop where
  others : ∀ id, id ≠ 0 → state.tasks.get? id = none
  holds : ∃ number, state.tasks.get? 0 = some ⟨resource, number, phase⟩ ∧
    state.tracked.get? resource = some number ∧ state.slots number = slot

/-- No task is there, and the resource is not tracked or has a slot with the entry, without a mark. -/
structure Quiet (resource : String) (entry : Entry) (state : State) : Prop where
  nobody : ∀ id, state.tasks.get? id = none
  keeps : state.tracked.get? resource = none ∧ entry = Entry.empty ∨
    ∃ number, state.tracked.get? resource = some number ∧
      state.slots number = ⟨entry, false, none⟩

namespace Solo

variable {policy : Policy} {resource : String} {slot behind : Slot} {phase next : Phase}
  {state : State} {event : Event}

/-- What the task does when it takes a step of its own. -/
theorem goOn (solo : Solo resource slot phase state) (policy : Policy) (step : Step)
    (goes : phase.goOn? policy 0 resource slot step = some (next, behind, event))
    (own : state.step policy step = state.goOn? policy 0 step) :
    (state.after policy step).2 = event ∧
      Solo resource behind next (state.after policy step).1 := by
  obtain ⟨number, found, tracked, content⟩ := solo.holds
  have taken : state.step policy step =
      some (state.advance 0 ⟨resource, number, phase⟩ next behind, event) := by
    rw [own, State.goOn?, found]
    dsimp only
    rw [content, goes]
    rfl
  rw [State.after, taken, Option.getD_some]
  refine ⟨rfl, ?_, number, ?_, tracked, ?_⟩
  · intro id different
    rw [State.tasks_advance, if_neg different.symm, solo.others id different]
  · rw [State.tasks_advance, if_pos rfl]
  · rw [State.slots_advance, if_pos rfl]

/-- The phase in which the task is found. -/
theorem phase_eq (solo : Solo resource slot phase state) :
    (state.tasks.get? 0).map Task.phase = some phase := by
  obtain ⟨number, found, -⟩ := solo.holds
  rw [found, Option.map_some]

/-- A task that leaves leaves its slot behind. -/
theorem leave {entry : Entry} (solo : Solo resource ⟨entry, false, none⟩ .leaving state) :
    Quiet resource entry (state.after policy (.leave 0)).1 := by
  obtain ⟨number, found, tracked, content⟩ := solo.holds
  have taken : state.step policy (.leave 0) = some (state.dropTask 0, .silent) := by
    rw [State.step, found]
  rw [State.after, taken, Option.getD_some]
  refine ⟨?_, .inr ⟨number, tracked, content⟩⟩
  intro id
  rw [State.tasks_dropTask]
  split
  · rfl
  · next different => exact solo.others id (Ne.symm different)

/-- A task that is told something leaves. -/
theorem leaveIfTold {entry : Entry} {reply : Reply}
    (solo : Solo resource ⟨entry, false, none⟩ .leaving state) (told : event.reply? = some reply) :
    (State.leaveIfTold policy 0 (state, event)).2 = event ∧
      Quiet resource entry (State.leaveIfTold policy 0 (state, event)).1 := by
  rw [State.leaveIfTold, told]
  exact ⟨rfl, solo.leave⟩

section Turns

variable (policy) {entry : Entry} {now : Int64}

/-- A turn of a task that gets a credential: it takes the lock, sweeps and decides. -/
theorem takeTurn_of_get (solo : Solo resource ⟨entry, false, none⟩ .waiting state)
    (goes : Phase.goOn? policy 0 resource ⟨entry, false, some 0⟩ .swept (.decide 0 now) =
      some (next, behind, event)) :
    ∃ decided, Solo resource behind next decided ∧
      state.takeTurn policy 0 now = State.leaveIfTold policy 0 (decided, event) := by
  obtain ⟨-, locked⟩ := solo.goOn policy (.acquire 0) rfl rfl
  obtain ⟨-, swept⟩ := locked.goOn policy (.sweep 0) rfl rfl
  obtain ⟨seen, decided⟩ := swept.goOn policy (.decide 0 now) goes rfl
  refine ⟨_, decided, ?_⟩
  rw [State.takeTurn, locked.phase_eq]
  dsimp only
  rw [← seen]

theorem takeTurn_hit {credential : Credential}
    (solo : Solo resource ⟨entry, false, none⟩ .waiting state)
    (fresh : entry.fresh? now = some credential) :
    (state.takeTurn policy 0 now).2 = .hit credential ∧
      Quiet resource entry (state.takeTurn policy 0 now).1 := by
  have goes : Phase.goOn? policy 0 resource ⟨entry, false, some 0⟩ .swept (.decide 0 now) =
      some (.leaving, ⟨entry, false, none⟩, .hit credential) := by
    simp [Phase.goOn?, fresh, Slot.released]
  obtain ⟨decided, left, same⟩ := solo.takeTurn_of_get policy goes
  rw [same]
  exact left.leaveIfTold rfl

theorem takeTurn_load (solo : Solo resource ⟨entry, false, none⟩ .waiting state)
    (stale : entry.fresh? now = none) :
    (state.takeTurn policy 0 now).2 = .loading resource ∧
      Solo resource ⟨entry, false, some 0⟩ .loading (state.takeTurn policy 0 now).1 := by
  have goes : Phase.goOn? policy 0 resource ⟨entry, false, some 0⟩ .swept (.decide 0 now) =
      some (.loading, ⟨entry, false, some 0⟩, .loading resource) := by
    simp [Phase.goOn?, stale]
  obtain ⟨decided, loads, same⟩ := solo.takeTurn_of_get policy goes
  rw [same]
  exact ⟨rfl, loads⟩

/-- The turn in which a load is settled. -/
theorem finishLoad_loading {result : LoadResult}
    (solo : Solo resource ⟨entry, false, some 0⟩ .loading state) :
    (state.finishLoad policy 0 result now).2 =
        .settled (policy.settle resource entry result now).1 ∧
      Quiet resource (policy.settle resource entry result now).2
        (state.finishLoad policy 0 result now).1 := by
  have goes : Phase.goOn? policy 0 resource ⟨entry, false, some 0⟩ .loading
      (.settle 0 result now) =
      some (.leaving, ⟨(policy.settle resource entry result now).2, false, none⟩,
        .settled (policy.settle resource entry result now).1) := rfl
  obtain ⟨seen, settled⟩ := solo.goOn policy (.settle 0 result now) goes rfl
  have same : state.finishLoad policy 0 result now = State.leaveIfTold policy 0
      ((state.after policy (.settle 0 result now)).1,
        .settled (policy.settle resource entry result now).1) := by
    rw [State.finishLoad, ← seen]
  rw [same]
  exact settled.leaveIfTold rfl

/-- A turn of a task that looks. -/
theorem takeTurn_look (solo : Solo resource ⟨entry, false, none⟩ .waitingToLook state) :
    (state.takeTurn policy 0 now).2 = .looked (entry.freshness now) ∧
      Quiet resource entry (state.takeTurn policy 0 now).1 := by
  obtain ⟨-, locked⟩ := solo.goOn policy (.acquire 0) rfl rfl
  have goes : Phase.goOn? policy 0 resource ⟨entry, false, some 0⟩ .looking (.look 0 now) =
      some (.leaving, ⟨entry, false, none⟩, .looked (entry.freshness now)) := rfl
  obtain ⟨seen, looked⟩ := locked.goOn policy (.look 0 now) goes rfl
  have same : state.takeTurn policy 0 now = State.leaveIfTold policy 0
      (((state.after policy (.acquire 0)).1.after policy (.look 0 now)).1,
        .looked (entry.freshness now)) := by
    rw [State.takeTurn, locked.phase_eq]
    dsimp only
    rw [← seen]
  rw [same]
  exact looked.leaveIfTold rfl

end Turns

end Solo

/-! ## A deed by itself -/

namespace Quiet

variable (policy : Policy) {resource : String} {entry next : Entry} {state : State} {deed : Deed}
  {outcome : Outcome}

/-- A refresher that tracks nothing is quiet, and it keeps nothing. -/
theorem initial : Quiet resource Entry.empty State.initial where
  nobody := fun _ => rfl
  keeps := .inl ⟨rfl, rfl⟩

/-- The first task is given a slot with the entry. -/
theorem beginGet (quiet : Quiet resource entry state) :
    Solo resource ⟨entry, false, none⟩ .waiting (state.after policy (.beginGet 0 resource)).1 := by
  have taken : state.step policy (.beginGet 0 resource) =
      some (state.takeSlot policy.config.capacity 0 resource, .silent) := by
    rw [State.step, quiet.nobody 0]
  rw [State.after, taken, Option.getD_some, State.takeSlot]
  rcases quiet.keeps with ⟨untracked, rfl⟩ | ⟨number, tracked, content⟩
  · rw [untracked]
    refine ⟨?_, state.nextSlot, ?_, State.tracked_openSlot_self, ?_⟩
    · intro id different
      rw [State.tasks_openSlot, if_neg different.symm, quiet.nobody id]
    · rw [State.tasks_openSlot, if_pos rfl]
    · rw [State.slots_openSlot, if_pos rfl]
      rfl
  · rw [tracked]
    refine ⟨?_, number, ?_, ?_, content⟩
    · intro id different
      rw [State.tasks_joinSlot, if_neg different.symm, quiet.nobody id]
    · rw [State.tasks_joinSlot, if_pos rfl]
    · rw [State.tracked_joinSlot, tracked]

theorem isIdle (quiet : Quiet resource entry state) (slot : SlotId) : state.isIdle slot = true := by
  apply (State.isIdle_iff state slot).2
  intro id task found
  rw [quiet.nobody id] at found
  cases found

/-- The first task waits to look, or it is told at once that there is nothing. -/
theorem beginLook (quiet : Quiet resource entry state) :
    ((state.after policy (.beginLook 0 resource)).2 = .looked .empty ∧ entry = Entry.empty ∧
        Quiet resource entry (state.after policy (.beginLook 0 resource)).1) ∨
      ((state.after policy (.beginLook 0 resource)).2 = .silent ∧
        Solo resource ⟨entry, false, none⟩ .waitingToLook
          (state.after policy (.beginLook 0 resource)).1) := by
  rcases quiet.keeps with ⟨untracked, empty⟩ | ⟨number, tracked, content⟩
  · have taken : state.step policy (.beginLook 0 resource) = some (state, .looked .empty) := by
      rw [State.step, quiet.nobody 0]
      dsimp only
      rw [untracked]
    rw [State.after, taken, Option.getD_some]
    exact .inl ⟨rfl, empty, quiet⟩
  · have taken : state.step policy (.beginLook 0 resource) =
        some (state.setTask 0 ⟨resource, number, .waitingToLook⟩, .silent) := by
      rw [State.step, quiet.nobody 0]
      dsimp only
      rw [tracked]
    rw [State.after, taken, Option.getD_some]
    refine .inr ⟨rfl, ?_, number, ?_, tracked, content⟩
    · intro id different
      rw [State.tasks_setTask, if_neg different.symm, quiet.nobody id]
    · rw [State.tasks_setTask, if_pos rfl]

/-- An invalidation leaves nothing behind. -/
theorem invalidate (quiet : Quiet resource entry state) :
    Quiet resource Entry.empty (state.after policy (.invalidate resource)).1 := by
  have taken : state.step policy (.invalidate resource) =
      some (state.invalidateResource resource, .silent) := rfl
  rw [State.after, taken, Option.getD_some, State.invalidateResource]
  rcases quiet.keeps with ⟨untracked, rfl⟩ | ⟨number, tracked, content⟩
  · rw [untracked]
    exact quiet
  · rw [tracked]
    dsimp only
    rw [if_pos (quiet.isIdle number)]
    refine ⟨quiet.nobody, .inl ⟨?_, rfl⟩⟩
    rw [Keyed.get?_erase, if_pos rfl]

/-- **The machine does what a deed means**, in a state without tasks. -/
theorem perform (quiet : Quiet resource entry state) (spare : Int64)
    (means : Means policy resource entry deed next outcome) :
    (state.perform policy resource spare deed).2 = outcome ∧
      Quiet resource next (state.perform policy resource spare deed).1 := by
  cases means with
  | hit fresh =>
    obtain ⟨seen, behind⟩ := (quiet.beginGet policy).takeTurn_hit policy fresh
    unfold State.perform
    dsimp only
    rw [seen]
    exact ⟨rfl, behind⟩
  | load stale =>
    obtain ⟨seen, loads⟩ := (quiet.beginGet policy).takeTurn_load policy stale
    obtain ⟨told, behind⟩ := loads.finishLoad_loading policy
    unfold State.perform
    dsimp only
    rw [seen]
    dsimp only
    rw [told]
    exact ⟨rfl, behind⟩
  | @look _ reading =>
    unfold State.perform
    dsimp only
    rcases quiet.beginLook policy with ⟨seen, rfl, behind⟩ | ⟨seen, waits⟩
    · rw [seen]
      exact ⟨rfl, behind⟩
    · obtain ⟨told, behind⟩ := waits.takeTurn_look policy
      rw [seen]
      dsimp only [Event.reply?, Option.getD_some]
      rw [told]
      exact ⟨rfl, behind⟩
  | lookAtNothing =>
    unfold State.perform
    dsimp only
    rcases quiet.beginLook policy with ⟨seen, -, behind⟩ | ⟨seen, waits⟩
    · rw [seen]
      exact ⟨rfl, behind⟩
    · obtain ⟨told, behind⟩ := waits.takeTurn_look policy
      rw [seen]
      dsimp only [Event.reply?, Option.getD_none]
      rw [told]
      exact ⟨rfl, behind⟩
  | invalidate => exact ⟨rfl, quiet.invalidate policy⟩

end Quiet

end StorageBroker.Refresher
