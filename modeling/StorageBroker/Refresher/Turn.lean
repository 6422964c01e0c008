import StorageBroker.Refresher.Machine

/-!
# Turns

A task does several steps at a stretch: when the lock is free it takes the lock and goes on until
it has its answer or begins a load, and when a load has ended it settles the load and leaves. A
turn is such a stretch. What a caller is told can be read off the last event of a turn.
-/

set_option autoImplicit false

namespace StorageBroker.Refresher

/-- What a caller is told. -/
inductive Reply where
  | credential (answer : Except CredentialError Credential)
  | freshness (freshness : Freshness)
  deriving DecidableEq

/-- What an event tells a caller. -/
def Event.reply? : Event → Option Reply
  | .hit credential => some (.credential (.ok credential))
  | .settled answer => some (.credential answer)
  | .looked freshness => some (.freshness freshness)
  | .silent | .loading _ => none

namespace State

/-- The state behind a step. Where the step cannot be taken nothing happens. -/
def after (policy : Policy) (state : State) (step : Step) : State × Event :=
  (state.step policy step).getD (state, .silent)

/-- Lets a task leave that was told something. -/
def leaveIfTold (policy : Policy) (id : TaskId) (reached : State × Event) : State × Event :=
  match reached.2.reply? with
  | some _ => ((reached.1.after policy (.leave id)).1, reached.2)
  | none => reached

/-- The turn of a task that waits for the lock. If the lock is taken nothing happens. -/
def takeTurn (policy : Policy) (state : State) (id : TaskId) (now : Int64) : State × Event :=
  let locked := (state.after policy (.acquire id)).1
  match (locked.tasks.get? id).map Task.phase with
  | some .looking => leaveIfTold policy id (locked.after policy (.look id now))
  | some .locked =>
    let swept := (locked.after policy (.sweep id)).1
    leaveIfTold policy id (swept.after policy (.decide id now))
  | _ => (locked, .silent)

/-- The turn of a task whose load has ended. -/
def finishLoad (policy : Policy) (state : State) (id : TaskId) (result : LoadResult)
    (now : Int64) : State × Event :=
  leaveIfTold policy id (state.after policy (.settle id result now))

end State

end StorageBroker.Refresher
