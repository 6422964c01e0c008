import StorageBroker.Refresher.Turn
import StorageBroker.Rehearsal.Agenda
import StorageBroker.Rehearsal.Stage

/-!
# Rehearsing a refresher

A refresher with its clock and its stage is a world in which acts are performed: credentials are
asked for, entries looked at and invalidated, the clock set and the scripts exchanged. A task that
finds the lock of its slot taken waits in a queue, from which the tasks of a slot are served in the
order of their coming. A load is under way until its answer comes or it is cut off, and any number
of loads may be under way at once.

An entry may be looked at under several readings of the clock. The task sets the clock, looks, sets
the clock again and looks again, waiting for the lock anew each time, and at last sets the clock
back. Others that take their turns in between see the clock as it is set.
-/

set_option autoImplicit false

namespace StorageBroker.Rehearsal

open Refresher

/-! ## Acts and outcomes -/

/-- What may be done with a refresher and its world. -/
inductive RefresherAct where
  | get (resource : String)
  | look (resource : String)
  /-- Looks at an entry under several readings of the clock. -/
  | lookAt (resource : String) (readings : List Int64)
  | invalidate (resource : String)
  | setClock (milliseconds : Int64)
  | advanceClock (milliseconds : Int64)
  | rescriptIssuer (script : Script IssuerAnswer)
  | rescriptSource (script : Script SourceAnswer)
  | count
  | isEmpty
  | inspect

/-- What an act comes to. -/
inductive RefresherOutcome where
  | nothing
  | reply (reply : Reply)
  | seen (states : List Freshness)
  | count (value : Nat)
  | flag (value : Bool)
  | text (value : String)

/-- The answer to an act that asked for a credential. -/
def RefresherOutcome.credential? :
    RefresherOutcome → Option (Except CredentialError Credential)
  | .reply (.credential answer) => some answer
  | _ => none

/-- An outcome, with the time at which it came and the number of resources tracked then. -/
structure RefresherRecord where
  outcome : RefresherOutcome
  time : Nat
  tracked : Nat

/-- How far a task has come that looks at an entry under several readings of the clock. -/
structure Watch where
  resource : String
  /-- The readings still to come. -/
  readings : List Int64
  seen : List Freshness
  /-- The reading to which the clock is set back. -/
  restored : Int64

/-- A refresher, its clock and its stage. -/
structure RefresherWorld where
  state : State
  stage : Stage
  supply : Supply
  clock : Int64
  /-- The tasks that wait for a lock, in the order of their coming. -/
  queue : List TaskId
  /-- Those of them that look under several readings of the clock. -/
  watches : Keyed TaskId Watch
  /-- The loads that began, with their times. -/
  loads : List (Nat × String)
  records : Keyed TaskId RefresherRecord

/-- A load under way. -/
structure Load where
  task : TaskId
  course : Course SourceAnswer

/-- What a load came to. -/
def Load.result (load : Load) : LoadResult :=
  match load.course.answer with
  | some answer => .answered answer
  | none => .timedOut

namespace RefresherWorld

/-- A world in which nothing has happened yet. -/
def opening (stage : Stage) (supply : Supply) (clock : Int64) : RefresherWorld :=
  ⟨State.initial, stage, supply, clock, [], Keyed.empty, [], Keyed.empty⟩

/-- Notes the outcome of an act. -/
def note (world : RefresherWorld) (time : Nat) (id : TaskId) (outcome : RefresherOutcome) :
    RefresherWorld :=
  { world with records := world.records.insert id ⟨outcome, time, world.state.size⟩ }

/-- The outcome of an act that has ended. -/
def outcome (world : RefresherWorld) (id : TaskId) : RefresherOutcome :=
  match world.records.get? id with
  | some record => record.outcome
  | none => .nothing

/-! ## Turns in a world -/

/-- Whether the lock of a task's slot is free. -/
def canTurn (world : RefresherWorld) (id : TaskId) : Bool :=
  match world.state.tasks.get? id with
  | none => false
  | some task => (world.state.slots task.slot).owner.isNone

/-- Whether a task in the queue waits for the slot of another one. -/
def isAwaited (world : RefresherWorld) (id : TaskId) : Bool :=
  match world.state.tasks.get? id with
  | none => false
  | some task =>
    world.queue.any fun other =>
      match world.state.tasks.get? other with
      | none => false
      | some waiting => waiting.slot == task.slot

/-- Lets a task look under the readings of the clock that are still to come, as far as it can
without waiting; at last sets the clock back and notes what was seen. -/
def watch (policy : Policy) (time : Nat) (id : TaskId) (resource : String) (restored : Int64) :
    List Int64 → List Freshness → RefresherWorld → RefresherWorld
  | [], seen, world => { world with clock := restored }.note time id (.seen seen)
  | reading :: readings, seen, world =>
    let (begun, event) := world.state.after policy (.beginLook id resource)
    let world := { world with clock := reading, state := begun }
    match event with
    | .looked freshness =>
      watch policy time id resource restored readings (seen ++ [freshness]) world
    | _ =>
      if world.canTurn id && !world.isAwaited id then
        let (state, event) := world.state.takeTurn policy id reading
        match event with
        | .looked freshness =>
          watch policy time id resource restored readings (seen ++ [freshness])
            { world with state := state }
        | _ => { world with state := state }
      else
        { world with
          queue := world.queue ++ [id]
          watches := world.watches.insert id ⟨resource, readings, seen, restored⟩ }

/-- Goes on where a task was told something: notes it, or looks under the next reading of the
clock. -/
def told (policy : Policy) (time : Nat) (id : TaskId) (reply : Reply) (world : RefresherWorld) :
    RefresherWorld :=
  match world.watches.get? id, reply with
  | some found, .freshness freshness =>
    watch policy time id found.resource found.restored found.readings (found.seen ++ [freshness])
      { world with watches := world.watches.erase id }
  | _, reply => world.note time id (.reply reply)

/-- Goes on from a turn of a task: tells the caller something, begins a load, or lets the task
wait. -/
def goOn (policy : Policy) (time : Nat) (id : TaskId) (world : RefresherWorld)
    (reached : State × Event) : RefresherWorld × List (Pending Load) :=
  let world := { world with state := reached.1 }
  match reached.2 with
  | .loading resource =>
    let (course, stage) := world.stage.load world.supply resource policy.config.callTimeout
    ({ world with stage := stage, loads := world.loads ++ [(time, resource)] },
      [⟨time + course.duration, ⟨id, course⟩⟩])
  | event =>
    match event.reply? with
    | some reply => (told policy time id reply world, [])
    | none => ({ world with queue := world.queue ++ [id] }, [])

/-- Lets a task take its turn, if it can. -/
def turn (policy : Policy) (time : Nat) (world : RefresherWorld) (id : TaskId) :
    RefresherWorld × List (Pending Load) :=
  goOn policy time id world (world.state.takeTurn policy id world.clock)

/-- How many turns may be taken by those that wait, if no one else comes. -/
def turnsLeft (world : RefresherWorld) : Nat :=
  world.watches.entries.foldl (fun turns entry => turns + entry.2.readings.length)
    world.queue.length

/-- Lets those that wait take so many turns: each time the first one that can. -/
def serveQueue (policy : Policy) (time : Nat) :
    Nat → RefresherWorld × List (Pending Load) → RefresherWorld × List (Pending Load)
  | 0, reached => reached
  | turns + 1, (world, begun) =>
    match world.queue.find? world.canTurn with
    | none => (world, begun)
    | some id =>
      let (world, further) :=
        turn policy time { world with queue := world.queue.erase id } id
      serveQueue policy time turns (world, begun ++ further)

/-! ## The play -/

/-- Begins an act. -/
def begin (policy : Policy) (time : Nat) (id : TaskId) (act : RefresherAct)
    (world : RefresherWorld) : RefresherWorld × List (Pending Load) :=
  match act with
  | .get resource =>
    let (state, _) := world.state.after policy (.beginGet id resource)
    turn policy time { world with state := state } id
  | .look resource =>
    let (state, event) := world.state.after policy (.beginLook id resource)
    match event.reply? with
    | some reply => ({ world with state := state }.note time id (.reply reply), [])
    | none => turn policy time { world with state := state } id
  | .lookAt resource readings =>
    (watch policy time id resource world.clock readings [] world, [])
  | .invalidate resource =>
    let (state, _) := world.state.after policy (.invalidate resource)
    ({ world with state := state }.note time id .nothing, [])
  | .setClock milliseconds => ({ world with clock := milliseconds }.note time id .nothing, [])
  | .advanceClock milliseconds =>
    ({ world with clock := world.clock + milliseconds }.note time id .nothing, [])
  | .rescriptIssuer script =>
    ({ world with stage := { world.stage with issuer := script } }.note time id .nothing, [])
  | .rescriptSource script =>
    ({ world with stage := { world.stage with source := script } }.note time id .nothing, [])
  | .count => (world.note time id (.count world.state.size), [])
  | .isEmpty => (world.note time id (.flag (world.state.size == 0)), [])
  | .inspect => (world.note time id (.text (Refresher.inspect policy world.state)), [])

/-- Ends a load: moves the clock, settles the load, and serves those who waited. -/
def complete (policy : Policy) (time : Nat) (load : Load) (world : RefresherWorld) :
    RefresherWorld × List (Pending Load) :=
  let clock := world.clock + load.course.advance
  let (world, begun) :=
    goOn policy time load.task { world with clock := clock }
      (world.state.finishLoad policy load.task load.result clock)
  serveQueue policy time world.turnsLeft (world, begun)

/-- The acts of a refresher in its world. -/
def play (policy : Policy) : Play RefresherWorld Load RefresherAct :=
  ⟨begin policy, complete policy⟩

/-- Performs one act to its end, when all acts before have ended. Each of them left a record, so
their number is not the number of any. -/
def perform (policy : Policy) (act : RefresherAct) (world : RefresherWorld) :
    RefresherOutcome × RefresherWorld :=
  let number := world.records.size
  let world := (play policy).perform number act world
  (world.outcome number, world)

end RefresherWorld

end StorageBroker.Rehearsal
