import StorageBroker.Rehearsal.Agenda
import StorageBroker.Table.Cache

/-!
# Rehearsing a metadata cache

Tables from outside answer a probe by their names: a probe from outside by the whole written name,
a metastore by database and table. An answer is fixed when the probe begins, and a probe that
takes longer than its bound is cut off. Any number of probes may be under way at once, while
entries are updated, invalidated and cleared.
-/

set_option autoImplicit false

namespace StorageBroker.Rehearsal

open TableCache

/-! ## Tables -/

/-- What is known of a table. -/
structure Finding where
  /-- The location that a probe from outside tells. -/
  location : Option String
  /-- The parameters that a metastore holds. -/
  parameters : Properties

/-- What asking for a table comes to, and how long it takes. -/
structure TableReply where
  delay : Nat
  answer : Except TableError Finding

/-- The tables, and the probe that looks at them. -/
structure Tables where
  probe : Probe
  replies : Keyed String TableReply

namespace Tables

/-- The name under which a table is looked up. -/
def nameOf (tables : Tables) (id : TableId) : String :=
  match tables.probe with
  | .direct _ => id.display
  | .metastore _ _ =>
    let (database, name) := Metastore.key id
    database ++ "." ++ name

/-- What is answered of a table that is not there. -/
def absent (tables : Tables) (name : String) : Except TableError Finding :=
  match tables.probe with
  | .direct _ => .ok ⟨none, Keyed.empty⟩
  | .metastore _ _ => .error (.notFound name)

/-- The reply for a name. -/
def replyFor (tables : Tables) (name : String) : TableReply :=
  (tables.replies.get? name).getD ⟨0, tables.absent name⟩

/-- Sets the reply for a name; without a reply there is no such table. -/
def set (tables : Tables) (name : String) (reply : Option TableReply) : Tables :=
  { tables with
    replies :=
      match reply with
      | some reply => tables.replies.insert name reply
      | none => tables.replies.erase name }

/-- What the probe makes of a reply. -/
def located (tables : Tables) (reply : TableReply) : Except TableError (Option String) :=
  match tables.probe with
  | .direct _ => reply.answer.map Finding.location
  | .metastore _ _ => .ok (Metastore.locate (reply.answer.map Finding.parameters))

end Tables

/-! ## Acts and outcomes -/

/-- What may be done with a cache and its tables. -/
inductive CacheAct where
  | get (id : TableId)
  | update (id : TableId) (snapshot : LoadedMetadata)
  | invalidate (id : TableId)
  | clear
  | setTable (name : String) (reply : Option TableReply)
  | isEmpty
  | inspect

/-- What an act comes to. -/
inductive CacheOutcome where
  | nothing
  | snapshot (snapshot : Option LoadedMetadata)
  | flag (value : Bool)
  | text (value : String)

/-- An outcome, with the time at which it came and the number of tables kept then. -/
structure CacheRecord where
  outcome : CacheOutcome
  time : Nat
  kept : Nat

/-- A cache and its tables. -/
structure CacheWorld where
  state : State LoadedMetadata
  tables : Tables
  /-- The names that were looked up. -/
  lookups : List String
  records : Keyed TaskId CacheRecord

/-- A probe under way. -/
structure Inquiry where
  task : TaskId
  result : ProbeResult

namespace CacheWorld

/-- A world in which nothing has happened yet. -/
def opening (tables : Tables) : CacheWorld := ⟨State.initial, tables, [], Keyed.empty⟩

/-- Notes the outcome of an act. -/
def note (world : CacheWorld) (time : Nat) (id : TaskId) (outcome : CacheOutcome) : CacheWorld :=
  { world with records := world.records.insert id ⟨outcome, time, world.state.size⟩ }

/-- The outcome of an act that has ended. -/
def outcome (world : CacheWorld) (id : TaskId) : CacheOutcome :=
  match world.records.get? id with
  | some record => record.outcome
  | none => .nothing

/-- The state behind a step. Where the step cannot be taken nothing happens. -/
def after (config : Config) (world : CacheWorld) (step : Step LoadedMetadata) :
    CacheWorld × Event LoadedMetadata :=
  let (state, event) := (world.state.step config.capacity step).getD (world.state, .silent)
  ({ world with state := state }, event)

/-! ## Probes -/

/-- Looks a table up: what the probe comes to within its bound, and how long it takes. -/
def lookUp (config : Config) (world : CacheWorld) (id : TableId) :
    Nat × ProbeResult × CacheWorld :=
  let name := world.tables.nameOf id
  let reply := world.tables.replyFor name
  let world := { world with lookups := world.lookups ++ [name] }
  if config.probeTimeout < reply.delay then (config.probeTimeout, .timedOut, world)
  else (reply.delay, .answered (world.tables.located reply), world)

/-- Goes on from a step of a lookup: notes what the caller is told, begins a probe, or lets the
lookup drop its entry. -/
def goOn (config : Config) (time : Nat) (task : TaskId)
    (reached : CacheWorld × Event LoadedMetadata) : CacheWorld × List (Pending Inquiry) :=
  match reached.2 with
  | .answered snapshot => (reached.1.note time task (.snapshot snapshot), [])
  | .probing id =>
    let (duration, result, world) := lookUp config reached.1 id
    (world, [⟨time + duration, ⟨task, result⟩⟩])
  | .silent =>
    match after config reached.1 (.drop task) with
    | (world, .answered snapshot) => (world.note time task (.snapshot snapshot), [])
    | (world, _) => (world, [])

/-! ## The play -/

/-- Begins an act. -/
def begin (config : Config) (time : Nat) (task : TaskId) (act : CacheAct) (world : CacheWorld) :
    CacheWorld × List (Pending Inquiry) :=
  match act with
  | .get id => goOn config time task (after config world (.beginGet task id))
  | .update id snapshot =>
    ((after config world (.update id snapshot)).1.note time task .nothing, [])
  | .invalidate id => ((after config world (.invalidate id)).1.note time task .nothing, [])
  | .clear => ((after config world .clear).1.note time task .nothing, [])
  | .setTable name reply =>
    ({ world with tables := world.tables.set name reply }.note time task .nothing, [])
  | .isEmpty => (world.note time task (.flag (world.state.size == 0)), [])
  | .inspect =>
    (world.note time task
      (.text (TableCache.inspect world.state.size world.tables.probe config)), [])

/-- Ends a probe. -/
def complete (config : Config) (time : Nat) (inquiry : Inquiry) (world : CacheWorld) :
    CacheWorld × List (Pending Inquiry) :=
  goOn config time inquiry.task (after config world (.probed inquiry.task inquiry.result))

/-- The acts of a cache in its world. -/
def play (config : Config) : Play CacheWorld Inquiry CacheAct :=
  ⟨begin config, complete config⟩

/-- Performs one act to its end, when all acts before have ended. Each of them left a record, so
their number is not the number of any. -/
def perform (config : Config) (act : CacheAct) (world : CacheWorld) :
    CacheOutcome × CacheWorld :=
  let number := world.records.size
  let world := (play config).perform number act world
  (world.outcome number, world)

end CacheWorld

end StorageBroker.Rehearsal
