import StorageBroker.Credential.Properties
import StorageBroker.Table.Error
import StorageBroker.Table.Identifier
import StorageBroker.Text.Ascii

/-!
# Probing for the current metadata

A probe says where the current metadata of a table lies, if that can be told. Over a metastore the
answer is in the parameters of the table: the table must be marked as one of the wanted format, in
any case, and the location must not be blank. Whatever goes wrong, the location is then unknown.
-/

set_option autoImplicit false

namespace StorageBroker

/-- What a probe came to. -/
inductive ProbeResult where
  | answered (answer : Except TableError (Option String))
  /-- The probe was cut off. -/
  | timedOut

/-- The location that a probe found; a failure or a timeout finds none. -/
def ProbeResult.location? : ProbeResult → Option String
  | .answered (.ok location) => location
  | .answered (.error _) => none
  | .timedOut => none

theorem ProbeResult.location?_eq_some_iff {result : ProbeResult} {location : String} :
    result.location? = some location ↔ result = .answered (.ok (some location)) := by
  constructor
  · intro found
    cases result with
    | timedOut => cases found
    | answered answer =>
      cases answer with
      | error error => cases found
      | ok place => exact congrArg (fun place => answered (.ok place)) found
  · rintro rfl
    rfl

namespace Metastore

/-- The parameter with the format of a table. -/
def formatKey : String := "table_type"

/-- The format of the tables that are probed. -/
def format : String := "ICEBERG"

/-- The parameter with the location of the current metadata. -/
def locationKey : String := "metadata_location"

/-- The database and the name under which a table is looked up. -/
def key (id : TableId) : String × String := (id.database, id.name)

/-- The location among the parameters of a table. -/
def locationOf (parameters : Properties) : Option String := do
  let tableFormat ← parameters.get? formatKey
  if Text.equalsIgnoringCase tableFormat format then
    let location ← parameters.get? locationKey
    if Text.isBlank location then none else some location
  else none

/-- The location that the answer of a metastore leads to. -/
def locate (answer : Except TableError Properties) : Option String :=
  match answer with
  | .ok parameters => locationOf parameters
  | .error _ => none

/-- What a metastore does when it is asked for the parameters of a table. -/
inductive Reply where
  | inTime (answer : Except TableError Properties)
  /-- The probe is cut off. -/
  | late

/-- A probe over a metastore, which is asked for a table by its database and its name. -/
def probe (store : String × String → Reply) (id : TableId) : ProbeResult :=
  match store (key id) with
  | .inTime answer => .answered (.ok (locate answer))
  | .late => .timedOut

end Metastore

/-- How a cache finds out about the current metadata, by the name that records show. -/
inductive Probe where
  /-- A probe from outside. -/
  | direct (label : String)
  /-- A probe over the metastore of a catalog. -/
  | metastore (catalog : String) (label : String)
  deriving DecidableEq, Repr

/-- A probe as a record. -/
def Probe.inspect : Probe → String
  | .direct label => label
  | .metastore catalog label =>
    Text.record "HiveMetadataLocationProbe"
      [("catalog_name", Text.quote catalog), ("client", label)] .complete

end StorageBroker
