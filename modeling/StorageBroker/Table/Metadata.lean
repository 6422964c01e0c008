import StorageBroker.Credential.Properties
import StorageBroker.Table.Error

/-!
# Table metadata

What is kept of a table's metadata: its version, place and times, its snapshots and properties.
Schemas are kept as they are written. Metadata paired with the file it was read from is what a
cache holds.
-/

set_option autoImplicit false

namespace StorageBroker

/-- A state of a table. -/
structure Snapshot where
  id : Int64
  parent : Option Int64
  timestamp : Int64
  manifestList : Option String
  summary : Properties
  deriving DecidableEq

/-- The metadata of a table. -/
structure TableMetadata where
  formatVersion : Int32
  tableUuid : Option String
  location : String
  lastUpdated : Int64
  currentSchemaId : Int32
  schemas : List Json.Value
  currentSnapshotId : Option Int64
  snapshots : List Snapshot
  properties : Properties
  deriving DecidableEq

/-- Metadata and the file it was read from. -/
structure LoadedMetadata where
  metadataLocation : String
  metadata : TableMetadata
  deriving DecidableEq

/-- The number of records in a snapshot, if its summary tells. -/
def Snapshot.totalRecords (snapshot : Snapshot) : Option UInt64 :=
  (snapshot.summary.get? "total-records").bind fun text =>
    (Text.Numeral.unsigned text).toOption

namespace TableMetadata

/-- The snapshot that a table is at. A negative number stands for none. -/
def currentSnapshot (metadata : TableMetadata) : Option Snapshot :=
  metadata.currentSnapshotId.bind fun id =>
    if 0 ≤ id then metadata.snapshots.find? fun snapshot => snapshot.id == id else none

/-- The format versions that are understood. -/
def isSupported (version : Int32) : Bool := version == 1 || version == 2

/-- Metadata of a format version, with nothing in it but a location. -/
def bare (version : Int32) (location : String) : TableMetadata where
  formatVersion := version
  tableUuid := none
  location := location
  lastUpdated := 0
  currentSchemaId := 0
  schemas := []
  currentSnapshotId := none
  snapshots := []
  properties := Keyed.empty

end TableMetadata

end StorageBroker
