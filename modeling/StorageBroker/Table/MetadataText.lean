import StorageBroker.Json.Decoder
import StorageBroker.Json.Printer
import StorageBroker.Table.Metadata
import StorageBroker.Text.Blank

/-!
# Table metadata as JSON texts

Three fields of a table and two of a snapshot must be there; the others may be left out, and
unknown fields are passed over. Reading a whole text also requires a format version that is
understood. Writing gives every field.
-/

set_option autoImplicit false

namespace StorageBroker

open Json (Decoder)

/-! ## Writing -/

/-- An integer of 64 bits as a JSON value. -/
def Json.Value.ofInt64 (value : Int64) : Json.Value :=
  .number (.integer value.toInt (by have := value.le_toInt; have := value.toInt_lt; omega))

/-- An integer of 32 bits as a JSON value. -/
def Json.Value.ofInt32 (value : Int32) : Json.Value :=
  .number (.integer value.toInt (by have := value.le_toInt; have := value.toInt_lt; omega))

/-- An unsigned integer of 64 bits as a JSON value. -/
def Json.Value.ofUInt64 (value : UInt64) : Json.Value :=
  .number (.integer value.toNat (by have := value.toNat_lt; omega))

/-- A value that may be missing. -/
def Json.Value.ofOption {α : Type} (write : α → Json.Value) : Option α → Json.Value
  | none => .null
  | some value => write value

/-- A snapshot as a JSON value. -/
def Snapshot.toJson (snapshot : Snapshot) : Json.Value :=
  .object
    [("snapshot-id", .ofInt64 snapshot.id),
      ("parent-snapshot-id", .ofOption .ofInt64 snapshot.parent),
      ("timestamp-ms", .ofInt64 snapshot.timestamp),
      ("manifest-list", .ofOption .string snapshot.manifestList),
      ("summary", snapshot.summary.toJson)]

/-- Metadata as a JSON value. -/
def TableMetadata.toJson (metadata : TableMetadata) : Json.Value :=
  .object
    [("format-version", .ofInt32 metadata.formatVersion),
      ("table-uuid", .ofOption .string metadata.tableUuid),
      ("location", .string metadata.location),
      ("last-updated-ms", .ofInt64 metadata.lastUpdated),
      ("current-schema-id", .ofInt32 metadata.currentSchemaId),
      ("schemas", .array metadata.schemas),
      ("current-snapshot-id", .ofOption .ofInt64 metadata.currentSnapshotId),
      ("snapshots", .array (metadata.snapshots.map Snapshot.toJson)),
      ("properties", metadata.properties.toJson)]

/-- Metadata and its file as a JSON value. -/
def LoadedMetadata.toJson (loaded : LoadedMetadata) : Json.Value :=
  .object
    [("metadata-location", .string loaded.metadataLocation),
      ("metadata", loaded.metadata.toJson)]

/-- Metadata as a text. -/
def TableMetadata.print (metadata : TableMetadata) : String := metadata.toJson.print

/-! ## Reading -/

/-- A map of texts. -/
def Properties.decode : Decoder Properties := Decoder.map Decoder.string

/-- What was read of a snapshot so far. -/
structure Snapshot.Draft where
  id : Option Int64
  parent : Option (Option Int64)
  timestamp : Option Int64
  manifestList : Option (Option String)
  summary : Option Properties

/-- A snapshot as a record. -/
def Snapshot.shape : Decoder.Shape Snapshot.Draft Snapshot where
  name := "Snapshot"
  fields :=
    [{ name := "snapshot-id", required := true, isSet := fun draft => draft.id.isSome,
       read := fun levels document draft => do
         let value ← Decoder.int64 levels document
         .ok { draft with id := some value } },
     { name := "parent-snapshot-id", required := false, isSet := fun draft => draft.parent.isSome,
       read := fun levels document draft => do
         let value ← Decoder.optional Decoder.int64 levels document
         .ok { draft with parent := some value } },
     { name := "timestamp-ms", required := true, isSet := fun draft => draft.timestamp.isSome,
       read := fun levels document draft => do
         let value ← Decoder.int64 levels document
         .ok { draft with timestamp := some value } },
     { name := "manifest-list", required := false,
       isSet := fun draft => draft.manifestList.isSome,
       read := fun levels document draft => do
         let value ← Decoder.optional Decoder.string levels document
         .ok { draft with manifestList := some value } },
     { name := "summary", required := false, isSet := fun draft => draft.summary.isSome,
       read := fun levels document draft => do
         let value ← Properties.decode levels document
         .ok { draft with summary := some value } }]
  draft := ⟨none, none, none, none, none⟩
  complete := fun draft => do
    let id ← Decoder.present "snapshot-id" draft.id
    let timestamp ← Decoder.present "timestamp-ms" draft.timestamp
    .ok ⟨id, draft.parent.getD none, timestamp, draft.manifestList.getD none,
      draft.summary.getD Keyed.empty⟩

/-- A snapshot in a JSON text. -/
def Snapshot.decode : Decoder Snapshot := Decoder.record Snapshot.shape

/-- What was read of metadata so far. -/
structure TableMetadata.Draft where
  formatVersion : Option Int32
  tableUuid : Option (Option String)
  location : Option String
  lastUpdated : Option Int64
  currentSchemaId : Option Int32
  schemas : Option (List Json.Value)
  currentSnapshotId : Option (Option Int64)
  snapshots : Option (List Snapshot)
  properties : Option Properties

/-- Metadata as a record. -/
def TableMetadata.shape : Decoder.Shape TableMetadata.Draft TableMetadata where
  name := "TableMetadata"
  fields :=
    [{ name := "format-version", required := true,
       isSet := fun draft => draft.formatVersion.isSome,
       read := fun levels document draft => do
         let value ← Decoder.int32 levels document
         .ok { draft with formatVersion := some value } },
     { name := "table-uuid", required := false, isSet := fun draft => draft.tableUuid.isSome,
       read := fun levels document draft => do
         let value ← Decoder.optional Decoder.string levels document
         .ok { draft with tableUuid := some value } },
     { name := "location", required := true, isSet := fun draft => draft.location.isSome,
       read := fun levels document draft => do
         let value ← Decoder.string levels document
         .ok { draft with location := some value } },
     { name := "last-updated-ms", required := true,
       isSet := fun draft => draft.lastUpdated.isSome,
       read := fun levels document draft => do
         let value ← Decoder.int64 levels document
         .ok { draft with lastUpdated := some value } },
     { name := "current-schema-id", required := false,
       isSet := fun draft => draft.currentSchemaId.isSome,
       read := fun levels document draft => do
         let value ← Decoder.int32 levels document
         .ok { draft with currentSchemaId := some value } },
     { name := "schemas", required := false, isSet := fun draft => draft.schemas.isSome,
       read := fun levels document draft => do
         let value ← Decoder.list Decoder.value levels document
         .ok { draft with schemas := some value } },
     { name := "current-snapshot-id", required := false,
       isSet := fun draft => draft.currentSnapshotId.isSome,
       read := fun levels document draft => do
         let value ← Decoder.optional Decoder.int64 levels document
         .ok { draft with currentSnapshotId := some value } },
     { name := "snapshots", required := false, isSet := fun draft => draft.snapshots.isSome,
       read := fun levels document draft => do
         let value ← Decoder.list Snapshot.decode levels document
         .ok { draft with snapshots := some value } },
     { name := "properties", required := false, isSet := fun draft => draft.properties.isSome,
       read := fun levels document draft => do
         let value ← Properties.decode levels document
         .ok { draft with properties := some value } }]
  draft := ⟨none, none, none, none, none, none, none, none, none⟩
  complete := fun draft => do
    let formatVersion ← Decoder.present "format-version" draft.formatVersion
    let location ← Decoder.present "location" draft.location
    let lastUpdated ← Decoder.present "last-updated-ms" draft.lastUpdated
    .ok
      { formatVersion := formatVersion
        tableUuid := draft.tableUuid.getD none
        location := location
        lastUpdated := lastUpdated
        currentSchemaId := draft.currentSchemaId.getD 0
        schemas := draft.schemas.getD []
        currentSnapshotId := draft.currentSnapshotId.getD none
        snapshots := draft.snapshots.getD []
        properties := draft.properties.getD Keyed.empty }

/-- Metadata in a JSON text. -/
def TableMetadata.decode : Decoder TableMetadata := Decoder.record TableMetadata.shape

/-- What was read of metadata and its file so far. -/
structure LoadedMetadata.Draft where
  metadataLocation : Option String
  metadata : Option TableMetadata

/-- Metadata and its file as a record. -/
def LoadedMetadata.shape : Decoder.Shape LoadedMetadata.Draft LoadedMetadata where
  name := "LoadedTableMetadata"
  fields :=
    [{ name := "metadata-location", required := true,
       isSet := fun draft => draft.metadataLocation.isSome,
       read := fun levels document draft => do
         let value ← Decoder.string levels document
         .ok { draft with metadataLocation := some value } },
     { name := "metadata", required := true, isSet := fun draft => draft.metadata.isSome,
       read := fun levels document draft => do
         let value ← TableMetadata.decode levels document
         .ok { draft with metadata := some value } }]
  draft := ⟨none, none⟩
  complete := fun draft => do
    let metadataLocation ← Decoder.present "metadata-location" draft.metadataLocation
    let metadata ← Decoder.present "metadata" draft.metadata
    .ok ⟨metadataLocation, metadata⟩

/-- Metadata and its file in a JSON text, of any format version. -/
def LoadedMetadata.decode : Decoder LoadedMetadata := Decoder.record LoadedMetadata.shape

/-! ## Whole texts -/

/-- Metadata of a version that is understood, from a whole text. -/
def TableMetadata.parse (text : String) : Except TableError TableMetadata :=
  match Json.read TableMetadata.decode text with
  | .error fault => .error (.unreadable fault)
  | .ok metadata =>
    if isSupported metadata.formatVersion then .ok metadata
    else .error (.unsupportedVersion metadata.formatVersion)

/-- Metadata from the text of a file, whose location must not be blank. -/
def LoadedMetadata.parse (metadataLocation text : String) : Except TableError LoadedMetadata :=
  if Text.isBlank metadataLocation then .error .blankLocation
  else (TableMetadata.parse text).map fun metadata => ⟨metadataLocation, metadata⟩

end StorageBroker
