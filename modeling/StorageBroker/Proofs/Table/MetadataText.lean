import StorageBroker.Proofs.Json.Decoded
import StorageBroker.Table.MetadataText

/-!
# Metadata survives writing and reading

What is written of metadata is read back as the same metadata (`TableMetadata.read_print`). Each
field is recovered from the form in which it is written, whether it is missing or not, and the
entries of a map come back in the order in which they were written, whatever it is. The schemas may
be any JSON without binary numbers, up to the levels that are left inside the two around them.

A whole text is accepted only in a version that is understood (`metadata_survives`). Whatever is
wrong with it, the error is one of metadata.
-/

set_option autoImplicit false

namespace StorageBroker

open Json (Value Decoder fillByName_known)
open Json.Decoder (Recovers)

/-! ## Integers and values that may be missing -/

namespace Json

section Scalars

variable {α : Type} {write : α → Value} {decode : Decoder α} {levels : Nat}

theorem Decoder.recovers_int64 (value : Int64) :
    Recovers Decoder.int64 Value.ofInt64 levels value := by
  have least := Int64.le_iff_toInt_le.1 (Int64.minValue_le value)
  have greatest := Int64.le_iff_toInt_le.1 (Int64.le_maxValue value)
  exact map_integer_document ⟨least, greatest⟩ value.ofInt_toInt

theorem Decoder.recovers_int32 (value : Int32) :
    Recovers Decoder.int32 Value.ofInt32 levels value := by
  have least := Int32.le_iff_toInt_le.1 (Int32.minValue_le value)
  have greatest := Int32.le_iff_toInt_le.1 (Int32.le_maxValue value)
  exact map_integer_document ⟨least, greatest⟩ value.ofInt_toInt

/-- A value that may be missing is recovered, if no value is written like a missing one. -/
theorem Decoder.recovers_optional (filled : ∀ value, (write value).document ≠ .null)
    (each : ∀ value, Recovers decode write levels value) (value : Option α) :
    Recovers (Decoder.optional decode) (Value.ofOption write) levels value := by
  cases value with
  | none => rfl
  | some value =>
    have there := filled value
    have found : decode levels (write value).document = .ok value := each value
    rw [Recovers, Value.ofOption, Decoder.optional, found]
    · rfl
    · exact there

/-- So are an integer and a text that may be missing. -/
theorem Decoder.recovers_optional_int64 (value : Option Int64) :
    Recovers (Decoder.optional Decoder.int64) (Value.ofOption .ofInt64) levels value :=
  recovers_optional (by rintro _ ⟨⟩) recovers_int64 value

theorem Decoder.recovers_optional_string (value : Option String) :
    Recovers (Decoder.optional Decoder.string) (Value.ofOption .string) levels value :=
  recovers_optional (by rintro _ ⟨⟩) recovers_string value

/-- What is recovered is set in a draft. -/
theorem Decoder.set_of_recovered {σ : Type} {found : Except Fault α} {value : α}
    (recovered : found = .ok value) (set : α → σ) :
    (found >>= fun value => .ok (set value)) = .ok (set value) := by
  rw [recovered]
  rfl

theorem Value.Integral.ofOption (each : ∀ value, (write value).Integral) (value : Option α) :
    (Value.ofOption write value).Integral := by
  cases value with
  | none => exact .null
  | some value => exact each value

end Scalars

end Json

/-! ## Records -/

open Json.Decoder

variable {levels : Nat}

theorem Properties.recovers (properties : Properties) :
    Recovers Properties.decode Properties.toJson (levels + 1) properties :=
  recovers_map fun entry _ => recovers_string entry.2

/-- **A snapshot is recovered**, field by field. -/
theorem Snapshot.recovers (snapshot : Snapshot) :
    Recovers Snapshot.decode Snapshot.toJson (levels + 2) snapshot := by
  have id : Recovers int64 .ofInt64 (levels + 1) snapshot.id := recovers_int64 _
  have parent : Recovers (optional int64) (.ofOption .ofInt64) (levels + 1) snapshot.parent :=
    recovers_optional_int64 _
  have timestamp : Recovers int64 .ofInt64 (levels + 1) snapshot.timestamp := recovers_int64 _
  have manifestList : Recovers (optional string) (.ofOption .string) (levels + 1)
      snapshot.manifestList := recovers_optional_string _
  have summary : Recovers Properties.decode Properties.toJson (levels + 1) snapshot.summary :=
    Properties.recovers _
  refine recovers_record ⟨some snapshot.id, some snapshot.parent, some snapshot.timestamp,
    some snapshot.manifestList, some snapshot.summary⟩ rfl ?_ rfl
  refine (fillByName_known rfl).2 ⟨rfl, _, set_of_recovered id _, ?_⟩
  refine (fillByName_known rfl).2 ⟨rfl, _, set_of_recovered parent _, ?_⟩
  refine (fillByName_known rfl).2 ⟨rfl, _, set_of_recovered timestamp _, ?_⟩
  refine (fillByName_known rfl).2 ⟨rfl, _, set_of_recovered manifestList _, ?_⟩
  refine (fillByName_known rfl).2 ⟨rfl, _, set_of_recovered summary _, ?_⟩
  rfl

/-- **Metadata is recovered**, field by field. -/
theorem TableMetadata.recovers {metadata : TableMetadata}
    (legible : ∀ schema ∈ metadata.schemas, schema.Legible (levels + 2)) :
    Recovers TableMetadata.decode TableMetadata.toJson (levels + 4) metadata := by
  have formatVersion : Recovers int32 .ofInt32 (levels + 3) metadata.formatVersion :=
    recovers_int32 _
  have tableUuid : Recovers (optional string) (.ofOption .string) (levels + 3)
      metadata.tableUuid := recovers_optional_string _
  have location : Recovers string .string (levels + 3) metadata.location := recovers_string _
  have lastUpdated : Recovers int64 .ofInt64 (levels + 3) metadata.lastUpdated := recovers_int64 _
  have currentSchemaId : Recovers int32 .ofInt32 (levels + 3) metadata.currentSchemaId :=
    recovers_int32 _
  have schemas : Recovers (list Decoder.value) (fun schemas => .array (schemas.map id)) (levels + 3)
      metadata.schemas := recovers_list fun schema among => (legible schema among).value_document
  have currentSnapshotId : Recovers (optional int64) (.ofOption .ofInt64) (levels + 3)
      metadata.currentSnapshotId := recovers_optional_int64 _
  have snapshots : Recovers (list Snapshot.decode)
      (fun snapshots => .array (snapshots.map Snapshot.toJson)) (levels + 3) metadata.snapshots :=
    recovers_list fun snapshot _ => snapshot.recovers
  have properties : Recovers Properties.decode Properties.toJson (levels + 3) metadata.properties :=
    Properties.recovers _
  rw [Recovers, List.map_id] at schemas
  refine recovers_record ⟨some metadata.formatVersion, some metadata.tableUuid,
    some metadata.location, some metadata.lastUpdated, some metadata.currentSchemaId,
    some metadata.schemas, some metadata.currentSnapshotId, some metadata.snapshots,
    some metadata.properties⟩ rfl ?_ rfl
  refine (fillByName_known rfl).2 ⟨rfl, _, set_of_recovered formatVersion _, ?_⟩
  refine (fillByName_known rfl).2 ⟨rfl, _, set_of_recovered tableUuid _, ?_⟩
  refine (fillByName_known rfl).2 ⟨rfl, _, set_of_recovered location _, ?_⟩
  refine (fillByName_known rfl).2 ⟨rfl, _, set_of_recovered lastUpdated _, ?_⟩
  refine (fillByName_known rfl).2 ⟨rfl, _, set_of_recovered currentSchemaId _, ?_⟩
  refine (fillByName_known rfl).2 ⟨rfl, _, set_of_recovered schemas _, ?_⟩
  refine (fillByName_known rfl).2 ⟨rfl, _, set_of_recovered currentSnapshotId _, ?_⟩
  refine (fillByName_known rfl).2 ⟨rfl, _, set_of_recovered snapshots _, ?_⟩
  refine (fillByName_known rfl).2 ⟨rfl, _, set_of_recovered properties _, ?_⟩
  rfl

/-! ## Whole texts -/

theorem Properties.integral (properties : Properties) : properties.toJson.Integral :=
  .object_map fun entry _ => .string entry.2

theorem Snapshot.integral (snapshot : Snapshot) : snapshot.toJson.Integral := by
  apply Value.Integral.object
  simp only [List.forall_mem_cons]
  exact ⟨.integer _ _, .ofOption (fun _ => .integer _ _) _, .integer _ _, .ofOption .string _,
    snapshot.summary.integral, List.forall_mem_nil _⟩

theorem TableMetadata.integral {metadata : TableMetadata}
    (schemas : ∀ schema ∈ metadata.schemas, schema.Integral) : metadata.toJson.Integral := by
  apply Value.Integral.object
  simp only [List.forall_mem_cons]
  exact ⟨.integer _ _, .ofOption .string _, .string _, .integer _ _, .integer _ _, .array schemas,
    .ofOption (fun _ => .integer _ _) _, .array_map fun snapshot _ => snapshot.integral,
    metadata.properties.integral, List.forall_mem_nil _⟩

/-- **What is written of metadata is read back**, whatever its version is. -/
theorem TableMetadata.read_print {metadata : TableMetadata}
    (legible : ∀ schema ∈ metadata.schemas, schema.Legible (Json.levelLimit - 2)) :
    Json.read TableMetadata.decode metadata.print = .ok metadata := by
  have integral := TableMetadata.integral fun schema among => (legible schema among).integral
  exact (Json.read_print integral).trans (TableMetadata.recovers legible)

section Versions

variable {text : String} {metadata : TableMetadata} {error : TableError}

theorem TableMetadata.isSupported_iff {version : Int32} :
    isSupported version = true ↔ version = 1 ∨ version = 2 := by
  rw [isSupported, Bool.or_eq_true, beq_iff_eq, beq_iff_eq]

/-- A text is accepted if and only if it is read, in a version that is understood. -/
theorem TableMetadata.parse_eq_ok_iff : parse text = .ok metadata ↔
    Json.read decode text = .ok metadata ∧
      (metadata.formatVersion = 1 ∨ metadata.formatVersion = 2) := by
  rw [← isSupported_iff]
  unfold parse
  cases Json.read decode text with
  | error fault =>
    constructor
    · rintro ⟨⟩
    · rintro ⟨⟨⟩, -⟩
  | ok found =>
    dsimp only
    split
    · next supported =>
      constructor
      · rintro ⟨⟩
        exact ⟨rfl, supported⟩
      · rintro ⟨⟨⟩, -⟩
        rfl
    · next other =>
      constructor
      · rintro ⟨⟩
      · rintro ⟨⟨⟩, supported⟩
        exact absurd supported other

/-- A text that is read in another version is not understood. -/
theorem TableMetadata.parse_of_other (read : Json.read decode text = .ok metadata)
    (other : ¬ (metadata.formatVersion = 1 ∨ metadata.formatVersion = 2)) :
    parse text = .error (.unsupportedVersion metadata.formatVersion) := by
  rw [← isSupported_iff] at other
  unfold parse
  rw [read]
  exact if_neg other

theorem TableMetadata.category_of_parse (fails : parse text = .error error) :
    error.category = .metadata := by
  unfold parse at fails
  split at fails
  · cases fails
    rfl
  · split at fails
    · cases fails
    · cases fails
      rfl

end Versions

/-- **Metadata survives writing and reading.**

* What is written of metadata in a version that is understood is parsed as the same metadata,
  whatever its fields are and whichever of them are missing, with any schemas that a text can hold
  inside the two levels around them. In another version it is refused.
* A text that is accepted has a version that is understood. Of a text that is read in another one,
  the version is reported. All errors are errors of metadata. -/
theorem metadata_survives :
    (∀ metadata : TableMetadata,
      (∀ schema ∈ metadata.schemas, schema.Legible (Json.levelLimit - 2)) →
        (metadata.formatVersion = 1 ∨ metadata.formatVersion = 2 →
          TableMetadata.parse metadata.print = .ok metadata) ∧
        (¬ (metadata.formatVersion = 1 ∨ metadata.formatVersion = 2) →
          TableMetadata.parse metadata.print =
            .error (.unsupportedVersion metadata.formatVersion))) ∧
    (∀ (text : String) (metadata : TableMetadata), TableMetadata.parse text = .ok metadata →
      metadata.formatVersion = 1 ∨ metadata.formatVersion = 2) ∧
    (∀ (text : String) (metadata : TableMetadata),
      Json.read TableMetadata.decode text = .ok metadata →
        ¬ (metadata.formatVersion = 1 ∨ metadata.formatVersion = 2) →
          TableMetadata.parse text = .error (.unsupportedVersion metadata.formatVersion)) ∧
    (∀ (text : String) (error : TableError), TableMetadata.parse text = .error error →
      error.category = .metadata) := by
  refine ⟨?_, ?_, ?_, ?_⟩
  · intro metadata legible
    have read := TableMetadata.read_print legible
    exact ⟨fun version => TableMetadata.parse_eq_ok_iff.2 ⟨read, version⟩,
      TableMetadata.parse_of_other read⟩
  · intro text metadata accepted
    exact (TableMetadata.parse_eq_ok_iff.1 accepted).2
  · intro text metadata read other
    exact TableMetadata.parse_of_other read other
  · intro text error fails
    exact TableMetadata.category_of_parse fails

/-- Metadata of a version, with texts that are escaped or beyond the letters of ASCII, with a schema
of several levels, and with fields that are missing. -/
def southernMetadata (version : Int32) : TableMetadata where
  formatVersion := version
  tableUuid := none
  location := "s3://lager/\"süd\"/\n"
  lastUpdated := -1
  currentSchemaId := 3
  schemas :=
    [.object [("fields", .array [.null, .number (.integer 18446744073709551615 (by decide))]),
      ("type", .string "struct")]]
  currentSnapshotId := some 7
  snapshots :=
    [⟨7, none, 1700000000000, some "schnappschuß.avro", Keyed.ofList [("operation", "append")]⟩]
  properties := Keyed.ofList [("owner", "\x01"), ("größe", "")]

theorem metadata_survives_southern :
    TableMetadata.parse (southernMetadata 2).print = .ok (southernMetadata 2) ∧
      (∃ text, Json.read TableMetadata.decode text = .ok (southernMetadata 7)) ∧
      ∃ error, TableMetadata.parse (southernMetadata 7).print = .error error ∧
        error.category = .metadata := by
  obtain ⟨survives, -, -, categories⟩ := metadata_survives
  have legible (version : Int32) :
      ∀ schema ∈ (southernMetadata version).schemas, schema.Legible (Json.levelLimit - 2) := by
    intro schema among
    obtain rfl := List.mem_singleton.1 among
    refine .object (by decide) ?_
    simp only [List.forall_mem_cons]
    refine ⟨.array ?_, .string _, List.forall_mem_nil _⟩
    simp only [List.forall_mem_cons]
    exact ⟨.null, .integer _ _, List.forall_mem_nil _⟩
  obtain ⟨accepted, -⟩ := survives (southernMetadata 2) (legible 2)
  obtain ⟨-, refused⟩ := survives (southernMetadata 7) (legible 7)
  have fails := refused (by decide)
  exact ⟨accepted (by decide), ⟨_, TableMetadata.read_print (legible 7)⟩, _, fails,
    categories _ _ fails⟩

end StorageBroker
