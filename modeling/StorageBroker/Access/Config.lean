import StorageBroker.Access.ConfigValue
import StorageBroker.Provider.Basic
import StorageBroker.Refresher.Policy
import StorageBroker.Table.Cache
import StorageBroker.Table.MetadataText

/-!
# Access configuration

A configuration names the backend, the providers to ask in turn, and the properties that both the
providers and the fallback are set up from. Only the backend must be given. `fault?` is the first
thing that is wrong with a configuration; the values of its properties are not looked at then.
-/

set_option autoImplicit false

namespace StorageBroker

/-- How access to a backend is set up. -/
structure AccessConfig where
  backend : Backend
  catalogName : Option String
  providers : List String
  properties : Keyed String ConfigValue
  expiryFactor : Binary64
  credentialCapacity : UInt64
  tableCapacity : Option UInt64
  /-- The bound on a load or a probe, in milliseconds. -/
  callTimeout : UInt64
  deriving DecidableEq

namespace AccessConfig

/-- No providers, and the usual tuning. -/
def standard (backend : Backend) : AccessConfig where
  backend := backend
  catalogName := none
  providers := []
  properties := Keyed.empty
  expiryFactor := Refresher.Config.standard.expiryFactor
  credentialCapacity := 1024
  tableCapacity := none
  callTimeout := 10000

/-- The tuning of the refresher. -/
def refresher (config : AccessConfig) : Refresher.Config :=
  ⟨config.expiryFactor, config.credentialCapacity.toNat, config.callTimeout.toNat⟩

/-- The tuning of the metadata cache. -/
def tableCache (config : AccessConfig) : TableCache.Config :=
  ⟨config.tableCapacity.map UInt64.toNat, config.callTimeout.toNat⟩

/-! ## Validation -/

/-- What is wrong with the name of a provider for a backend. -/
def providerFault? (backend : Backend) (name : String) : Option AccessError :=
  if name = Provider.neverName then none
  else
    match Kind.ofName? name with
    | none => some (.unknownProvider name)
    | some kind => if kind.backend = backend then none else some (.providerElsewhere name backend)

/-- What is wrong with a configuration: the tuning of the refresher comes first, then the capacity
for tables, then the providers in their order. -/
def fault? (config : AccessConfig) : Option AccessError :=
  match config.refresher.fault? with
  | some fault => some (.credential fault)
  | none =>
    if config.tableCapacity = some 0 then some .zeroTableCapacity
    else config.providers.findSome? (providerFault? config.backend)

/-- The configuration itself, if nothing is wrong with it. -/
def validate (config : AccessConfig) : Except AccessError AccessConfig :=
  match config.fault? with
  | some fault => .error fault
  | none => .ok config

/-! ## Properties -/

/-- The texts of properties, from the first on. -/
def resolveEntries (environment : Environment) :
    List (String × ConfigValue) → Except AccessError (List (String × String))
  | [] => .ok []
  | (key, value) :: rest =>
    match value.resolve environment with
    | .error cause => .error (.unresolvedProperty key cause)
    | .ok text => do
      let others ← resolveEntries environment rest
      .ok ((key, text) :: others)

/-- The texts of all properties. -/
def resolveProperties (config : AccessConfig) (environment : Environment) :
    Except AccessError Properties :=
  (resolveEntries environment config.properties.entries).map Keyed.ofList

/-! ## JSON -/

/-- A configuration as a JSON value. -/
def toJson (config : AccessConfig) : Json.Value :=
  .object
    [("storage-backend", .string config.backend.name),
      ("catalog-name", .ofOption .string config.catalogName),
      ("credential-providers", .array (config.providers.map .string)),
      ("credential-properties",
        .object (config.properties.entries.map fun entry => (entry.1, entry.2.toJson))),
      ("expiry-factor", .number (.real config.expiryFactor)),
      ("credential-cache-capacity", .ofUInt64 config.credentialCapacity),
      ("metadata-cache-capacity", .ofOption .ofUInt64 config.tableCapacity),
      ("call-timeout-ms", .ofUInt64 config.callTimeout)]

/-- What was read of a configuration so far. -/
structure Draft where
  backend : Option Backend
  catalogName : Option (Option String)
  providers : Option (List String)
  properties : Option (Keyed String ConfigValue)
  expiryFactor : Option Binary64
  credentialCapacity : Option UInt64
  tableCapacity : Option (Option UInt64)
  callTimeout : Option UInt64

/-- A configuration as a record. -/
def shape : Json.Decoder.Shape Draft AccessConfig where
  name := "AccessConfig"
  fields :=
    [{ name := "storage-backend", required := true, isSet := fun draft => draft.backend.isSome,
       read := fun levels document draft => do
         let value ← Backend.decode levels document
         .ok { draft with backend := some value } },
     { name := "catalog-name", required := false, isSet := fun draft => draft.catalogName.isSome,
       read := fun levels document draft => do
         let value ← Json.Decoder.optional Json.Decoder.string levels document
         .ok { draft with catalogName := some value } },
     { name := "credential-providers", required := false,
       isSet := fun draft => draft.providers.isSome,
       read := fun levels document draft => do
         let value ← Json.Decoder.list Json.Decoder.string levels document
         .ok { draft with providers := some value } },
     { name := "credential-properties", required := false,
       isSet := fun draft => draft.properties.isSome,
       read := fun levels document draft => do
         let value ← Json.Decoder.map ConfigValue.decode levels document
         .ok { draft with properties := some value } },
     { name := "expiry-factor", required := false, isSet := fun draft => draft.expiryFactor.isSome,
       read := fun levels document draft => do
         let value ← Json.Decoder.binary64 levels document
         .ok { draft with expiryFactor := some value } },
     { name := "credential-cache-capacity", required := false,
       isSet := fun draft => draft.credentialCapacity.isSome,
       read := fun levels document draft => do
         let value ← Json.Decoder.unsigned "usize" levels document
         .ok { draft with credentialCapacity := some value } },
     { name := "metadata-cache-capacity", required := false,
       isSet := fun draft => draft.tableCapacity.isSome,
       read := fun levels document draft => do
         let value ← Json.Decoder.optional (Json.Decoder.unsigned "usize") levels document
         .ok { draft with tableCapacity := some value } },
     { name := "call-timeout-ms", required := false, isSet := fun draft => draft.callTimeout.isSome,
       read := fun levels document draft => do
         let value ← Json.Decoder.unsigned "u64" levels document
         .ok { draft with callTimeout := some value } }]
  draft := ⟨none, none, none, none, none, none, none, none⟩
  complete := fun draft => do
    let backend ← Json.Decoder.present "storage-backend" draft.backend
    let usual := standard backend
    .ok
      { backend := backend
        catalogName := draft.catalogName.getD none
        providers := draft.providers.getD []
        properties := draft.properties.getD Keyed.empty
        expiryFactor := draft.expiryFactor.getD usual.expiryFactor
        credentialCapacity := draft.credentialCapacity.getD usual.credentialCapacity
        tableCapacity := draft.tableCapacity.getD none
        callTimeout := draft.callTimeout.getD usual.callTimeout }

/-- A configuration in a JSON text, whether valid or not. -/
def decode : Json.Decoder AccessConfig := Json.Decoder.record shape

/-- A configuration from a text that need not be valid. -/
def read (text : String) : Except AccessError AccessConfig :=
  match Json.read decode text with
  | .error fault => .error (.unreadable fault)
  | .ok config => .ok config

/-- A valid configuration from a text. -/
def parse (text : String) : Except AccessError AccessConfig := do
  let config ← read text
  config.validate

/-- A valid configuration from the content of a file. -/
def parseFile (path : String) (content : Option ByteArray) : Except AccessError AccessConfig :=
  match fileText content with
  | .error fault => .error (.unreadableFile path fault)
  | .ok text => parse text

end AccessConfig

end StorageBroker
