import StorageBroker.Access.Config
import StorageBroker.Provider.Source
import StorageBroker.Refresher.Machine

/-!
# Putting access together

From a configuration come the policy of a refresher, the tuning of a metadata cache, and the
source of candidates: the configured providers, unless a source is supplied from outside. The
configuration is validated first; then its properties are read from the environment, once; then
the fallback and the providers are set up from them. The metadata cache is created last. It takes
the room for its capacity at once, so that access is put together within the memory there is
(`buildWithin`), or nothing comes of it; `build` is what it comes to where there is enough.
-/

set_option autoImplicit false

namespace StorageBroker

/-- All that access consists of, apart from what changes in use. -/
structure Assembly where
  policy : Refresher.Policy
  tableCache : TableCache.Config
  /-- The providers that were set up; none where the source comes from outside. -/
  providers : Option ProviderSource

namespace Assembly

/-- The configured providers, from the first on. -/
def createProviders (backend : Backend) (properties : Properties) (issuer : Option Issuer) :
    List String → Except CredentialError (List Provider)
  | [] => .ok []
  | name :: rest => do
    let provider ← Provider.create backend name properties issuer
    let others ← createProviders backend properties issuer rest
    .ok (provider :: others)

/-- Turns an error about credentials into one about access. -/
def liftCredential {α : Type} : Except CredentialError α → Except AccessError α
  | .ok value => .ok value
  | .error error => .error (.credential error)

/-- Turns an error about tables into one about access. -/
def liftTable {α : Type} : Except TableError α → Except AccessError α
  | .ok value => .ok value
  | .error error => .error (.table error)

/-- The configured providers as a source, unless there is a source from outside. -/
def configuredSource (config : AccessConfig) (properties : Properties) (issuer : Option Issuer) :
    Bool → Except AccessError (Option ProviderSource)
  | true => .ok none
  | false => (liftCredential (createProviders config.backend properties issuer config.providers)).map
      fun providers => some (ProviderSource.readOnly providers)

/-- Access as it is before its metadata cache is created: the tuning of the cache is the configured
one. -/
def prepare (config : Option AccessConfig) (environment : Environment) (issuer : Option Issuer)
    (externalSource : Bool) : Except AccessError Assembly := do
  let config ←
    match config with
    | none => .error .noConfiguration
    | some config => config.validate
  let properties ← config.resolveProperties environment
  let fallback ← liftCredential (staticFallback config.backend properties)
  let providers ← configuredSource config properties issuer externalSource
  let policy ← liftCredential (Refresher.Policy.create config.backend fallback config.refresher)
  .ok ⟨policy, config.tableCache, providers⟩

/-- Access with the metadata cache that was created for it. -/
def complete (assembly : Assembly) (created : Except TableError TableCache.Config) :
    Except AccessError Assembly :=
  (liftTable created).map fun tableCache => { assembly with tableCache := tableCache }

/-- Puts access together from a configuration within the memory there is. -/
def buildWithin (memory : TableCache.Memory) (config : Option AccessConfig)
    (environment : Environment) (issuer : Option Issuer) (externalSource : Bool) :
    Option (Except AccessError Assembly) :=
  match prepare config environment issuer externalSource with
  | .error error => some (.error error)
  | .ok assembly => (assembly.tableCache.create memory).map assembly.complete

/-- Puts access together from a configuration, with room enough for the metadata cache. -/
def build (config : Option AccessConfig) (environment : Environment) (issuer : Option Issuer)
    (externalSource : Bool) : Except AccessError Assembly := do
  let assembly ← prepare config environment issuer externalSource
  assembly.complete assembly.tableCache.check

/-- Access from parts made elsewhere. -/
def ofParts (policy : Refresher.Policy) (tableCache : TableCache.Config) : Assembly :=
  ⟨policy, tableCache, none⟩

/-- Access after its providers were closed. -/
def closed (assembly : Assembly) : Assembly :=
  { assembly with providers := assembly.providers.map ProviderSource.closed }

/-- What closing the providers answers. -/
def closing (assembly : Assembly) : Except AccessError Unit :=
  match assembly.providers with
  | none => .ok ()
  | some source => liftCredential source.closing

/-- Access as a record. -/
def inspect (assembly : Assembly) (state : Refresher.State) : String :=
  Text.record "StorageAccessContext"
    [("refresher", Refresher.inspect assembly.policy state)] .partly

end Assembly

end StorageBroker
