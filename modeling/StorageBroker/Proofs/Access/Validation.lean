import StorageBroker.Proofs.Access.Outage
import StorageBroker.Proofs.Keyed
import StorageBroker.Proofs.Provider.Setup

/-!
# What validation leaves to be found

When access is put together, some of what validation looks for is checked again: the names of the
providers, the tuning of the refresher and of the metadata cache, and the backend of the fallback. For a
valid configuration none of these checks fails. What can still fail needs the environment or the issuer
to be seen (`BuildFlaw`): a property that does not resolve, a key pair that is not whole, and a provider
that lacks what it requires (`validation_governs_build`). A configuration that is not valid is rejected with
the fault that validation found, whatever its properties are and wherever they come from.

The capacity for tables is checked by validation, but whether there is memory for it is not. The memory is
a parameter here, and that the capacity fits is asked for only where access is to be had: errors are
reported before any memory is taken (`Assembly.buildWithin_of_build_error`).
-/

set_option autoImplicit false

namespace StorageBroker

/-! ## Kinds of errors -/

namespace AccessError

/-- Whether an error is one of configuration, be it of access or of credentials. -/
def isConfig : AccessError → Bool
  | .noConfiguration | .zeroTableCapacity | .unknownProvider _ | .providerElsewhere _ _
  | .variableMissing _ | .variableNotUnicode _ | .unresolvedProperty _ _ | .unreadableFile _ _ => true
  | .credential error => error.category == .config
  | .unreadable _ | .table _ => false

/-- Whether an error says what validation looks for, in its own words or in those of the part of access
that checks it again. -/
def isRecheck : AccessError → Bool
  | .unknownProvider _ | .providerElsewhere _ _ | .zeroTableCapacity => true
  | .credential (.unknownProvider _) | .credential (.providerElsewhere _ _)
  | .credential (.factorOutOfRange _) | .credential .zeroCapacity | .credential .zeroTimeout
  | .credential (.fallbackElsewhere _ _) => true
  | .table .zeroCapacity | .table .zeroTimeout => true
  | _ => false

end AccessError

/-! ## Properties and the environment -/

namespace AccessConfig

/-- The text of a property, if there is one and it resolves. -/
def text? (config : AccessConfig) (environment : Environment) (key : String) : Option String :=
  (config.properties.get? key).bind fun value => (value.resolve environment).toOption

variable {environment : Environment} {entries : List (String × ConfigValue)} {key : String}
  {value : ConfigValue} {texts : List (String × String)} {config : AccessConfig}
  {properties : Properties} {error : AccessError}

theorem resolveEntries_cons {text : String} (resolves : value.resolve environment = .ok text) :
    resolveEntries environment ((key, value) :: entries) =
      (resolveEntries environment entries).map ((key, text) :: ·) := by
  rw [resolveEntries, resolves]
  cases resolveEntries environment entries <;> rfl

/-- Properties resolve unless one of them does not. -/
theorem exists_of_resolveEntries_error (failed : resolveEntries environment entries = .error error) :
    ∃ key value cause, (key, value) ∈ entries ∧ value.resolve environment = .error cause ∧
      error = .unresolvedProperty key cause := by
  induction entries with
  | nil => cases failed
  | cons entry entries ih =>
    obtain ⟨key, value⟩ := entry
    cases resolved : value.resolve environment with
    | error cause =>
      rw [resolveEntries, resolved] at failed
      cases failed
      exact ⟨key, value, cause, List.mem_cons_self, resolved, rfl⟩
    | ok text =>
      rw [resolveEntries_cons resolved, map_eq_error_iff] at failed
      obtain ⟨other, later, cause, member, fails, same⟩ := ih failed
      exact ⟨other, later, cause, List.mem_cons_of_mem _ member, fails, same⟩

/-- Properties that resolve keep their keys, and each has the text that it resolves to. -/
theorem of_resolveEntries (resolved : resolveEntries environment entries = .ok texts) :
    texts.map Prod.fst = entries.map Prod.fst ∧
      (∀ entry ∈ entries, ∃ text, entry.2.resolve environment = .ok text) ∧
      ∀ key, lookup key texts =
        (lookup key entries).bind fun value => (value.resolve environment).toOption := by
  induction entries generalizing texts with
  | nil =>
    cases resolved
    exact ⟨rfl, List.forall_mem_nil _, fun _ => rfl⟩
  | cons entry entries ih =>
    obtain ⟨key, value⟩ := entry
    cases here : value.resolve environment with
    | error cause =>
      rw [resolveEntries, here] at resolved
      cases resolved
    | ok text =>
      rw [resolveEntries_cons here] at resolved
      obtain ⟨others, further, rfl⟩ := map_eq_ok_iff.1 resolved
      obtain ⟨keys, all, lookups⟩ := ih further
      refine ⟨by rw [List.map_cons, List.map_cons, keys], ?_, ?_⟩
      · exact List.forall_mem_cons.2 ⟨⟨text, here⟩, all⟩
      · intro other
        rw [lookup, lookup]
        split
        · rw [Option.bind_some, here]
          rfl
        · exact lookups other

/-- **The texts of properties that resolve.** -/
theorem get?_of_resolveProperties (resolved : config.resolveProperties environment = .ok properties) :
    properties.get? = config.text? environment := by
  obtain ⟨texts, entries, rfl⟩ := map_eq_ok_iff.1 resolved
  obtain ⟨keys, -, lookups⟩ := of_resolveEntries entries
  have distinct : (texts.map Prod.fst).Nodup := by
    rw [keys]
    exact config.properties.distinct
  funext key
  rw [Keyed.get?, Keyed.entries_ofList distinct, lookups]
  rfl

end AccessConfig

/-! ## Key pairs -/

section KeyPairs

variable {backend : Backend} {properties : Properties} {error : CredentialError}

/-- A key pair that is not whole: one of the keys is given, and one is missing or blank. -/
inductive KeyPairFlaw (text? : String → Option String) (backend : Backend) : CredentialError → Prop where
  | partly {store : KeyStore} {given key : String} {error : CredentialError}
      (has : backend.keyStore? = some store) (one : given ∈ store.kind.requiredKeys)
      (isGiven : (text? given).isSome = true) (other : key ∈ store.kind.requiredKeys)
      (lacking : Lacking key (text? key) error) : KeyPairFlaw text? backend error

theorem KeyStore.neither_iff {store : KeyStore} :
    (!properties.contains store.accessKeyId.key && !properties.contains store.secretAccessKey.key) =
        true ↔
      ∀ key ∈ store.kind.requiredKeys, (properties.get? key).isSome = false := by
  rw [requiredKeys_kind]
  simp [Keyed.contains]

theorem keyPairFlaw_of_staticFallback (failed : staticFallback backend properties = .error error) :
    KeyPairFlaw properties.get? backend error := by
  rw [staticFallback_eq] at failed
  split at failed
  · cases failed
  · next store has =>
    split at failed
    · cases failed
    · next given =>
      obtain ⟨key, required, lacking⟩ := KeyStore.lacking_of_readKeys (map_eq_error_iff.1 failed)
      obtain ⟨other, one, isGiven⟩ :
          ∃ given ∈ store.kind.requiredKeys, (properties.get? given).isSome = true := by
        refine Classical.byContradiction fun nothing => given (KeyStore.neither_iff.2 ?_)
        intro key required
        exact Bool.eq_false_iff.2 fun isGiven => nothing ⟨key, required, isGiven⟩
      exact .partly has one isGiven required lacking

theorem not_keyPairFlaw_of_staticFallback {fallback : Option Credential}
    (given : staticFallback backend properties = .ok fallback) :
    ¬ KeyPairFlaw properties.get? backend error := by
  rintro ⟨has, one, isGiven, other, lacking⟩
  rename_i store first second
  rw [staticFallback_eq, has] at given
  dsimp only at given
  split at given
  · next neither =>
    rw [KeyStore.neither_iff.1 neither _ one] at isGiven
    cases isGiven
  · obtain ⟨keys, read, -⟩ := map_eq_ok_iff.1 given
    exact KeyStore.not_lacking_of_readKeys read other lacking

/-- A configured fallback belongs to the backend. -/
theorem backend_of_staticFallback {credential : Credential}
    (given : staticFallback backend properties = .ok (some credential)) :
    credential.kind.backend = backend := by
  rw [staticFallback_eq] at given
  split at given
  · cases given
  · next store has =>
    split at given
    · cases given
    · obtain ⟨keys, -, same⟩ := map_eq_ok_iff.1 given
      cases same
      cases backend <;> cases has <;> rfl

end KeyPairs

/-! ## Putting access together from a valid configuration -/

/-- What keeps access from being put together, though its configuration is valid. -/
inductive BuildFlaw (config : AccessConfig) (environment : Environment) (issuer : Option Issuer)
    (externalSource : Bool) : AccessError → Prop where
  /-- A property does not resolve from the environment. -/
  | unresolved {key : String} {value : ConfigValue} {cause : AccessError}
      (listed : (key, value) ∈ config.properties.entries)
      (fails : value.resolve environment = .error cause) :
      BuildFlaw config environment issuer externalSource (.unresolvedProperty key cause)
  /-- The key pair of the backend is not whole. -/
  | keyPair {error : CredentialError}
      (flaw : KeyPairFlaw (config.text? environment) config.backend error) :
      BuildFlaw config environment issuer externalSource (.credential error)
  /-- Without a source from outside, a listed provider cannot be set up. -/
  | provider {name : String} {kind : Kind} {error : CredentialError} (own : externalSource = false)
      (listed : name ∈ config.providers) (names : Kind.ofName? name = some kind)
      (flaw : Provider.SetupFlaw (config.text? environment) issuer name kind error) :
      BuildFlaw config environment issuer externalSource (.credential error)

section Flaws

variable {key name : String} {text? : String → Option String} {found : Option String}
  {issuer : Option Issuer} {kind : Kind} {backend : Backend} {error : CredentialError}

theorem Lacking.ofConfig (lacking : Lacking key found error) :
    error.category = .config ∧ (AccessError.credential error).isRecheck = false := by
  cases lacking <;> exact ⟨rfl, rfl⟩

theorem Provider.SetupFlaw.ofConfig (flaw : SetupFlaw text? issuer name kind error) :
    error.category = .config ∧ (AccessError.credential error).isRecheck = false := by
  cases flaw with
  | property _ lacking => exact lacking.ofConfig
  | lifetime _ _ _ => exact ⟨rfl, rfl⟩
  | issuer _ _ => exact ⟨rfl, rfl⟩

/-- Every flaw is reported as a fault of configuration, and none as what validation looks for. -/
theorem BuildFlaw.ofConfig {config : AccessConfig} {environment : Environment}
    {externalSource : Bool} {error : AccessError}
    (flaw : BuildFlaw config environment issuer externalSource error) :
    error.isConfig = true ∧ error.isRecheck = false := by
  cases flaw with
  | unresolved _ _ => exact ⟨rfl, rfl⟩
  | keyPair flaw =>
    obtain ⟨-, -, -, -, lacking⟩ := flaw
    exact lacking.ofConfig.imp_left beq_iff_eq.2
  | provider _ _ _ flaw => exact flaw.ofConfig.imp_left beq_iff_eq.2

end Flaws

namespace Assembly

variable {config : AccessConfig} {environment : Environment} {issuer : Option Issuer}
  {externalSource : Bool} {properties : Properties} {fallback : Option Credential}
  {assembly : Assembly} {error : AccessError} {names : List String} {memory : TableCache.Memory}

theorem liftCredential_eq_error_iff {α : Type} {answer : Except CredentialError α} :
    liftCredential answer = .error error ↔ ∃ cause, answer = .error cause ∧ error = .credential cause := by
  cases answer <;> simp [liftCredential, eq_comm]

/-! ### Lists of providers -/

theorem exists_of_createProviders_error {cause : CredentialError}
    (failed : createProviders config.backend properties issuer names = .error cause) :
    ∃ name ∈ names, Provider.create config.backend name properties issuer = .error cause := by
  induction names with
  | nil => cases failed
  | cons name names ih =>
    rcases bind_eq_error_iff.1 failed with here | ⟨_, -, rest⟩
    · exact ⟨name, List.mem_cons_self, here⟩
    · rcases bind_eq_error_iff.1 rest with later | ⟨_, -, ends⟩
      · obtain ⟨other, member, fails⟩ := ih later
        exact ⟨other, List.mem_cons_of_mem _ member, fails⟩
      · cases ends

theorem exists_of_createProviders_ok {providers : List Provider}
    (created : createProviders config.backend properties issuer names = .ok providers) :
    ∀ name ∈ names, ∃ provider, Provider.create config.backend name properties issuer = .ok provider := by
  induction names generalizing providers with
  | nil => exact List.forall_mem_nil _
  | cons name names ih =>
    obtain ⟨provider, here, rest⟩ := bind_eq_ok_iff.1 created
    obtain ⟨others, later, -⟩ := bind_eq_ok_iff.1 rest
    exact List.forall_mem_cons.2 ⟨⟨provider, here⟩, ih later⟩

/-! ### Checks that are made again -/

section Valid

variable (valid : config.validate = .ok config)
include valid

theorem fault?_of_validate : config.fault? = none := by
  unfold AccessConfig.validate at valid
  split at valid
  · cases valid
  · next nothing => exact nothing

/-- The parts of validation: the tuning of the refresher, the capacity for tables, and the names of the
providers. -/
theorem of_validate : config.refresher.fault? = none ∧ config.tableCapacity ≠ some 0 ∧
    ∀ name ∈ config.providers, AccessConfig.providerFault? config.backend name = none := by
  have nothing := fault?_of_validate valid
  unfold AccessConfig.fault? at nothing
  split at nothing
  · cases nothing
  · next sound =>
    split at nothing
    · cases nothing
    · next capacity => exact ⟨sound, capacity, List.findSome?_eq_none_iff.1 nothing⟩

/-- The refresher can be set up with the tuning, and with the configured fallback. -/
theorem exists_policy (given : staticFallback config.backend properties = .ok fallback) :
    ∃ policy, Refresher.Policy.create config.backend fallback config.refresher = .ok policy := by
  have sound := Refresher.Config.valid_of_fault?_eq_none (of_validate valid).1
  have belongs : ∀ credential, fallback = some credential → credential.kind.backend = config.backend := by
    rintro credential rfl
    exact backend_of_staticFallback given
  exact ⟨_, Refresher.Policy.create_self ⟨config.backend, fallback, config.refresher, sound, belongs⟩⟩

/-- The metadata cache accepts the tuning. -/
theorem check_of_validate : config.tableCache.check = .ok config.tableCache := by
  obtain ⟨sound, capacity, -⟩ := of_validate valid
  have timeout : config.tableCache.probeTimeout ≠ 0 :=
    (Refresher.Config.valid_of_fault?_eq_none sound).2.2
  have bounded : config.tableCache.capacity ≠ some 0 := by
    intro none
    obtain ⟨bound, given, zero⟩ := Option.map_eq_some_iff.1 none
    rw [given, UInt64.toNat_inj.1 (zero.trans UInt64.toNat_zero.symm)] at capacity
    exact capacity rfl
  have faultless : config.tableCache.fault? = none := by
    rw [TableCache.Config.fault?, if_neg bounded, if_neg timeout]
  rw [TableCache.Config.check, faultless]

/-- The name of a listed provider is the name of a kind of the backend, or of the provider that never
has anything. -/
theorem kind_of_validate {name : String} (listed : name ∈ config.providers) :
    name = Provider.neverName ∨
      ∃ kind, Kind.ofName? name = some kind ∧ kind.backend = config.backend := by
  have known := (of_validate valid).2.2 name listed
  unfold AccessConfig.providerFault? at known
  split at known
  · next never => exact .inl never
  · split at known
    · cases known
    · next kind names =>
      split at known
      · next belongs => exact .inr ⟨kind, names, belongs⟩
      · cases known

/-- A listed provider that cannot be set up has a flaw. -/
theorem exists_flaw_of_create {name : String} {cause : CredentialError}
    (listed : name ∈ config.providers)
    (failed : Provider.create config.backend name properties issuer = .error cause) :
    ∃ kind, Kind.ofName? name = some kind ∧
      Provider.SetupFlaw properties.get? issuer name kind cause := by
  rcases kind_of_validate valid listed with rfl | ⟨kind, names, belongs⟩
  · cases failed
  · exact ⟨kind, names, Provider.flaw_of_create names belongs failed⟩

/-- What is done with a valid configuration, stage by stage. -/
theorem prepare_of_validate : prepare (some config) environment issuer externalSource =
    (config.resolveProperties environment >>= fun properties =>
      liftCredential (staticFallback config.backend properties) >>= fun fallback =>
      configuredSource config properties issuer externalSource >>= fun source =>
      liftCredential (Refresher.Policy.create config.backend fallback config.refresher) >>=
        fun policy =>
      .ok ⟨policy, config.tableCache, source⟩) := by
  rw [prepare, valid]
  rfl

theorem tableCache_of_prepare
    (prepared : prepare (some config) environment issuer externalSource = .ok assembly) :
    assembly.tableCache = config.tableCache := by
  rw [prepare_of_validate valid] at prepared
  obtain ⟨_, -, later⟩ := bind_eq_ok_iff.1 prepared
  obtain ⟨_, -, later⟩ := bind_eq_ok_iff.1 later
  obtain ⟨_, -, later⟩ := bind_eq_ok_iff.1 later
  obtain ⟨_, -, ends⟩ := bind_eq_ok_iff.1 later
  cases ends
  rfl

/-- With room enough the metadata cache changes nothing in what is answered. -/
theorem build_eq_prepare : build (some config) environment issuer externalSource =
    prepare (some config) environment issuer externalSource := by
  rw [build]
  cases prepared : prepare (some config) environment issuer externalSource with
  | error error => rfl
  | ok assembly =>
    have accepted : assembly.tableCache.check = .ok assembly.tableCache := by
      rw [tableCache_of_prepare valid prepared, check_of_validate valid]
    change assembly.complete assembly.tableCache.check = .ok assembly
    rw [accepted]
    rfl

/-- **What keeps access from being put together is a flaw.** Behind the providers nothing fails. -/
theorem flaw_of_build_error
    (failed : build (some config) environment issuer externalSource = .error error) :
    BuildFlaw config environment issuer externalSource error := by
  rw [build_eq_prepare valid, prepare_of_validate valid] at failed
  rcases bind_eq_error_iff.1 failed with unresolved | ⟨properties, resolved, later⟩
  · obtain ⟨key, value, cause, listed, fails, rfl⟩ :=
      AccessConfig.exists_of_resolveEntries_error (map_eq_error_iff.1 unresolved)
    exact .unresolved listed fails
  have texts := AccessConfig.get?_of_resolveProperties resolved
  rcases bind_eq_error_iff.1 later with partly | ⟨fallback, given, later⟩
  · obtain ⟨cause, fails, rfl⟩ := liftCredential_eq_error_iff.1 partly
    have flaw := keyPairFlaw_of_staticFallback fails
    rw [texts] at flaw
    exact .keyPair flaw
  rcases bind_eq_error_iff.1 later with providers | ⟨source, -, later⟩
  · cases externalSource with
    | true => cases providers
    | false =>
      obtain ⟨cause, fails, rfl⟩ := liftCredential_eq_error_iff.1 (map_eq_error_iff.1 providers)
      obtain ⟨name, listed, refused⟩ := exists_of_createProviders_error fails
      obtain ⟨kind, names, flaw⟩ := exists_flaw_of_create valid listed refused
      rw [texts] at flaw
      exact .provider rfl listed names flaw
  obtain ⟨policy, made⟩ := exists_policy valid (liftCredential_eq_ok_iff.1 given)
  rw [made] at later
  cases later

/-- **A flaw keeps access from being put together.** -/
theorem not_flaw_of_build (built : build (some config) environment issuer externalSource = .ok assembly) :
    ¬ BuildFlaw config environment issuer externalSource error := by
  intro flaw
  rw [build_eq_prepare valid, prepare_of_validate valid] at built
  obtain ⟨properties, resolved, later⟩ := bind_eq_ok_iff.1 built
  obtain ⟨fallback, given, later⟩ := bind_eq_ok_iff.1 later
  obtain ⟨source, made, -⟩ := bind_eq_ok_iff.1 later
  have texts := AccessConfig.get?_of_resolveProperties resolved
  cases flaw with
  | unresolved listed fails =>
    obtain ⟨_, entries, -⟩ := map_eq_ok_iff.1 resolved
    obtain ⟨text, resolves⟩ := (AccessConfig.of_resolveEntries entries).2.1 _ listed
    cases fails.symm.trans resolves
  | keyPair flaw =>
    rw [← texts] at flaw
    exact not_keyPairFlaw_of_staticFallback (liftCredential_eq_ok_iff.1 given) flaw
  | @provider name kind cause own listed names flaw =>
    subst own
    obtain ⟨providers, lifted, -⟩ := map_eq_ok_iff.1 made
    obtain ⟨provider, created⟩ :=
      exists_of_createProviders_ok (liftCredential_eq_ok_iff.1 lifted) name listed
    rcases kind_of_validate valid listed with rfl | ⟨other, same, belongs⟩
    · exact Provider.ne_neverName_of_ofName? names rfl
    · cases names.symm.trans same
      rw [← texts] at flaw
      obtain ⟨_, refused⟩ := Provider.exists_error_of_flaw names belongs flaw
      cases created.symm.trans refused

/-! ### Memory -/

/-- An error is reported before any memory is taken. -/
theorem buildWithin_of_build_error
    (failed : build (some config) environment issuer externalSource = .error error) :
    buildWithin memory (some config) environment issuer externalSource = some (.error error) := by
  rw [build_eq_prepare valid] at failed
  rw [buildWithin, failed]

/-- Where the capacity for tables fits, access is put together. -/
theorem buildWithin_of_build
    (built : build (some config) environment issuer externalSource = .ok assembly)
    (fits : config.tableCache.fits memory = true) :
    buildWithin memory (some config) environment issuer externalSource = some (.ok assembly) := by
  rw [build_eq_prepare valid] at built
  have same := tableCache_of_prepare valid built
  have created : assembly.tableCache.create memory = some (.ok assembly.tableCache) := by
    rw [same, TableCache.Config.create_of_fits fits, check_of_validate valid]
  rw [buildWithin, built]
  dsimp only
  rw [created]
  rfl

end Valid

/-- Whatever memory there is, what is answered is what is answered with room enough. -/
theorem build_of_buildWithin {given : Option AccessConfig} {answer : Except AccessError Assembly}
    (answered : buildWithin memory given environment issuer externalSource = some answer) :
    build given environment issuer externalSource = answer := by
  rw [buildWithin] at answered
  rw [build]
  cases prepared : prepare given environment issuer externalSource with
  | error error =>
    rw [prepared] at answered
    exact Option.some.inj answered
  | ok assembly =>
    rw [prepared] at answered
    obtain ⟨created, here, completed⟩ := Option.map_eq_some_iff.1 answered
    change assembly.complete assembly.tableCache.check = answer
    rw [TableCache.Config.check_of_create here]
    exact completed

/-- Access is not put together from a configuration that is not valid, and its properties are not looked
at. -/
theorem buildWithin_of_rejected (rejected : config.validate = .error error)
    (properties : Keyed String ConfigValue) :
    buildWithin memory (some { config with properties := properties }) environment issuer
      externalSource = some (.error error) := by
  have found : AccessConfig.fault? { config with properties := properties } = some error := by
    unfold AccessConfig.validate at rejected
    split at rejected
    · next fault same =>
      cases rejected
      exact same
    · cases rejected
  have refused : AccessConfig.validate { config with properties := properties } = .error error := by
    rw [AccessConfig.validate, found]
  rw [buildWithin, prepare, refused]
  rfl

/-- What is read and accepted is valid. -/
theorem validate_of_parse {text : String} (accepted : AccessConfig.parse text = .ok config) :
    config.validate = .ok config := by
  obtain ⟨read, -, valid⟩ := bind_eq_ok_iff.1 accepted
  cases eq_of_validate valid
  exact valid

end Assembly

/-- **What validation accepts fails only for what it cannot see, and what it rejects fails at once.**

* A configuration that is read from a text is valid.
* From a valid configuration, in an environment, with or without an issuer and with or without a source
  from outside, and whatever memory there is, an error is reported if and only if there is a flaw: a
  property does not resolve, the key pair of the backend is given in part or has a blank member, or,
  without a source from outside, a listed provider lacks a property that it requires, has a lifetime that
  is no number, or needs an issuer and has none. The error says what the flaw is; it is a fault of
  configuration, and it is never what validation looks for: the name of a provider, its backend, the
  expiry factor, a capacity, a timeout, or the backend of the fallback. Where there is room for the
  capacity of the metadata cache, access is put together if and only if there is no flaw.
* From a configuration that is not valid access is never put together. The error is the fault that
  validation found, whatever the properties are, the environment, the issuer, the source and the memory. -/
theorem validation_governs_build (config : AccessConfig) (memory : TableCache.Memory) :
    (∀ text, AccessConfig.parse text = .ok config → config.validate = .ok config) ∧
    (config.validate = .ok config →
      ∀ (environment : Environment) (issuer : Option Issuer) (externalSource : Bool),
        (∀ error, Assembly.buildWithin memory (some config) environment issuer externalSource =
            some (.error error) →
          BuildFlaw config environment issuer externalSource error ∧ error.isConfig = true ∧
            error.isRecheck = false) ∧
        ((∃ error, BuildFlaw config environment issuer externalSource error) →
          ∃ error, Assembly.buildWithin memory (some config) environment issuer externalSource =
            some (.error error)) ∧
        (config.tableCache.fits memory = true →
          ((∃ assembly, Assembly.buildWithin memory (some config) environment issuer externalSource =
              some (.ok assembly)) ↔
            ∀ error, ¬ BuildFlaw config environment issuer externalSource error))) ∧
    (∀ fault, config.validate = .error fault →
      ∀ (properties : Keyed String ConfigValue) (environment : Environment) (issuer : Option Issuer)
        (externalSource : Bool),
        Assembly.buildWithin memory (some { config with properties := properties }) environment issuer
          externalSource = some (.error fault)) := by
  refine ⟨fun text accepted => Assembly.validate_of_parse accepted, ?_, ?_⟩
  · intro valid environment issuer externalSource
    refine ⟨?_, ?_, fun fits => ⟨?_, ?_⟩⟩
    · intro error reported
      have flaw := Assembly.flaw_of_build_error valid (Assembly.build_of_buildWithin reported)
      exact ⟨flaw, flaw.ofConfig⟩
    · rintro ⟨error, flaw⟩
      cases built : Assembly.build (some config) environment issuer externalSource with
      | ok assembly => exact absurd flaw (Assembly.not_flaw_of_build valid built)
      | error error => exact ⟨error, Assembly.buildWithin_of_build_error valid built⟩
    · rintro ⟨assembly, answered⟩ error
      exact Assembly.not_flaw_of_build valid (Assembly.build_of_buildWithin answered)
    · intro flawless
      cases built : Assembly.build (some config) environment issuer externalSource with
      | ok assembly => exact ⟨assembly, Assembly.buildWithin_of_build valid built fits⟩
      | error error => exact absurd (Assembly.flaw_of_build_error valid built) (flawless error)
  · intro fault rejected properties environment issuer externalSource
    exact Assembly.buildWithin_of_rejected rejected properties

/-- Memory for a million tables. -/
def TableCache.Memory.million : TableCache.Memory := fun tables => tables ≤ 1000000

/-- The configuration with secret keys and sessions, and a capacity of a thousand tables. -/
def boundedConfig : AccessConfig := { guardedConfig with tableCapacity := some 1000 }

/-- The configuration with a capacity is valid, and there is memory for it. Access is put together from
it with an issuer, and without one it is not. With no room for tables the configuration is rejected. -/
theorem validation_governs_build_issuerless :
    boundedConfig.validate = .ok boundedConfig ∧
      boundedConfig.tableCache.fits .million = true ∧
      (∃ assembly, Assembly.buildWithin .million (some boundedConfig) Keyed.empty (some ⟨"issuer"⟩) false =
        some (.ok assembly)) ∧
      (∃ error, Assembly.buildWithin .million (some boundedConfig) Keyed.empty none false =
          some (.error error) ∧
        BuildFlaw boundedConfig Keyed.empty none false error ∧ error.isConfig = true ∧
        error.isRecheck = false) ∧
      Assembly.buildWithin .million
          (some { boundedConfig with tableCapacity := some 0, properties := Keyed.empty }) Keyed.empty none
          false =
        some (.error .zeroTableCapacity) := by
  have faultless : boundedConfig.fault? = none := by decide +kernel
  have valid : boundedConfig.validate = .ok boundedConfig := by
    rw [AccessConfig.validate, faultless]
  have fits : boundedConfig.tableCache.fits .million = true := by decide +kernel
  have crampedFault : AccessConfig.fault? { boundedConfig with tableCapacity := some 0 } =
      some .zeroTableCapacity := by decide +kernel
  have rejected : AccessConfig.validate { boundedConfig with tableCapacity := some 0 } =
      .error .zeroTableCapacity := by
    rw [AccessConfig.validate, crampedFault]
  have given : staticFallback boundedConfig.backend guardedProperties = .ok (some Refresher.sampleKey) := by
    decide +kernel
  obtain ⟨policy, made⟩ := Assembly.exists_policy valid given
  have built : Assembly.build (some boundedConfig) Keyed.empty (some ⟨"issuer"⟩) false =
      .ok ⟨policy, boundedConfig.tableCache, some (ProviderSource.readOnly guardedProviders)⟩ := by
    refine Assembly.build_eq_ok_iff.2
      ⟨boundedConfig, guardedProperties, some Refresher.sampleKey, guardedProviders, rfl, ?_⟩
    exact {
      valid := valid
      resolved := rfl
      given := given
      created := rfl
      policy := made
      tuned := Assembly.check_of_validate valid
      source := rfl }
  have flaw : BuildFlaw boundedConfig Keyed.empty none false
      (.credential (.issuerMissing "s3-token")) :=
    .provider rfl (List.mem_cons_of_mem _ List.mem_cons_self) (rfl : Kind.ofName? _ = some .s3Token)
      (.issuer rfl rfl)
  obtain ⟨-, governs, -⟩ := validation_governs_build boundedConfig .million
  obtain ⟨-, -, complete⟩ := governs valid Keyed.empty (some ⟨"issuer"⟩) false
  obtain ⟨explains, reports, -⟩ := governs valid Keyed.empty none false
  obtain ⟨error, reported⟩ := reports ⟨_, flaw⟩
  refine ⟨valid, fits, ?_, ⟨error, reported, explains error reported⟩, ?_⟩
  · exact (complete fits).2 fun _ => Assembly.not_flaw_of_build valid built
  · exact (validation_governs_build _ _).2.2 _ rejected Keyed.empty Keyed.empty none false

end StorageBroker
