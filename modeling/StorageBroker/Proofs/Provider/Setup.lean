import StorageBroker.Proofs.Credential.Material
import StorageBroker.Provider.Basic

/-!
# Setting providers up

What keeps a provider from being set up from properties, if its name is the name of a kind of the
backend: a property that it requires is missing or blank, the wanted lifetime of its tokens is not a
number, or it mints tokens and there is no issuer (`Provider.SetupFlaw`). Each of them does keep it
from being set up (`Provider.exists_error_of_flaw`), and nothing else does (`Provider.flaw_of_create`).
-/

set_option autoImplicit false

namespace StorageBroker

/-- What an error says of a required property, found as told: it is missing, or it is blank. -/
inductive Lacking (key : String) : Option String → CredentialError → Prop where
  | missing : Lacking key none (.missingProperty key)
  | blank {text : String} (blank : Text.isBlank text = true) :
      Lacking key (some text) (.blankProperty key)

/-- The keys of the properties that a provider of a kind requires. -/
def Kind.requiredKeys (kind : Kind) : List String :=
  if kind.isToken then [Session.identityKey kind.backend] else kind.attributes.map Attribute.key

/-- Why a provider with the name of a kind cannot be set up, given the texts of properties. -/
inductive Provider.SetupFlaw (text? : String → Option String) (issuer : Option Issuer)
    (name : String) (kind : Kind) : CredentialError → Prop where
  | property {key : String} {error : CredentialError} (required : key ∈ kind.requiredKeys)
      (lacking : Lacking key (text? key) error) : SetupFlaw text? issuer name kind error
  | lifetime {text : String} {fault : Text.Numeral.Fault} (isToken : kind.isToken = true)
      (given : text? Session.lifetimeKey = some text)
      (wrong : Text.Numeral.unsigned (Text.trim text) = .error fault) :
      SetupFlaw text? issuer name kind (.invalidLifetime text fault)
  | issuer (isToken : kind.isToken = true) (bare : issuer = none) :
      SetupFlaw text? issuer name kind (.issuerMissing name)

variable {properties : Properties} {key : String} {error : CredentialError} {backend : Backend}

/-! ## Required properties -/

theorem requiredProperty_eq_error_iff : requiredProperty properties key = .error error ↔
    Lacking key (properties.get? key) error := by
  unfold requiredProperty
  cases properties.get? key with
  | none =>
    constructor
    · rintro ⟨⟩
      exact .missing
    · rintro ⟨⟩
      rfl
  | some text =>
    dsimp only
    split
    · next blank =>
      constructor
      · rintro ⟨⟩
        exact .blank blank
      · rintro ⟨⟩
        rfl
    · next filled =>
      constructor
      · rintro ⟨⟩
      · rintro (_ | blank)
        cases filled.symm.trans blank

theorem requiredProperty_eq_ok_iff {filled : FilledText} :
    requiredProperty properties key = .ok filled ↔ properties.get? key = some filled.text := by
  unfold requiredProperty
  cases properties.get? key with
  | none => exact ⟨nofun, nofun⟩
  | some text =>
    dsimp only
    split
    · next blank =>
      constructor
      · rintro ⟨⟩
      · rintro ⟨⟩
        cases blank.symm.trans filled.filled
    · next full =>
      constructor
      · rintro ⟨⟩
        rfl
      · rintro ⟨⟩
        rfl

/-! ## Secret keys -/

namespace KeyStore

variable {store : KeyStore}

theorem requiredKeys_kind (store : KeyStore) :
    store.kind.requiredKeys = [store.accessKeyId.key, store.secretAccessKey.key] := by
  cases store <;> rfl

/-- Texts that are not blank pass the check of the keys. -/
theorem check_filled (store : KeyStore) (accessKeyId secretAccessKey : FilledText) :
    store.check accessKeyId.text secretAccessKey.text = .ok ⟨accessKeyId, secretAccessKey⟩ :=
  bind_eq_ok_iff.2 ⟨accessKeyId, FilledText.check_eq_ok_iff.2 rfl,
    bind_eq_ok_iff.2 ⟨secretAccessKey, FilledText.check_eq_ok_iff.2 rfl, rfl⟩⟩

theorem lacking_of_readKeys (failed : store.readKeys properties = .error error) :
    ∃ key ∈ store.kind.requiredKeys, Lacking key (properties.get? key) error := by
  rw [requiredKeys_kind]
  rcases bind_eq_error_iff.1 failed with first | ⟨_, -, rest⟩
  · exact ⟨_, List.mem_cons_self, requiredProperty_eq_error_iff.1 first⟩
  · rcases bind_eq_error_iff.1 rest with second | ⟨_, -, ends⟩
    · exact ⟨_, List.mem_cons_of_mem _ List.mem_cons_self, requiredProperty_eq_error_iff.1 second⟩
    · rw [check_filled] at ends
      cases ends

/-- Both keys are there if they are read. -/
theorem not_lacking_of_readKeys {keys : KeyPair} (read : store.readKeys properties = .ok keys)
    (required : key ∈ store.kind.requiredKeys) : ¬ Lacking key (properties.get? key) error := by
  obtain ⟨accessKeyId, first, rest⟩ := bind_eq_ok_iff.1 read
  obtain ⟨secretAccessKey, second, -⟩ := bind_eq_ok_iff.1 rest
  rw [requiredKeys_kind] at required
  rw [← requiredProperty_eq_error_iff]
  intro failed
  rcases List.mem_cons.1 required with rfl | last
  · cases first.symm.trans failed
  · cases List.mem_singleton.1 last
    cases second.symm.trans failed

/-- The pair of texts that is read for the fallback is the one of the keys, once one of them is given. -/
theorem readPair?_bind (store : KeyStore) (properties : Properties) :
    (store.readPair? properties >>= fun
      | none => .ok none
      | some (accessKeyId, secretAccessKey) =>
        (store.check accessKeyId.text secretAccessKey.text).map fun keys =>
          some (store.credential keys)) =
    if !properties.contains store.accessKeyId.key &&
        !properties.contains store.secretAccessKey.key
    then .ok none
    else (store.readKeys properties).map fun keys => some (store.credential keys) := by
  unfold readPair? readKeys
  split
  · rfl
  · cases requiredProperty properties store.accessKeyId.key with
    | error error => rfl
    | ok accessKeyId =>
      cases requiredProperty properties store.secretAccessKey.key with
      | error error => rfl
      | ok secretAccessKey => rfl

end KeyStore

/-- The fallback is made of the keys that a provider of secret keys would read, unless neither of them
is given. -/
theorem staticFallback_eq (backend : Backend) (properties : Properties) :
    staticFallback backend properties =
      match backend.keyStore? with
      | none => .ok none
      | some store =>
        if !properties.contains store.accessKeyId.key &&
            !properties.contains store.secretAccessKey.key
        then .ok none
        else (store.readKeys properties).map fun keys => some (store.credential keys) := by
  unfold staticFallback
  cases backend.keyStore? with
  | none => rfl
  | some store => exact store.readPair?_bind properties

/-! ## Session tokens -/

namespace Session

variable {issuer : Issuer} {session : Session}

theorem readLifetime_eq_error_iff : readLifetime properties = .error error ↔
    ∃ text fault, properties.get? lifetimeKey = some text ∧
      Text.Numeral.unsigned (Text.trim text) = .error fault ∧ error = .invalidLifetime text fault := by
  unfold readLifetime
  cases properties.get? lifetimeKey with
  | none => exact ⟨nofun, nofun⟩
  | some text =>
    dsimp only
    cases read : Text.Numeral.unsigned (Text.trim text) with
    | ok seconds =>
      constructor
      · rintro ⟨⟩
      · rintro ⟨_, _, ⟨⟩, wrong, -⟩
        cases read.symm.trans wrong
    | error fault =>
      constructor
      · rintro ⟨⟩
        exact ⟨text, fault, rfl, read, rfl⟩
      · rintro ⟨_, _, ⟨⟩, wrong, rfl⟩
        cases read.symm.trans wrong
        rfl

/-- A session that accepts properties has its identity and its lifetime from them. -/
theorem ofProperties_eq_ok_iff : ofProperties backend properties issuer = .ok session ↔
    session.backend = backend ∧ session.issuer = issuer ∧
      properties.get? (identityKey backend) = some session.identity.text ∧
      readLifetime properties = .ok session.lifetimeSeconds := by
  simp only [ofProperties, bind_eq_ok_iff, requiredProperty_eq_ok_iff, Except.ok.injEq]
  constructor
  · rintro ⟨identity, found, lifetime, read, rfl⟩
    exact ⟨rfl, rfl, found, read⟩
  · rintro ⟨rfl, rfl, found, read⟩
    exact ⟨session.identity, found, session.lifetimeSeconds, read, rfl⟩

theorem ofProperties_eq_error_cases (failed : ofProperties backend properties issuer = .error error) :
    Lacking (identityKey backend) (properties.get? (identityKey backend)) error ∨
      readLifetime properties = .error error := by
  rcases bind_eq_error_iff.1 failed with identity | ⟨_, -, rest⟩
  · exact .inl (requiredProperty_eq_error_iff.1 identity)
  · rcases bind_eq_error_iff.1 rest with lifetime | ⟨_, -, ends⟩
    · exact .inr lifetime
    · cases ends

end Session

/-! ## Providers -/

namespace Provider

variable {issuer : Option Issuer} {name : String} {kind : Kind}

/-- The name of the provider that never has anything is not the name of a kind. -/
theorem ne_neverName_of_ofName? (names : Kind.ofName? name = some kind) : name ≠ neverName := by
  rintro rfl
  cases names

/-- A kind that does not expire is a kind of secret keys. -/
theorem exists_keyStore (static : kind.isToken = false) : ∃ store : KeyStore, store.kind = kind := by
  cases kind with
  | s3SecretKey => exact ⟨.s3, rfl⟩
  | ossSecretKey => exact ⟨.oss, rfl⟩
  | s3Token | gcsToken | ossToken => cases static

theorem create_eq_of_keyStore {store : KeyStore} (names : Kind.ofName? name = some store.kind)
    (belongs : store.kind.backend = backend) :
    create backend name properties issuer = ofKeyStore store properties := by
  unfold create
  rw [if_neg (ne_neverName_of_ofName? names), names]
  dsimp only
  rw [if_neg (Decidable.not_not.2 belongs)]
  cases store <;> rfl

theorem create_eq_of_token (names : Kind.ofName? name = some kind)
    (belongs : kind.backend = backend) (isToken : kind.isToken = true) :
    create backend name properties issuer =
      match issuer with
      | none => .error (.issuerMissing name)
      | some issuer => ofSession backend properties issuer := by
  unfold create
  rw [if_neg (ne_neverName_of_ofName? names), names]
  dsimp only
  rw [if_neg (Decidable.not_not.2 belongs)]
  cases kind with
  | s3Token | gcsToken | ossToken => rfl
  | s3SecretKey | ossSecretKey => cases isToken

variable (names : Kind.ofName? name = some kind) (belongs : kind.backend = backend)
include names belongs

/-- **A provider of a kind of the backend is set up unless it has a flaw.** -/
theorem flaw_of_create (failed : create backend name properties issuer = .error error) :
    SetupFlaw properties.get? issuer name kind error := by
  cases isToken : kind.isToken with
  | false =>
    obtain ⟨store, rfl⟩ := exists_keyStore isToken
    rw [create_eq_of_keyStore names belongs, ofKeyStore] at failed
    obtain ⟨key, required, lacking⟩ := KeyStore.lacking_of_readKeys (map_eq_error_iff.1 failed)
    exact .property required lacking
  | true =>
    rw [create_eq_of_token names belongs isToken] at failed
    cases issuer with
    | none =>
      cases failed
      exact .issuer isToken rfl
    | some issuer =>
      rcases Session.ofProperties_eq_error_cases (map_eq_error_iff.1 failed) with lacking | lifetime
      · refine .property ?_ lacking
        rw [Kind.requiredKeys, if_pos isToken, belongs]
        exact List.mem_cons_self
      · obtain ⟨text, fault, given, wrong, rfl⟩ := Session.readLifetime_eq_error_iff.1 lifetime
        exact .lifetime isToken given wrong

/-- **A provider with a flaw is not set up.** -/
theorem exists_error_of_flaw (flaw : SetupFlaw properties.get? issuer name kind error) :
    ∃ other, create backend name properties issuer = .error other := by
  cases made : create backend name properties issuer with
  | error other => exact ⟨other, rfl⟩
  | ok provider =>
    exfalso
    cases isToken : kind.isToken with
    | false =>
      obtain ⟨store, rfl⟩ := exists_keyStore isToken
      rw [create_eq_of_keyStore names belongs] at made
      obtain ⟨keys, read, -⟩ := map_eq_ok_iff.1 made
      cases flaw with
      | property required lacking => exact KeyStore.not_lacking_of_readKeys read required lacking
      | lifetime expires _ _ => cases isToken.symm.trans expires
      | issuer expires _ => cases isToken.symm.trans expires
    | true =>
      rw [create_eq_of_token names belongs isToken] at made
      cases issuer with
      | none => cases made
      | some issuer =>
        obtain ⟨session, accepted, -⟩ := map_eq_ok_iff.1 made
        obtain ⟨-, -, identity, lifetime⟩ := Session.ofProperties_eq_ok_iff.1 accepted
        cases flaw with
        | property required lacking =>
          rw [Kind.requiredKeys, if_pos isToken, belongs, List.mem_singleton] at required
          subst required
          rw [← requiredProperty_eq_ok_iff] at identity
          rw [← requiredProperty_eq_error_iff] at lacking
          cases identity.symm.trans lacking
        | lifetime _ given wrong =>
          have fails := Session.readLifetime_eq_error_iff.2 ⟨_, _, given, wrong, rfl⟩
          cases lifetime.symm.trans fails
        | issuer _ bare => cases bare

end Provider

end StorageBroker
