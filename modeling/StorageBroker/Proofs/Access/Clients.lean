import StorageBroker.Access.Sink
import StorageBroker.Proofs.Outcome
import StorageBroker.Proofs.Refresher.Failure
import StorageBroker.Provider.Basic

/-!
# What storage clients are given

A client is given what its resolver answers, in a shape of its own. An error of the resolver reaches it
as it is. A credential of another backend is refused. A credential of its own backend is carried over
part by part (`ClientCredential.Carries`), unless it is a token whose expiry is no instant
(`ClientCredential.served`). What an instant is stays open: a calendar is only required to have one for
the milliseconds of a range and for no others, and to tell the milliseconds of each
(`Calendar.Reading.Faithful`).

A refresher hands out credentials of its own backend only (`Refresher.provenance`). The errors that it
reports are that a credential is malformed or that none is to be had (`Policy.Refusal`), and none of
them reads like the refusal of a credential of another backend, whatever the source has said. So a
client of this backend is never told that its credential is of another one
(`Refresher.Chronicle.not_saysMismatch`).
-/

set_option autoImplicit false

namespace StorageBroker

open Refresher

/-! ## Instants -/

/-- A calendar has an instant for each of the milliseconds from the first to the last and for no others,
and it tells the milliseconds of each. -/
structure Calendar.Reading.Faithful {ι : Type} (reading : Calendar.Reading ι) (first last : Int64) :
    Prop where
  defined : ∀ milliseconds, (∃ instant, reading.instant? milliseconds = some instant) ↔
    first ≤ milliseconds ∧ milliseconds ≤ last
  inverse : ∀ milliseconds instant, reading.instant? milliseconds = some instant →
    reading.milliseconds instant = milliseconds

/-- A credential expires between two instants. -/
def Credential.ExpiresWithin (credential : Credential) (first last : Int64) : Prop :=
  first ≤ credential.expiryMillis ∧ credential.expiryMillis ≤ last

instance (credential : Credential) (first last : Int64) :
    Decidable (credential.ExpiresWithin first last) :=
  inferInstanceAs (Decidable (_ ∧ _))

namespace Calendar.Reading

variable {ι : Type} {reading : Calendar.Reading ι} {first last : Int64} {expiry : Expiry}
  {error : CredentialError}

theorem Faithful.exists_instant (faithful : reading.Faithful first last)
    (within : first ≤ expiry.milliseconds ∧ expiry.milliseconds ≤ last) :
    ∃ instant, reading.ofExpiry expiry = .ok instant ∧
      reading.milliseconds instant = expiry.milliseconds := by
  obtain ⟨instant, found⟩ := (faithful.defined expiry.milliseconds).2 within
  refine ⟨instant, ?_, faithful.inverse _ _ found⟩
  rw [ofExpiry, found]

theorem Faithful.ofExpiry_of_beyond (faithful : reading.Faithful first last)
    (beyond : ¬ (first ≤ expiry.milliseconds ∧ expiry.milliseconds ≤ last)) :
    reading.ofExpiry expiry = .error (.expiryOutOfRange expiry.milliseconds) := by
  unfold ofExpiry
  split
  · next instant found => exact absurd ((faithful.defined _).1 ⟨instant, found⟩) beyond
  · rfl

/-- Whatever the calendar is, an expiry is only refused for being out of range. -/
theorem expiryOutOfRange_of_ofExpiry (refused : reading.ofExpiry expiry = .error error) :
    error = .expiryOutOfRange expiry.milliseconds := by
  unfold ofExpiry at refused
  split at refused
  · cases refused
  · cases refused
    rfl

end Calendar.Reading

/-- The instants after 1970 that can be written are a faithful calendar. -/
theorem CalendarInstant.faithful_reading :
    reading.Faithful 1 (Int64.ofNat Calendar.lastInstant) where
  defined := by
    intro milliseconds
    have bounds : (0 < milliseconds ∧ milliseconds.toInt ≤ Calendar.lastInstant) ↔
        1 ≤ milliseconds ∧ milliseconds ≤ Int64.ofNat Calendar.lastInstant := by
      simp only [Int64.lt_iff_toInt_lt, Int64.le_iff_toInt_le]
      exact Iff.rfl
    rw [← bounds]
    constructor
    · rintro ⟨instant, found⟩
      dsimp only [reading] at found
      split at found
      · next within => exact within
      · cases found
    · intro within
      exact ⟨_, dif_pos within⟩
  inverse := by
    intro milliseconds instant found
    dsimp only [reading] at found
    split at found
    · cases found
      rfl
    · cases found

/-! ## Carrying over -/

/-- The attribute of the token for a session. -/
def KeyStore.sessionToken : KeyStore → Attribute
  | .s3 => .s3SessionToken
  | .oss => .ossSecurityToken

/-- Keys for a session as a credential. -/
def KeyStore.session : KeyStore → KeyPair → FilledText → Expiry → Credential
  | .s3 => .s3Token
  | .oss => .ossToken

section Parts

variable {ι : Type}

/-- Keys for a client have the parts of a credential: each text as it is, and the token and the expiry
of a session if and only if it is one. -/
structure StorageKeys.Carries (reading : Calendar.Reading ι) (store : KeyStore)
    (credential : Credential) (keys : StorageKeys ι) : Prop where
  belongs : credential.kind.backend = store.backend
  accessKeyId : credential.info.get? store.accessKeyId.key = some keys.accessKeyId
  secretAccessKey : credential.info.get? store.secretAccessKey.key = some keys.secretAccessKey
  sessionToken : credential.info.get? store.sessionToken.key = keys.sessionToken
  isSession : keys.sessionToken.isSome = credential.kind.isToken
  expires : keys.expiresAt.isSome = credential.kind.isToken
  expiry : ∀ instant, keys.expiresAt = some instant →
    reading.milliseconds instant = credential.expiryMillis

/-- A token for a client has the parts of a credential. -/
structure AccessToken.Carries (reading : Calendar.Reading ι) (credential : Credential)
    (token : AccessToken ι) : Prop where
  belongs : credential.kind.backend = .gcs
  isToken : credential.kind.isToken = true
  text : credential.info.get? Attribute.gcsToken.key = some token.token
  expiry : reading.milliseconds token.expiresAt = credential.expiryMillis

/-- What a client takes has the parts of a credential, in the shape for its backend. -/
inductive ClientCredential.Carries (reading : Calendar.Reading ι) (credential : Credential) :
    ClientCredential ι → Prop where
  | keys {store : KeyStore} {keys : StorageKeys ι} (parts : keys.Carries reading store credential) :
      Carries reading credential (.keys keys)
  | token {token : AccessToken ι} (parts : token.Carries reading credential) :
      Carries reading credential (.token token)

variable {reading : Calendar.Reading ι} {instant : ι} {expiry : Expiry}

theorem StorageKeys.carries_of_keys (store : KeyStore) (keys : KeyPair) :
    StorageKeys.Carries reading store (store.credential keys)
      ⟨keys.accessKeyId.text, keys.secretAccessKey.text, none, none⟩ := by
  cases store <;>
    exact {
      belongs := rfl
      accessKeyId := rfl
      secretAccessKey := rfl
      sessionToken := rfl
      isSession := rfl
      expires := rfl
      expiry := by rintro _ ⟨⟩ }

theorem StorageKeys.carries_of_session (store : KeyStore) (keys : KeyPair) (token : FilledText)
    (same : reading.milliseconds instant = expiry.milliseconds) :
    StorageKeys.Carries reading store (store.session keys token expiry)
      ⟨keys.accessKeyId.text, keys.secretAccessKey.text, some token.text, some instant⟩ := by
  cases store <;>
    exact {
      belongs := rfl
      accessKeyId := rfl
      secretAccessKey := rfl
      sessionToken := rfl
      isSession := rfl
      expires := rfl
      expiry := by
        rintro _ ⟨⟩
        exact same }

theorem AccessToken.carries_of_token (token : FilledText)
    (same : reading.milliseconds instant = expiry.milliseconds) :
    AccessToken.Carries reading (.gcsToken token expiry) ⟨token.text, instant⟩ where
  belongs := rfl
  isToken := rfl
  text := rfl
  expiry := same

end Parts

/-! ## Serving a client -/

namespace ClientCredential

variable {ι : Type} {reading : Calendar.Reading ι} {first last : Int64} {backend : Backend}
  {resource : String} {credential : Credential} {error : CredentialError}

/-- A credential of another backend is refused. -/
theorem convert_of_elsewhere (elsewhere : credential.kind.backend ≠ backend) :
    convert reading backend resource credential =
      .error (.wrongBackend credential.kind resource (wanted backend)) := by
  cases backend <;> cases credential
  case s3.s3SecretKey | s3.s3Token | gcs.gcsToken | oss.ossSecretKey | oss.ossToken =>
    exact absurd rfl elsewhere
  all_goals rfl

/-- A credential of the backend is carried over, unless it is a token that expires beyond the range. -/
theorem exists_carried (faithful : reading.Faithful first last)
    (belongs : credential.kind.backend = backend)
    (within : credential.kind.isToken = true → credential.ExpiresWithin first last) :
    ∃ given, convert reading backend resource credential = .ok given ∧
      given.Carries reading credential := by
  subst belongs
  cases credential with
  | s3SecretKey keys => exact ⟨_, rfl, .keys (StorageKeys.carries_of_keys .s3 keys)⟩
  | ossSecretKey keys => exact ⟨_, rfl, .keys (StorageKeys.carries_of_keys .oss keys)⟩
  | s3Token keys token expiry =>
    obtain ⟨instant, read, same⟩ := faithful.exists_instant (within rfl)
    exact ⟨_, map_eq_ok_iff.2 ⟨instant, read, rfl⟩,
      .keys (StorageKeys.carries_of_session .s3 keys token same)⟩
  | ossToken keys token expiry =>
    obtain ⟨instant, read, same⟩ := faithful.exists_instant (within rfl)
    exact ⟨_, map_eq_ok_iff.2 ⟨instant, read, rfl⟩,
      .keys (StorageKeys.carries_of_session .oss keys token same)⟩
  | gcsToken token expiry =>
    obtain ⟨instant, read, same⟩ := faithful.exists_instant (within rfl)
    exact ⟨_, map_eq_ok_iff.2 ⟨instant, read, rfl⟩,
      .token (AccessToken.carries_of_token token same)⟩

/-- A token of the backend that expires beyond the range is refused. -/
theorem convert_of_beyond (faithful : reading.Faithful first last)
    (belongs : credential.kind.backend = backend) (isToken : credential.kind.isToken = true)
    (beyond : ¬ credential.ExpiresWithin first last) :
    convert reading backend resource credential =
      .error (.expiryOutOfRange credential.expiryMillis) := by
  subst belongs
  cases credential with
  | s3SecretKey _ | ossSecretKey _ => cases isToken
  | s3Token _ _ _ | ossToken _ _ _ | gcsToken _ _ =>
    exact map_eq_error_iff.2 (faithful.ofExpiry_of_beyond beyond)

/-- Whatever the calendar is, a credential of the backend is only refused for its expiry. -/
theorem expiryOutOfRange_of_convert (belongs : credential.kind.backend = backend)
    (refused : convert reading backend resource credential = .error error) :
    error = .expiryOutOfRange credential.expiryMillis := by
  subst belongs
  cases credential with
  | s3SecretKey _ | ossSecretKey _ => cases refused
  | s3Token _ _ _ | ossToken _ _ _ | gcsToken _ _ =>
    exact Calendar.Reading.expiryOutOfRange_of_ofExpiry (map_eq_error_iff.1 refused)

/-- What the client of a backend is answered, by what its resource resolved to. -/
structure Served (reading : Calendar.Reading ι) (first last : Int64) (backend : Backend)
    (resource : String) : Prop where
  /-- An error is passed on. -/
  failed : ∀ error, answer reading backend resource (.error error) = .error error
  /-- A credential of another backend is not to be had. -/
  elsewhere : ∀ credential, credential.kind.backend ≠ backend →
    answer reading backend resource (.ok credential) =
        .error (.wrongBackend credential.kind resource (wanted backend)) ∧
      (CredentialError.wrongBackend credential.kind resource (wanted backend)).isUnavailable = true
  /-- A secret key is carried over, and so is a token that expires within the range. -/
  carried : ∀ credential, credential.kind.backend = backend →
    (credential.kind.isToken = true → credential.ExpiresWithin first last) →
      ∃ given, answer reading backend resource (.ok credential) = .ok given ∧
        given.Carries reading credential
  /-- A token that expires beyond the range is malformed. -/
  beyond : ∀ credential, credential.kind.backend = backend → credential.kind.isToken = true →
    ¬ credential.ExpiresWithin first last →
      answer reading backend resource (.ok credential) =
          .error (.expiryOutOfRange credential.expiryMillis) ∧
        (CredentialError.expiryOutOfRange credential.expiryMillis).isInvalid = true

/-- **A client is served what its resource resolved to.** -/
theorem served (faithful : reading.Faithful first last) (backend : Backend) (resource : String) :
    Served reading first last backend resource where
  failed := fun _ => rfl
  elsewhere := fun _ elsewhere => ⟨convert_of_elsewhere elsewhere, rfl⟩
  carried := fun _ belongs within => exists_carried faithful belongs within
  beyond := fun _ belongs isToken beyond =>
    ⟨convert_of_beyond faithful belongs isToken beyond, rfl⟩

end ClientCredential

/-- A client asks its resolver once, for its resource, and is answered what this comes to. -/
theorem StorageClient.fetchBy_eq_map {m : Type → Type} [Monad m] [LawfulMonad m] {ι : Type}
    (client : StorageClient) (reading : Calendar.Reading ι) (resolver : Resolver m) :
    client.fetchBy reading resolver =
      ClientCredential.answer reading client.backend client.resource <$>
        resolver.resolve client.resource := by
  rw [map_eq_pure_bind]
  rfl

/-! ## Clients of a refresher -/

namespace CredentialError

variable {error : CredentialError}

/-- An error that reads like the refusal of a credential of another backend. -/
def SaysMismatch (error : CredentialError) : Prop :=
  ∃ kind resource wanted, error.message = (wrongBackend kind resource wanted).message

theorem exists_message (error : CredentialError) :
    ∃ text, error.message = error.category.heading ++ text :=
  ⟨_, message.eq_def error⟩

/-- What is malformed is said under another heading. -/
theorem not_saysMismatch_of_isInvalid (invalid : error.isInvalid = true) : ¬ error.SaysMismatch := by
  rintro ⟨kind, resource, wanted, same⟩
  have heading : error.category = .invalidCredential := beq_iff_eq.1 invalid
  obtain ⟨text, said⟩ := error.exists_message
  have texts := congrArg String.toList (said.symm.trans same)
  rw [heading] at texts
  simp [message, category, Category.heading] at texts

end CredentialError

/-- No error that a refresher reports reads like a mismatch. An error of its own shares the heading of a
mismatch, and parts from it at the letter behind the heading. -/
theorem Refresher.Policy.Refusal.not_saysMismatch {policy : Policy} {resource : String}
    {result : LoadResult} {error : CredentialError}
    (refusal : policy.Refusal resource result error) : ¬ error.SaysMismatch := by
  cases refusal with
  | malformed _ invalid => exact CredentialError.not_saysMismatch_of_isInvalid invalid
  | unselected =>
    rintro ⟨kind, other, wanted, same⟩
    have texts := congrArg String.toList same
    simp [CredentialError.message, CredentialError.category, CredentialError.Category.heading,
      toString] at texts
  | unloaded cause =>
    rintro ⟨kind, other, wanted, same⟩
    have texts := congrArg String.toList same
    rw [CredentialError.message] at texts
    simp [CredentialError.message, CredentialError.category, CredentialError.Category.heading,
      toString] at texts

/-- **A client of a refresher is never told of a mismatch**, whatever the calendar is. -/
theorem Refresher.Chronicle.not_saysMismatch {policy : Policy} {past : Past} {state next : State}
    {step : Step} {event : Event} {resolved : Except CredentialError Credential} {ι : Type}
    {reading : Calendar.Reading ι} {resource : String} {error : CredentialError}
    (record : Chronicle policy past state) (taken : state.step policy step = some (next, event))
    (told : event.reply? = some (.credential resolved))
    (refused : ClientCredential.answer reading policy.backend resource resolved = .error error) :
    ¬ error.SaysMismatch := by
  cases resolved with
  | error cause =>
    cases refused
    obtain ⟨_, _, refusal⟩ := (change_of_step taken).refusal_of_reply told
    exact refusal.not_saysMismatch
  | ok credential =>
    obtain ⟨_, _, -, -, provenance⟩ := record.provenance_of_reply taken told
    obtain rfl := ClientCredential.expiryOutOfRange_of_convert provenance.backend refused
    exact CredentialError.not_saysMismatch_of_isInvalid rfl

/-- **Clients are served faithfully, and by the backend that they belong to.**

* Take a calendar that has an instant for the milliseconds of a range and for no others, and tells the
  milliseconds of each. A client of any backend is told the errors of its resolver as they are, and
  that a credential of another backend is not to be had. A credential of its own backend it is given
  with all texts unchanged, with the token and the expiry of a session if and only if it is one, and
  with an expiry at the very millisecond; but if a token expires beyond the range it is told that the
  token is malformed.
* Whatever the resolver is, a client asks it for its resource, and what it is told is settled by the
  answer.
* Take a refresher that was set up for the backend of the client, and any run of it. A credential that
  it hands out belongs to the backend, and no error that the client is told reads like the refusal of a
  credential of another backend. -/
theorem clients_are_served_faithfully :
    (∀ (ι : Type) (reading : Calendar.Reading ι) (first last : Int64),
      reading.Faithful first last → ∀ (backend : Backend) (resource : String),
        ClientCredential.Served reading first last backend resource) ∧
    (∀ (m : Type → Type) [Monad m] [LawfulMonad m] (ι : Type) (reading : Calendar.Reading ι)
      (client : StorageClient) (resolver : Resolver m),
      client.fetchBy reading resolver =
        ClientCredential.answer reading client.backend client.resource <$>
          resolver.resolve client.resource) ∧
    ∀ (backend : Backend) (fallback : Option Credential) (config : Config) (policy : Policy),
      Policy.create backend fallback config = .ok policy →
      ∀ (past : Past) (state next : State) (step : Step) (event : Event)
        (resolved : Except CredentialError Credential),
        Chronicle policy past state → state.step policy step = some (next, event) →
        event.reply? = some (.credential resolved) →
          (∀ credential, resolved = .ok credential → credential.kind.backend = backend) ∧
          ∀ (ι : Type) (reading : Calendar.Reading ι) (resource : String) (error : CredentialError),
            ClientCredential.answer reading backend resource resolved = .error error →
              ¬ error.SaysMismatch := by
  refine ⟨fun _ _ _ _ => ClientCredential.served, ?_, ?_⟩
  · intro m _ _ ι reading client resolver
    exact client.fetchBy_eq_map reading resolver
  · intro backend fallback config policy created past state next step event resolved record taken told
    obtain ⟨rfl, -, -⟩ := Policy.of_create created
    constructor
    · rintro credential rfl
      obtain ⟨_, _, -, -, provenance⟩ := record.provenance_of_reply taken told
      exact provenance.backend
    · intro ι reading resource error refused
      exact record.not_saysMismatch taken told refused

/-- A token of which the expiry is no instant. -/
def endlessToken : Credential := sampleKeyToken Int64.maxValue (by decide)

/-- A resolver that has one token for all resources. -/
def tokenResolver : Resolver Id where
  resolve _ := .ok (sampleKeyToken 1001 sampleExpiry_pos)
  invalidate _ := ()

/-- A token is carried over as its resolver has it; a token of another backend and one that expires
beyond the calendar are refused. In the crowded run the source brings the latter, which the refresher
hands out and the client refuses, though not for a mismatch. -/
theorem clients_are_served_faithfully_crowded :
    (∃ given, StorageClient.fetch ⟨.s3, "a"⟩ tokenResolver = .ok given ∧
        given.Carries CalendarInstant.reading (sampleKeyToken 1001 sampleExpiry_pos)) ∧
      ClientCredential.answer CalendarInstant.reading .s3 "a" (.ok (sampleToken 900 (by decide))) =
        .error (.wrongBackend .gcsToken "a" "S3") ∧
      ClientCredential.answer CalendarInstant.reading .s3 "a" (.ok endlessToken) =
        .error (.expiryOutOfRange Int64.maxValue) ∧
      Chronicle Policy.narrow crowdedHistory.1 crowdedHistory.2 ∧
      (∃ next, crowdedHistory.2.step Policy.narrow
          (.settle 3 (.answered (.ok [endlessToken])) 5) =
          some (next, .settled (.ok endlessToken))) ∧
      ¬ (CredentialError.expiryOutOfRange Int64.maxValue).SaysMismatch := by
  obtain ⟨serves, asks, runs⟩ := clients_are_served_faithfully
  have served := serves CalendarInstant _ _ _ CalendarInstant.faithful_reading .s3 "a"
  have refused : ClientCredential.answer CalendarInstant.reading .s3 "a" (.ok endlessToken) =
      .error (.expiryOutOfRange Int64.maxValue) := (served.beyond endlessToken rfl rfl (by decide)).1
  have record : Chronicle Policy.narrow crowdedHistory.1 crowdedHistory.2 := recorded_replay crowded
  have told : (crowdedHistory.2.step Policy.narrow
      (.settle 3 (.answered (.ok [endlessToken])) 5)).map Prod.snd =
      some (.settled (.ok endlessToken)) := by decide +kernel
  obtain ⟨⟨next, event⟩, taken, same⟩ := Option.map_eq_some_iff.1 told
  cases same
  refine ⟨?_, (served.elsewhere _ (by decide)).1, refused, record, ⟨next, taken⟩, ?_⟩
  · obtain ⟨given, carried, parts⟩ :=
      served.carried (sampleKeyToken 1001 sampleExpiry_pos) rfl fun _ => by decide
    exact ⟨given, (asks Id _ _ _ tokenResolver).trans carried, parts⟩
  · exact (runs .s3 (some sampleKey) _ _ (Policy.create_self Policy.narrow) _ _ next _ _ _ record taken
      rfl).2 _ CalendarInstant.reading "a" _ refused

end StorageBroker
