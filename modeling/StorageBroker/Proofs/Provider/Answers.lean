import StorageBroker.Access.Assembly
import StorageBroker.Proofs.Credential.Material
import StorageBroker.Proofs.Provider.Inquiry

/-!
# What a single provider answers

A provider of session tokens makes one request and answers by the reply (`Session.exists_reply`). It
answers that a credential is malformed exactly where the reply says so or hands out what no token can
be made of (`Session.isInvalid_answerTo_iff`), and when its issuer is out of order it answers with a
failure of the source (`Report.answer_of_outage`). The other providers make no request.

The providers that are created for a backend answer with credentials of the backend only, also after
they were closed (`Provider.Native`).
-/

set_option autoImplicit false

namespace StorageBroker

/-! ## Replies of an issuer -/

/-- The text of an attribute in what an issuer hands out, where it has one. -/
def IssuedToken.text? (issued : IssuedToken) : Attribute → Option String
  | .s3AccessKeyId | .ossAccessKeyId => issued.accessKeyId
  | .s3SecretAccessKey | .ossSecretAccessKey => issued.secretAccessKey
  | .s3SessionToken | .gcsToken | .ossSecurityToken => some issued.token

/-- What an issuer hands out has no text for an attribute, or a blank one. -/
def IssuedToken.Lacks (issued : IssuedToken) (field : Attribute) : Prop :=
  issued.text? field = none ∨ ∃ text, issued.text? field = some text ∧ Text.isBlank text = true

/-- The replies of an issuer that count as malformed: those that say so, and those in which an
attribute is lacking that a token of the backend needs, or which expire at the outset. -/
inductive MalformedReply (backend : Backend) : IssuerAnswer → Prop where
  | reported {error : CredentialError} (invalid : error.isInvalid = true) :
      MalformedReply backend (.error error)
  | lacking {issued : IssuedToken} {field : Attribute}
      (needed : field ∈ backend.tokenKind.attributes) (lacks : issued.Lacks field) :
      MalformedReply backend (.ok issued)
  | passed {issued : IssuedToken} (lapsed : issued.expiry ≤ 0) : MalformedReply backend (.ok issued)

/-- The unchecked material in what an issuer hands out. -/
def IssuedToken.material (issued : IssuedToken) : Material :=
  ⟨issued.accessKeyId.getD "", issued.secretAccessKey.getD "", issued.token, issued.expiry⟩

theorem Kind.isToken_tokenKind (backend : Backend) : backend.tokenKind.isToken = true := by
  cases backend <;> rfl

/-- The kind of the tokens of a backend is the only one that expires. -/
theorem Kind.eq_tokenKind {kind : Kind} (isToken : kind.isToken = true) :
    kind = kind.backend.tokenKind := by
  cases kind with
  | s3SecretKey | ossSecretKey => cases isToken
  | s3Token | gcsToken | ossToken => rfl

theorem IssuedToken.text_material (issued : IssuedToken) (field : Attribute) :
    issued.material.text field = (issued.text? field).getD "" := by
  cases field <;> rfl

theorem IssuedToken.lacks_iff {issued : IssuedToken} {field : Attribute} :
    issued.Lacks field ↔ Text.isBlank (issued.material.text field) = true := by
  rw [text_material, Lacks]
  cases issued.text? field with
  | none =>
    constructor
    · intro _
      rfl
    · intro _
      exact .inl rfl
  | some text => simp

/-- What is handed out is flawed material exactly if the reply counts as malformed. -/
theorem IssuedToken.flawed_material_iff {backend : Backend} {issued : IssuedToken} :
    issued.material.Flawed backend.tokenKind ↔ MalformedReply backend (.ok issued) := by
  constructor
  · rintro (⟨field, needed, blank⟩ | ⟨-, lapsed⟩)
    · exact .lacking needed (lacks_iff.2 blank)
    · exact .passed lapsed
  · intro malformed
    cases malformed with
    | lacking needed lacks => exact .inl ⟨_, needed, lacks_iff.1 lacks⟩
    | passed lapsed => exact .inr ⟨Kind.isToken_tokenKind backend, lapsed⟩

/-! ## Sessions -/

namespace Session

variable {session : Session} {scope : Scope} {exchange : Exchange} {reply : IssuerAnswer}
  {answer : Except CredentialError Credential} {error : CredentialError}

/-- What a session answers to a reply of its issuer. -/
def answerTo (session : Session) (resource : String) :
    IssuerAnswer → Except CredentialError Credential
  | .error error => .error (session.relay resource error)
  | .ok issued => session.toCredential issued

/-- A session makes one request and answers by the reply. -/
theorem exists_reply (ends : (session.credential scope).Ends exchange answer) :
    ∃ reply, exchange = [(session.request scope, reply)] ∧
      answer = session.answerTo scope.resource reply := by
  cases ends with
  | @ask _ _ reply _ _ further =>
    cases reply <;> cases further <;> exact ⟨_, rfl, rfl⟩

theorem relay_of_invalid {resource : String} (invalid : error.isInvalid = true) :
    session.relay resource error = error := by
  simp [relay, invalid]

theorem relay_of_failure {resource : String} (valid : error.isInvalid = false)
    (had : error.isUnavailable = false) :
    session.relay resource error = .issuerFailed session.backend resource error := by
  simp [relay, valid, had]

theorem isInvalid_relay {resource : String} :
    (session.relay resource error).isInvalid = error.isInvalid := by
  cases invalid : error.isInvalid with
  | true => rw [relay_of_invalid invalid, invalid]
  | false =>
    cases had : error.isUnavailable with
    | true => simp [relay, had, invalid]
    | false =>
      rw [relay_of_failure invalid had]
      rfl

/-- **A session answers that a credential is malformed exactly where the reply counts as malformed.** -/
theorem isInvalid_answerTo_iff {resource : String} :
    (∃ error, session.answerTo resource reply = .error error ∧ error.isInvalid = true) ↔
      MalformedReply session.backend reply := by
  cases reply with
  | error error =>
    constructor
    · rintro ⟨_, ⟨⟩, invalid⟩
      rw [isInvalid_relay] at invalid
      exact .reported invalid
    · rintro ⟨invalid⟩
      exact ⟨_, rfl, by rw [isInvalid_relay, invalid]⟩
  | ok issued =>
    rw [← IssuedToken.flawed_material_iff, ← Credential.refused_iff]
    constructor
    · rintro ⟨error, refused, -⟩
      exact ⟨error, refused⟩
    · rintro ⟨error, refused⟩
      exact ⟨error, refused, (Credential.flawed_of_refused refused).2⟩

/-- A session answers with tokens of its backend only. -/
theorem kind_of_answerTo {resource : String} {credential : Credential}
    (told : session.answerTo resource reply = .ok credential) :
    credential.kind = session.backend.tokenKind := by
  cases reply with
  | error error => cases told
  | ok issued => exact (Credential.ofMaterial_eq_ok_iff.1 told).1

end Session

/-! ## Providers of a backend -/

namespace Provider

/-- A provider that was created for a backend. -/
def Native (backend : Backend) : Provider → Prop
  | .secretKeys store _ _ => store.backend = backend
  | .sessionTokens session _ => session.backend = backend
  | .never _ => True
  | .external _ _ _ => False

variable {backend : Backend} {name : String} {properties : Properties} {issuer : Option Issuer}
  {provider : Provider} {scope : Scope} {exchange : Exchange}
  {answer : Except CredentialError Credential}

theorem native_ofKeyStore {store : KeyStore} (created : ofKeyStore store properties = .ok provider) :
    provider.Native store.backend := by
  rw [ofKeyStore] at created
  cases read : store.readKeys properties with
  | error error =>
    rw [read] at created
    cases created
  | ok keys =>
    rw [read] at created
    cases created
    rfl

theorem native_ofSession {issuer : Issuer}
    (created : ofSession backend properties issuer = .ok provider) : provider.Native backend := by
  rw [ofSession] at created
  cases made : Session.ofProperties backend properties issuer with
  | error error =>
    rw [made] at created
    cases created
  | ok session =>
    rw [made] at created
    cases created
    obtain ⟨identity, -, lifetime⟩ := bind_eq_ok_iff.1 made
    obtain ⟨seconds, -, same⟩ := bind_eq_ok_iff.1 lifetime
    cases same
    rfl

theorem native_of_create (created : create backend name properties issuer = .ok provider) :
    provider.Native backend := by
  unfold create at created
  split at created
  · cases created
    exact True.intro
  · split at created
    · cases created
    · next kind _ =>
      split at created
      · cases created
      · next belongs =>
        have same : kind.backend = backend := Decidable.not_not.1 belongs
        subst same
        cases kind with
        | s3SecretKey | ossSecretKey => exact native_ofKeyStore created
        | s3Token | gcsToken | ossToken =>
          cases issuer with
          | none => cases created
          | some issuer => exact native_ofSession created

theorem Native.closed (native : provider.Native backend) : provider.closed.Native backend := by
  cases provider with
  | external _ _ _ => cases native
  | never _ => exact True.intro
  | secretKeys _ _ _ | sessionTokens _ _ => exact native

/-- The providers of a backend answer with credentials of the backend. -/
theorem Native.backend_of_ends {credential : Credential} (native : provider.Native backend)
    (ends : (provider.credential scope).Ends exchange (.ok credential)) :
    credential.kind.backend = backend := by
  cases provider with
  | external _ _ _ => cases native
  | never _ => cases ends
  | secretKeys store keys closed =>
    cases closed with
    | true => cases ends
    | false =>
      cases ends
      rw [← native]
      cases store <;> rfl
  | sessionTokens session closed =>
    cases closed with
    | true => cases ends
    | false =>
      obtain ⟨reply, -, told⟩ := Session.exists_reply ends
      rw [Session.kind_of_answerTo told.symm, Kind.backend_tokenKind, native]

end Provider

theorem Assembly.native_of_createProviders {backend : Backend} {properties : Properties}
    {issuer : Option Issuer} {names : List String} {providers : List Provider}
    (created : createProviders backend properties issuer names = .ok providers) :
    ∀ provider ∈ providers, provider.Native backend := by
  induction names generalizing providers with
  | nil =>
    cases created
    exact List.forall_mem_nil _
  | cons name names ih =>
    obtain ⟨provider, first, rest⟩ := bind_eq_ok_iff.1 created
    obtain ⟨others, further, same⟩ := bind_eq_ok_iff.1 rest
    cases same
    exact List.forall_mem_cons.2 ⟨Provider.native_of_create first, ih further⟩

/-! ## Reports -/

section Reports

variable {scope : Scope} {report : Report} {request : TokenRequest} {reply : IssuerAnswer}
  {error : CredentialError}

theorem Report.backend_of_made {backend : Backend} {credential : Credential}
    (made : report.Made scope) (native : report.provider.Native backend)
    (said : report.answer = .ok credential) : credential.kind.backend = backend := by
  rw [Made, said] at made
  exact native.backend_of_ends made

/-- Only a session that is open makes a request, and it answers by the reply. -/
theorem Report.session_of_exchange (made : report.Made scope)
    (asked : (request, reply) ∈ report.exchange) :
    ∃ session, report.provider = .sessionTokens session false ∧
      report.answer = session.answerTo scope.resource reply := by
  obtain ⟨provider, exchange, answer⟩ := report
  simp only [Made] at made asked
  cases provider with
  | external _ _ _ | never _ =>
    cases made
    cases asked
  | secretKeys store keys closed =>
    cases closed <;> cases made <;> cases asked
  | sessionTokens session closed =>
    cases closed with
    | true =>
      cases made
      cases asked
    | false =>
      obtain ⟨other, rfl, told⟩ := Session.exists_reply made
      cases List.mem_singleton.1 asked
      exact ⟨session, rfl, told⟩

/-- A session that is open makes its request, and reports a malformed credential exactly where the
reply counts as malformed; an error of the issuer is reported as it is then. -/
theorem Report.malformed_of_session {session : Session} (made : report.Made scope)
    (provider : report.provider = .sessionTokens session false) :
    ∃ reply, report.exchange = [(session.request scope, reply)] ∧
      (report.isInvalid = true ↔ MalformedReply session.backend reply) ∧
      ∀ error, reply = .error error → error.isInvalid = true → report.answer = .error error := by
  rw [Made, provider] at made
  obtain ⟨reply, exchanged, told⟩ := Session.exists_reply made
  refine ⟨reply, exchanged, ?_, ?_⟩
  · rw [isInvalid_iff, told]
    exact Session.isInvalid_answerTo_iff
  · rintro error rfl invalid
    rw [told, Session.answerTo, Session.relay_of_invalid invalid]

/-- A provider whose issuer is out of order answers with a failure of the source. -/
theorem Report.failure?_of_outage (made : report.Made scope)
    (asked : (request, .error error) ∈ report.exchange) (valid : error.isInvalid = false)
    (had : error.isUnavailable = false) : report.failure?.isSome = true := by
  obtain ⟨session, -, told⟩ := session_of_exchange made asked
  rw [Session.answerTo, Session.relay_of_failure valid had] at told
  rw [failure?, told]
  rfl

end Reports

end StorageBroker
