import StorageBroker.Proofs.Provider.Answers
import StorageBroker.Proofs.Provider.Setup

/-!
# Providers that are closed

A provider that was created for a backend can be closed at any time and as often as one likes
(`Provider.Native.closing`). Once closed it answers that nothing is to be had and asks no issuer
(`Provider.Native.mute_closed`); until then a provider of tokens makes one request whenever it is
asked, and answers by the reply to this request (`Used.answered`).

Closing several providers closes each of them once and in order, also behind one that fails, and
answers with the first failure (`closeEach_eq`). A source whose providers are closed brings nothing
(`ProviderSource.load_closed`).
-/

set_option autoImplicit false

namespace StorageBroker

/-! ## Providers in use -/

/-- What is done with a provider: it is asked for a scope, which makes it exchange something with its
issuer and answer, or it is closed. -/
inductive Service where
  | get (scope : Scope) (exchange : Exchange) (answer : Except CredentialError Credential)
  | close (answer : Except CredentialError Unit)

/-- Whether a provider is closed by a service. -/
def Service.closes : Service → Bool
  | .get _ _ _ => false
  | .close _ => true

/-- Services of a provider, in the order in which they begin. What a provider answers when it is asked
is settled by what it is then, whatever is done with it before the answer is there. -/
inductive Used : Provider → List Service → Prop where
  | nothing (provider : Provider) : Used provider []
  | get {provider : Provider} {scope : Scope} {exchange : Exchange}
      {answer : Except CredentialError Credential} {services : List Service}
      (ends : (provider.credential scope).Ends exchange answer) (further : Used provider services) :
      Used provider (.get scope exchange answer :: services)
  | close {provider : Provider} {services : List Service} (further : Used provider.closed services) :
      Used provider (.close provider.closing :: services)

namespace Provider

/-- A provider behind some services: it is closed if one of them closes it. -/
def behind (provider : Provider) (services : List Service) : Provider :=
  if services.any Service.closes then provider.closed else provider

/-- A provider that answers that nothing is to be had, and asks no issuer. -/
def Mute (provider : Provider) : Prop :=
  ∀ scope, ∃ error, provider.credential scope = .done (.error error) ∧ error.isUnavailable = true

variable {backend : Backend} {name : String} {properties : Properties} {issuer : Option Issuer}
  {kind : Kind} {provider : Provider} {services before : List Service} {scope : Scope}
  {exchange : Exchange} {answer : Except CredentialError Credential}

/-- Closing a provider again changes nothing. -/
theorem closed_closed (provider : Provider) : provider.closed.closed = provider.closed := by
  cases provider <;> rfl

theorem behind_get :
    provider.behind (.get scope exchange answer :: services) = provider.behind services := rfl

theorem behind_close {answer : Except CredentialError Unit} :
    provider.behind (.close answer :: services) = provider.closed.behind services := by
  rw [behind, behind, List.any_cons, Service.closes, Bool.true_or, if_pos rfl, closed_closed, ite_self]

/-- **Closing a provider succeeds.** -/
theorem Native.closing (native : provider.Native backend) : provider.closing = .ok () := by
  cases provider with
  | external _ _ _ => cases native
  | secretKeys _ _ _ | sessionTokens _ _ | never _ => rfl

/-- **A provider that is closed has nothing.** -/
theorem Native.mute_closed (native : provider.Native backend) : provider.closed.Mute := by
  intro scope
  cases provider with
  | external _ _ _ => cases native
  | secretKeys _ _ _ | sessionTokens _ _ | never _ => exact ⟨_, rfl, rfl⟩

theorem Mute.answered (mute : provider.Mute) (ends : (provider.credential scope).Ends exchange answer) :
    exchange = [] ∧ ∃ error, answer = .error error ∧ error.isUnavailable = true := by
  obtain ⟨error, done, unavailable⟩ := mute scope
  rw [done] at ends
  cases ends
  exact ⟨rfl, error, rfl, unavailable⟩

/-- A provider with the name of a kind of tokens is a session, and it is open. -/
theorem exists_session_of_create (created : create backend name properties issuer = .ok provider)
    (names : Kind.ofName? name = some kind) (isToken : kind.isToken = true) :
    ∃ session, provider = .sessionTokens session false := by
  have belongs : kind.backend = backend := by
    unfold create at created
    rw [if_neg (ne_neverName_of_ofName? names), names] at created
    dsimp only at created
    split at created
    · cases created
    · next same => exact Decidable.not_not.1 same
  rw [create_eq_of_token names belongs isToken] at created
  cases issuer with
  | none => cases created
  | some issuer =>
    obtain ⟨session, -, same⟩ := map_eq_ok_iff.1 created
    exact ⟨session, same.symm⟩

end Provider

/-- Whatever the issuer of a session replies, the session comes to an answer. -/
theorem Session.ends (session : Session) (scope : Scope) (reply : IssuerAnswer) :
    (session.credential scope).Ends [(session.request scope, reply)]
      (session.answerTo scope.resource reply) := by
  cases reply <;> exact .ask (.done _)

namespace Used

variable {backend : Backend} {provider : Provider} {services before after : List Service}
  {scope : Scope} {exchange : Exchange} {answer : Except CredentialError Credential}

/-- Behind some services a provider is used as what it is then. -/
theorem of_append (used : Used provider (before ++ after)) : Used (provider.behind before) after := by
  induction before generalizing provider with
  | nil => exact used
  | cons service before ih =>
    cases used with
    | get _ further =>
      rw [Provider.behind_get]
      exact ih further
    | close further =>
      rw [Provider.behind_close]
      exact ih further

theorem closing_of_mem {answer : Except CredentialError Unit} (used : Used provider services)
    (native : provider.Native backend) (member : .close answer ∈ services) : answer = .ok () := by
  induction used with
  | nothing _ => cases member
  | get _ _ ih =>
    rcases List.mem_cons.1 member with same | later
    · cases same
    · exact ih native later
  | close _ ih =>
    rcases List.mem_cons.1 member with same | later
    · cases same
      exact native.closing
    · exact ih native.closed later

/-- **What a provider answers**: behind a closing, that nothing is to be had, without a request; before
the first one, if it is a session, by the reply to the one request that it makes. -/
theorem answered (used : Used provider (before ++ .get scope exchange answer :: after))
    (native : provider.Native backend) :
    (before.any Service.closes = true →
      exchange = [] ∧ ∃ error, answer = .error error ∧ error.isUnavailable = true) ∧
    (before.any Service.closes = false → ∀ session, provider = .sessionTokens session false →
      ∃ reply, exchange = [(session.request scope, reply)] ∧
        answer = session.answerTo scope.resource reply) := by
  have goesOn := used.of_append
  cases goesOn with
  | get ends _ =>
    refine ⟨fun closed => ?_, fun unclosed session same => ?_⟩
    · rw [Provider.behind, if_pos closed] at ends
      exact native.mute_closed.answered ends
    · rw [Provider.behind, unclosed, if_neg Bool.false_ne_true] at ends
      subst same
      exact Session.exists_reply ends

end Used

/-! ## Closing several providers -/

/-- The first failure among answers. -/
def firstFailure : List (Except CredentialError Unit) → Except CredentialError Unit
  | [] => .ok ()
  | .error error :: _ => .error error
  | .ok () :: rest => firstFailure rest

section Closings

variable {answers : List (Except CredentialError Unit)} {error : CredentialError}

theorem firstFailure_eq_ok_iff : firstFailure answers = .ok () ↔ ∀ answer ∈ answers, answer = .ok () := by
  fun_induction firstFailure answers with
  | case1 => simp
  | case2 error rest => simp
  | case3 rest ih => simp [ih]

theorem firstFailure_eq_error_iff : firstFailure answers = .error error ↔
    ∃ before after, answers = before ++ .error error :: after ∧ ∀ answer ∈ before, answer = .ok () := by
  fun_induction firstFailure answers with
  | case1 => simp
  | case2 first rest =>
    constructor
    · rintro ⟨⟩
      exact ⟨[], rest, rfl, List.forall_mem_nil _⟩
    · rintro ⟨before, after, same, unfailing⟩
      cases before with
      | nil =>
        cases same
        rfl
      | cons answer before =>
        cases same
        cases unfailing _ List.mem_cons_self
  | case3 rest ih =>
    rw [ih]
    constructor
    · rintro ⟨before, after, rfl, unfailing⟩
      exact ⟨.ok () :: before, after, rfl, List.forall_mem_cons.2 ⟨rfl, unfailing⟩⟩
    · rintro ⟨before, after, same, unfailing⟩
      cases before with
      | nil => cases same
      | cons answer before =>
        cases same
        exact ⟨before, after, rfl, fun _ member => unfailing _ (List.mem_cons_of_mem _ member)⟩

/-- **Each provider is closed once and in order**, whatever closing the ones before has answered, and the
answer is the first failure. -/
theorem closeEach_eq {m : Type → Type} [Monad m] [LawfulMonad m] {ι : Type}
    (close : ι → m (Except CredentialError Unit)) (items : List ι) :
    closeEach close items = firstFailure <$> items.mapM close := by
  induction items with
  | nil => simp [closeEach, firstFailure]
  | cons item items ih =>
    rw [closeEach, ih, List.mapM_cons, map_bind]
    refine bind_congr fun first => ?_
    rw [bind_map_left, map_bind]
    refine bind_congr fun others => ?_
    rw [map_pure]
    cases first <;> rfl

theorem ProviderSource.closing_eq (source : ProviderSource) :
    source.closing = firstFailure (source.providers.map Provider.closing) := by
  rw [closing, closeEach_eq]
  simp

end Closings

/-! ## Sources whose providers are closed -/

section Sources

variable {source : ProviderSource} {backend : Backend} {providers : List Provider} {scope : Scope}
  {resource : String} {collection : Collection}

theorem collectFrom_of_mute (mute : ∀ provider ∈ providers, provider.Mute) :
    collectFrom (fun provider => Provider.credential provider scope) providers collection =
      .done (.ok collection) := by
  induction providers with
  | nil => rfl
  | cons provider providers ih =>
    obtain ⟨here, others⟩ := List.forall_mem_cons.1 mute
    obtain ⟨error, done, unavailable⟩ := here scope
    rw [collectFrom, Dialogue.bind_eq, done]
    simp only [Dialogue.bind, CredentialError.isInvalid_of_isUnavailable unavailable, unavailable,
      Bool.false_eq_true, if_false, if_true]
    exact ih others

/-- **A source whose providers are closed brings nothing**, and no issuer is asked. -/
theorem ProviderSource.load_closed (granted : source.scopeOf resource = .ok scope)
    (native : ∀ provider ∈ source.providers, provider.Native backend) :
    source.closed.load resource = .done (.ok []) := by
  have mute : ∀ provider ∈ source.closed.providers, provider.Mute := by
    intro provider member
    obtain ⟨before, among, rfl⟩ := List.mem_map.1 member
    exact (native before among).mute_closed
  have grantedStill : source.closed.scopeOf resource = .ok scope := granted
  rw [load_of_scope grantedStill, collectCandidates, Dialogue.bind_eq, collectFrom_of_mute mute]
  rfl

/-- Closing the providers of a backend succeeds. -/
theorem ProviderSource.closing_of_native
    (native : ∀ provider ∈ source.providers, provider.Native backend) : source.closing = .ok () := by
  rw [closing_eq, firstFailure_eq_ok_iff]
  intro answer member
  obtain ⟨provider, among, rfl⟩ := List.mem_map.1 member
  exact (native provider among).closing

end Sources

end StorageBroker
