import StorageBroker.Proofs.Access.Outage
import StorageBroker.Proofs.Provider.Closing
import StorageBroker.Proofs.Refresher.Fallback

/-!
# Access that is closed

Closing access that was put together from a configuration, without a source from outside, closes its
providers and succeeds. What it has handed out before stays in the entries, and a task that begins
afterwards is answered from there as long as the entry is fresh; its load asks no issuer and brings
nothing, so that it is answered with the fallback, or told that nothing is to be had
(`nothing_minted_after_close`).
-/

set_option autoImplicit false

namespace StorageBroker

open Refresher

/-! ## Tasks that begin behind the closing -/

/-- What the caller of a load is told that brought no candidates. -/
def Refresher.Policy.answerToNothing (policy : Policy) (resource : String) :
    Except CredentialError Credential :=
  match policy.fallback with
  | some fallback => .ok fallback
  | none => .error (.nothingSelectable policy.backend resource)

/-- A task that is there behind a stretch of a run, and was not there before it, is served from a
source: it is answered from an entry that is fresh, and loads otherwise; it began its load in the course
of the stretch; and if the load comes to an end, no issuer was asked, and the caller is given the fallback
or is told that nothing is to be had. -/
structure ServedWithoutIssuer (policy : Policy) (source : ProviderSource) (later : Past) (state : State)
    (id : TaskId) (task : Task) : Prop where
  decides : task.phase = .swept → ∀ now, ∃ next,
    state.step policy (.decide id now) = some (next,
      match (state.slots task.slot).entry.fresh? now with
      | some credential => .hit credential
      | none => .loading task.resource)
  began : task.phase = .loading → ∃ reading instant,
    Occurs (fun moment => moment.step = .decide id reading ∧ moment.event = .loading task.resource)
        instant later ∧
      ¬ OccursSince (TakenBy id) instant later
  loads : task.phase = .loading → ∀ exchange answer, (source.load task.resource).Ends exchange answer →
    exchange = [] ∧ ∀ now, ∃ next,
      state.step policy (.settle id (.answered answer) now) =
        some (next, .settled (policy.answerToNothing task.resource))

section Tasks

variable {policy : Policy} {source : ProviderSource} {past later : Past} {state reached : State}
  {id : TaskId} {task : Task} {resource : String} {entry : Entry} {now : Int64}

theorem Refresher.Policy.settle_of_no_candidates :
    (policy.settle resource entry (.answered (.ok [])) now).1 = policy.answerToNothing resource := by
  simp only [settle, answerOf, select_nil, answerToNothing]
  cases policy.fallback <;> rfl

/-- **A source that brings nothing serves from the entries and the fallback.** -/
theorem servedWithoutIssuer (run : Recorded (State.step policy) state later reached)
    (new : state.tasks.get? id = none) (found : reached.tasks.get? id = some task)
    (nothing : ∀ resource, source.load resource = .done (.ok [])) :
    ServedWithoutIssuer policy source later reached id task where
  decides := exists_decision found
  began loads := exists_load_of_new run new found loads
  loads := by
    intro loads exchange answer ends
    rw [nothing] at ends
    cases ends
    refine ⟨rfl, fun now => ?_⟩
    rw [← Refresher.Policy.settle_of_no_candidates]
    exact exists_settle found loads _ now

end Tasks

/-! ## Providers and access after the closing -/

/-- How a provider serves: every closing succeeds; if it is a session, it makes one request whenever it
is asked before the first closing, and answers by the reply; and behind a closing it answers that nothing
is to be had, without a request. -/
structure ServesUntilClosed (provider : Provider) (services : List Service) : Prop where
  closing : ∀ answer, .close answer ∈ services → answer = .ok ()
  minting : ∀ (before after : List Service) (scope : Scope) (exchange : Exchange)
    (answer : Except CredentialError Credential),
    services = before ++ .get scope exchange answer :: after → before.any Service.closes = false →
    ∀ session, provider = .sessionTokens session false →
      ∃ reply, exchange = [(session.request scope, reply)] ∧
        answer = session.answerTo scope.resource reply
  closed : ∀ (before after : List Service) (scope : Scope) (exchange : Exchange)
    (answer : Except CredentialError Credential),
    services = before ++ .get scope exchange answer :: after → before.any Service.closes = true →
      exchange = [] ∧ ∃ error, answer = .error error ∧ error.isUnavailable = true

theorem Used.servesUntilClosed {backend : Backend} {provider : Provider} {services : List Service}
    (used : Used provider services) (native : provider.Native backend) :
    ServesUntilClosed provider services where
  closing _ member := used.closing_of_mem native member
  minting := by
    rintro before after scope exchange answer rfl unclosed
    exact (used.answered native).2 unclosed
  closed := by
    rintro before after scope exchange answer rfl closed
    exact (used.answered native).1 closed

/-- **After a closing nothing is minted.**

* A provider that was created by the name of its type closes whenever it is told to. If it is the name of
  a kind of tokens, the provider makes one request to its issuer whenever it is asked before the first
  closing, and its answer is settled by the reply to this request; whatever the reply is, there is an
  answer. Asked behind a closing, every provider answers that nothing is to be had, and makes no request.
* Closing several providers closes each of them once and in order, whatever closing the ones before has
  answered. The answer is the first failure, if there is one.
* Take access that was put together from a configuration, without a source from outside, and any run of
  its refresher. Closing it succeeds, and from then on loads end at once, with no candidates. A task that
  begins behind the closing is answered from the entry if it is fresh when the task decides, and loads
  otherwise; the load asks no issuer, and the caller is given the fallback if there is one, or is told
  that no credential is to be had. -/
theorem nothing_minted_after_close :
    (∀ (backend : Backend) (name : String) (properties : Properties) (issuer : Option Issuer)
      (provider : Provider), Provider.create backend name properties issuer = .ok provider →
        (∀ kind, Kind.ofName? name = some kind → kind.isToken = true →
          ∃ session, provider = .sessionTokens session false ∧
            ∀ scope reply, (provider.credential scope).Ends [(session.request scope, reply)]
              (session.answerTo scope.resource reply)) ∧
        provider.closed.Mute ∧
        ∀ services, Used provider services → ServesUntilClosed provider services) ∧
    (∀ (m : Type → Type) [Monad m] [LawfulMonad m] (ι : Type)
      (close : ι → m (Except CredentialError Unit)) (items : List ι),
        closeEach close items = firstFailure <$> items.mapM close) ∧
    (∀ answers, (firstFailure answers = .ok () ↔ ∀ answer ∈ answers, answer = .ok ()) ∧
      ∀ error, firstFailure answers = .error error ↔ ∃ before after,
        answers = before ++ .error error :: after ∧ ∀ answer ∈ before, answer = .ok ()) ∧
    (∀ source : ProviderSource,
      source.closing = firstFailure (source.providers.map Provider.closing)) ∧
    (∀ (config : Option AccessConfig) (environment : Environment) (issuer : Option Issuer)
      (assembly : Assembly), Assembly.build config environment issuer false = .ok assembly →
        ∃ source, assembly.providers = some source ∧ assembly.closing = .ok () ∧
          assembly.closed.providers = some source.closed ∧
          (∀ resource, source.closed.load resource = .done (.ok [])) ∧
          (∀ resource error, assembly.policy.answerToNothing resource = .error error →
            assembly.policy.fallback = none ∧ error.isUnavailable = true) ∧
          ∀ (past later : Past) (state reached : State) (id : TaskId) (task : Task),
            Chronicle assembly.policy past state →
            Recorded (State.step assembly.policy) state later reached →
            state.tasks.get? id = none → reached.tasks.get? id = some task →
              ServedWithoutIssuer assembly.policy source.closed later reached id task) := by
  refine ⟨?_, fun m _ _ ι close items => closeEach_eq close items,
    fun answers => ⟨firstFailure_eq_ok_iff, fun error => firstFailure_eq_error_iff⟩,
    ProviderSource.closing_eq, ?_⟩
  · intro backend name properties issuer provider created
    have native := Provider.native_of_create created
    refine ⟨?_, native.mute_closed, fun services used => used.servesUntilClosed native⟩
    intro kind names isToken
    obtain ⟨session, rfl⟩ := Provider.exists_session_of_create created names isToken
    exact ⟨session, rfl, session.ends⟩
  · intro config environment issuer assembly built
    obtain ⟨used, properties, fallback, providers, -, parts⟩ := Assembly.build_eq_ok_iff.1 built
    have nothing : ∀ resource,
        (ProviderSource.readOnly providers).closed.load resource = .done (.ok []) :=
      fun _ => ProviderSource.load_closed rfl parts.native
    refine ⟨ProviderSource.readOnly providers, parts.source, ?_, ?_, nothing, ?_, ?_⟩
    · rw [Assembly.closing, parts.source]
      exact Assembly.liftCredential_eq_ok_iff.2 (ProviderSource.closing_of_native parts.native)
    · rw [Assembly.closed, parts.source, Option.map_some]
    · intro resource error told
      unfold Refresher.Policy.answerToNothing at told
      split at told
      · cases told
      · next bare =>
        cases told
        exact ⟨bare, rfl⟩
    · intro past later state reached id task _ run new found
      exact servedWithoutIssuer run new found nothing

/-- A session is asked while its issuer is out of order, closed, asked again, and closed again. -/
def closedServices : List Service :=
  [.get sampleScope [(sampleSession.request sampleScope, .error (.reported .source "down"))]
      (.error (.issuerFailed .s3 "r" (.reported .source "down"))),
    .close (.ok ()), .get sampleScope [] (.error (.sessionClosed .s3)), .close (.ok ())]

/-- Behind the closing, while a load that was begun before is still in flight, a task comes to load. -/
def latecomer : List Step := [.beginGet 3 "q", .acquire 3, .sweep 3, .decide 3 960]

/-- The history of `latecomer` behind `renewed`, with the state that is reached. -/
def latecomerHistory : Past × State :=
  replay (State.step guardedAssembly.policy) guardedHistory.2 latecomer

theorem nothing_minted_after_close_guarded :
    Provider.create .s3 "s3-token" guardedProperties (some ⟨"issuer"⟩) =
        .ok (.sessionTokens sampleSession false) ∧
      ServesUntilClosed (.sessionTokens sampleSession false) closedServices ∧
      Assembly.build (some guardedConfig) Keyed.empty (some ⟨"issuer"⟩) false = .ok guardedAssembly ∧
      ∃ source task, guardedAssembly.providers = some source ∧
        latecomerHistory.2.tasks.get? 3 = some task ∧ task.phase = .loading ∧
        ServedWithoutIssuer guardedAssembly.policy source.closed latecomerHistory.1
          latecomerHistory.2 3 task := by
  have created : Provider.create .s3 "s3-token" guardedProperties (some ⟨"issuer"⟩) =
      .ok (.sessionTokens sampleSession false) := rfl
  have used : Used (.sessionTokens sampleSession false) closedServices :=
    .get (.ask (.done _)) (.close (.get (.done _) (.close (.nothing _))))
  have record : Chronicle guardedAssembly.policy guardedHistory.1 guardedHistory.2 :=
    recorded_replay renewed
  have run : Recorded (State.step guardedAssembly.policy) guardedHistory.2 latecomerHistory.1
      latecomerHistory.2 := recorded_replay latecomer
  have new : guardedHistory.2.tasks.get? 3 = none := by decide +kernel
  have loads : (latecomerHistory.2.tasks.get? 3).map Task.phase = some .loading := by decide +kernel
  obtain ⟨task, found, phase⟩ := Option.map_eq_some_iff.1 loads
  obtain ⟨serves, -, -, -, closes⟩ := nothing_minted_after_close
  obtain ⟨source, same, -, -, -, -, served⟩ := closes _ _ _ _ build_guardedConfig
  exact ⟨created, (serves _ _ _ _ _ created).2.2 closedServices used, build_guardedConfig, source,
    task, same, found, phase, served _ _ _ _ 3 task record run new found⟩

end StorageBroker
