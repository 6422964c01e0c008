import StorageBroker.Proofs.Provider.Answers
import StorageBroker.Proofs.Refresher.Failure

/-!
# Malformed credentials

A malformed credential is never covered up: not by the candidates of other providers, not by the
failure of one, not by what the entry holds and not by the fallback. The first provider that reports
one settles what the source answers (`Inquiry.exists_stop`), and the refresher hands this error on and
leaves the entry alone (`malformed_never_covered`).
-/

set_option autoImplicit false

namespace StorageBroker.Refresher

/-- Settling a load that met a malformed credential: the caller is told the error, and nothing else
happens. -/
theorem Change.settle_of_invalid {policy : Policy} {state next : State} {id : TaskId} {task : Task}
    {event : Event} {now : Int64} {error : CredentialError}
    (change : Change policy state (.settle id (.answered (.error error)) now) event next)
    (found : state.tasks.get? id = some task) (invalid : error.isInvalid = true) :
    event = .settled (.error error) ∧ next.tracked = state.tracked ∧
      (next.slots task.slot).entry = (state.slots task.slot).entry := by
  obtain ⟨other, same, -, tracked, told, entry⟩ := change.exists_settlement
  cases found.symm.trans same
  rw [Policy.settle_of_invalid (policy.answerOf_answered _) invalid] at told entry
  exact ⟨told, tracked, entry⟩

/-- **A malformed credential is never covered up.** Take a source of any providers behind a refresher,
whatever it was set up with.

* Every load of the source that comes to an end leaves the reports of the providers that were asked,
  unless there is no scope to ask for.
* In any run, if a load is settled in whose reports one is of a malformed credential, then its caller
  is told the error of the first such report. The providers up to this one were asked, and none
  behind it. The entry stays as it was, which is as the task had found it when it swept the slot, or
  empty if it was marked then.
* A provider of session tokens that is open reports a malformed credential exactly where its issuer
  says so, hands out a token in which a needed attribute is absent or blank, or one that expires at
  the outset; an error of the issuer is reported as it is then. -/
theorem malformed_never_covered (source : ProviderSource) (policy : Policy) :
    (∀ (resource : String) (exchange : Exchange)
      (answer : Except CredentialError (List Credential)),
      (source.load resource).Ends exchange answer →
        (∃ error, source.scopeOf resource = .error error ∧ answer = .error error) ∨
          ∃ scope reports, exchange = reports.flatMap Report.exchange ∧
            Inquiry source resource scope reports answer) ∧
    (∀ (past : Past) (state next : State) (event : Event) (id : TaskId) (task : Task) (scope : Scope)
      (reports : List Report) (answer : Except CredentialError (List Credential)) (now : Int64),
      Chronicle policy past state → state.tasks.get? id = some task →
      state.step policy (.settle id (.answered answer) now) = some (next, event) →
      Inquiry source task.resource scope reports answer →
      (∃ report ∈ reports, report.isInvalid = true) →
        ∃ earlier last rest error reading found, reports = earlier ++ [last] ∧
          source.providers = earlier.map Report.provider ++ last.provider :: rest ∧
          (∀ report ∈ earlier, report.isInvalid = false) ∧
          last.answer = .error error ∧ error.isInvalid = true ∧
          event = .settled (.error error) ∧ next.tracked = state.tracked ∧
          (next.slots task.slot).entry = (state.slots task.slot).entry ∧
          LoadingVisit past state id task reading found) ∧
    (∀ (scope : Scope) (report : Report) (session : Session), report.Made scope →
      report.provider = .sessionTokens session false →
        ∃ reply, report.exchange = [(session.request scope, reply)] ∧
          (report.isInvalid = true ↔ MalformedReply session.backend reply) ∧
          ∀ error, reply = .error error → error.isInvalid = true → report.answer = .error error) := by
  refine ⟨?_, ?_, ?_⟩
  · intro resource exchange answer ends
    exact source.exists_inquiry ends
  · intro past state next event id task scope reports answer now record holds taken inquiry met
    obtain ⟨earlier, last, rest, error, asked, providers, valid, said, invalid, rfl⟩ :=
      inquiry.exists_stop met
    have change := change_of_step taken
    obtain ⟨told, tracked, entry⟩ := change.settle_of_invalid holds invalid
    obtain ⟨other, same, loads, -⟩ := change.exists_settlement
    cases holds.symm.trans same
    obtain ⟨reading, found, visit⟩ := record.exists_loadingVisit holds loads
    exact ⟨earlier, last, rest, error, reading, found, asked, providers, valid, said, invalid, told,
      tracked, entry, visit⟩
  · intro scope report session made provider
    exact report.malformed_of_session made provider

/-- A token is stored, and when it is stale a second task loads. -/
def renewed : List Step :=
  [.beginGet 1 "r", .acquire 1, .sweep 1, .decide 1 0,
    .settle 1 (.answered (.ok [sampleKeyToken 1001 sampleExpiry_pos])) 0, .leave 1,
    .beginGet 2 "r", .acquire 2, .sweep 2, .decide 2 950]

/-- The history of `renewed`, with the state that is reached. -/
def renewedHistory : Past × State := replay (State.step Policy.narrow) State.initial renewed

theorem sampleId_filled : Text.isBlank "id" = false := by decide

theorem sampleSecret_filled : Text.isBlank "secret" = false := by decide

/-- The keys of `sampleKey`. -/
def sampleKeys : KeyPair := ⟨⟨"id", sampleId_filled⟩, ⟨"secret", sampleSecret_filled⟩⟩

/-- A session that asks for tokens of the same backend. -/
def sampleSession : Session := ⟨.s3, ⟨"role", by decide⟩, 3600, ⟨"issuer"⟩⟩

/-- Two sessions behind a secret key. -/
def sampleSource : ProviderSource :=
  ProviderSource.readOnly
    [.secretKeys .s3 sampleKeys false, .sessionTokens sampleSession false,
      .sessionTokens sampleSession false]

/-- The scope for a resource. -/
def sampleScope : Scope := Scope.readOnly "r" ["r"]

/-- What an issuer hands out that has left out the secret. -/
def sampleIssue : IssuedToken := ⟨some "id", none, "session", 2000⟩

/-- The report of the key. -/
def keyReport : Report := ⟨.secretKeys .s3 sampleKeys false, [], .ok sampleKey⟩

/-- The report of the first session; the other one is not asked. -/
def spoiledReport : Report :=
  ⟨.sessionTokens sampleSession false, [(sampleSession.request sampleScope, .ok sampleIssue)],
    .error (.blankAttribute .s3SecretAccessKey)⟩

theorem malformed_never_covered_spoiled :
    Chronicle Policy.narrow renewedHistory.1 renewedHistory.2 ∧
      MalformedReply .s3 (.ok sampleIssue) ∧
      Inquiry sampleSource "r" sampleScope [keyReport, spoiledReport]
        (.error (.blankAttribute .s3SecretAccessKey)) ∧
      ∃ next task, renewedHistory.2.step Policy.narrow
          (.settle 2 (.answered (.error (.blankAttribute .s3SecretAccessKey))) 960) =
            some (next, .settled (.error (.blankAttribute .s3SecretAccessKey))) ∧
        renewedHistory.2.tasks.get? 2 = some task ∧
        (next.slots task.slot).entry = Entry.keep (sampleKeyToken 1001 sampleExpiry_pos) 900 := by
  have record : Chronicle Policy.narrow renewedHistory.1 renewedHistory.2 := recorded_replay renewed
  have covers := malformed_never_covered sampleSource Policy.narrow
  have made : spoiledReport.Made sampleScope := by
    have refused : sampleSession.toCredential sampleIssue =
        .error (.blankAttribute .s3SecretAccessKey) := by decide +kernel
    have asked : (sampleSession.credential sampleScope).Ends
        [(sampleSession.request sampleScope, .ok sampleIssue)]
        (sampleSession.toCredential sampleIssue) := .ask (.done _)
    rw [refused] at asked
    exact asked
  have consulted : Consulted sampleScope sampleSource.providers [keyReport, spoiledReport] := by
    have key : keyReport.Made sampleScope := .done _
    exact .further key rfl (.stops made rfl)
  have inquiry : Inquiry sampleSource "r" sampleScope [keyReport, spoiledReport]
      (.error (.blankAttribute .s3SecretAccessKey)) := ⟨rfl, consulted, consulted.ends_load rfl⟩
  have settles : (renewedHistory.2.step Policy.narrow
      (.settle 2 (.answered (.error (.blankAttribute .s3SecretAccessKey))) 960)).map Prod.snd =
        some (.settled (.error (.blankAttribute .s3SecretAccessKey))) := by decide +kernel
  have holds : (renewedHistory.2.tasks.get? 2).map (fun task =>
      (task.resource, (renewedHistory.2.slots task.slot).entry)) =
        some ("r", Entry.keep (sampleKeyToken 1001 sampleExpiry_pos) 900) := by decide +kernel
  obtain ⟨⟨next, event⟩, taken, rfl⟩ := Option.map_eq_some_iff.1 settles
  obtain ⟨task, found, same⟩ := Option.map_eq_some_iff.1 holds
  obtain ⟨resource, entry⟩ := Prod.mk.inj same
  obtain ⟨reply, exchanged, malformed, -⟩ := covers.2.2 _ _ sampleSession made rfl
  cases exchanged
  refine ⟨record, malformed.1 rfl, inquiry, next, task, taken, found, ?_⟩
  rw [← resource] at inquiry
  obtain ⟨earlier, last, rest, error, reading, seen, -, -, -, -, -, -, -, stays, -⟩ :=
    covers.2.1 _ _ next _ 2 task sampleScope _ _ 960 record found taken inquiry
      ⟨spoiledReport, List.mem_cons_of_mem _ List.mem_cons_self, rfl⟩
  exact stays.trans entry

end StorageBroker.Refresher
