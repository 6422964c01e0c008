import StorageBroker.Proofs.Provider.Setup
import StorageBroker.Proofs.Refresher.Malformed
import StorageBroker.Proofs.Refresher.Overdue

/-!
# Outages

A refresher has a static fallback, and some providers have secret keys; neither ever expires. An
outage of an issuer must not put them in the place of a token, for they would stay there when it is
over. Where access is put together from a configuration (`Assembly.build_eq_ok_iff`), it does not: a
load that meets an outage fails (`MeetsOutage.failed`), what the entry holds then is a token, and the
entry stays overdue, so that the next task loads again (`outage_keeps_token`).
-/

set_option autoImplicit false

namespace StorageBroker

open Refresher

/-! ## What access is put together from -/

/-- The parts of access without a source from outside. -/
structure Assembly.Parts (config : AccessConfig) (environment : Environment)
    (issuer : Option Issuer) (properties : Properties) (fallback : Option Credential)
    (providers : List Provider) (assembly : Assembly) : Prop where
  valid : config.validate = .ok config
  resolved : config.resolveProperties environment = .ok properties
  given : staticFallback config.backend properties = .ok fallback
  created : createProviders config.backend properties issuer config.providers = .ok providers
  policy : Policy.create config.backend fallback config.refresher = .ok assembly.policy
  tuned : config.tableCache.check = .ok assembly.tableCache
  source : assembly.providers = some (ProviderSource.readOnly providers)

namespace Assembly

theorem liftCredential_eq_ok_iff {α : Type} {answer : Except CredentialError α} {value : α} :
    liftCredential answer = .ok value ↔ answer = .ok value := by
  cases answer <;> simp [liftCredential]

theorem liftTable_eq_ok_iff {α : Type} {answer : Except TableError α} {value : α} :
    liftTable answer = .ok value ↔ answer = .ok value := by
  cases answer <;> simp [liftTable]

theorem eq_of_validate {config valid : AccessConfig} (same : config.validate = .ok valid) :
    valid = config := by
  unfold AccessConfig.validate at same
  split at same
  · cases same
  · cases same
    rfl

/-- Access is put together if and only if each of its parts can be had. -/
theorem build_eq_ok_iff {config : Option AccessConfig} {environment : Environment}
    {issuer : Option Issuer} {assembly : Assembly} :
    build config environment issuer false = .ok assembly ↔
      ∃ used properties fallback providers, config = some used ∧
        Parts used environment issuer properties fallback providers assembly := by
  cases config with
  | none => simp [build, prepare, bind, Except.bind]
  | some config =>
    simp only [build, prepare, configuredSource, complete, bind_eq_ok_iff, liftCredential_eq_ok_iff,
      liftTable_eq_ok_iff, map_eq_ok_iff, Except.ok.injEq]
    constructor
    · rintro ⟨_, ⟨valid, validated, properties, resolved, fallback, given, source, ⟨providers, created,
        rfl⟩, policy, made, rfl⟩, tuned, checked, rfl⟩
      cases eq_of_validate validated
      exact ⟨config, properties, fallback, providers, rfl, validated, resolved, given, created, made,
        checked, rfl⟩
    · rintro ⟨used, properties, fallback, providers, ⟨⟩, parts⟩
      refine ⟨⟨assembly.policy, config.tableCache, assembly.providers⟩, ⟨config, parts.valid, properties,
        parts.resolved, fallback, parts.given, _, ⟨providers, parts.created, rfl⟩, assembly.policy,
        parts.policy, ?_⟩, assembly.tableCache, parts.tuned, rfl⟩
      rw [← parts.source]

variable {config : AccessConfig} {environment : Environment} {issuer : Option Issuer}
  {properties : Properties} {fallback : Option Credential} {providers : List Provider}
  {assembly : Assembly}

theorem Parts.backend (parts : Parts config environment issuer properties fallback providers assembly) :
    assembly.policy.backend = config.backend := (Policy.of_create parts.policy).1

/-- The configured providers answer with credentials of the backend only. -/
theorem Parts.native (parts : Parts config environment issuer properties fallback providers assembly) :
    ∀ provider ∈ providers, provider.Native assembly.policy.backend := by
  rw [parts.backend]
  exact native_of_createProviders parts.created

/-- The configured fallback is a secret key. -/
theorem Parts.isToken_fallback {credential : Credential}
    (parts : Parts config environment issuer properties fallback providers assembly)
    (same : assembly.policy.fallback = some credential) : credential.kind.isToken = false := by
  have given := parts.given
  rw [← (Policy.of_create parts.policy).2.1, same] at given
  rw [staticFallback_eq] at given
  split at given
  · cases given
  · next store _ =>
    split at given
    · cases given
    · obtain ⟨keys, -, made⟩ := map_eq_ok_iff.1 given
      cases made
      cases store <;> rfl

end Assembly

/-! ## Loads that meet an outage -/

/-- Providers, and the same ones after some of them were closed. -/
inductive SomeClosed : List Provider → List Provider → Prop where
  | nothing : SomeClosed [] []
  | stays {provider : Provider} {providers current : List Provider}
      (others : SomeClosed providers current) :
      SomeClosed (provider :: providers) (provider :: current)
  | closes {provider : Provider} {providers current : List Provider}
      (others : SomeClosed providers current) :
      SomeClosed (provider :: providers) (provider.closed :: current)

/-- The reports of an outage: the issuer of a provider failed, neither because a credential is malformed
nor because there is nothing to be had; no provider has a token; and none reports a malformed
credential. -/
structure Outage (reports : List Report) : Prop where
  failed : ∃ report ∈ reports, ∃ request error, (request, .error error) ∈ report.exchange ∧
    error.isInvalid = false ∧ error.isUnavailable = false
  tokenless : ∀ report ∈ reports, ∀ credential, report.answer = .ok credential →
    credential.kind.isToken = false
  valid : ∀ report ∈ reports, report.isInvalid = false

/-- A load of a source for a resource that meets an outage: it is cut off, or it leaves the reports of
an outage. Some of the providers may have been closed by then. -/
inductive MeetsOutage (source : ProviderSource) (resource : String) : LoadResult → Prop where
  | timedOut : MeetsOutage source resource .timedOut
  | answered {current : List Provider} {scope : Scope} {reports : List Report}
      {answer : Except CredentialError (List Credential)}
      (closed : SomeClosed source.providers current)
      (inquiry : Inquiry { source with providers := current } resource scope reports answer)
      (outage : Outage reports) : MeetsOutage source resource (.answered answer)

section Loads

variable {source : ProviderSource} {resource : String} {scope : Scope} {reports : List Report}
  {answer : Except CredentialError (List Credential)} {result : LoadResult} {policy : Policy}
  {backend : Backend} {providers current : List Provider}

theorem SomeClosed.native (closed : SomeClosed providers current)
    (native : ∀ provider ∈ providers, provider.Native backend) :
    ∀ provider ∈ current, provider.Native backend := by
  induction closed with
  | nothing => exact List.forall_mem_nil _
  | stays _ ih =>
    obtain ⟨here, others⟩ := List.forall_mem_cons.1 native
    exact List.forall_mem_cons.2 ⟨here, ih others⟩
  | closes _ ih =>
    obtain ⟨here, others⟩ := List.forall_mem_cons.1 native
    exact List.forall_mem_cons.2 ⟨here.closed, ih others⟩

theorem Report.credential?_eq_some_iff {report : Report} {credential : Credential} :
    report.credential? = some credential ↔ report.answer = .ok credential := by
  unfold credential?
  cases report.answer <;> simp

/-- A load that meets an outage has failed, and not because a credential is malformed. -/
theorem MeetsOutage.failed (meets : MeetsOutage source resource result) :
    ∃ error, policy.answerOf result = .error error ∧ error.isInvalid = false := by
  cases meets with
  | timedOut => exact ⟨_, rfl, rfl⟩
  | @answered current scope reports answer _ inquiry outage =>
    obtain ⟨report, member, request, error, asked, valid, had⟩ := outage.failed
    have failure := report.failure?_of_outage (inquiry.consulted.made report member) asked valid had
    obtain ⟨first, failed⟩ := Option.isSome_iff_exists.1
      (List.findSome?_isSome_iff.2 ⟨report, member, failure⟩)
    have bare : (reports.filterMap Report.credential?).any
        (fun candidate => candidate.kind.isToken) = false := by
      rw [List.any_eq_false]
      intro candidate among
      obtain ⟨other, here, same⟩ := List.mem_filterMap.1 among
      rw [outage.tokenless other here candidate (Report.credential?_eq_some_iff.1 same)]
      exact Bool.false_ne_true
    rw [inquiry.answer_of_valid outage.valid, Collection.verdict, failed]
    simp only [bare, Bool.false_eq_true, if_false]
    exact ⟨_, rfl, rfl⟩

/-- Where a token of the backend is among the candidates, a token is selected. -/
theorem Backend.exists_select {candidates : List Credential} {token : Credential}
    (among : token ∈ candidates) (kind : token.kind = backend.tokenKind) :
    ∃ first, backend.select candidates = some first ∧ first ∈ candidates ∧
      first.kind.isToken = true := by
  have found : (Credential.firstOf backend.tokenKind candidates).isSome = true :=
    List.find?_isSome.2 ⟨token, among, beq_iff_eq.2 kind⟩
  obtain ⟨first, same⟩ := Option.isSome_iff_exists.1 found
  obtain ⟨member, kind⟩ := Credential.of_firstOf same
  refine ⟨first, ?_, member, ?_⟩
  · rw [select, same]
  · rw [kind, Kind.isToken_tokenKind]

/-- A load in which a provider has a token, and none reports a malformed credential, brings one. -/
theorem Inquiry.exists_token (inquiry : Inquiry source resource scope reports answer)
    (native : ∀ provider ∈ source.providers, provider.Native backend)
    (valid : ∀ report ∈ reports, report.isInvalid = false)
    (has : ∃ report ∈ reports, ∃ token, report.answer = .ok token ∧ token.kind.isToken = true) :
    ∃ candidates, answer = .ok candidates ∧ ∃ report ∈ reports, ∃ token,
      report.answer = .ok token ∧ token.kind.isToken = true ∧
        backend.select candidates = some token := by
  obtain ⟨report, member, token, said, isToken⟩ := has
  have among : token ∈ reports.filterMap Report.credential? :=
    List.mem_filterMap.2 ⟨report, member, Report.credential?_eq_some_iff.2 said⟩
  have tokens : (reports.filterMap Report.credential?).any
      (fun candidate => candidate.kind.isToken) = true := List.any_eq_true.2 ⟨token, among, isToken⟩
  have brought : answer = .ok (reports.filterMap Report.credential?) := by
    rw [inquiry.answer_of_valid valid, Collection.verdict]
    cases reports.findSome? Report.failure? with
    | none => rfl
    | some failure => simp only [tokens, if_true]
  have belongs : token.kind.backend = backend :=
    Report.backend_of_made (inquiry.consulted.made report member)
      (native _ (inquiry.consulted.provider_mem report member)) said
  have kind : token.kind = backend.tokenKind := by rw [Kind.eq_tokenKind isToken, belongs]
  obtain ⟨first, selects, inside, firstIsToken⟩ := Backend.exists_select among kind
  obtain ⟨other, asked, told⟩ := List.mem_filterMap.1 inside
  exact ⟨_, brought, other, asked, first, Report.credential?_eq_some_iff.1 told, firstIsToken,
    selects⟩

end Loads

/-! ## Enduring an outage -/

/-- A load that was begun by a reading of the clock is settled, and the outage that it met does no harm:
the entry stays as it was; the caller is given the token that the entry holds, which is not the
fallback, or is told that no credential is to be had; and the next task that decides about the
resource loads, unless the clock has gone back. -/
structure Endured (policy : Policy) (past : Past) (state next : State) (id : TaskId) (task : Task)
    (result : LoadResult) (now : Int64) (event : Event) (reading : Int64) : Prop where
  entry : (next.slots task.slot).entry = (state.slots task.slot).entry
  tracked : next.tracked = state.tracked
  served : ∀ credential, (state.slots task.slot).entry.credential? = some credential →
    event = .settled (.ok credential) ∧ credential.kind.isToken = true ∧
      policy.fallback ≠ some credential
  refused : (state.slots task.slot).entry.credential? = none →
    ∃ error, event = .settled (.error error) ∧ error.isUnavailable = true
  reloads : ∀ (later : Past) (reached last : State) (other : TaskId) (again : Int64) (seen : Event),
    Chronicle policy (later ++ ⟨state, .settle id result now, event, next⟩ :: past) reached →
    (∀ moment ∈ course task.resource later, ¬ Decides moment) →
    reached.step policy (.decide other again) = some (last, seen) →
    reached.subject? (.decide other again) = some task.resource → reading ≤ again →
      seen = .loading task.resource

section Enduring

variable {config : AccessConfig} {environment : Environment} {issuer : Option Issuer}
  {properties : Properties} {fallback : Option Credential} {providers : List Provider}
  {assembly : Assembly} {past : Past} {state next : State} {event : Event} {id : TaskId} {task : Task}
  {now : Int64}

/-- A load of a task that was begun before the end of time endures an outage. -/
theorem Assembly.Parts.endured {source : ProviderSource} {result : LoadResult} {reading : Int64}
    {found : Slot} (parts : Parts config environment issuer properties fallback providers assembly)
    (record : Chronicle assembly.policy past state)
    (taken : state.step assembly.policy (.settle id result now) = some (next, event))
    (meets : MeetsOutage source task.resource result)
    (visit : LoadingVisit past state id task reading found) (early : reading < Int64.maxValue) :
    Endured assembly.policy past state next id task result now event reading := by
  obtain ⟨other, same, -, tracked, told, entry⟩ := (change_of_step taken).exists_settlement
  cases visit.holds.symm.trans same
  obtain ⟨error, failed, valid⟩ := meets.failed
  rw [Policy.settle_of_failed failed valid] at told entry
  refine ⟨entry, tracked, ?_, ?_, ?_⟩
  · intro credential held
    have isToken := visit.isToken_of_credential? record early held
    refine ⟨?_, isToken, ?_⟩
    · rw [told, Policy.serveStale_of_held held]
    · intro same
      cases isToken.symm.trans (parts.isToken_fallback same)
  · intro empty
    rw [Policy.serveStale_of_empty empty] at told
    exact ⟨_, told, rfl⟩
  · intro later reached last other again seen further waits goesOn about late
    obtain ⟨began, decides⟩ := visit.began
    have nothing : assembly.policy.stored? result now = none :=
      Policy.storesNothing_iff.1 (.failed failed)
    exact record.loading_after_unstored taken visit.holds decides nothing further waits goesOn about
      late

/-- Where a provider reports a token, the caller is given one, or told of a malformed credential. -/
theorem Assembly.Parts.told_of_token {current : List Provider} {scope : Scope} {reports : List Report}
    {answer : Except CredentialError (List Credential)}
    (parts : Parts config environment issuer properties fallback providers assembly)
    (holds : state.tasks.get? id = some task)
    (taken : state.step assembly.policy (.settle id (.answered answer) now) = some (next, event))
    (closed : SomeClosed providers current)
    (inquiry : Inquiry { ProviderSource.readOnly providers with providers := current } task.resource
      scope reports answer)
    (has : ∃ report ∈ reports, ∃ token, report.answer = .ok token ∧ token.kind.isToken = true) :
    ∃ report ∈ reports,
      (∃ token, report.answer = .ok token ∧ token.kind.isToken = true ∧
        event = .settled (.ok token)) ∨
      ∃ error, report.answer = .error error ∧ error.isInvalid = true ∧
        event = .settled (.error error) := by
  have change := change_of_step taken
  by_cases met : ∃ report ∈ reports, report.isInvalid = true
  · obtain ⟨earlier, last, rest, error, rfl, -, -, said, invalid, rfl⟩ := inquiry.exists_stop met
    have member : last ∈ earlier ++ [last] := List.mem_append_right _ List.mem_cons_self
    exact ⟨last, member, .inr ⟨error, said, invalid, (change.settle_of_invalid holds invalid).1⟩⟩
  · have valid : ∀ report ∈ reports, report.isInvalid = false := by
      intro report member
      exact Bool.eq_false_iff.2 fun invalid => met ⟨report, member, invalid⟩
    obtain ⟨candidates, rfl, report, member, token, said, isToken, selects⟩ :=
      inquiry.exists_token (closed.native parts.native) valid has
    obtain ⟨other, same, -, -, told, -⟩ := change.exists_settlement
    rw [Policy.settle_of_selected selects] at told
    exact ⟨report, member, .inl ⟨token, said, isToken, told⟩⟩

end Enduring

/-- **An outage does not put static keys in the place of a token.** Take access that was put together
from a configuration, without a source from outside, and any run of its refresher.

* If a load that was begun before the end of time meets an outage, the outage is endured: the entry,
  which is as the task had found it when it swept the slot, or empty if it was marked then, stays as it
  is, and it holds a token or nothing; the caller is told no more than what it holds; and the next task
  loads again.
* If a provider reports a token in a load that is not cut off, its caller is given a token that was
  reported, or told of a malformed credential that was reported. -/
theorem outage_keeps_token {config : Option AccessConfig} {environment : Environment}
    {issuer : Option Issuer} {assembly : Assembly}
    (built : Assembly.build config environment issuer false = .ok assembly) :
    ∃ source, assembly.providers = some source ∧
      (∀ (past : Past) (state next : State) (event : Event) (id : TaskId) (task : Task)
        (result : LoadResult) (now : Int64),
        Chronicle assembly.policy past state → state.tasks.get? id = some task →
        state.step assembly.policy (.settle id result now) = some (next, event) →
        MeetsOutage source task.resource result →
          ∃ reading found, LoadingVisit past state id task reading found ∧
            (reading < Int64.maxValue →
              Endured assembly.policy past state next id task result now event reading)) ∧
      (∀ (state next : State) (event : Event) (id : TaskId) (task : Task) (current : List Provider)
        (scope : Scope) (reports : List Report)
        (answer : Except CredentialError (List Credential)) (now : Int64),
        state.tasks.get? id = some task →
        state.step assembly.policy (.settle id (.answered answer) now) = some (next, event) →
        SomeClosed source.providers current →
        Inquiry { source with providers := current } task.resource scope reports answer →
        (∃ report ∈ reports, ∃ token, report.answer = .ok token ∧ token.kind.isToken = true) →
          ∃ report ∈ reports,
            (∃ token, report.answer = .ok token ∧ token.kind.isToken = true ∧
              event = .settled (.ok token)) ∨
            ∃ error, report.answer = .error error ∧ error.isInvalid = true ∧
              event = .settled (.error error)) := by
  obtain ⟨used, properties, fallback, providers, -, parts⟩ := Assembly.build_eq_ok_iff.1 built
  refine ⟨ProviderSource.readOnly providers, parts.source, ?_, ?_⟩
  · intro past state next event id task result now record holds taken meets
    obtain ⟨other, same, loads, -⟩ := (change_of_step taken).exists_settlement
    cases holds.symm.trans same
    obtain ⟨reading, found, visit⟩ := record.exists_loadingVisit holds loads
    exact ⟨reading, found, visit, parts.endured record taken meets visit⟩
  · intro state next event id task current scope reports answer now holds taken closed inquiry has
    exact parts.told_of_token holds taken closed inquiry has

/-- A configuration with secret keys and sessions. -/
def guardedConfig : AccessConfig :=
  { AccessConfig.standard .s3 with
    providers := ["s3-secret-key", "s3-token"]
    properties := Keyed.ofList
      [("s3-access-key-id", .literal "id"), ("s3-secret-access-key", .literal "secret"),
        ("s3-role-arn", .literal "role")] }

/-- Its properties. -/
def guardedProperties : Properties :=
  Keyed.ofList [("s3-access-key-id", "id"), ("s3-secret-access-key", "secret"),
    ("s3-role-arn", "role")]

/-- Its providers. -/
def guardedProviders : List Provider :=
  [.secretKeys .s3 sampleKeys false, .sessionTokens sampleSession false]

/-- What is put together from it. -/
def guardedAssembly : Assembly where
  policy := { Policy.narrow with config := guardedConfig.refresher, valid := by decide +kernel }
  tableCache := guardedConfig.tableCache
  providers := some (ProviderSource.readOnly guardedProviders)

/-- The configuration with secret keys and sessions is valid. -/
theorem validate_guardedConfig : guardedConfig.validate = .ok guardedConfig := by
  have faultless : guardedConfig.fault? = none := by decide +kernel
  rw [AccessConfig.validate, faultless]

theorem build_guardedConfig :
    Assembly.build (some guardedConfig) Keyed.empty (some ⟨"issuer"⟩) false = .ok guardedAssembly := by
  refine Assembly.build_eq_ok_iff.2
    ⟨guardedConfig, guardedProperties, some sampleKey, guardedProviders, rfl, ?_⟩
  exact {
    valid := validate_guardedConfig
    resolved := rfl
    given := by decide +kernel
    created := rfl
    policy := guardedAssembly.policy.create_self
    tuned := rfl
    source := rfl }

/-- The history of `renewed`, with the state that is reached. -/
def guardedHistory : Past × State :=
  replay (State.step guardedAssembly.policy) State.initial renewed

/-- The report of the session while its issuer is out of order. -/
def failedReport : Report :=
  ⟨.sessionTokens sampleSession false,
    [(sampleSession.request sampleScope, .error (.reported .source "down"))],
    .error (.issuerFailed .s3 "r" (.reported .source "down"))⟩

/-- What the source answers then. -/
def outageError : CredentialError :=
  .providersFailed 1 2 "r" (.issuerFailed .s3 "r" (.reported .source "down"))

theorem outage_keeps_token_guarded :
    Assembly.build (some guardedConfig) Keyed.empty (some ⟨"issuer"⟩) false = .ok guardedAssembly ∧
      Chronicle guardedAssembly.policy guardedHistory.1 guardedHistory.2 ∧
      Inquiry (ProviderSource.readOnly guardedProviders) "r" sampleScope [keyReport, failedReport]
        (.error outageError) ∧
      ∃ next, guardedHistory.2.step guardedAssembly.policy
          (.settle 2 (.answered (.error outageError)) 960) =
            some (next, .settled (.ok (sampleKeyToken 1001 sampleExpiry_pos))) ∧
        ∃ task reading, guardedHistory.2.tasks.get? 2 = some task ∧
          (next.slots task.slot).entry = Entry.keep (sampleKeyToken 1001 sampleExpiry_pos) 900 ∧
          decided 2 (course "r" guardedHistory.1) = some (9, reading) ∧
          Endured guardedAssembly.policy guardedHistory.1 guardedHistory.2 next 2 task
            (.answered (.error outageError)) 960
            (.settled (.ok (sampleKeyToken 1001 sampleExpiry_pos))) reading := by
  have built := build_guardedConfig
  have record : Chronicle guardedAssembly.policy guardedHistory.1 guardedHistory.2 :=
    recorded_replay renewed
  have key : keyReport.Made sampleScope := .done _
  have failed : failedReport.Made sampleScope := .ask (.done _)
  have consulted : Consulted sampleScope guardedProviders [keyReport, failedReport] :=
    .further key rfl (.further failed rfl .nothing)
  have inquiry : Inquiry (ProviderSource.readOnly guardedProviders) "r" sampleScope
      [keyReport, failedReport] (.error outageError) := ⟨rfl, consulted, consulted.ends_load rfl⟩
  have outage : Outage [keyReport, failedReport] := by
    refine ⟨⟨failedReport, by simp, _, _, List.mem_cons_self, rfl, rfl⟩, ?_, ?_⟩
    · simp [keyReport, failedReport, sampleKey, Credential.kind, Kind.isToken]
    · simp [keyReport, failedReport, Report.isInvalid, CredentialError.isInvalid,
        CredentialError.category]
  have settles : (guardedHistory.2.step guardedAssembly.policy
      (.settle 2 (.answered (.error outageError)) 960)).map Prod.snd =
        some (.settled (.ok (sampleKeyToken 1001 sampleExpiry_pos))) := by decide +kernel
  have holds : (guardedHistory.2.tasks.get? 2).map (fun task =>
      (task.resource, (guardedHistory.2.slots task.slot).entry)) =
        some ("r", Entry.keep (sampleKeyToken 1001 sampleExpiry_pos) 900) := by decide +kernel
  have decides : decided 2 (course "r" guardedHistory.1) = some (9, 950) := by decide +kernel
  obtain ⟨⟨next, event⟩, taken, rfl⟩ := Option.map_eq_some_iff.1 settles
  obtain ⟨task, found, same⟩ := Option.map_eq_some_iff.1 holds
  obtain ⟨resource, entry⟩ := Prod.mk.inj same
  obtain ⟨source, given, endures, -⟩ := outage_keeps_token built
  cases given
  have meets : MeetsOutage (ProviderSource.readOnly guardedProviders) task.resource
      (.answered (.error outageError)) := by
    rw [resource]
    exact .answered (.stays (.stays .nothing)) inquiry outage
  obtain ⟨reading, seen, visit, endured⟩ :=
    endures _ _ next _ 2 task _ 960 record found taken meets
  obtain ⟨began, begins⟩ := visit.began
  rw [resource, decides] at begins
  cases begins
  have whole := endured (by decide)
  exact ⟨built, record, inquiry, next, taken, task, 950, found, whole.entry.trans entry, decides, whole⟩

end StorageBroker
