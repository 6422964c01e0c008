import StorageBroker.Proofs.Provider.Inquiry

/-!
# The rule of collecting

What the providers of a source have said warrants an answer, and one only: the first report of a
malformed credential settles it; without one, the credentials are the answer, unless a provider
failed and no token is among them (`Warrants`). A source comes to exactly the answers that are
warranted by what its providers say in turn (`ProviderSource.ends_load_iff`).

Each provider is asked once and in order, up to the first one that reports a malformed credential,
which is seen by noting down who is asked (`collectFrom_noted`). A provider that has nothing leaves
no trace in the credentials, wherever it stands (`Warrants.toOption_eq`).
-/

set_option autoImplicit false

namespace StorageBroker

/-! ## What reports warrant -/

/-- The credentials among reports. -/
def credentialsIn (reports : List Report) : List Credential := reports.filterMap Report.credential?

/-- The errors among reports that say something other than that there is nothing to be had. -/
def failuresIn (reports : List Report) : List CredentialError := reports.filterMap Report.failure?

/-- A report that there is nothing to be had. -/
def Report.isEmpty (report : Report) : Bool :=
  match report.answer with
  | .ok _ => false
  | .error error => error.isUnavailable

/-- The answers that reports warrant, of so many providers for a resource. -/
inductive Warrants (providers : Nat) (resource : String) (reports : List Report) :
    Except CredentialError (List Credential) → Prop where
  | malformed {earlier later : List Report} {report : Report} {error : CredentialError}
      (first : reports = earlier ++ report :: later)
      (valid : ∀ before ∈ earlier, before.isInvalid = false) (said : report.answer = .error error)
      (invalid : error.isInvalid = true) : Warrants providers resource reports (.error error)
  | collected (valid : ∀ report ∈ reports, report.isInvalid = false)
      (enough : failuresIn reports = [] ∨
        ∃ credential ∈ credentialsIn reports, credential.kind.isToken = true) :
      Warrants providers resource reports (.ok (credentialsIn reports))
  | failed {failure : CredentialError} {others : List CredentialError}
      (valid : ∀ report ∈ reports, report.isInvalid = false)
      (failures : failuresIn reports = failure :: others)
      (keys : ∀ credential ∈ credentialsIn reports, credential.kind.isToken = false) :
      Warrants providers resource reports
        (.error (.providersFailed (credentialsIn reports).length providers resource failure))

section Rule

variable {providers : Nat} {resource : String} {reports : List Report}
  {answer : Except CredentialError (List Credential)} {collection : Collection}

theorem Collection.verdict_of_enough (enough : collection.failure = none ∨
      ∃ credential ∈ collection.candidates, credential.kind.isToken = true) :
    collection.verdict providers resource = .ok collection.candidates := by
  unfold verdict
  rcases enough with unfailing | ⟨credential, member, isToken⟩
  · rw [unfailing]
  · have among : (collection.candidates.any fun candidate => candidate.kind.isToken) = true :=
      List.any_eq_true.2 ⟨credential, member, isToken⟩
    rw [among]
    cases collection.failure <;> rfl

theorem Collection.verdict_of_failed {failure : CredentialError}
    (failed : collection.failure = some failure)
    (keys : ∀ credential ∈ collection.candidates, credential.kind.isToken = false) :
    collection.verdict providers resource =
      .error (.providersFailed collection.candidates.length providers resource failure) := by
  have none_ : (collection.candidates.any fun candidate => candidate.kind.isToken) = false := by
    rw [List.any_eq_false]
    intro credential member
    rw [keys credential member]
    exact Bool.false_ne_true
  unfold verdict
  rw [failed]
  dsimp only
  rw [none_, if_neg Bool.false_ne_true]

/-- What is collected where no report is of a malformed credential. -/
theorem collected_of_valid (valid : ∀ report ∈ reports, report.isInvalid = false) :
    ((tally reports Collection.empty).bind fun collection =>
        collection.verdict providers resource) =
      Collection.verdict ⟨credentialsIn reports, (failuresIn reports).head?⟩ providers
        resource := by
  rw [tally_of_valid valid, failuresIn, List.head?_filterMap]
  rfl

theorem warrants_of_valid (valid : ∀ report ∈ reports, report.isInvalid = false) :
    Warrants providers resource reports
      (Collection.verdict ⟨credentialsIn reports, (failuresIn reports).head?⟩ providers
        resource) := by
  cases failures : failuresIn reports with
  | nil =>
    rw [Collection.verdict_of_enough (.inl rfl)]
    exact .collected valid (.inl failures)
  | cons failure others =>
    by_cases token : ∃ credential ∈ credentialsIn reports, credential.kind.isToken = true
    · rw [Collection.verdict_of_enough (.inr token)]
      exact .collected valid (.inr token)
    · have keys : ∀ credential ∈ credentialsIn reports, credential.kind.isToken = false := by
        intro credential member
        exact Bool.eq_false_iff.2 fun isToken => token ⟨credential, member, isToken⟩
      rw [Collection.verdict_of_failed rfl keys]
      exact .failed valid failures keys

/-- **An answer is warranted if and only if it is what is collected.** -/
theorem warrants_iff : Warrants providers resource reports answer ↔
    answer = (tally reports Collection.empty).bind fun collection =>
      collection.verdict providers resource := by
  constructor
  · intro warrants
    cases warrants with
    | malformed first valid said invalid =>
      rw [first, tally_of_invalid valid said invalid]
      rfl
    | collected valid enough =>
      have unfailing : failuresIn reports = [] → (failuresIn reports).head? = none := by
        intro none_
        rw [none_]
        rfl
      rw [collected_of_valid valid, Collection.verdict_of_enough (enough.imp_left unfailing)]
    | failed valid failures keys =>
      rw [collected_of_valid valid, failures, Collection.verdict_of_failed rfl keys]
  · rintro rfl
    cases found : reports.find? Report.isInvalid with
    | none =>
      have valid : ∀ report ∈ reports, report.isInvalid = false := by
        intro report member
        exact Bool.eq_false_iff.2 (List.find?_eq_none.1 found report member)
      rw [collected_of_valid valid]
      exact warrants_of_valid valid
    | some report =>
      obtain ⟨invalid, earlier, later, rfl, before⟩ := List.find?_eq_some_iff_append.1 found
      have valid : ∀ report ∈ earlier, report.isInvalid = false := by
        intro report member
        simpa using before report member
      obtain ⟨error, said, malformed⟩ := Report.isInvalid_iff.1 invalid
      rw [tally_of_invalid valid said malformed]
      exact .malformed rfl valid said malformed

end Rule

/-! ## Reports that there is nothing to be had -/

section Empty

variable {providers otherProviders : Nat} {resource : String} {report : Report}
  {reports others : List Report} {answer otherAnswer : Except CredentialError (List Credential)}

theorem Report.isInvalid_of_isEmpty (empty : report.isEmpty = true) : report.isInvalid = false := by
  unfold isEmpty at empty
  split at empty
  · cases empty
  · next error said =>
    rw [isInvalid_of_error said]
    exact CredentialError.isInvalid_of_isUnavailable empty

theorem Report.credential?_of_isEmpty (empty : report.isEmpty = true) :
    report.credential? = none := by
  unfold isEmpty at empty
  split at empty
  · cases empty
  · next error said => simp only [credential?, said]

theorem Report.failure?_of_isEmpty (empty : report.isEmpty = true) : report.failure? = none := by
  unfold isEmpty at empty
  split at empty
  · cases empty
  · next error said => simp only [failure?, said, empty, if_true]

/-- What is told by those who have something. -/
def withoutEmpty (reports : List Report) : List Report :=
  reports.filter fun report => !report.isEmpty

/-- Nothing is found in what those say who have nothing. -/
theorem filterMap_withoutEmpty {α : Type} {find : Report → Option α}
    (nothing : ∀ report, report.isEmpty = true → find report = none) (reports : List Report) :
    (withoutEmpty reports).filterMap find = reports.filterMap find := by
  have same : (fun report => if (!report.isEmpty) = true then find report else none) = find := by
    funext report
    cases empty : report.isEmpty with
    | true => exact (nothing report empty).symm
    | false => rfl
  rw [withoutEmpty, List.filterMap_filter, same]

theorem credentialsIn_withoutEmpty (reports : List Report) :
    credentialsIn (withoutEmpty reports) = credentialsIn reports :=
  filterMap_withoutEmpty (fun _ => Report.credential?_of_isEmpty) reports

theorem failuresIn_withoutEmpty (reports : List Report) :
    failuresIn (withoutEmpty reports) = failuresIn reports :=
  filterMap_withoutEmpty (fun _ => Report.failure?_of_isEmpty) reports

/-- Malformed credentials are reported by those who have something. -/
theorem valid_withoutEmpty_iff : (∀ report ∈ withoutEmpty reports, report.isInvalid = false) ↔
    ∀ report ∈ reports, report.isInvalid = false := by
  constructor
  · intro valid report member
    cases empty : report.isEmpty with
    | true => exact Report.isInvalid_of_isEmpty empty
    | false => exact valid report (List.mem_filter.2 ⟨member, by rw [empty]; rfl⟩)
  · intro valid report member
    exact valid report ((List.mem_filter.1 member).1)

/-- There are candidates if no report is of a malformed credential, and no provider failed or some
token is among the credentials. -/
theorem Warrants.toOption_eq_some_iff {candidates : List Credential}
    (warrants : Warrants providers resource reports answer) : answer.toOption = some candidates ↔
      (∀ report ∈ reports, report.isInvalid = false) ∧
        (failuresIn reports = [] ∨
          ∃ credential ∈ credentialsIn reports, credential.kind.isToken = true) ∧
        credentialsIn reports = candidates := by
  cases warrants with
  | @malformed earlier later report error first valid said invalid =>
    constructor
    · rintro ⟨⟩
    · rintro ⟨others, -, -⟩
      have member : report ∈ reports := first ▸ List.mem_append_right _ List.mem_cons_self
      have spoiled := Report.isInvalid_iff.2 ⟨error, said, invalid⟩
      cases spoiled.symm.trans (others report member)
  | collected valid enough =>
    constructor
    · rintro ⟨⟩
      exact ⟨valid, enough, rfl⟩
    · rintro ⟨-, -, rfl⟩
      rfl
  | failed valid failures keys =>
    constructor
    · rintro ⟨⟩
    · rintro ⟨-, enough, -⟩
      rcases enough with unfailing | ⟨credential, member, isToken⟩
      · cases failures.symm.trans unfailing
      · cases (keys credential member).symm.trans isToken

/-- **Those who have nothing do not matter**, neither for whether there are candidates nor for what
they are. -/
theorem Warrants.toOption_eq (warrants : Warrants providers resource reports answer)
    (otherwise : Warrants otherProviders resource others otherAnswer)
    (same : withoutEmpty reports = withoutEmpty others) :
    answer.toOption = otherAnswer.toOption := by
  have credentials : credentialsIn reports = credentialsIn others := by
    rw [← credentialsIn_withoutEmpty, same, credentialsIn_withoutEmpty]
  have failures : failuresIn reports = failuresIn others := by
    rw [← failuresIn_withoutEmpty, same, failuresIn_withoutEmpty]
  have valid : (∀ report ∈ reports, report.isInvalid = false) ↔
      ∀ report ∈ others, report.isInvalid = false := by
    rw [← valid_withoutEmpty_iff, same, valid_withoutEmpty_iff]
  ext candidates
  rw [warrants.toOption_eq_some_iff, otherwise.toOption_eq_some_iff, valid, failures, credentials]

end Empty

/-! ## Who is asked -/

section Asked

variable {report : Report} {reports : List Report} {collection : Collection} {scope : Scope}
  {providers asked : List Provider}

/-- Reports up to the first one of a malformed credential. -/
def heard (reports : List Report) : List Report :=
  reports.takeWhile (fun report => !report.isInvalid) ++ (reports.find? Report.isInvalid).toList

/-- Asks a provider for its report, and notes down that it was asked. -/
def Report.noted (report : Report) :
    StateM (List Provider) (Except CredentialError Credential) := do
  modify fun asked => asked ++ [report.provider]
  pure report.answer

theorem heard_cons_of_invalid (invalid : report.isInvalid = true) :
    heard (report :: reports) = [report] := by
  simp [heard, invalid]

theorem heard_cons_of_valid (valid : report.isInvalid = false) :
    heard (report :: reports) = report :: heard reports := by
  simp [heard, valid]

/-- **Each provider is asked once and in order**, up to the first one that reports a malformed
credential. -/
theorem collectFrom_noted : (collectFrom Report.noted reports collection).run asked =
    (tally reports collection, asked ++ (heard reports).map Report.provider) := by
  induction reports generalizing collection asked with
  | nil =>
    rw [heard, List.takeWhile_nil, List.find?_nil]
    exact congrArg (Prod.mk _) (List.append_nil asked).symm
  | cons report reports ih =>
    have goesOn (further : Collection) :
        (collectFrom Report.noted reports further).run (asked ++ [report.provider]) =
          (tally reports further,
            asked ++ report.provider :: (heard reports).map Report.provider) := by
      rw [ih, List.append_assoc, List.singleton_append]
    have first : (collectFrom Report.noted (report :: reports) collection).run asked =
        (match report.answer with
        | .ok candidate => collectFrom Report.noted reports (collection.add candidate)
        | .error error =>
          if error.isInvalid then pure (.error error)
          else if error.isUnavailable then collectFrom Report.noted reports collection
          else collectFrom Report.noted reports (collection.fail error)).run
            (asked ++ [report.provider]) := rfl
    rw [first, tally_cons]
    cases said : report.answer with
    | ok candidate =>
      rw [heard_cons_of_valid (by rw [Report.isInvalid, said])]
      exact goesOn _
    | error error =>
      dsimp only
      cases invalid : error.isInvalid with
      | true =>
        rw [heard_cons_of_invalid (by rw [Report.isInvalid_of_error said, invalid]), if_pos rfl,
          if_pos rfl]
        rfl
      | false =>
        rw [heard_cons_of_valid (by rw [Report.isInvalid_of_error said, invalid]),
          if_neg Bool.false_ne_true, if_neg Bool.false_ne_true]
        split
        · exact goesOn _
        · exact goesOn _

/-- Providers are consulted in turn: each report is made by its provider, the reports end with the
first one of a malformed credential, and those who report are the first providers, or all of them if
no credential is malformed. -/
theorem consulted_iff : Consulted scope providers reports ↔
    (∀ report ∈ reports, report.Made scope) ∧ heard reports = reports ∧
      reports.map Report.provider <+: providers ∧
      ((∀ report ∈ reports, report.isInvalid = false) →
        reports.map Report.provider = providers) := by
  constructor
  · intro consulted
    induction consulted with
    | nothing => exact ⟨List.forall_mem_nil _, rfl, List.prefix_refl _, fun _ => rfl⟩
    | @stops report rest made invalid =>
      refine ⟨List.forall_mem_singleton.2 made, heard_cons_of_invalid invalid, ⟨rest, rfl⟩, ?_⟩
      intro valid
      cases invalid.symm.trans (valid report List.mem_cons_self)
    | @further report rest reports made valid _ ih =>
      obtain ⟨others, all, first, whole⟩ := ih
      refine ⟨List.forall_mem_cons.2 ⟨made, others⟩, ?_, ?_, ?_⟩
      · rw [heard_cons_of_valid valid, all]
      · exact List.cons_prefix_cons.2 ⟨rfl, first⟩
      · intro each
        rw [List.map_cons, whole (List.forall_mem_cons.1 each).2]
  · rintro ⟨made, all, first, whole⟩
    induction reports generalizing providers with
    | nil =>
      rw [← whole (List.forall_mem_nil _)]
      exact .nothing
    | cons report reports ih =>
      obtain ⟨rest, rfl⟩ := first
      obtain ⟨here, others⟩ := List.forall_mem_cons.1 made
      cases invalid : report.isInvalid with
      | true =>
        rw [heard_cons_of_invalid invalid] at all
        cases all
        exact .stops here invalid
      | false =>
        rw [heard_cons_of_valid invalid] at all
        refine .further here invalid (ih others (List.cons.inj all).2 ⟨rest, rfl⟩ ?_)
        intro valid
        exact (List.cons.inj (whole (List.forall_mem_cons.2 ⟨invalid, valid⟩))).2

end Asked

/-! ## Loads -/

section Loads

variable {source : ProviderSource} {resource : String} {scope : Scope} {reports : List Report}
  {exchange : Exchange} {answer : Except CredentialError (List Credential)}

theorem Inquiry.warrants (inquiry : Inquiry source resource scope reports answer) :
    Warrants source.providers.length resource reports answer :=
  warrants_iff.2 inquiry.answer_eq

/-- **A load comes to the answers that are warranted by what its providers say in turn.** -/
theorem ProviderSource.ends_load_iff (granted : source.scopeOf resource = .ok scope) :
    (source.load resource).Ends exchange answer ↔
      ∃ reports, Consulted scope source.providers reports ∧
        exchange = reports.flatMap Report.exchange ∧
        Warrants source.providers.length resource reports answer := by
  constructor
  · intro ends
    rcases source.exists_inquiry ends with ⟨error, refused, -⟩ | ⟨other, reports, same, inquiry⟩
    · cases granted.symm.trans refused
    · cases granted.symm.trans inquiry.granted
      exact ⟨reports, inquiry.consulted, same, inquiry.warrants⟩
  · rintro ⟨reports, consulted, rfl, warrants⟩
    rw [warrants_iff.1 warrants]
    exact consulted.ends_load granted

/-- Whoever is asked in a load is asked once and in order, and the answer is warranted. -/
theorem exists_warranted_of_noted (reports : List Report) (resource : String)
    (asked : List Provider) :
    ∃ answer, (collectCandidates Report.noted resource reports).run asked =
        (answer, asked ++ (heard reports).map Report.provider) ∧
      Warrants reports.length resource reports answer := by
  refine ⟨_, ?_, warrants_iff.2 rfl⟩
  rw [collectCandidates, StateT.run_bind, collectFrom_noted]
  cases tally reports Collection.empty with
  | ok collection => rfl
  | error error => rfl

end Loads

/-- **The rule of collecting.**

* Without a scope no provider is asked, and the answer is the error of the scope.
* With one, a load comes to exactly the answers that are warranted by what the providers say in
  turn. The providers that say something are the first ones, up to the first that reports a
  malformed credential, and all of them if none does.
* Whatever the providers have to say, each of these is asked once and in order, and no other one is
  asked.
* Two loads in which those who have something say the same, whoever else is asked and wherever, both
  have no candidates, or have the same.
* An outage is told as a failure of the source, with the number of the credentials, the number of
  the providers and the first failure. -/
theorem candidates_by_rule :
    (∀ (source : ProviderSource) (resource : String) (error : CredentialError),
      source.scopeOf resource = .error error → source.load resource = .done (.error error)) ∧
    (∀ (source : ProviderSource) (resource : String) (scope : Scope),
      source.scopeOf resource = .ok scope → ∀ exchange answer,
        (source.load resource).Ends exchange answer ↔
          ∃ reports, Consulted scope source.providers reports ∧
            exchange = reports.flatMap Report.exchange ∧
            Warrants source.providers.length resource reports answer) ∧
    (∀ (scope : Scope) (providers : List Provider) (reports : List Report),
      Consulted scope providers reports ↔
        (∀ report ∈ reports, report.Made scope) ∧ heard reports = reports ∧
          reports.map Report.provider <+: providers ∧
          ((∀ report ∈ reports, report.isInvalid = false) →
            reports.map Report.provider = providers)) ∧
    (∀ (reports : List Report) (resource : String), ∃ answer,
      (collectCandidates Report.noted resource reports).run [] =
          (answer, (heard reports).map Report.provider) ∧
        Warrants reports.length resource reports answer) ∧
    (∀ (source other : ProviderSource) (resource : String) (scope : Scope)
      (reports others : List Report)
      (answer otherAnswer : Except CredentialError (List Credential)),
      Inquiry source resource scope reports answer →
      Inquiry other resource scope others otherAnswer → withoutEmpty reports = withoutEmpty others →
        answer.toOption = otherAnswer.toOption) ∧
    ∀ (answered total : Nat) (resource : String) (failure : CredentialError),
      (CredentialError.providersFailed answered total resource failure).category = .source ∧
      (CredentialError.providersFailed answered total resource failure).message =
        "Credential source error: " ++ (toString answered ++ " of " ++ toString total ++
          " credential providers answered for '" ++ resource ++ "', first failure: " ++
          failure.message) := by
  refine ⟨?_, ?_, fun _ _ _ => consulted_iff, ?_, ?_, ?_⟩
  · intro source resource error refused
    rw [ProviderSource.load, refused]
  · intro source resource scope granted exchange answer
    exact ProviderSource.ends_load_iff granted
  · intro reports resource
    exact exists_warranted_of_noted reports resource []
  · intro source other resource scope reports others answer otherAnswer inquiry otherInquiry same
    exact inquiry.warrants.toOption_eq otherInquiry.warrants same
  · intro answered total resource failure
    refine ⟨rfl, ?_⟩
    rw [CredentialError.message]
    rfl

/-- The error of an issuer that is out of order. -/
def outage : CredentialError := .reported .source "down"

/-- The keys of a provider that hands out keys. -/
def spareKeys : KeyPair := ⟨⟨"spare", by decide⟩, ⟨"spare secret", by decide⟩⟩

/-- The report of a provider that is never configured for anything. -/
def emptyReport : Report := ⟨.never .s3, [], .error (.noProvider "r")⟩

/-- The report of a provider from outside that is out of order. -/
def outageReport : Report := ⟨.external .s3Token (.error outage) (.ok ()), [], .error outage⟩

/-- The report of a provider of keys. -/
def spareReport : Report := ⟨.secretKeys .s3 spareKeys false, [], .ok (.s3SecretKey spareKeys)⟩

/-- A source whose providers report as told. -/
def reportingSource (reports : List Report) : ProviderSource :=
  .readOnly (reports.map Report.provider)

theorem candidates_by_rule_outage :
    (ProviderSource.mk [spareReport.provider] fun _ => .error outage).load "r" =
        .done (.error outage) ∧
      ((reportingSource [emptyReport, outageReport, spareReport]).load "r").Ends []
        (.error (.providersFailed 1 3 "r" outage)) ∧
      (CredentialError.providersFailed 1 3 "r" outage).message = "Credential source error: " ++
        "1 of 3 credential providers answered for 'r', first failure: " ++
        "Credential source error: down" ∧
      ∃ answer, ((reportingSource [outageReport, spareReport, emptyReport, emptyReport]).load
          "r").Ends [] answer ∧ answer.toOption = none := by
  obtain ⟨refuses, loads, asks, -, alike, tells⟩ := candidates_by_rule
  let scope : Scope := .readOnly "r" ["r"]
  have made : ∀ report ∈ [emptyReport, outageReport, spareReport], report.Made scope :=
    List.forall_mem_cons.2
      ⟨.done _, List.forall_mem_cons.2 ⟨.done _, List.forall_mem_singleton.2 (.done _)⟩⟩
  have among : ∀ report ∈ [outageReport, spareReport, emptyReport, emptyReport],
      report ∈ [emptyReport, outageReport, spareReport] := by simp
  have consulted : Consulted scope
      (reportingSource [emptyReport, outageReport, spareReport]).providers
      [emptyReport, outageReport, spareReport] :=
    (asks _ _ _).2 ⟨made, rfl, List.prefix_refl _, fun _ => rfl⟩
  have rearranged : Consulted scope
      (reportingSource [outageReport, spareReport, emptyReport, emptyReport]).providers
      [outageReport, spareReport, emptyReport, emptyReport] :=
    (asks _ _ _).2 ⟨fun report member => made report (among report member), rfl, List.prefix_refl _,
      fun _ => rfl⟩
  have failures : failuresIn [emptyReport, outageReport, spareReport] = [outage] := rfl
  have ends := (loads _ "r" scope rfl [] _).2
    ⟨_, consulted, rfl, .failed (by decide) failures (by decide)⟩
  refine ⟨refuses _ _ _ rfl, ends, (tells 1 3 "r" outage).2, _, rearranged.ends_load rfl, ?_⟩
  exact (alike _ _ "r" scope _ _ _ _ ⟨rfl, rearranged, rearranged.ends_load rfl⟩
    ⟨rfl, consulted, ends⟩ rfl).trans rfl

end StorageBroker
