import StorageBroker.Provider.Source

/-!
# What the providers said

A dialogue comes to an end as soon as every request of it has been answered (`Dialogue.Ends`), and
its end is settled by the answers (`Dialogue.Ends.value_eq`).

When a source loads, its providers are asked in turn, and each that is asked leaves a report. The
reports tell everything: a source that consults its providers comes to what is collected from the
reports (`Inquiry.answer_eq`), and every load of a source leaves reports
(`ProviderSource.exists_inquiry`).
-/

set_option autoImplicit false

namespace StorageBroker

/-! ## How dialogues end -/

/-- What passed between a dialogue and an issuer. -/
abbrev Exchange := List (TokenRequest × IssuerAnswer)

namespace Dialogue

variable {α β : Type}

/-- A dialogue comes to an end by an exchange, whatever the issuer answers. -/
inductive Ends : Dialogue α → Exchange → α → Prop where
  | done (value : α) : Ends (.done value) [] value
  | ask {request : TokenRequest} {next : IssuerAnswer → Dialogue α} {answer : IssuerAnswer}
      {exchange : Exchange} {value : α} (further : Ends (next answer) exchange value) :
      Ends (.ask request next) ((request, answer) :: exchange) value

variable {dialogue : Dialogue α} {next : α → Dialogue β} {exchange further : Exchange} {value : α}
  {outcome : β}

theorem bind_eq (dialogue : Dialogue α) (next : α → Dialogue β) :
    dialogue >>= next = dialogue.bind next := rfl

/-- The end of a dialogue is settled by the exchange. -/
theorem Ends.value_eq {other : α} (ends : dialogue.Ends exchange value)
    (also : dialogue.Ends exchange other) : value = other := by
  induction ends with
  | done value =>
    cases also
    rfl
  | ask _ ih =>
    cases also with
    | ask further => exact ih further

theorem Ends.bind (ends : dialogue.Ends exchange value) (goesOn : (next value).Ends further outcome) :
    (dialogue.bind next).Ends (exchange ++ further) outcome := by
  induction ends with
  | done _ => exact goesOn
  | ask _ ih => exact .ask (ih goesOn)

/-- A dialogue that goes on from another one has the other one's exchange in front. -/
theorem Ends.exists_of_bind {whole : Exchange} (ends : (dialogue.bind next).Ends whole outcome) :
    ∃ value exchange further, whole = exchange ++ further ∧ dialogue.Ends exchange value ∧
      (next value).Ends further outcome := by
  induction dialogue generalizing whole with
  | done value => exact ⟨value, [], whole, rfl, .done value, ends⟩
  | ask request continued ih =>
    cases ends with
    | @ask _ _ answer _ _ later =>
      obtain ⟨value, exchange, further, rfl, first, second⟩ := ih answer later
      exact ⟨value, (request, answer) :: exchange, further, rfl, .ask first, second⟩

end Dialogue

/-! ## Reports -/

/-- An error that says that there is nothing to be had is not one of a malformed credential. -/
theorem CredentialError.isInvalid_of_isUnavailable {error : CredentialError}
    (unavailable : error.isUnavailable = true) : error.isInvalid = false := by
  rw [isUnavailable, beq_iff_eq] at unavailable
  rw [isInvalid, unavailable]
  rfl

/-- What a provider that was asked has said: what passed between it and its issuer, and its answer. -/
structure Report where
  provider : Provider
  exchange : Exchange
  answer : Except CredentialError Credential

namespace Report

/-- The credential of a report, if it has one. -/
def credential? (report : Report) : Option Credential :=
  match report.answer with
  | .ok credential => some credential
  | .error _ => none

/-- Whether a report is one of a malformed credential. -/
def isInvalid (report : Report) : Bool :=
  match report.answer with
  | .ok _ => false
  | .error error => error.isInvalid

/-- The error of a report, unless it says that there is nothing to be had. -/
def failure? (report : Report) : Option CredentialError :=
  match report.answer with
  | .ok _ => none
  | .error error => if error.isUnavailable then none else some error

/-- The provider can have said so when it was asked for a scope. -/
def Made (scope : Scope) (report : Report) : Prop :=
  (report.provider.credential scope).Ends report.exchange report.answer

end Report

/-- What providers say that are asked in turn. The first report of a malformed credential is the last
one. -/
inductive Consulted (scope : Scope) : List Provider → List Report → Prop where
  | nothing : Consulted scope [] []
  | stops {report : Report} {rest : List Provider} (made : report.Made scope)
      (invalid : report.isInvalid = true) : Consulted scope (report.provider :: rest) [report]
  | further {report : Report} {rest : List Provider} {reports : List Report}
      (made : report.Made scope) (valid : report.isInvalid = false)
      (others : Consulted scope rest reports) :
      Consulted scope (report.provider :: rest) (report :: reports)

/-! ## Collecting from reports -/

/-- What is collected from reports. -/
def tally (reports : List Report) (collection : Collection) : Except CredentialError Collection :=
  Id.run (collectFrom (fun report => pure (Report.answer report)) reports collection)

section Tallies

variable {report : Report} {reports : List Report} {collection : Collection}
  {error : CredentialError} {credential : Credential}

@[simp] theorem tally_nil : tally [] collection = .ok collection := rfl

theorem tally_cons (report : Report) (reports : List Report) (collection : Collection) :
    tally (report :: reports) collection =
      match report.answer with
      | .ok candidate => tally reports (collection.add candidate)
      | .error error =>
        if error.isInvalid then .error error
        else if error.isUnavailable then tally reports collection
        else tally reports (collection.fail error) := by
  unfold tally
  rw [collectFrom]
  cases answer : report.answer with
  | ok candidate => rfl
  | error error =>
    simp only [pure_bind]
    split
    · rfl
    · split <;> rfl

theorem Report.isInvalid_of_error (answer : report.answer = .error error) :
    report.isInvalid = error.isInvalid := by
  simp [isInvalid, answer]

theorem Report.isInvalid_iff : report.isInvalid = true ↔
    ∃ error, report.answer = .error error ∧ error.isInvalid = true := by
  rw [isInvalid]
  cases report.answer with
  | ok credential => simp
  | error error => simp

/-- Without a report of a malformed credential the candidates are the credentials of the reports, and
the failure is the first one reported. -/
theorem tally_of_valid (valid : ∀ report ∈ reports, report.isInvalid = false) :
    tally reports collection =
      .ok ⟨collection.candidates ++ reports.filterMap Report.credential?,
        collection.failure.or (reports.findSome? Report.failure?)⟩ := by
  induction reports generalizing collection with
  | nil => simp
  | cons report reports ih =>
    obtain ⟨here, others⟩ := List.forall_mem_cons.1 valid
    rw [tally_cons, List.filterMap_cons, List.findSome?_cons]
    cases answer : report.answer with
    | ok candidate =>
      simp [ih others, Collection.add, Report.credential?, Report.failure?, answer]
    | error error =>
      rw [Report.isInvalid_of_error answer] at here
      cases missing : error.isUnavailable with
      | true =>
        simp [here, missing, ih others, Report.credential?, Report.failure?, answer]
      | false =>
        simp only [here, missing, ih others, Collection.fail]
        cases collection.failure <;>
          simp [Report.credential?, Report.failure?, answer, missing]

/-- The first report of a malformed credential is what the collection comes to. -/
theorem tally_of_invalid {earlier later : List Report}
    (valid : ∀ report ∈ earlier, report.isInvalid = false) (answer : report.answer = .error error)
    (invalid : error.isInvalid = true) :
    tally (earlier ++ report :: later) collection = .error error := by
  induction earlier generalizing collection with
  | nil =>
    rw [List.nil_append, tally_cons, answer]
    simp [invalid]
  | cons first earlier ih =>
    obtain ⟨here, others⟩ := List.forall_mem_cons.1 valid
    rw [List.cons_append, tally_cons]
    cases said : first.answer with
    | ok candidate => exact ih others
    | error other =>
      rw [Report.isInvalid_of_error said] at here
      simp only [here, Bool.false_eq_true, if_false]
      split
      · exact ih others
      · exact ih others

end Tallies

/-! ## Providers that are asked in turn -/

namespace Consulted

variable {scope : Scope} {providers : List Provider} {reports : List Report}
  {collection : Collection}

theorem made (consulted : Consulted scope providers reports) :
    ∀ report ∈ reports, report.Made scope := by
  induction consulted with
  | nothing => exact List.forall_mem_nil _
  | stops made _ => exact List.forall_mem_singleton.2 made
  | further made _ _ ih => exact List.forall_mem_cons.2 ⟨made, ih⟩

theorem provider_mem (consulted : Consulted scope providers reports) :
    ∀ report ∈ reports, report.provider ∈ providers := by
  induction consulted with
  | nothing => exact List.forall_mem_nil _
  | stops _ _ => exact List.forall_mem_singleton.2 List.mem_cons_self
  | further _ _ _ ih =>
    refine List.forall_mem_cons.2 ⟨List.mem_cons_self, ?_⟩
    intro report member
    exact List.mem_cons_of_mem _ (ih report member)

/-- Where a malformed credential is reported, the providers were asked up to this one, and no one
behind it. -/
theorem exists_stop (consulted : Consulted scope providers reports)
    (met : ∃ report ∈ reports, report.isInvalid = true) :
    ∃ earlier last rest, reports = earlier ++ [last] ∧
      providers = earlier.map Report.provider ++ last.provider :: rest ∧
      (∀ report ∈ earlier, report.isInvalid = false) ∧ last.isInvalid = true := by
  induction consulted with
  | nothing =>
    obtain ⟨report, member, -⟩ := met
    cases member
  | @stops report rest _ invalid => exact ⟨[], report, rest, rfl, rfl, List.forall_mem_nil _, invalid⟩
  | @further report rest reports _ valid _ ih =>
    have later : ∃ report ∈ reports, report.isInvalid = true := by
      obtain ⟨other, member, invalid⟩ := met
      rcases List.mem_cons.1 member with rfl | member
      · cases valid.symm.trans invalid
      · exact ⟨other, member, invalid⟩
    obtain ⟨earlier, last, others, rfl, rfl, before, invalid⟩ := ih later
    exact ⟨report :: earlier, last, others, rfl, rfl, List.forall_mem_cons.2 ⟨valid, before⟩, invalid⟩

/-- The collection from providers ends as their reports say. -/
theorem ends (consulted : Consulted scope providers reports) :
    (collectFrom (fun provider => Provider.credential provider scope) providers collection).Ends
      (reports.flatMap Report.exchange) (tally reports collection) := by
  induction consulted generalizing collection with
  | nothing => exact .done _
  | @stops report rest made invalid =>
    obtain ⟨error, answer, invalid⟩ := Report.isInvalid_iff.1 invalid
    rw [collectFrom, Dialogue.bind_eq, List.flatMap_cons, tally_cons]
    refine made.bind ?_
    simp only [answer, invalid, if_true]
    exact .done _
  | @further report rest reports made valid _ ih =>
    rw [collectFrom, Dialogue.bind_eq, List.flatMap_cons, tally_cons]
    refine made.bind ?_
    cases answer : report.answer with
    | ok candidate => exact ih
    | error error =>
      rw [Report.isInvalid_of_error answer] at valid
      simp only [valid, Bool.false_eq_true, if_false]
      split
      · exact ih
      · exact ih

/-- Every collection from providers that comes to an end leaves reports. -/
theorem exists_of_ends {exchange : Exchange} {outcome : Except CredentialError Collection}
    (ends : (collectFrom (fun provider => Provider.credential provider scope) providers
      collection).Ends exchange outcome) :
    ∃ reports, Consulted scope providers reports ∧ exchange = reports.flatMap Report.exchange := by
  induction providers generalizing collection exchange with
  | nil =>
    cases ends
    exact ⟨[], .nothing, rfl⟩
  | cons provider rest ih =>
    rw [collectFrom, Dialogue.bind_eq] at ends
    obtain ⟨answer, first, others, rfl, made, ends⟩ := ends.exists_of_bind
    let report : Report := ⟨provider, first, answer⟩
    have goOn : (∃ reports, Consulted scope rest reports ∧
        others = reports.flatMap Report.exchange) → report.isInvalid = false →
        ∃ reports, Consulted scope (provider :: rest) reports ∧
          first ++ others = reports.flatMap Report.exchange := by
      rintro ⟨reports, consulted, rfl⟩ valid
      exact ⟨report :: reports, @Consulted.further scope report rest reports made valid consulted, rfl⟩
    cases answer with
    | ok candidate => exact goOn (ih ends) rfl
    | error error =>
      cases invalid : error.isInvalid with
      | true =>
        simp only [invalid, if_true] at ends
        cases ends
        refine ⟨[report], @Consulted.stops scope report rest made ?_, ?_⟩
        · rw [Report.isInvalid_of_error rfl, invalid]
        · simp [report]
      | false =>
        simp only [invalid, Bool.false_eq_true, if_false] at ends
        refine goOn ?_ (by rw [Report.isInvalid_of_error rfl, invalid])
        split at ends
        · exact ih ends
        · exact ih ends

end Consulted

/-! ## Loads of a source -/

/-- A load of a source for a resource: the scope in which the providers were asked, their reports, and
the answer in which the load ended. -/
structure Inquiry (source : ProviderSource) (resource : String) (scope : Scope)
    (reports : List Report) (answer : Except CredentialError (List Credential)) : Prop where
  granted : source.scopeOf resource = .ok scope
  consulted : Consulted scope source.providers reports
  ends : (source.load resource).Ends (reports.flatMap Report.exchange) answer

section Inquiries

variable {source : ProviderSource} {resource : String} {scope : Scope} {reports : List Report}
  {answer : Except CredentialError (List Credential)} {error : CredentialError}

theorem ProviderSource.load_of_scope (granted : source.scopeOf resource = .ok scope) :
    source.load resource = collectCandidates (fun provider => Provider.credential provider scope)
      resource source.providers := by
  rw [load, granted]

/-- What reports amount to. -/
theorem Consulted.ends_load (granted : source.scopeOf resource = .ok scope)
    (consulted : Consulted scope source.providers reports) :
    (source.load resource).Ends (reports.flatMap Report.exchange)
      ((tally reports Collection.empty).bind fun collection =>
        collection.verdict source.providers.length resource) := by
  rw [ProviderSource.load_of_scope granted, collectCandidates, Dialogue.bind_eq, ←
    List.append_nil (reports.flatMap Report.exchange)]
  refine consulted.ends.bind ?_
  cases tally reports Collection.empty with
  | ok collection => exact .done _
  | error error => exact .done _

/-- A load answers what its reports amount to. -/
theorem Inquiry.answer_eq (inquiry : Inquiry source resource scope reports answer) :
    answer = (tally reports Collection.empty).bind fun collection =>
      collection.verdict source.providers.length resource :=
  inquiry.ends.value_eq (inquiry.consulted.ends_load inquiry.granted)

/-- **Every load that comes to an end leaves reports**, unless there is no scope to ask for. -/
theorem ProviderSource.exists_inquiry {exchange : Exchange}
    (ends : (source.load resource).Ends exchange answer) :
    (∃ error, source.scopeOf resource = .error error ∧ answer = .error error) ∨
      ∃ scope reports, exchange = reports.flatMap Report.exchange ∧
        Inquiry source resource scope reports answer := by
  cases granted : source.scopeOf resource with
  | error error =>
    rw [load, granted] at ends
    cases ends
    exact .inl ⟨error, rfl, rfl⟩
  | ok scope =>
    right
    have whole := ends
    rw [load_of_scope granted, collectCandidates, Dialogue.bind_eq] at ends
    obtain ⟨outcome, first, last, rfl, collected, done⟩ := ends.exists_of_bind
    obtain ⟨reports, consulted, rfl⟩ := Consulted.exists_of_ends collected
    have nothing : last = [] := by
      cases outcome <;> cases done <;> rfl
    rw [nothing, List.append_nil] at whole ⊢
    exact ⟨scope, reports, rfl, granted, consulted, whole⟩

/-- A load that meets a malformed credential answers with the first such error, and the providers
behind are not asked. -/
theorem Inquiry.exists_stop (inquiry : Inquiry source resource scope reports answer)
    (met : ∃ report ∈ reports, report.isInvalid = true) :
    ∃ earlier last rest error, reports = earlier ++ [last] ∧
      source.providers = earlier.map Report.provider ++ last.provider :: rest ∧
      (∀ report ∈ earlier, report.isInvalid = false) ∧ last.answer = .error error ∧
      error.isInvalid = true ∧ answer = .error error := by
  obtain ⟨earlier, last, rest, rfl, same, valid, invalid⟩ := inquiry.consulted.exists_stop met
  obtain ⟨error, said, malformed⟩ := Report.isInvalid_iff.1 invalid
  refine ⟨earlier, last, rest, error, rfl, same, valid, said, malformed, ?_⟩
  rw [inquiry.answer_eq, tally_of_invalid valid said malformed]
  rfl

/-- The answer of a load that meets no malformed credential. -/
theorem Inquiry.answer_of_valid (inquiry : Inquiry source resource scope reports answer)
    (valid : ∀ report ∈ reports, report.isInvalid = false) :
    answer = Collection.verdict
      ⟨reports.filterMap Report.credential?, reports.findSome? Report.failure?⟩
      source.providers.length resource := by
  rw [inquiry.answer_eq, tally_of_valid valid]
  simp [Collection.empty, Except.bind]

end Inquiries

end StorageBroker
