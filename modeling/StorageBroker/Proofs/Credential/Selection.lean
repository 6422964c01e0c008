import Mathlib.Logic.Relation
import StorageBroker.Credential.Selection

/-!
# The law of selection

Two sorts of candidates count for a backend, its tokens and its secret keys, and every kind of the
backend is one of the two (`Kind.backend_eq_iff`). What is selected is the first of the tokens followed
by the secret keys (`Backend.select_eq_head?`).

So it is the candidate at the smallest index whose kind is the kind of tokens, and without one the
candidate at the smallest index whose kind is the kind of secret keys; and nothing is selected if and
only if no candidate belongs to the backend. Candidates of other backends and the places of the secret
keys among the tokens make no difference: a change to these (`Backend.Shift`) leaves the tokens and the
secret keys as they stand (`Backend.Shift.tokens_eq`, `Backend.Shift.secretKeys_eq`), and so does any
number of such changes.
-/

set_option autoImplicit false

namespace StorageBroker

/-- A kind belongs to a backend if it is its kind of tokens or its kind of secret keys. -/
theorem Kind.backend_eq_iff {kind : Kind} {backend : Backend} :
    kind.backend = backend ↔ kind = backend.tokenKind ∨ some kind = backend.secretKeyKind? := by
  constructor
  · rintro rfl
    cases kind with
    | s3Token | gcsToken | ossToken => exact .inl rfl
    | s3SecretKey | ossSecretKey => exact .inr rfl
  · rintro (rfl | has)
    · exact Kind.backend_tokenKind backend
    · exact Kind.backend_of_secretKeyKind? has.symm

/-- Secret keys are not tokens. -/
theorem Kind.isToken_of_secretKeyKind? {kind : Kind} {backend : Backend}
    (has : backend.secretKeyKind? = some kind) : kind.isToken = false := by
  cases backend <;> cases has <;> rfl

/-! ## The first of some candidates -/

/-- A candidate stands at the smallest index at which there is a wanted one. -/
def Credential.StandsFirst (wanted : Credential → Prop) (candidates : List Credential)
    (credential : Credential) : Prop :=
  ∃ index : Nat, candidates[index]? = some credential ∧ wanted credential ∧
    ∀ (earlier : Nat) (other : Credential), earlier < index → candidates[earlier]? = some other →
      ¬ wanted other

namespace Credential

variable {kind : Kind} {candidates : List Credential} {credential : Credential}

theorem firstOf_eq_some_iff : firstOf kind candidates = some credential ↔
    StandsFirst (fun other => other.kind = kind) candidates credential := by
  rw [firstOf, List.find?_eq_some_iff_getElem]
  constructor
  · rintro ⟨wanted, index, inside, rfl, earlier⟩
    refine ⟨index, List.getElem?_eq_getElem inside, beq_iff_eq.1 wanted, ?_⟩
    intro before other less found same
    obtain ⟨_, rfl⟩ := List.getElem?_eq_some_iff.1 found
    simpa [same] using earlier before less
  · rintro ⟨index, found, wanted, earlier⟩
    obtain ⟨inside, rfl⟩ := List.getElem?_eq_some_iff.1 found
    refine ⟨beq_iff_eq.2 wanted, index, inside, rfl, ?_⟩
    intro before less
    simpa using earlier before _ less (List.getElem?_eq_getElem (Nat.lt_trans less inside))

theorem firstOf_eq_none_iff : firstOf kind candidates = none ↔
    ∀ other ∈ candidates, other.kind ≠ kind := by
  simp [firstOf]

end Credential

namespace Backend

variable {backend : Backend} {candidates others more : List Credential} {credential : Credential}

/-! ## What counts for a backend -/

/-- The tokens of a backend among candidates, in their order. -/
def tokens (backend : Backend) (candidates : List Credential) : List Credential :=
  candidates.filter fun candidate => candidate.kind == backend.tokenKind

/-- The secret keys of a backend among candidates, in their order. -/
def secretKeys (backend : Backend) (candidates : List Credential) : List Credential :=
  candidates.filter fun candidate => some candidate.kind == backend.secretKeyKind?

theorem head?_secretKeys (backend : Backend) (candidates : List Credential) :
    (backend.secretKeys candidates).head? =
      backend.secretKeyKind?.bind fun kind => Credential.firstOf kind candidates := by
  rw [secretKeys, List.head?_filter]
  cases backend.secretKeyKind? with
  | none => simp
  | some kind => simp [Credential.firstOf]

/-- The first secret key stands at the smallest index at which there is one. -/
theorem firstSecretKey_eq_some_iff :
    (backend.secretKeyKind?.bind fun kind => Credential.firstOf kind candidates) =
        some credential ↔
      Credential.StandsFirst (fun other => some other.kind = backend.secretKeyKind?) candidates
        credential := by
  cases backend.secretKeyKind? with
  | none => simp [Credential.StandsFirst]
  | some kind =>
    simp only [Option.bind_some, Credential.firstOf_eq_some_iff, Option.some.injEq]

/-- **What is selected is the first of the tokens followed by the secret keys.** -/
theorem select_eq_head? (backend : Backend) (candidates : List Credential) :
    backend.select candidates =
      (backend.tokens candidates ++ backend.secretKeys candidates).head? := by
  have first : (backend.tokens candidates).head? =
      Credential.firstOf backend.tokenKind candidates :=
    List.head?_filter ..
  rw [List.head?_append, first, head?_secretKeys, select]
  cases Credential.firstOf backend.tokenKind candidates <;> rfl

/-- Nothing is selected if and only if no candidate belongs to the backend. -/
theorem select_eq_none_iff : backend.select candidates = none ↔
    ∀ other ∈ candidates, other.kind.backend ≠ backend := by
  rw [select_eq_head?, List.head?_eq_none_iff, List.append_eq_nil_iff, tokens, secretKeys,
    List.filter_eq_nil_iff, List.filter_eq_nil_iff]
  simp only [beq_iff_eq, ne_eq, Kind.backend_eq_iff, not_or, imp_and, forall_and]

/-- A candidate is selected if and only if it is the first token, or the first secret key where there
is no token. -/
theorem select_eq_some_iff : backend.select candidates = some credential ↔
    Credential.StandsFirst (fun other => other.kind = backend.tokenKind) candidates credential ∨
      (∀ other ∈ candidates, other.kind ≠ backend.tokenKind) ∧
        Credential.StandsFirst (fun other => some other.kind = backend.secretKeyKind?) candidates
          credential := by
  rw [← Credential.firstOf_eq_some_iff, ← Credential.firstOf_eq_none_iff,
    ← firstSecretKey_eq_some_iff, select]
  cases Credential.firstOf backend.tokenKind candidates with
  | some token => simp
  | none => simp

/-- A token that is selected stays so, whatever candidates follow. -/
theorem select_append_of_token (selects : backend.select candidates = some credential)
    (isToken : credential.kind.isToken = true) (more : List Credential) :
    backend.select (candidates ++ more) = some credential := by
  have first : Credential.firstOf backend.tokenKind candidates = some credential := by
    rw [select] at selects
    split at selects
    · next found => exact found.trans selects
    · obtain ⟨kind, has, found⟩ := Option.bind_eq_some_iff.1 selects
      obtain ⟨-, rfl⟩ := Credential.of_firstOf found
      cases isToken.symm.trans (Kind.isToken_of_secretKeyKind? has)
  rw [select, Credential.firstOf, List.find?_append, ← Credential.firstOf, first]
  rfl

/-- Only the tokens count, and where there is none only the secret keys. -/
theorem select_eq_of_same (tokens : backend.tokens others = backend.tokens candidates)
    (secretKeys : backend.tokens candidates = [] →
      backend.secretKeys others = backend.secretKeys candidates) :
    backend.select others = backend.select candidates := by
  rw [select_eq_head?, select_eq_head?, tokens]
  cases some : backend.tokens candidates with
  | nil => rw [secretKeys some]
  | cons token rest => rfl

/-! ## Changes that make no difference -/

/-- A change to candidates that makes no difference to a backend: a candidate of another backend comes
in or passes the next one, or a secret key passes the token next to it. -/
inductive Shift (backend : Backend) : List Credential → List Credential → Prop where
  | insertion {before after : List Credential} {foreign : Credential}
      (elsewhere : foreign.kind.backend ≠ backend) :
      Shift backend (before ++ after) (before ++ foreign :: after)
  | reordering {before after : List Credential} {foreign other : Credential}
      (elsewhere : foreign.kind.backend ≠ backend) :
      Shift backend (before ++ foreign :: other :: after) (before ++ other :: foreign :: after)
  | passing {before after : List Credential} {key token : Credential}
      (isKey : key.kind.isToken = false) (isToken : token.kind.isToken = true) :
      Shift backend (before ++ key :: token :: after) (before ++ token :: key :: after)

/-- Any number of changes that make no difference, forth and back. -/
abbrev Rearranged (backend : Backend) : List Credential → List Credential → Prop :=
  Relation.EqvGen backend.Shift

/-- A change leaves candidates as they stand that are all of one kind of the backend. -/
theorem Shift.filter_eq {counts : Credential → Bool} (shift : backend.Shift candidates others)
    (belongs : ∀ candidate, counts candidate = true → candidate.kind.backend = backend)
    (alike : ∀ first second, counts first = true → counts second = true →
      first.kind = second.kind) :
    others.filter counts = candidates.filter counts := by
  have skips {foreign : Credential} (elsewhere : foreign.kind.backend ≠ backend) :
      counts foreign = false :=
    Bool.eq_false_iff.2 fun counted => elsewhere (belongs foreign counted)
  cases shift with
  | insertion elsewhere => simp [skips elsewhere]
  | reordering elsewhere => simp [List.filter_cons, skips elsewhere]
  | @passing before after key token isKey isToken =>
    have apart : counts key = false ∨ counts token = false := by
      cases counted : counts key with
      | false => exact .inl rfl
      | true =>
        refine .inr (Bool.eq_false_iff.2 fun countedToo => ?_)
        rw [alike key token counted countedToo, isToken] at isKey
        cases isKey
    rcases apart with skipped | skipped <;> simp [List.filter_cons, skipped]

theorem Shift.tokens_eq (shift : backend.Shift candidates others) :
    backend.tokens others = backend.tokens candidates := by
  refine shift.filter_eq ?_ ?_
  · intro candidate counted
    exact Kind.backend_eq_iff.2 (.inl (beq_iff_eq.1 counted))
  · intro first second counted countedToo
    exact (beq_iff_eq.1 counted).trans (beq_iff_eq.1 countedToo).symm

theorem Shift.secretKeys_eq (shift : backend.Shift candidates others) :
    backend.secretKeys others = backend.secretKeys candidates := by
  refine shift.filter_eq ?_ ?_
  · intro candidate counted
    exact Kind.backend_eq_iff.2 (.inr (beq_iff_eq.1 counted))
  · intro first second counted countedToo
    exact Option.some.inj ((beq_iff_eq.1 counted).trans (beq_iff_eq.1 countedToo).symm)

/-- **Rearranged candidates have the same tokens and the same secret keys**, each in their order. -/
theorem same_of_rearranged (rearranged : backend.Rearranged candidates others) :
    backend.tokens others = backend.tokens candidates ∧
      backend.secretKeys others = backend.secretKeys candidates := by
  induction rearranged with
  | rel _ _ shift => exact ⟨shift.tokens_eq, shift.secretKeys_eq⟩
  | refl _ => exact ⟨rfl, rfl⟩
  | symm _ _ _ ih => exact ⟨ih.1.symm, ih.2.symm⟩
  | trans _ _ _ _ _ first second => exact ⟨second.1.trans first.1, second.2.trans first.2⟩

/-! ## The law -/

/-- **The law of selection.** For every backend and all candidates:

* A candidate is selected if and only if it stands at the smallest index whose kind is the kind of
  tokens of the backend, or there is none of this kind and it stands at the smallest index whose kind
  is its kind of secret keys.
* Nothing is selected if and only if no candidate belongs to the backend.
* Rearranging candidates of other backends, putting some in or taking some out, and moving secret keys
  past tokens does not change what is selected. Nor does anything that leaves the tokens as they
  stand, as long as there is one.
* A token that is selected stays so, whatever candidates follow. -/
theorem selection_law (backend : Backend) (candidates : List Credential) :
    (∀ credential, backend.select candidates = some credential ↔
      Credential.StandsFirst (fun other => other.kind = backend.tokenKind) candidates credential ∨
        (∀ other ∈ candidates, other.kind ≠ backend.tokenKind) ∧
          Credential.StandsFirst (fun other => some other.kind = backend.secretKeyKind?) candidates
            credential) ∧
    (backend.select candidates = none ↔ ∀ other ∈ candidates, other.kind.backend ≠ backend) ∧
    (∀ others, backend.Rearranged candidates others →
      backend.select others = backend.select candidates) ∧
    (∀ others, backend.tokens others = backend.tokens candidates →
      backend.tokens candidates ≠ [] → backend.select others = backend.select candidates) ∧
    (∀ credential, backend.select candidates = some credential → credential.kind.isToken = true →
      ∀ more, backend.select (candidates ++ more) = backend.select candidates) := by
  refine ⟨fun _ => select_eq_some_iff, select_eq_none_iff, ?_, ?_, ?_⟩
  · intro others rearranged
    obtain ⟨tokens, secretKeys⟩ := same_of_rearranged rearranged
    exact select_eq_of_same tokens fun _ => secretKeys
  · intro others tokens some
    exact select_eq_of_same tokens fun none => absurd none some
  · intro credential selects isToken more
    rw [select_append_of_token selects isToken, selects]

/-- A secret key, for mixed candidates. -/
def mixedKey : Credential := .s3SecretKey ⟨⟨"key", by decide⟩, ⟨"mixed", by decide⟩⟩

/-- A token of the same backend, by the key id that it has. -/
def mixedToken (id : String) (filled : Text.isBlank id = false) : Credential :=
  .s3Token ⟨⟨id, filled⟩, ⟨"mixed", by decide⟩⟩ ⟨"grant", by decide⟩ ⟨901, by decide⟩

/-- A token of another backend. -/
def mixedForeign : Credential := .gcsToken ⟨"foreign", by decide⟩ ⟨901, by decide⟩

/-- Candidates of several kinds, of which the last one is selected. -/
def mixed : List Credential := [mixedForeign, mixedKey, mixedToken "one" (by decide)]

/-- The foreign candidate may go and the token come to the front, and another token may follow; nor does
it matter that the secret key goes too. -/
theorem selection_law_mixed :
    s3.Rearranged mixed [mixedToken "one" (by decide), mixedKey] ∧
      s3.select [mixedToken "one" (by decide), mixedKey] = s3.select mixed ∧
      s3.select [mixedToken "one" (by decide)] = s3.select mixed ∧
      s3.select mixed = some (mixedToken "one" (by decide)) ∧
      s3.select (mixed ++ [mixedToken "two" (by decide)]) = s3.select mixed ∧
      oss.select mixed = none := by
  obtain ⟨-, -, rearranging, keepingTokens, appending⟩ := selection_law s3 mixed
  have foreign : s3.Shift ([] ++ [mixedKey, mixedToken "one" (by decide)]) ([] ++ mixed) :=
    .insertion (by decide)
  have passing : s3.Shift ([] ++ [mixedKey, mixedToken "one" (by decide)])
      ([] ++ [mixedToken "one" (by decide), mixedKey]) :=
    .passing rfl rfl
  have rearranged : s3.Rearranged mixed [mixedToken "one" (by decide), mixedKey] :=
    .trans _ _ _ (.symm _ _ (.rel _ _ foreign)) (.rel _ _ passing)
  have selects : s3.select mixed = some (mixedToken "one" (by decide)) := by decide
  refine ⟨rearranged, rearranging _ rearranged, ?_, selects, ?_, ?_⟩
  · exact keepingTokens _ (by decide) (by decide)
  · exact appending _ selects rfl _
  · exact (selection_law oss mixed).2.1.2 (by decide)

end Backend

end StorageBroker
