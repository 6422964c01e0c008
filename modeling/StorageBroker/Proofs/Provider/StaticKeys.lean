import StorageBroker.Proofs.Provider.Setup

/-!
# The secret keys of a configuration

Secret keys are read from properties in two places. A provider of secret keys requires both of them; for
the fallback of a backend they are both required as soon as one is given. What is read is checked once
more when the keys are made of it, which cannot fail any more (`KeyStore.check_filled`).

The two agree. Reading the keys comes to the texts as they stand (`KeyStore.readKeys_eq_ok_iff`), or to
the first of the two that is missing or blank (`KeyStore.readKeys_eq_error_iff`). If one of the keys is
given the fallback is what reading them comes to (`KeyStore.staticFallback_of_given`), and so is what the
provider hands out until it is closed.
-/

set_option autoImplicit false

namespace StorageBroker

variable {properties left right : Properties} {key : String} {error : CredentialError}

/-- What is said of a required property is a fault of the configuration. -/
theorem Lacking.category {text : Option String} (lacking : Lacking key text error) :
    error.category = .config := by
  cases lacking <;> rfl

/-- A property is required of its own text only. -/
theorem requiredProperty_congr (same : left.get? key = right.get? key) :
    requiredProperty left key = requiredProperty right key := by
  unfold requiredProperty
  rw [same]

namespace KeyStore

variable {store : KeyStore} {keys : KeyPair}

/-- One of the keys is given among properties. -/
def Given (store : KeyStore) (properties : Properties) : Prop :=
  properties.get? store.accessKeyId.key ≠ none ∨ properties.get? store.secretAccessKey.key ≠ none

/-- What an error says of the first key that is missing or blank. -/
inductive FirstLacking (store : KeyStore) (text? : String → Option String) :
    CredentialError → Prop where
  | accessKeyId {error : CredentialError}
      (lacking : Lacking store.accessKeyId.key (text? store.accessKeyId.key) error) :
      FirstLacking store text? error
  | secretAccessKey {error : CredentialError} {filled : FilledText}
      (found : text? store.accessKeyId.key = some filled.text)
      (lacking : Lacking store.secretAccessKey.key (text? store.secretAccessKey.key) error) :
      FirstLacking store text? error

theorem FirstLacking.category {text? : String → Option String}
    (first : store.FirstLacking text? error) : error.category = .config := by
  cases first with
  | accessKeyId lacking => exact lacking.category
  | secretAccessKey _ lacking => exact lacking.category

/-! ## Reading the keys -/

/-- **The keys that are read are the texts as they stand.** -/
theorem readKeys_eq_ok_iff : store.readKeys properties = .ok keys ↔
    properties.get? store.accessKeyId.key = some keys.accessKeyId.text ∧
      properties.get? store.secretAccessKey.key = some keys.secretAccessKey.text := by
  simp only [readKeys, check_filled, bind_eq_ok_iff, requiredProperty_eq_ok_iff, Except.ok.injEq]
  constructor
  · rintro ⟨accessKeyId, first, secretAccessKey, second, rfl⟩
    exact ⟨first, second⟩
  · rintro ⟨first, second⟩
    exact ⟨keys.accessKeyId, first, keys.secretAccessKey, second, rfl⟩

/-- **The keys are refused for the first one that is missing or blank.** -/
theorem readKeys_eq_error_iff : store.readKeys properties = .error error ↔
    store.FirstLacking properties.get? error := by
  simp only [readKeys, check_filled, bind_eq_error_iff, requiredProperty_eq_error_iff,
    requiredProperty_eq_ok_iff, reduceCtorEq, and_false, exists_false, or_false]
  constructor
  · rintro (first | ⟨accessKeyId, found, second⟩)
    · exact .accessKeyId first
    · exact .secretAccessKey found second
  · rintro (first | ⟨found, second⟩)
    · exact .inl first
    · exact .inr ⟨_, found, second⟩

theorem readKeys_congr (accessKeyId : left.get? store.accessKeyId.key = right.get? store.accessKeyId.key)
    (secretAccessKey :
      left.get? store.secretAccessKey.key = right.get? store.secretAccessKey.key) :
    store.readKeys left = store.readKeys right := by
  unfold readKeys
  rw [requiredProperty_congr accessKeyId, requiredProperty_congr secretAccessKey]

/-- The keys that are read are given. -/
theorem given_of_readKeys (read : store.readKeys properties = .ok keys) : store.Given properties := by
  left
  rw [(readKeys_eq_ok_iff.1 read).1]
  exact Option.some_ne_none _

/-- Keys make a credential of their kind, with the texts as they are. -/
theorem attributes_credential (store : KeyStore) (keys : KeyPair) :
    (store.credential keys).attributes =
      [(store.accessKeyId, keys.accessKeyId.text), (store.secretAccessKey, keys.secretAccessKey.text)] := by
  cases store <;> rfl

/-! ## The fallback -/

theorem keyStore?_backend (store : KeyStore) : store.backend.keyStore? = some store := by
  cases store <;> rfl

theorem not_given_iff : (!properties.contains store.accessKeyId.key &&
      !properties.contains store.secretAccessKey.key) = true ↔ ¬ store.Given properties := by
  simp [Given, Keyed.contains]

/-- There is no fallback where neither key is given. -/
theorem staticFallback_of_not_given (nothing : ¬ store.Given properties) :
    staticFallback store.backend properties = .ok none := by
  rw [staticFallback_eq, keyStore?_backend]
  exact if_pos (not_given_iff.2 nothing)

/-- **The fallback is what reading the keys comes to**, if one of them is given. -/
theorem staticFallback_of_given (given : store.Given properties) :
    staticFallback store.backend properties =
      (store.readKeys properties).map fun keys => some (store.credential keys) := by
  rw [staticFallback_eq, keyStore?_backend]
  exact if_neg fun neither => not_given_iff.1 neither given

theorem staticFallback_eq_none_iff : staticFallback store.backend properties = .ok none ↔
    properties.get? store.accessKeyId.key = none ∧
      properties.get? store.secretAccessKey.key = none := by
  have neither : (properties.get? store.accessKeyId.key = none ∧
      properties.get? store.secretAccessKey.key = none) ↔ ¬ store.Given properties := by
    simp [Given]
  rw [neither]
  constructor
  · intro nothing given
    rw [staticFallback_of_given given, map_eq_ok_iff] at nothing
    obtain ⟨keys, -, same⟩ := nothing
    cases same
  · exact staticFallback_of_not_given

theorem staticFallback_eq_some_iff {credential : Credential} :
    staticFallback store.backend properties = .ok (some credential) ↔
      ∃ keys, store.readKeys properties = .ok keys ∧ store.credential keys = credential := by
  by_cases given : store.Given properties
  · rw [staticFallback_of_given given, map_eq_ok_iff]
    simp only [Option.some.injEq]
  · rw [staticFallback_of_not_given given]
    constructor
    · rintro ⟨⟩
    · rintro ⟨keys, read, -⟩
      exact absurd (given_of_readKeys read) given

theorem staticFallback_eq_error_iff : staticFallback store.backend properties = .error error ↔
    store.Given properties ∧ store.FirstLacking properties.get? error := by
  by_cases given : store.Given properties
  · rw [staticFallback_of_given given, map_eq_error_iff, readKeys_eq_error_iff]
    simp only [given, true_and]
  · rw [staticFallback_of_not_given given]
    simp only [given, false_and, reduceCtorEq]

end KeyStore

/-- Only the keys of the backend are looked at for the fallback. -/
theorem staticFallback_congr {backend : Backend}
    (same : ∀ store, backend.keyStore? = some store →
      left.get? store.accessKeyId.key = right.get? store.accessKeyId.key ∧
        left.get? store.secretAccessKey.key = right.get? store.secretAccessKey.key) :
    staticFallback backend left = staticFallback backend right := by
  rw [staticFallback_eq, staticFallback_eq]
  cases has : backend.keyStore? with
  | none => rfl
  | some store =>
    obtain ⟨accessKeyId, secretAccessKey⟩ := same store has
    dsimp only
    rw [Keyed.contains, Keyed.contains, Keyed.contains, Keyed.contains, accessKeyId, secretAccessKey,
      KeyStore.readKeys_congr accessKeyId secretAccessKey]

/-! ## The provider -/

namespace KeyStore

variable {store : KeyStore}

theorem ofKeyStore_eq_ok_iff {provider : Provider} :
    Provider.ofKeyStore store properties = .ok provider ↔
      ∃ keys, store.readKeys properties = .ok keys ∧ .secretKeys store keys false = provider :=
  map_eq_ok_iff

theorem ofKeyStore_eq_error_iff : Provider.ofKeyStore store properties = .error error ↔
    store.FirstLacking properties.get? error := by
  rw [Provider.ofKeyStore, map_eq_error_iff, readKeys_eq_error_iff]

/-- The fallback and the provider of secret keys agree on properties. -/
structure Agreement (store : KeyStore) (properties : Properties) : Prop where
  succeed : (∃ credential, staticFallback store.backend properties = .ok (some credential)) ↔
    ∃ provider, Provider.ofKeyStore store properties = .ok provider
  /-- The provider hands out the fallback for every scope. -/
  same : ∀ credential provider,
    staticFallback store.backend properties = .ok (some credential) →
    Provider.ofKeyStore store properties = .ok provider →
      ∀ scope, provider.credential scope = .done (.ok credential)
  /-- The values are what stands under the keys. -/
  values : ∀ credential, staticFallback store.backend properties = .ok (some credential) →
    ∃ accessKeyId secretAccessKey,
      properties.get? store.accessKeyId.key = some accessKeyId ∧
      properties.get? store.secretAccessKey.key = some secretAccessKey ∧
      credential.attributes =
        [(store.accessKeyId, accessKeyId), (store.secretAccessKey, secretAccessKey)]
  fail : ∀ error, staticFallback store.backend properties = .error error ↔
    Provider.ofKeyStore store properties = .error error

/-- **The fallback and the provider agree**, if one of the keys is given. -/
theorem agreement_of_given (given : store.Given properties) : Agreement store properties where
  succeed := by
    simp only [staticFallback_eq_some_iff, ofKeyStore_eq_ok_iff]
    constructor
    · rintro ⟨_, keys, read, -⟩
      exact ⟨_, keys, read, rfl⟩
    · rintro ⟨_, keys, read, -⟩
      exact ⟨_, keys, read, rfl⟩
  same := by
    intro credential provider fallback made scope
    obtain ⟨keys, read, rfl⟩ := staticFallback_eq_some_iff.1 fallback
    obtain ⟨others, readToo, rfl⟩ := ofKeyStore_eq_ok_iff.1 made
    cases read.symm.trans readToo
    rfl
  values := by
    intro credential fallback
    obtain ⟨keys, read, rfl⟩ := staticFallback_eq_some_iff.1 fallback
    obtain ⟨accessKeyId, secretAccessKey⟩ := readKeys_eq_ok_iff.1 read
    exact ⟨_, _, accessKeyId, secretAccessKey, store.attributes_credential keys⟩
  fail := by
    intro error
    rw [staticFallback_eq_error_iff, ofKeyStore_eq_error_iff]
    simp only [given, true_and]

/-- **The fallback and the provider of secret keys agree.** For every collection of properties:

* There is no fallback if and only if neither of the two keys of the backend is present.
* If one of them is, the fallback can be made if and only if the provider can; it is then what the
  provider hands out until it is closed, with the values as they stand; and if they fail they fail with
  the same error.
* An error of either is a fault of the configuration, about the first of the keys that is missing or
  blank, and never about a malformed credential.
* A backend without secret keys has no fallback.
* Only the keys of the backend matter, to either. -/
theorem static_keys_agree :
    (∀ (store : KeyStore) (properties : Properties),
      (staticFallback store.backend properties = .ok none ↔
        properties.get? store.accessKeyId.key = none ∧
          properties.get? store.secretAccessKey.key = none) ∧
      (store.Given properties → Agreement store properties) ∧
      ∀ error, staticFallback store.backend properties = .error error ∨
          Provider.ofKeyStore store properties = .error error →
        store.FirstLacking properties.get? error ∧ error.category = .config ∧
          error.isInvalid = false) ∧
    (∀ properties, staticFallback .gcs properties = .ok none) ∧
    ∀ (store : KeyStore) (left right : Properties),
      left.get? store.accessKeyId.key = right.get? store.accessKeyId.key →
      left.get? store.secretAccessKey.key = right.get? store.secretAccessKey.key →
        staticFallback store.backend left = staticFallback store.backend right ∧
          Provider.ofKeyStore store left = Provider.ofKeyStore store right := by
  refine ⟨?_, fun _ => rfl, ?_⟩
  · intro store properties
    refine ⟨staticFallback_eq_none_iff, agreement_of_given, ?_⟩
    intro error failed
    have first : store.FirstLacking properties.get? error := by
      rcases failed with fallback | provider
      · exact (staticFallback_eq_error_iff.1 fallback).2
      · exact ofKeyStore_eq_error_iff.1 provider
    refine ⟨first, first.category, ?_⟩
    rw [CredentialError.isInvalid, first.category]
    rfl
  · intro store left right accessKeyId secretAccessKey
    refine ⟨staticFallback_congr ?_, ?_⟩
    · intro other has
      rw [keyStore?_backend, Option.some.injEq] at has
      subst has
      exact ⟨accessKeyId, secretAccessKey⟩
    · rw [Provider.ofKeyStore, Provider.ofKeyStore, readKeys_congr accessKeyId secretAccessKey]

/-- Keys of one backend, with space around the id, and a blank key of another one. -/
def paddedKeys : Properties :=
  Keyed.ofList [("oss-access-key-id", " id "), ("s3-access-key-id", ""),
    ("oss-secret-access-key", "padded")]

/-- Keys of which the secret is blank. -/
def blankSecret : Properties :=
  Keyed.ofList [("oss-access-key-id", "id"), ("oss-secret-access-key", " ")]

/-- The credential of the padded keys. -/
def paddedCredential : Credential :=
  .ossSecretKey ⟨⟨" id ", by decide⟩, ⟨"padded", by decide⟩⟩

/-- The space is kept, the key of the other backend does not matter, and a blank secret is the same
fault in both places. -/
theorem static_keys_agree_padded :
    staticFallback .oss paddedKeys = .ok (some paddedCredential) ∧
      (∃ provider, Provider.ofKeyStore .oss paddedKeys = .ok provider ∧
        ∀ scope, provider.credential scope = .done (.ok paddedCredential)) ∧
      staticFallback .oss (paddedKeys.erase "s3-access-key-id") = staticFallback .oss paddedKeys ∧
      staticFallback .oss blankSecret = .error (.blankProperty "oss-secret-access-key") ∧
      Provider.ofKeyStore .oss blankSecret = .error (.blankProperty "oss-secret-access-key") ∧
      (CredentialError.blankProperty "oss-secret-access-key").isInvalid = false := by
  obtain ⟨agree, -, own⟩ := static_keys_agree
  have fallback : staticFallback .oss paddedKeys = .ok (some paddedCredential) := by rfl
  have refused : staticFallback .oss blankSecret =
      .error (.blankProperty "oss-secret-access-key") := by rfl
  have padded : Agreement .oss paddedKeys := (agree .oss paddedKeys).2.1 (.inl (by decide))
  have blank : Agreement .oss blankSecret := (agree .oss blankSecret).2.1 (.inl (by decide))
  obtain ⟨provider, made⟩ := padded.succeed.1 ⟨_, fallback⟩
  refine ⟨fallback, ⟨provider, made, padded.same _ _ fallback made⟩, ?_, refused,
    (blank.fail _).1 refused, ((agree .oss blankSecret).2.2 _ (.inl refused)).2.2⟩
  exact (own .oss _ _ (by decide) (by decide)).1

end KeyStore

end StorageBroker
