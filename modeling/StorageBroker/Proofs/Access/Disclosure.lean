import StorageBroker.Access.ConfigValue
import StorageBroker.Access.Sink
import StorageBroker.Proofs.Json.Integer
import StorageBroker.Proofs.Text.Quoted
import StorageBroker.Provider.Basic

/-!
# What records disclose

The record of a value with secrets shows what is open about the value (`Text.Discloses`). Whatever the
layout is, two values with the same open parts are shown alike, so a record bears no trace of the
secrets, not even of their length. On one line the open parts can be read off the record, so nothing
else is hidden.

For credentials the open parts are the kind, the key id and the expiry (`Credential.discloses`).
Configured values show the variable that they name, providers of secret keys the key id and whether they
are closed, issued tokens the key id and the expiry. What clients take shows its expiry, and for keys the
key id and whether there is a session token.
-/

set_option autoImplicit false

namespace StorageBroker

open Text
open Text.Layout (oneLine variant_inj optional_inj parted_optional)

/-- Records of values disclose what the values have in common by a relation: in every layout, values
with this in common are shown alike, and on one line no others are. -/
structure Text.Discloses {α : Type} (inspectIn : Layout → α → String) (common : α → α → Prop) :
    Prop where
  hides : ∀ layout left right, common left right → inspectIn layout left = inspectIn layout right
  tells : ∀ left right, inspectIn .oneLine left = inspectIn .oneLine right → common left right

/-! ## Values of fields -/

theorem eq_of_field {label left right : String} {fields others : List (String × String)}
    (same : (label, quote left) :: fields = (label, quote right) :: others) : left = right :=
  quote_inj.1 (congrArg Prod.snd (List.cons.inj same).1)

theorem truth_inj {left right : Bool} (same : oneLine.truth left = oneLine.truth right) :
    left = right := by
  cases left <;> cases right
  · rfl
  · exact absurd same (by decide)
  · exact absurd same (by decide)
  · rfl

theorem number_inj {left right : Int64}
    (same : oneLine.number left.toInt = oneLine.number right.toInt) : left = right :=
  Int64.toInt_inj.1 (Json.Numeral.eq_of_toString same)

/-! ## Credentials -/

namespace Credential

variable {left right : Credential} {keys keysToo : KeyPair} {expiry expiryToo : Expiry}
  {name label : String} {layout : Layout}

/-- The key id of a credential, if its kind has one. -/
def accessKeyId? : Credential → Option String
  | .s3SecretKey keys | .s3Token keys _ _ | .ossSecretKey keys | .ossToken keys _ _ =>
    some keys.accessKeyId.text
  | .gcsToken _ _ => none

/-- Two credentials of one kind, part by part. -/
inductive SameKind : Credential → Credential → Prop
  | s3SecretKey (keys keysToo : KeyPair) : SameKind (.s3SecretKey keys) (.s3SecretKey keysToo)
  | s3Token (keys keysToo : KeyPair) (token tokenToo : FilledText) (expiry expiryToo : Expiry) :
      SameKind (.s3Token keys token expiry) (.s3Token keysToo tokenToo expiryToo)
  | gcsToken (token tokenToo : FilledText) (expiry expiryToo : Expiry) :
      SameKind (.gcsToken token expiry) (.gcsToken tokenToo expiryToo)
  | ossSecretKey (keys keysToo : KeyPair) : SameKind (.ossSecretKey keys) (.ossSecretKey keysToo)
  | ossToken (keys keysToo : KeyPair) (token tokenToo : FilledText) (expiry expiryToo : Expiry) :
      SameKind (.ossToken keys token expiry) (.ossToken keysToo tokenToo expiryToo)

theorem sameKind_of_kind_eq (kind : left.kind = right.kind) : SameKind left right := by
  cases left with
  | s3SecretKey keys =>
    cases right with
    | s3SecretKey keysToo => exact .s3SecretKey keys keysToo
    | s3Token _ _ _ | gcsToken _ _ | ossSecretKey _ | ossToken _ _ _ => cases kind
  | s3Token keys token expiry =>
    cases right with
    | s3Token keysToo tokenToo expiryToo =>
      exact .s3Token keys keysToo token tokenToo expiry expiryToo
    | s3SecretKey _ | gcsToken _ _ | ossSecretKey _ | ossToken _ _ _ => cases kind
  | gcsToken token expiry =>
    cases right with
    | gcsToken tokenToo expiryToo => exact .gcsToken token tokenToo expiry expiryToo
    | s3SecretKey _ | s3Token _ _ _ | ossSecretKey _ | ossToken _ _ _ => cases kind
  | ossSecretKey keys =>
    cases right with
    | ossSecretKey keysToo => exact .ossSecretKey keys keysToo
    | s3SecretKey _ | s3Token _ _ _ | gcsToken _ _ | ossToken _ _ _ => cases kind
  | ossToken keys token expiry =>
    cases right with
    | ossToken keysToo tokenToo expiryToo =>
      exact .ossToken keys keysToo token tokenToo expiry expiryToo
    | s3SecretKey _ | s3Token _ _ _ | gcsToken _ _ | ossSecretKey _ => cases kind

theorem keyFields_congr (id : keys.accessKeyId.text = keysToo.accessKeyId.text) :
    keyFields layout keys = keyFields layout keysToo := by
  rw [keyFields, keyFields, id]

theorem expiryField_congr (same : expiry.milliseconds = expiryToo.milliseconds) :
    expiryField layout expiry = expiryField layout expiryToo := by
  rw [expiryField, expiryField, same]

/-- The fields of a credential depend on its kind, its key id and its expiry. -/
theorem fieldsIn_congr (kind : left.kind = right.kind)
    (id : left.accessKeyId? = right.accessKeyId?)
    (expires : left.expiryMillis = right.expiryMillis) :
    left.fieldsIn layout = right.fieldsIn layout := by
  cases sameKind_of_kind_eq kind with
  | s3SecretKey keys keysToo => exact keyFields_congr (Option.some.inj id)
  | s3Token keys keysToo token tokenToo expiry expiryToo =>
    rw [fieldsIn, fieldsIn, keyFields_congr (Option.some.inj id), expiryField_congr expires]
  | gcsToken token tokenToo expiry expiryToo =>
    rw [fieldsIn, fieldsIn, expiryField_congr expires]
  | ossSecretKey keys keysToo => exact keyFields_congr (Option.some.inj id)
  | ossToken keys keysToo token tokenToo expiry expiryToo =>
    rw [fieldsIn, fieldsIn, keyFields_congr (Option.some.inj id), expiryField_congr expires]

/-- The record of a key pair tells the key id. -/
theorem eq_of_keyRecord
    (same : record name (keyFields oneLine keys) .complete =
      record name (keyFields oneLine keysToo) .complete) :
    keys.accessKeyId.text = keysToo.accessKeyId.text := by
  have aligned := aligned_quote "access_key_id" keys.accessKeyId.text keysToo.accessKeyId.text
  exact eq_of_field (record_inj aligned same).1

/-- The record of a session tells the key id and the expiry. -/
theorem eq_of_sessionRecord
    (same : record name
        (keyFields oneLine keys ++ [(label, oneLine.hidden), expiryField oneLine expiry]) .complete =
      record name
        (keyFields oneLine keysToo ++ [(label, oneLine.hidden), expiryField oneLine expiryToo])
        .complete) :
    keys.accessKeyId.text = keysToo.accessKeyId.text ∧
      expiry.milliseconds = expiryToo.milliseconds := by
  have pair : Aligned (keyFields oneLine keys) (keyFields oneLine keysToo) :=
    List.rel_append (aligned_quote _ _ _) (aligned_same _ _)
  have aligned : Aligned (keyFields oneLine keys ++ [(label, oneLine.hidden)])
      (keyFields oneLine keysToo ++ [(label, oneLine.hidden)]) :=
    List.rel_append pair (aligned_same _ _)
  obtain ⟨fields, last⟩ := record_inj aligned same
  exact ⟨eq_of_field fields, number_inj last⟩

theorem eq_of_tokenRecord
    (same : record name [(label, oneLine.hidden), expiryField oneLine expiry] .complete =
      record name [(label, oneLine.hidden), expiryField oneLine expiryToo] .complete) :
    expiry.milliseconds = expiryToo.milliseconds :=
  number_inj (record_inj (aligned_same label oneLine.hidden) same).2

theorem kind_eq_of_label {kind kindToo : Kind} (same : kind.label = kindToo.label) :
    kind = kindToo := by
  have all : ∀ first second : Kind, first.label = second.label → first = second := by
    intro first second
    cases first <;> cases second <;> decide
  exact all kind kindToo same

/-- **Records of credentials disclose the kind, the key id and the expiry.** No label has a bracket, so
the kind can be told from what stands in front of the record. -/
theorem discloses : Discloses inspectIn fun left right => left.kind = right.kind ∧
    left.accessKeyId? = right.accessKeyId? ∧ left.expiryMillis = right.expiryMillis where
  hides := by
    rintro layout left right ⟨kind, id, expires⟩
    rw [inspectIn, inspectIn, kind, fieldsIn_congr kind id expires]
  tells := by
    intro left right same
    have free (kind : Kind) : '(' ∉ kind.label.toList := by
      cases kind <;> decide
    obtain ⟨labels, records⟩ := variant_inj (free _) (free _) same
    have kind := kind_eq_of_label labels
    refine ⟨kind, ?_⟩
    cases sameKind_of_kind_eq kind with
    | s3SecretKey keys keysToo => exact ⟨congrArg some (eq_of_keyRecord records), rfl⟩
    | s3Token keys keysToo token tokenToo expiry expiryToo =>
      obtain ⟨id, expires⟩ := eq_of_sessionRecord records
      exact ⟨congrArg some id, expires⟩
    | gcsToken token tokenToo expiry expiryToo => exact ⟨rfl, eq_of_tokenRecord records⟩
    | ossSecretKey keys keysToo => exact ⟨congrArg some (eq_of_keyRecord records), rfl⟩
    | ossToken keys keysToo token tokenToo expiry expiryToo =>
      obtain ⟨id, expires⟩ := eq_of_sessionRecord records
      exact ⟨congrArg some id, expires⟩

example : (s3Token ⟨⟨"id", by decide⟩, ⟨"se\"cret", by decide⟩⟩ ⟨"token", by decide⟩
      ⟨44, by decide⟩).inspect =
    "S3Token(S3TokenCredential \x7b access_key_id: \"id\", secret_access_key: \"[REDACTED]\", " ++
      "session_token: \"[REDACTED]\", expire_time_ms: 44 \x7d)" := by decide +kernel

end Credential

/-! ## Issued tokens -/

/-- **Records of issued tokens disclose the key id and the expiry.** -/
theorem IssuedToken.discloses : Discloses inspectIn fun left right =>
    left.accessKeyId = right.accessKeyId ∧ left.expiry = right.expiry where
  hides := by
    rintro layout left right ⟨id, expiry⟩
    rw [inspectIn, inspectIn, id, expiry]
  tells := by
    intro left right same
    have aligned : Aligned [("access_key_id", oneLine.optional (left.accessKeyId.map quote))]
        [("access_key_id", oneLine.optional (right.accessKeyId.map quote))] := by
      refine .cons ⟨rfl, parted_optional ?_⟩ .nil
      intro first shown second shownToo
      obtain ⟨text, -, rfl⟩ := Option.map_eq_some_iff.1 shown
      obtain ⟨textToo, -, rfl⟩ := Option.map_eq_some_iff.1 shownToo
      exact .quotes text textToo
    obtain ⟨fields, last⟩ := record_inj aligned same
    have ids := optional_inj.1 (congrArg Prod.snd (List.cons.inj fields).1)
    exact ⟨Option.map_injective (fun _ _ => quote_inj.1) ids, number_inj last⟩

/-! ## Configured values -/

namespace ConfigValue

/-- The variable that a value names, if it is not given as it is. -/
def variableName? : ConfigValue → Option String
  | .literal _ => none
  | .fromEnvironment name _ => some name

/-- What is shown of a literal is no record. -/
theorem literal_ne_record (text name : String) (fields : List (String × String))
    (coverage : Text.Coverage) :
    inspectIn oneLine (.literal text) ≠ record name fields coverage := by
  intro same
  have free : ' ' ∉ (inspectIn oneLine (.literal "")).toList := by decide
  have whole : inspectIn oneLine (.literal "") = record name fields coverage := same
  exact free (whole ▸ space_mem_record)

/-- **Records of configured values disclose the variable.** -/
theorem discloses : Discloses inspectIn fun left right => left.variableName? = right.variableName? where
  hides := by
    intro layout left right names
    cases left with
    | literal text =>
      cases right with
      | literal textToo => rfl
      | fromEnvironment _ _ => cases names
    | fromEnvironment name fallback =>
      cases right with
      | literal _ => cases names
      | fromEnvironment nameToo fallbackToo =>
        obtain rfl := Option.some.inj names
        rfl
  tells := by
    intro left right same
    cases left with
    | literal text =>
      cases right with
      | literal textToo => rfl
      | fromEnvironment _ _ => exact absurd same (literal_ne_record _ _ _ _)
    | fromEnvironment name fallback =>
      cases right with
      | literal _ => exact absurd same.symm (literal_ne_record _ _ _ _)
      | fromEnvironment nameToo fallbackToo =>
        have shown := (record_inj .nil same).2
        exact congrArg some (quote_inj.1 shown)

end ConfigValue

/-! ## Providers of secret keys -/

/-- A provider of secret keys, apart from the other providers. -/
structure KeyProvider where
  store : KeyStore
  keys : KeyPair
  closed : Bool

namespace KeyProvider

/-- A provider of secret keys as a record in a layout. -/
def inspectIn (layout : Layout) (provider : KeyProvider) : String :=
  (Provider.secretKeys provider.store provider.keys provider.closed).inspectIn layout

/-- **Records of providers of secret keys disclose the store, the key id and whether the provider is
closed.** -/
theorem discloses : Discloses inspectIn fun left right => left.store = right.store ∧
    left.keys.accessKeyId.text = right.keys.accessKeyId.text ∧ left.closed = right.closed where
  hides := by
    rintro layout left right ⟨store, id, closed⟩
    rw [inspectIn, inspectIn, Provider.inspectIn, Provider.inspectIn, store, id, closed]
  tells := by
    rintro ⟨store, keys, closed⟩ ⟨storeToo, keysToo, closedToo⟩ same
    have free (store : KeyStore) : ' ' ∉ store.providerName.toList := by
      cases store <;> decide
    have distinct : ∀ first second : KeyStore,
        first.providerName = second.providerName → first = second := by
      intro first second
      cases first <;> cases second <;> decide
    obtain rfl := distinct _ _ (name_eq_of_record (free _) (free _) same)
    have aligned := aligned_quote "access_key_id" keys.accessKeyId.text keysToo.accessKeyId.text
    obtain ⟨fields, last⟩ := record_inj aligned same
    exact ⟨rfl, eq_of_field fields, truth_inj last⟩

end KeyProvider

/-! ## What clients take -/

section Clients

variable {ι : Type} (instant : ι → String)

/-- **Records of keys for a client disclose the key id, whether there is a session token, and the expiry
as it is written.** -/
theorem StorageKeys.discloses : Discloses (inspectIn instant) fun left right =>
    left.accessKeyId = right.accessKeyId ∧
    left.sessionToken.isSome = right.sessionToken.isSome ∧
    left.expiresAt.map instant = right.expiresAt.map instant where
  hides := by
    rintro layout left right ⟨id, session, expires⟩
    rw [inspectIn, inspectIn, id, session, expires]
  tells := by
    intro left right same
    have aligned : Aligned
        [("access_key_id", quote left.accessKeyId), ("secret_access_key", oneLine.hidden),
          ("has_session_token", oneLine.truth left.sessionToken.isSome)]
        [("access_key_id", quote right.accessKeyId), ("secret_access_key", oneLine.hidden),
          ("has_session_token", oneLine.truth right.sessionToken.isSome)] :=
      .cons ⟨rfl, .quotes _ _⟩ (.cons ⟨rfl, .refl _⟩ (.cons ⟨rfl, .truths _ _⟩ .nil))
    obtain ⟨fields, last⟩ := record_inj aligned same
    have session := (List.cons.inj (List.cons.inj (List.cons.inj fields).2).2).1
    exact ⟨eq_of_field fields, truth_inj (congrArg Prod.snd session), optional_inj.1 last⟩

/-- **Records of tokens for a client disclose the expiry as it is written.** -/
theorem AccessToken.discloses : Discloses (inspectIn instant) fun left right =>
    instant left.expiresAt = instant right.expiresAt where
  hides := by
    intro layout left right expires
    rw [inspectIn, inspectIn, expires]
  tells := by
    intro left right same
    exact (record_inj (aligned_same "token" oneLine.hidden) same).2

end Clients

/-! ## Everything with secrets -/

/-- **Secrets stay hidden.** In every layout, the records of two values are the same if the values
differ only in what is secret, whatever the secrets are:

* credentials of one kind with the same key id, where the kind has one, and the same expiry;
* issued tokens with the same key id and the same expiry;
* configured values that are given as they are, and those that name the same variable, with any
  defaults;
* providers of secret keys of one store with the same key id, both closed or neither;
* keys for a client with the same key id, both with a session token or neither, and with expiries that
  are written alike;
* tokens for a client with expiries that are written alike.

Nothing else is hidden: on one line, the records of values that differ in more than this differ. -/
theorem secrets_stay_hidden :
    Discloses Credential.inspectIn (fun left right => left.kind = right.kind ∧
      left.accessKeyId? = right.accessKeyId? ∧ left.expiryMillis = right.expiryMillis) ∧
    Discloses IssuedToken.inspectIn (fun left right =>
      left.accessKeyId = right.accessKeyId ∧ left.expiry = right.expiry) ∧
    Discloses ConfigValue.inspectIn (fun left right => left.variableName? = right.variableName?) ∧
    Discloses KeyProvider.inspectIn (fun left right => left.store = right.store ∧
      left.keys.accessKeyId.text = right.keys.accessKeyId.text ∧ left.closed = right.closed) ∧
    ∀ (ι : Type) (instant : ι → String),
      Discloses (StorageKeys.inspectIn instant) (fun left right =>
        left.accessKeyId = right.accessKeyId ∧
        left.sessionToken.isSome = right.sessionToken.isSome ∧
        left.expiresAt.map instant = right.expiresAt.map instant) ∧
      Discloses (AccessToken.inspectIn instant) (fun left right =>
        instant left.expiresAt = instant right.expiresAt) := by
  refine ⟨Credential.discloses, IssuedToken.discloses, ConfigValue.discloses,
    KeyProvider.discloses, ?_⟩
  intro ι instant
  exact ⟨StorageKeys.discloses instant, AccessToken.discloses instant⟩

/-- A session with a key id, a secret and a token. -/
def sessionOf (expiry : Expiry) (id secret token : FilledText) : Credential :=
  .s3Token ⟨id, secret⟩ token expiry

/-- Two sessions whose secrets differ, also in length, are shown alike in every layout; a session with
another key id is not. Two literals are shown alike, and a literal is not shown like a variable. -/
theorem secrets_stay_hidden_rotated :
    (∀ layout,
      (sessionOf ⟨44, by decide⟩ ⟨"id", by decide⟩ ⟨"first", by decide⟩
        ⟨"token", by decide⟩).inspectIn layout =
      (sessionOf ⟨44, by decide⟩ ⟨"id", by decide⟩ ⟨"second \"one\"", by decide⟩
        ⟨"t", by decide⟩).inspectIn layout) ∧
    (sessionOf ⟨44, by decide⟩ ⟨"id", by decide⟩ ⟨"first", by decide⟩ ⟨"token", by decide⟩).inspect ≠
      (sessionOf ⟨44, by decide⟩ ⟨"di", by decide⟩ ⟨"first", by decide⟩
        ⟨"token", by decide⟩).inspect ∧
    (∀ layout, (ConfigValue.literal "first").inspectIn layout =
      (ConfigValue.literal "second").inspectIn layout) ∧
    (ConfigValue.literal "first").inspect ≠ (ConfigValue.fromEnvironment "first" none).inspect := by
  obtain ⟨credentials, -, values, -, -⟩ := secrets_stay_hidden
  refine ⟨fun layout => ?_, fun same => ?_, fun layout => ?_, fun same => ?_⟩
  · exact credentials.hides layout _ _ ⟨rfl, rfl, rfl⟩
  · have ids := (credentials.tells _ _ same).2.1
    revert ids
    decide
  · exact values.hides layout _ _ rfl
  · exact Option.some_ne_none _ (values.tells _ _ same).symm

end StorageBroker
