import StorageBroker.Proofs.Credential.Codec

/-!
# What a table client is told of a credential

The attributes of a credential are gone through in some order, and each is put under the key by which
it goes for a table client. Each attribute is found by its own key (`Attribute.ofKey?_eq_some_iff`), and
no two of them share a key for the client (`Attribute.clientKey_inj`). So in any order every attribute
arrives with its value, and besides the expiry of one kind there is nothing else
(`Credential.tells_of_perm`).

Hence what a client is told tells credentials of one kind apart as far as their attributes do
(`Credential.get?_clientPropertiesFrom_eq_iff`), and what it is told of credentials of different backends
has no key in common (`Credential.backend_eq_of_shared`).
-/

set_option autoImplicit false

namespace StorageBroker

/-! ## Keys -/

namespace Attribute

variable {field left right : Attribute} {key : String}

theorem ofKey?_key (field : Attribute) : ofKey? field.key = some field := by
  cases field <;> rfl

/-- An attribute is found by its own key and by no other. -/
theorem ofKey?_eq_some_iff : ofKey? key = some field ↔ field.key = key := by
  constructor
  · intro found
    have same := List.find?_some found
    exact beq_iff_eq.1 same
  · rintro rfl
    exact ofKey?_key field

theorem key_inj : left.key = right.key ↔ left = right := by
  rw [← ofKey?_eq_some_iff, ofKey?_key, Option.some.injEq, eq_comm]

/-- No two attributes share a key for a table client. -/
theorem clientKey_inj : left.clientKey = right.clientKey ↔ left = right := by
  have found (field : Attribute) :
      all.find? (fun other => other.clientKey == field.clientKey) = some field := by
    cases field <;> rfl
  constructor
  · intro same
    have first := found left
    rw [same, found right] at first
    exact (Option.some.inj first).symm
  · rintro rfl
    rfl

theorem clientKey_ne_clientExpiryKey (field : Attribute) : field.clientKey ≠ clientExpiryKey := by
  cases field <;> decide

/-- The backend whose credentials have an attribute. -/
def backend : Attribute → Backend
  | .s3AccessKeyId | .s3SecretAccessKey | .s3SessionToken => .s3
  | .gcsToken => .gcs
  | .ossAccessKeyId | .ossSecretAccessKey | .ossSecurityToken => .oss

end Attribute

/-- The attributes of a kind are those of its backend. -/
theorem Kind.backend_of_mem_attributes {kind : Kind} {field : Attribute}
    (belongs : field ∈ kind.attributes) : field.backend = kind.backend := by
  have all : ∀ other ∈ kind.attributes, other.backend = kind.backend := by
    cases kind <;> decide
  exact all field belongs

namespace Credential

variable {credential left right : Credential} {field : Attribute} {key text : String}
  {order others : List (String × String)}

/-! ## The attributes in any order -/

theorem entries_info (credential : Credential) :
    credential.info.entries = credential.attributes.map fun field => (field.1.key, field.2) := by
  rw [info, Keyed.entries_ofList (nodup_keys_attributes credential)]

theorem get?_info_eq_some_iff : credential.info.get? key = some text ↔
    ∃ field : Attribute, field.key = key ∧ (field, text) ∈ credential.attributes := by
  rw [Keyed.get?_eq_some_iff, entries_info, List.mem_map]
  constructor
  · rintro ⟨⟨field, _⟩, member, ⟨⟩⟩
    exact ⟨field, rfl, member⟩
  · rintro ⟨field, rfl, member⟩
    exact ⟨_, member, rfl⟩

/-- The attributes, gone through in some order, arrive under the keys for the client. -/
theorem filterMap_forClient?_perm (listed : order.Perm credential.info.entries) :
    (order.filterMap forClient?).Perm
      (credential.attributes.map fun field => (field.1.clientKey, field.2)) := by
  have each (field : Attribute × String) :
      forClient? (field.1.key, field.2) = some (field.1.clientKey, field.2) := by
    rw [forClient?, Attribute.ofKey?_key, Option.map_some]
  have arrived := listed.filterMap forClient?
  rw [entries_info, List.filterMap_map] at arrived
  have all : credential.attributes.filterMap
      (forClient? ∘ fun field => (field.1.key, field.2)) =
        credential.attributes.map fun field => (field.1.clientKey, field.2) := by
    rw [← List.filterMap_eq_map]
    exact congrArg (credential.attributes.filterMap ·) (funext each)
  rwa [all] at arrived

/-- The keys under which the attributes arrive are distinct. -/
theorem nodup_clientKeys (listed : order.Perm credential.info.entries) :
    ((order.filterMap forClient?).map Prod.fst).Nodup := by
  have keys : (credential.attributes.map fun field => (field.1.clientKey, field.2)).map Prod.fst =
      credential.kind.attributes.map Attribute.clientKey := by
    rw [← map_fst_attributes, List.map_map, List.map_map]
    rfl
  rw [((filterMap_forClient?_perm listed).map Prod.fst).nodup_iff, keys]
  cases credential.kind <;> decide

theorem get?_arrived_eq_some_iff (listed : order.Perm credential.info.entries) :
    (Keyed.ofList (order.filterMap forClient?)).get? key = some text ↔
      ∃ field : Attribute, field.clientKey = key ∧ (field, text) ∈ credential.attributes := by
  rw [Keyed.get?_eq_some_iff, Keyed.entries_ofList (nodup_clientKeys listed),
    (filterMap_forClient?_perm listed).mem_iff, List.mem_map]
  constructor
  · rintro ⟨⟨field, _⟩, member, ⟨⟩⟩
    exact ⟨field, rfl, member⟩
  · rintro ⟨field, rfl, member⟩
    exact ⟨_, member, rfl⟩

theorem size_arrived (listed : order.Perm credential.info.entries) :
    (Keyed.ofList (order.filterMap forClient?)).size = credential.info.size := by
  rw [Keyed.size, Keyed.entries_ofList (nodup_clientKeys listed),
    (filterMap_forClient?_perm listed).length_eq, Keyed.size, entries_info, List.length_map,
    List.length_map]

/-! ## What the client is told -/

/-- The expiry is told for one kind, on top of the attributes. -/
theorem clientPropertiesFrom_eq (credential : Credential) (order : List (String × String)) :
    credential.clientPropertiesFrom order =
      if credential.kind = .gcsToken then
        (Keyed.ofList (order.filterMap forClient?)).insert clientExpiryKey
          (toString credential.expiryMillis.toInt)
      else Keyed.ofList (order.filterMap forClient?) := by
  cases credential <;> rfl

/-- Each attribute is told, and has the value that it has in the credential. -/
theorem get?_clientPropertiesFrom_clientKey (listed : order.Perm credential.info.entries)
    (field : Attribute) :
    (credential.clientPropertiesFrom order).get? field.clientKey = credential.info.get? field.key := by
  have arrived : (Keyed.ofList (order.filterMap forClient?)).get? field.clientKey =
      credential.info.get? field.key := by
    refine Option.ext fun text => ?_
    rw [get?_arrived_eq_some_iff listed, get?_info_eq_some_iff]
    simp only [Attribute.clientKey_inj, Attribute.key_inj]
  rw [clientPropertiesFrom_eq]
  split
  · rw [Keyed.get?_insert, if_neg field.clientKey_ne_clientExpiryKey.symm, arrived]
  · exact arrived

theorem get?_clientPropertiesFrom_clientExpiryKey (listed : order.Perm credential.info.entries) :
    (credential.clientPropertiesFrom order).get? clientExpiryKey =
      if credential.kind = .gcsToken then some (toString credential.expiryMillis.toInt) else none := by
  rw [clientPropertiesFrom_eq]
  split
  · rw [Keyed.get?_insert, if_pos rfl]
  · refine Option.eq_none_iff_forall_not_mem.2 fun text told => ?_
    obtain ⟨field, same, -⟩ := (get?_arrived_eq_some_iff listed).1 told
    exact field.clientKey_ne_clientExpiryKey same

/-- Nothing is told but attributes and the expiry. -/
theorem key_of_told (listed : order.Perm credential.info.entries)
    (told : (credential.clientPropertiesFrom order).get? key = some text) :
    key = clientExpiryKey ∨ ∃ field : Attribute, key = field.clientKey := by
  by_cases same : key = clientExpiryKey
  · exact .inl same
  · rw [clientPropertiesFrom_eq] at told
    have arrived : (Keyed.ofList (order.filterMap forClient?)).get? key = some text := by
      split at told
      · rwa [Keyed.get?_insert, if_neg (Ne.symm same)] at told
      · exact told
    obtain ⟨field, rfl, -⟩ := (get?_arrived_eq_some_iff listed).1 arrived
    exact .inr ⟨field, rfl⟩

/-- Properties tell a table client of a credential: every attribute under the one key by which it goes
for the client, with the value that it has in the credential, for one kind the expiry in decimal, and
nothing else. -/
structure Tells (sent : Properties) (credential : Credential) : Prop where
  attributes : ∀ key text, credential.info.get? key = some text →
    ∃ field : Attribute, field.key = key ∧ sent.get? field.clientKey = some text
  expiry : credential.kind = .gcsToken →
    sent.get? clientExpiryKey = some (toString credential.expiryMillis.toInt)
  nothingElse : ∀ key text, sent.get? key = some text →
    (∃ field : Attribute, field.clientKey = key ∧ credential.info.get? field.key = some text) ∨
      credential.kind = .gcsToken ∧ key = clientExpiryKey
  size : sent.size = credential.info.size + if credential.kind = .gcsToken then 1 else 0

/-- **Whatever the order in which the attributes are gone through, the client is told of them.** -/
theorem tells_of_perm (listed : order.Perm credential.info.entries) :
    Tells (credential.clientPropertiesFrom order) credential where
  attributes := by
    intro key text has
    obtain ⟨field, rfl, -⟩ := get?_info_eq_some_iff.1 has
    exact ⟨field, rfl, (get?_clientPropertiesFrom_clientKey listed field).trans has⟩
  expiry := by
    intro kind
    rw [get?_clientPropertiesFrom_clientExpiryKey listed, if_pos kind]
  nothingElse := by
    intro key text told
    rcases key_of_told listed told with rfl | ⟨field, rfl⟩
    · rw [get?_clientPropertiesFrom_clientExpiryKey listed] at told
      split at told
      · next kind => exact .inr ⟨kind, rfl⟩
      · cases told
    · rw [get?_clientPropertiesFrom_clientKey listed] at told
      exact .inl ⟨field, rfl, told⟩
  size := by
    rw [clientPropertiesFrom_eq]
    split
    · have new : clientExpiryKey ∉ (Keyed.ofList (order.filterMap forClient?)).keys := by
        rw [Keyed.keys, Keyed.entries_ofList (nodup_clientKeys listed),
          ((filterMap_forClient?_perm listed).map Prod.fst).mem_iff, List.map_map]
        intro known
        obtain ⟨field, -, same⟩ := List.mem_map.1 known
        exact field.1.clientKey_ne_clientExpiryKey same
      rw [← size_arrived listed, Keyed.size, Keyed.entries_insert new, List.length_append]
      rfl
    · exact size_arrived listed

/-! ## Telling credentials apart -/

/-- **Credentials of one kind are told alike if and only if their attributes are the same**, and for
one kind their expiries. -/
theorem get?_clientPropertiesFrom_eq_iff (listed : order.Perm left.info.entries)
    (listedToo : others.Perm right.info.entries) (kind : left.kind = right.kind) :
    (left.clientPropertiesFrom order).get? = (right.clientPropertiesFrom others).get? ↔
      left.info.get? = right.info.get? ∧
        (left.kind = .gcsToken → left.expiryMillis = right.expiryMillis) := by
  constructor
  · intro same
    refine ⟨funext fun key => Option.ext fun text => ?_, ?_⟩
    · have alike (field : Attribute) : left.info.get? field.key = right.info.get? field.key := by
        rw [← get?_clientPropertiesFrom_clientKey listed, same,
          get?_clientPropertiesFrom_clientKey listedToo]
      constructor
      · intro has
        obtain ⟨field, rfl, -⟩ := get?_info_eq_some_iff.1 has
        rw [← alike, has]
      · intro has
        obtain ⟨field, rfl, -⟩ := get?_info_eq_some_iff.1 has
        rw [alike, has]
    · intro isGcs
      have expiry := congrFun same clientExpiryKey
      rw [get?_clientPropertiesFrom_clientExpiryKey listed, if_pos isGcs,
        get?_clientPropertiesFrom_clientExpiryKey listedToo, if_pos (kind ▸ isGcs),
        Option.some.injEq] at expiry
      exact Int64.toInt_inj.1 (Json.Numeral.eq_of_toString expiry)
  · rintro ⟨same, expiry⟩
    refine funext fun key => ?_
    by_cases isExpiry : key = clientExpiryKey
    · subst isExpiry
      rw [get?_clientPropertiesFrom_clientExpiryKey listed,
        get?_clientPropertiesFrom_clientExpiryKey listedToo, ← kind]
      split
      · next isGcs => rw [expiry isGcs]
      · rfl
    · refine Option.ext fun text => ?_
      constructor
      · intro told
        obtain ⟨field, rfl⟩ := (key_of_told listed told).resolve_left isExpiry
        rw [get?_clientPropertiesFrom_clientKey listed, same] at told
        rw [get?_clientPropertiesFrom_clientKey listedToo, told]
      · intro told
        obtain ⟨field, rfl⟩ := (key_of_told listedToo told).resolve_left isExpiry
        rw [get?_clientPropertiesFrom_clientKey listedToo, ← same] at told
        rw [get?_clientPropertiesFrom_clientKey listed, told]

/-- Only attributes of the backend are told. -/
theorem backend_of_told (listed : order.Perm credential.info.entries)
    (told : (credential.clientPropertiesFrom order).get? field.clientKey = some text) :
    field.backend = credential.kind.backend := by
  rw [get?_clientPropertiesFrom_clientKey listed, get?_info_eq_some_iff] at told
  obtain ⟨other, same, member⟩ := told
  obtain rfl := Attribute.key_inj.1 same
  refine Kind.backend_of_mem_attributes ?_
  rw [← map_fst_attributes]
  exact List.mem_map_of_mem member

theorem kind_of_expiry_told (listed : order.Perm credential.info.entries)
    (told : (credential.clientPropertiesFrom order).get? clientExpiryKey = some text) :
    credential.kind = .gcsToken := by
  rw [get?_clientPropertiesFrom_clientExpiryKey listed] at told
  split at told
  · next kind => exact kind
  · cases told

/-- **Credentials that share a key belong to one backend.** -/
theorem backend_eq_of_shared (listed : order.Perm left.info.entries)
    (listedToo : others.Perm right.info.entries)
    (told : (left.clientPropertiesFrom order).contains key = true)
    (toldToo : (right.clientPropertiesFrom others).contains key = true) :
    left.kind.backend = right.kind.backend := by
  obtain ⟨text, told⟩ := Option.isSome_iff_exists.1 told
  obtain ⟨other, toldToo⟩ := Option.isSome_iff_exists.1 toldToo
  rcases key_of_told listed told with rfl | ⟨field, rfl⟩
  · rw [kind_of_expiry_told listed told, kind_of_expiry_told listedToo toldToo]
  · rw [← backend_of_told listed told, ← backend_of_told listedToo toldToo]

/-- **Nothing is lost and nothing is mixed up.** No two attributes share a key for a table client, nor
does one share the key of the expiry. In whatever order the attributes of a credential are gone
through:

* The client is told of every attribute once, with its value, for one kind of the expiry in decimal,
  and of nothing else.
* Two credentials of one kind are told alike if and only if their attributes are the same, and for that
  one kind their expiries.
* Credentials of different backends have no key in common. -/
theorem client_properties_faithful :
    (∀ first second : Attribute, first.clientKey = second.clientKey → first = second) ∧
    (∀ field : Attribute, field.clientKey ≠ clientExpiryKey) ∧
    (∀ (credential : Credential) (order : List (String × String)),
      order.Perm credential.info.entries →
        Tells (credential.clientPropertiesFrom order) credential) ∧
    (∀ (left right : Credential) (order others : List (String × String)),
      order.Perm left.info.entries → others.Perm right.info.entries → left.kind = right.kind →
        ((left.clientPropertiesFrom order).get? = (right.clientPropertiesFrom others).get? ↔
          left.info.get? = right.info.get? ∧
            (left.kind = .gcsToken → left.expiryMillis = right.expiryMillis))) ∧
    ∀ (left right : Credential) (order others : List (String × String)),
      order.Perm left.info.entries → others.Perm right.info.entries →
      left.kind.backend ≠ right.kind.backend → ∀ key,
        ¬ ((left.clientPropertiesFrom order).contains key = true ∧
          (right.clientPropertiesFrom others).contains key = true) := by
  refine ⟨fun _ _ => Attribute.clientKey_inj.1, Attribute.clientKey_ne_clientExpiryKey,
    fun _ _ => tells_of_perm, fun _ _ _ _ => get?_clientPropertiesFrom_eq_iff, ?_⟩
  rintro left right order others listed listedToo apart key ⟨told, toldToo⟩
  exact apart (backend_eq_of_shared listed listedToo told toldToo)

/-- A session whose attributes are gone through from the last to the first. -/
def reversedSession : Credential :=
  .ossToken ⟨⟨"first", by decide⟩, ⟨"second", by decide⟩⟩ ⟨"third", by decide⟩ ⟨44, by decide⟩

/-- A token that is told apart by its expiry alone. -/
def datedToken (expiry : Int64) (positive : 0 < expiry) : Credential :=
  .gcsToken ⟨"dated", by decide⟩ ⟨expiry, positive⟩

/-- The secret arrives when it is gone through in reverse; two tokens with the same text are told apart
by their expiries; and the session shares no key with them. -/
theorem client_properties_faithful_reversed :
    (∃ field : Attribute, field.key = "oss-secret-access-key" ∧
      (reversedSession.clientPropertiesFrom reversedSession.info.entries.reverse).get?
        field.clientKey = some "second") ∧
    (datedToken 42 (by decide)).info.get? = (datedToken 43 (by decide)).info.get? ∧
    (datedToken 42 (by decide)).clientProperties.get? ≠
      (datedToken 43 (by decide)).clientProperties.get? ∧
    ¬ ((reversedSession.clientPropertiesFrom reversedSession.info.entries.reverse).contains
          clientExpiryKey = true ∧
        (datedToken 42 (by decide)).clientProperties.contains clientExpiryKey = true) := by
  obtain ⟨-, -, tells, alike, apart⟩ := client_properties_faithful
  have reversed := List.reverse_perm reversedSession.info.entries
  refine ⟨(tells reversedSession _ reversed).attributes _ _ (by decide +kernel), rfl, ?_, ?_⟩
  · intro same
    have expiry := ((alike (datedToken 42 _) (datedToken 43 _) _ _ (.refl _) (.refl _) rfl).1 same).2 rfl
    revert expiry
    decide
  · exact apart reversedSession (datedToken 42 _) _ _ reversed (.refl _) (by decide) clientExpiryKey

end Credential

end StorageBroker
