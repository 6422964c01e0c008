import StorageBroker.Credential.Basic
import StorageBroker.Proofs.Outcome

/-!
# Credentials and their material

A credential is made of material if and only if it is of the wanted kind and has the material in its
places (`Credential.ofMaterial_eq_ok_iff`). Material is refused if and only if an attribute of the kind
is blank in it or a token would have expired at the outset (`Credential.refused_iff`), and what it is
refused with is that it is malformed.
-/

set_option autoImplicit false

namespace StorageBroker

/-- The text of an attribute in unchecked material. -/
def Material.text (material : Material) : Attribute → String
  | .s3AccessKeyId | .ossAccessKeyId => material.accessKeyId
  | .s3SecretAccessKey | .ossSecretAccessKey => material.secretAccessKey
  | .s3SessionToken | .gcsToken | .ossSecurityToken => material.token

/-- Material from which no credential of a kind can be made. -/
def Material.Flawed (kind : Kind) (material : Material) : Prop :=
  (∃ field ∈ kind.attributes, Text.isBlank (material.text field) = true) ∨
    kind.isToken = true ∧ material.expiry ≤ 0

/-! ## Checks -/

section Checks

variable {field : Attribute} {text : String} {filled : FilledText} {kind : Kind}
  {milliseconds : Int64} {expiry : Expiry} {error : CredentialError}

theorem FilledText.check_eq_ok_iff : FilledText.check field text = .ok filled ↔
    filled.text = text := by
  unfold check
  split
  · next blank =>
    constructor
    · rintro ⟨⟩
    · rintro rfl
      cases blank.symm.trans filled.filled
  · next full =>
    constructor
    · rintro ⟨⟩
      rfl
    · rintro rfl
      rfl

theorem FilledText.check_eq_error_iff : FilledText.check field text = .error error ↔
    Text.isBlank text = true ∧ error = .blankAttribute field := by
  unfold check
  split
  · next blank => simp [blank, eq_comm]
  · next full => simp [full]

theorem Expiry.check_eq_ok_iff : Expiry.check kind milliseconds = .ok expiry ↔
    expiry.milliseconds = milliseconds := by
  unfold check
  split
  · next positive =>
    constructor
    · rintro ⟨⟩
      rfl
    · rintro rfl
      rfl
  · next negative =>
    constructor
    · rintro ⟨⟩
    · rintro rfl
      exact absurd expiry.positive negative

theorem Expiry.check_eq_error_iff : Expiry.check kind milliseconds = .error error ↔
    milliseconds ≤ 0 ∧ error = .expiryNotPositive kind := by
  unfold check
  split
  · next positive => simp [Int64.not_le.2 positive]
  · next negative => simp [Int64.not_lt.1 negative, eq_comm]

end Checks

/-! ## Credentials -/

namespace Credential

variable {kind : Kind} {material : Material} {credential : Credential} {error : CredentialError}

/-- **A credential is made of material if and only if it has it in its places.** -/
theorem ofMaterial_eq_ok_iff : ofMaterial kind material = .ok credential ↔
    credential.kind = kind ∧
      credential.attributes = kind.attributes.map (fun field => (field, material.text field)) ∧
      (kind.isToken = true → credential.expiryMillis = material.expiry) := by
  obtain ⟨accessKeyId, secretAccessKey, token, expiry⟩ := material
  cases kind with
  | s3SecretKey | ossSecretKey =>
    simp only [ofMaterial, bind_eq_ok_iff, FilledText.check_eq_ok_iff, Except.ok.injEq]
    constructor
    · rintro ⟨key, rfl, secret, rfl, rfl⟩
      refine ⟨rfl, rfl, ?_⟩
      intro isToken
      cases isToken
    · rintro ⟨same, places, -⟩
      cases credential <;> cases same
      simp only [attributes, Kind.attributes, Material.text, List.map, List.cons.injEq,
        Prod.mk.injEq] at places
      obtain ⟨⟨-, key⟩, ⟨-, secret⟩, -⟩ := places
      exact ⟨_, key, _, secret, rfl⟩
  | gcsToken =>
    simp only [ofMaterial, bind_eq_ok_iff, FilledText.check_eq_ok_iff, Expiry.check_eq_ok_iff,
      Except.ok.injEq]
    constructor
    · rintro ⟨token, rfl, expiry, rfl, rfl⟩
      exact ⟨rfl, rfl, fun _ => rfl⟩
    · rintro ⟨same, places, instant⟩
      cases credential <;> cases same
      simp only [attributes, Kind.attributes, Material.text, List.map, List.cons.injEq,
        Prod.mk.injEq] at places
      obtain ⟨⟨-, token⟩, -⟩ := places
      exact ⟨_, token, _, instant rfl, rfl⟩
  | s3Token | ossToken =>
    simp only [ofMaterial, bind_eq_ok_iff, FilledText.check_eq_ok_iff, Expiry.check_eq_ok_iff,
      Except.ok.injEq]
    constructor
    · rintro ⟨key, rfl, secret, rfl, token, rfl, expiry, rfl, rfl⟩
      exact ⟨rfl, rfl, fun _ => rfl⟩
    · rintro ⟨same, places, instant⟩
      cases credential <;> cases same
      simp only [attributes, Kind.attributes, Material.text, List.map, List.cons.injEq,
        Prod.mk.injEq] at places
      obtain ⟨⟨-, key⟩, ⟨-, secret⟩, ⟨-, token⟩, -⟩ := places
      exact ⟨_, key, _, secret, _, token, _, instant rfl, rfl⟩

/-- No attribute of a credential is blank. -/
theorem isBlank_of_mem_attributes {field : Attribute} {text : String}
    (member : (field, text) ∈ credential.attributes) : Text.isBlank text = false := by
  cases credential <;>
    simp only [attributes, List.mem_cons, List.not_mem_nil, or_false, Prod.mk.injEq] at member
  case gcsToken token expiry =>
    rw [member.2]
    exact token.filled
  case s3SecretKey keys | ossSecretKey keys =>
    rcases member with ⟨-, rfl⟩ | ⟨-, rfl⟩
    · exact keys.accessKeyId.filled
    · exact keys.secretAccessKey.filled
  case s3Token keys token expiry | ossToken keys token expiry =>
    rcases member with ⟨-, rfl⟩ | ⟨-, rfl⟩ | ⟨-, rfl⟩
    · exact keys.accessKeyId.filled
    · exact keys.secretAccessKey.filled
    · exact token.filled

theorem expiryMillis_pos (isToken : credential.kind.isToken = true) : 0 < credential.expiryMillis := by
  rw [← isExpiring_eq_isToken] at isToken
  exact of_decide_eq_true isToken

/-- Material that is refused is flawed, and it is refused as malformed. -/
theorem flawed_of_refused (refused : ofMaterial kind material = .error error) :
    material.Flawed kind ∧ error.isInvalid = true := by
  have blank {field : Attribute} (belongs : field ∈ kind.attributes)
      (empty : Text.isBlank (material.text field) = true) :
      material.Flawed kind ∧ (CredentialError.blankAttribute field).isInvalid = true :=
    ⟨.inl ⟨field, belongs, empty⟩, rfl⟩
  have lapsed (isToken : kind.isToken = true) (passed : material.expiry ≤ 0) :
      material.Flawed kind ∧ (CredentialError.expiryNotPositive kind).isInvalid = true :=
    ⟨.inr ⟨isToken, passed⟩, rfl⟩
  cases kind with
  | s3SecretKey | ossSecretKey =>
    simp only [ofMaterial, bind_eq_error_iff, FilledText.check_eq_error_iff, reduceCtorEq, and_false,
      exists_false, or_false] at refused
    rcases refused with ⟨empty, rfl⟩ | ⟨-, -, empty, rfl⟩
    · exact blank (by decide) empty
    · exact blank (by decide) empty
  | gcsToken =>
    simp only [ofMaterial, bind_eq_error_iff, FilledText.check_eq_error_iff,
      Expiry.check_eq_error_iff, reduceCtorEq, and_false, exists_false, or_false] at refused
    rcases refused with ⟨empty, rfl⟩ | ⟨-, -, passed, rfl⟩
    · exact blank (by decide) empty
    · exact lapsed rfl passed
  | s3Token | ossToken =>
    simp only [ofMaterial, bind_eq_error_iff, FilledText.check_eq_error_iff,
      Expiry.check_eq_error_iff, reduceCtorEq, and_false, exists_false, or_false] at refused
    rcases refused with
      ⟨empty, rfl⟩ | ⟨-, -, ⟨empty, rfl⟩ | ⟨-, -, ⟨empty, rfl⟩ | ⟨-, -, passed, rfl⟩⟩⟩
    · exact blank (by decide) empty
    · exact blank (by decide) empty
    · exact blank (by decide) empty
    · exact lapsed rfl passed

/-- **Material is refused if and only if it is flawed.** -/
theorem refused_iff : (∃ error, ofMaterial kind material = .error error) ↔ material.Flawed kind := by
  constructor
  · rintro ⟨error, refused⟩
    exact (flawed_of_refused refused).1
  · intro flawed
    cases made : ofMaterial kind material with
    | error error => exact ⟨error, rfl⟩
    | ok credential =>
      obtain ⟨rfl, places, instant⟩ := ofMaterial_eq_ok_iff.1 made
      rcases flawed with ⟨field, belongs, empty⟩ | ⟨isToken, passed⟩
      · have member : (field, material.text field) ∈ credential.attributes := by
          rw [places]
          exact List.mem_map_of_mem belongs
        cases empty.symm.trans (isBlank_of_mem_attributes member)
      · rw [← instant isToken] at passed
        exact absurd (expiryMillis_pos isToken) (Int64.not_lt.2 passed)

end Credential

end StorageBroker
