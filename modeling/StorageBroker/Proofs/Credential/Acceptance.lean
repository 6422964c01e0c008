import StorageBroker.Proofs.Credential.Codec
import StorageBroker.Proofs.Provider.Answers

/-!
# Which properties are accepted

A credential can be read from properties if and only if they are complete for some kind: they name
the kind exactly, none of its attributes is missing or blank, and for a token they spell an expiry
behind 1970 that is in range (`Credential.exists_ofProperties_iff`). Whatever else is wrong, the
properties are refused as malformed (`Credential.isInvalid_of_ofProperties`).

So it is on every way to a credential: of unchecked material, of a JSON text and of what an issuer
hands out just that is accepted which lacks nothing, and what is accepted has the attributes of its
kind and expires exactly if it is a token (`Credential.acceptance_exact`).
-/

set_option autoImplicit false

namespace StorageBroker

open Text

/-! ## White space -/

/-- The code points of the Unicode property `White_Space`. -/
def Text.whiteSpace : List Nat :=
  [0x9, 0xA, 0xB, 0xC, 0xD, 0x20, 0x85, 0xA0, 0x1680, 0x2000, 0x2001, 0x2002, 0x2003, 0x2004,
    0x2005, 0x2006, 0x2007, 0x2008, 0x2009, 0x200A, 0x2028, 0x2029, 0x202F, 0x205F, 0x3000]

theorem Text.isBlankChar_iff (character : Char) :
    isBlankChar character = true ↔ character.toNat ∈ whiteSpace := by
  simp only [isBlankChar, whiteSpace, Bool.or_eq_true, Bool.and_eq_true, decide_eq_true_eq,
    beq_iff_eq, List.mem_cons, List.not_mem_nil, or_false]
  omega

/-- A text is blank if it consists of white space. -/
theorem Text.isBlank_iff (text : String) :
    isBlank text = true ↔ ∀ character ∈ text.toList, character.toNat ∈ whiteSpace := by
  simp only [isBlank, List.all_eq_true, isBlankChar_iff]

/-! ## Complete properties -/

/-- Properties have all that a credential of a kind needs: the name of the kind, its attributes, and
for a token an expiry. -/
structure Complete (kind : Kind) (properties : Properties) : Prop where
  tag : properties.get? kindKey = some kind.name
  attributes : ∀ field ∈ kind.attributes, ∃ text,
    properties.get? field.key = some text ∧ isBlank text = false
  expiry : kind.isToken = true → ∃ text number, properties.get? expiryKey = some text ∧
    Numeral.Spells text number ∧ 0 < number ∧ number ≤ Int64.maxValue.toInt

/-! ## Reading complete properties -/

section Reading

open Credential

variable {kind : Kind} {properties : Properties} {credential : Credential} {expiry : Int64}

/-- Properties that encode a credential are complete for its kind. -/
theorem complete_of_encodes (encodes : Encodes properties credential) :
    Complete credential.kind properties where
  tag := encodes.tag
  attributes := by
    intro field belongs
    rw [← map_fst_attributes] at belongs
    obtain ⟨⟨_, text⟩, member, rfl⟩ := List.mem_map.1 belongs
    exact ⟨text, encodes.attributes _ text member, isBlank_of_mem_attributes member⟩
  expiry := by
    intro isToken
    obtain ⟨text, present, spells⟩ := encodes.expiry isToken
    exact ⟨text, _, present, spells, Int64.lt_iff_toInt_lt.1 (expiryMillis_pos isToken),
      credential.expiryMillis.toInt_le⟩

/-- The expiry of complete properties can be read. -/
theorem Complete.exists_readExpiry (complete : Complete kind properties)
    (isToken : kind.isToken = true) :
    ∃ expiry, readExpiry kind properties = .ok expiry ∧ 0 < expiry := by
  obtain ⟨text, number, present, spells, positive, small⟩ := complete.expiry isToken
  have greatest : Int64.maxValue.toInt = 9223372036854775807 := rfl
  have same : (Int64.ofInt number).toInt = number :=
    Int64.toInt_ofInt_of_le (by omega) (by omega)
  have above : 0 < Int64.ofInt number := by
    rw [Int64.lt_iff_toInt_lt, same]
    exact positive
  rw [← same] at spells
  exact ⟨_, readExpiry_eq_ok_iff.2 ⟨text, present, (Numeral.signed_trim_eq_ok_iff above).2 spells⟩,
    above⟩

/-- The material of complete properties is not flawed. -/
theorem Complete.not_flawed (complete : Complete kind properties)
    (positive : kind.isToken = true → 0 < expiry) :
    ¬ (readMaterial kind properties expiry).Flawed kind := by
  rintro (⟨field, belongs, blank⟩ | ⟨isToken, passed⟩)
  · obtain ⟨text, present, filled⟩ := complete.attributes field belongs
    rw [text_readMaterial belongs, attributeText, present] at blank
    cases blank.symm.trans filled
  · rw [expiry_readMaterial] at passed
    exact absurd (positive isToken) (Int64.not_lt.2 passed)

end Reading

namespace Credential

variable {kind : Kind} {properties : Properties} {credential : Credential} {material : Material}
  {error : CredentialError} {name text : String}

/-! ## Acceptance -/

/-- Material is accepted if and only if it is not flawed. -/
theorem exists_ofMaterial_iff : (∃ credential, ofMaterial kind material = .ok credential) ↔
    ¬ material.Flawed kind := by
  rw [← refused_iff]
  cases ofMaterial kind material <;> simp

/-- **A credential can be read from properties if and only if they are complete for some kind.** -/
theorem exists_ofProperties_iff : (∃ credential, ofProperties properties = .ok credential) ↔
    ∃ kind, Complete kind properties := by
  constructor
  · rintro ⟨credential, read⟩
    exact ⟨credential.kind, complete_of_encodes (ofProperties_eq_ok_iff.1 read)⟩
  · rintro ⟨kind, complete⟩
    have instant : ∃ expiry, ((kind.isToken = true → readExpiry kind properties = .ok expiry) ∧
        (kind.isToken = false → expiry = 0)) ∧ (kind.isToken = true → 0 < expiry) := by
      cases isToken : kind.isToken with
      | true =>
        obtain ⟨expiry, read, positive⟩ := complete.exists_readExpiry isToken
        exact ⟨expiry, ⟨fun _ => read, nofun⟩, fun _ => positive⟩
      | false => exact ⟨0, ⟨nofun, fun _ => rfl⟩, nofun⟩
    obtain ⟨expiry, reads, positive⟩ := instant
    obtain ⟨credential, made⟩ := exists_ofMaterial_iff.2 (complete.not_flawed positive)
    exact ⟨credential, ofProperties_eq_ok_iff_exists.2 ⟨kind, expiry, complete.tag, reads, made⟩⟩

/-! ## Refusal -/

theorem isInvalid_of_kindParse (refused : Kind.parse name = .error error) :
    error.isInvalid = true := by
  unfold Kind.parse at refused
  split at refused <;> cases refused
  rfl

theorem isInvalid_of_readExpiry (refused : readExpiry kind properties = .error error) :
    error.isInvalid = true := by
  unfold readExpiry at refused
  split at refused
  · cases refused
    rfl
  · split at refused <;> cases refused
    rfl

/-- **Properties are refused as malformed**, whatever they lack. -/
theorem isInvalid_of_ofProperties (refused : ofProperties properties = .error error) :
    error.isInvalid = true := by
  unfold ofProperties at refused
  split at refused
  · cases refused
    rfl
  · next name tag =>
    rcases bind_eq_error_iff.1 refused with unknown | ⟨kind, -, later⟩
    · exact isInvalid_of_kindParse unknown
    · dsimp only at later
      split at later
      · rcases bind_eq_error_iff.1 later with untold | ⟨expiry, -, flawed⟩
        · exact isInvalid_of_readExpiry untold
        · exact (flawed_of_refused flawed).2
      · exact (flawed_of_refused later).2

/-! ## All ways to a credential -/

/-- A credential can be read from a JSON text if and only if complete properties can. -/
theorem exists_read_decode_iff : (∃ credential, Json.read decode text = .ok credential) ↔
    ∃ properties, Json.read (Json.Decoder.map Json.Decoder.string) text = .ok properties ∧
      ∃ kind, Complete kind properties := by
  simp only [read_decode_eq_ok_iff, ← exists_ofProperties_iff]
  constructor
  · rintro ⟨credential, properties, found, stands⟩
    exact ⟨properties, found, credential, stands⟩
  · rintro ⟨properties, found, credential, stands⟩
    exact ⟨credential, properties, found, stands⟩

/-- A credential can be made of what an issuer hands out unless the reply counts as malformed. -/
theorem exists_toCredential_iff {session : Session} {issued : IssuedToken} :
    (∃ credential, session.toCredential issued = .ok credential) ↔
      ¬ MalformedReply session.backend (.ok issued) := by
  rw [← IssuedToken.flawed_material_iff]
  exact exists_ofMaterial_iff

/-- **Exact acceptance.**

* A credential can be read from properties if and only if they are complete for some kind, and what
  is refused is refused as malformed.
* The same holds of unchecked material, of which a credential is made if and only if it is not
  flawed, and of what an issuer hands out. A JSON text holds a credential if and only if it holds
  complete properties.
* So a credential has exactly the attributes of its kind, none of them is blank, and it expires if
  and only if its kind does.
* A text is blank if and only if it consists of the characters of the Unicode property
  `White_Space`. -/
theorem acceptance_exact :
    (∀ properties,
      ((∃ credential, ofProperties properties = .ok credential) ↔
          ∃ kind, Complete kind properties) ∧
        ∀ error, ofProperties properties = .error error → error.isInvalid = true) ∧
    (∀ kind material,
      ((∃ credential, ofMaterial kind material = .ok credential) ↔ ¬ material.Flawed kind) ∧
        ∀ error, ofMaterial kind material = .error error → error.isInvalid = true) ∧
    (∀ (session : Session) (issued : IssuedToken),
      ((∃ credential, session.toCredential issued = .ok credential) ↔
          ¬ MalformedReply session.backend (.ok issued)) ∧
        ∀ error, session.toCredential issued = .error error → error.isInvalid = true) ∧
    (∀ text, (∃ credential, Json.read decode text = .ok credential) ↔
      ∃ properties, Json.read (Json.Decoder.map Json.Decoder.string) text = .ok properties ∧
        ∃ kind, Complete kind properties) ∧
    (∀ credential : Credential, credential.attributes.map Prod.fst = credential.kind.attributes ∧
      (∀ field text, (field, text) ∈ credential.attributes → isBlank text = false) ∧
      credential.isExpiring = credential.kind.isToken) ∧
    ∀ text, isBlank text = true ↔ ∀ character ∈ text.toList, character.toNat ∈ whiteSpace := by
  refine ⟨?_, ?_, ?_, fun _ => exists_read_decode_iff, ?_, isBlank_iff⟩
  · intro properties
    exact ⟨exists_ofProperties_iff, fun _ => isInvalid_of_ofProperties⟩
  · intro kind material
    exact ⟨exists_ofMaterial_iff, fun _ refused => (flawed_of_refused refused).2⟩
  · intro session issued
    exact ⟨exists_toCredential_iff, fun _ refused => (flawed_of_refused refused).2⟩
  · intro credential
    exact ⟨map_fst_attributes credential, fun _ _ => isBlank_of_mem_attributes,
      isExpiring_eq_isToken credential⟩

/-- Properties like the spelled ones, with an expiry that is one above the greatest number. -/
def endlessProperties : Properties :=
  spelledProperties.insert expiryKey "9223372036854775808"

/-- The spelled properties are accepted; an expiry out of range makes them malformed, though it is a
decimal. -/
theorem acceptance_exact_endless :
    (∃ kind, Complete kind spelledProperties) ∧ (¬ ∃ kind, Complete kind endlessProperties) ∧
      ∃ error, ofProperties endlessProperties = .error error ∧ error.isInvalid = true := by
  obtain ⟨reads, -⟩ := acceptance_exact
  have refused : ofProperties endlessProperties =
      .error (.invalidExpiry "9223372036854775808" .tooLarge) := by rfl
  refine ⟨(reads _).1.1 ⟨spelledCredential, rfl⟩, ?_, _, refused, (reads _).2 _ refused⟩
  rw [← (reads _).1]
  rintro ⟨credential, accepted⟩
  cases refused.symm.trans accepted

end Credential

end StorageBroker
