import StorageBroker.Credential.Properties
import StorageBroker.Proofs.Credential.Material
import StorageBroker.Proofs.Json.Decoded
import StorageBroker.Proofs.Text.Numeral

/-!
# The codec of credentials

Properties stand for a credential if and only if they hold its kind and its attributes as they are and
spell its expiry (`Credential.ofProperties_eq_ok_iff`). The properties that are written of a credential
stand for it (`Credential.encodes_toProperties`), so a credential that is written is read back, in JSON
too (`Credential.properties_codec`).
-/

set_option autoImplicit false

namespace StorageBroker

open Text

/-- Properties hold the kind and the attributes of a credential as they are, and if it is a token they
spell its expiry. -/
structure Encodes (properties : Properties) (credential : Credential) : Prop where
  tag : properties.get? kindKey = some credential.kind.name
  attributes : ∀ field text, (field, text) ∈ credential.attributes →
    properties.get? field.key = some text
  expiry : credential.kind.isToken = true → ∃ text, properties.get? expiryKey = some text ∧
    Numeral.Spells text credential.expiryMillis.toInt

/-- Two collections of properties agree on the keys that belong to a kind. -/
structure AgreeOn (kind : Kind) (left right : Properties) : Prop where
  tag : left.get? kindKey = right.get? kindKey
  attributes : ∀ field ∈ kind.attributes, left.get? field.key = right.get? field.key
  expiry : kind.isToken = true → left.get? expiryKey = right.get? expiryKey

/-- A kind goes by its exact name. -/
theorem Kind.parse_eq_ok_iff {kind : Kind} {name : String} :
    Kind.parse name = .ok kind ↔ name = kind.name := by
  unfold parse ofName?
  constructor
  · intro parsed
    split at parsed
    · next found known =>
      cases parsed
      have same := List.find?_some known
      exact (beq_iff_eq.1 same).symm
    · cases parsed
  · rintro rfl
    cases kind <;> rfl

theorem Attribute.key_ne_kindKey (field : Attribute) : field.key ≠ kindKey := by
  cases field <;> decide

theorem Attribute.key_ne_expiryKey (field : Attribute) : field.key ≠ expiryKey := by
  cases field <;> decide

namespace Credential

/-! ## Reading -/

section Reading

variable {credential : Credential} {properties : Properties} {kind : Kind} {expiry : Int64}
  {field : Attribute} {text : String}

theorem readExpiry_eq_ok_iff : readExpiry kind properties = .ok expiry ↔
    ∃ text, properties.get? expiryKey = some text ∧ Numeral.signed (trim text) = .ok expiry := by
  unfold readExpiry
  split
  · next missing => simp [missing]
  · next text present =>
    rw [present]
    constructor
    · intro read
      split at read
      · next milliseconds spelled =>
        cases read
        exact ⟨text, rfl, spelled⟩
      · cases read
    · rintro ⟨_, ⟨⟩, spelled⟩
      rw [spelled]

/-- The material for a kind has the attributes of the properties. -/
theorem text_readMaterial (belongs : field ∈ kind.attributes) :
    (readMaterial kind properties expiry).text field = attributeText properties field := by
  cases kind <;> simp only [Kind.attributes, List.mem_cons, List.not_mem_nil, or_false] at belongs
  case gcsToken =>
    rw [belongs]
    rfl
  case s3SecretKey | ossSecretKey =>
    rcases belongs with rfl | rfl <;> rfl
  case s3Token | ossToken =>
    rcases belongs with rfl | rfl | rfl <;> rfl

theorem expiry_readMaterial : (readMaterial kind properties expiry).expiry = expiry := by
  cases kind <;> rfl

/-- A text that is not blank is the value of an attribute if and only if it stands under its key. -/
theorem attributeText_eq_iff (filled : isBlank text = false) :
    attributeText properties field = text ↔ properties.get? field.key = some text := by
  unfold attributeText
  cases properties.get? field.key with
  | none =>
    constructor
    · rintro rfl
      cases filled
    · rintro ⟨⟩
  | some other => simp

theorem map_fst_attributes (credential : Credential) :
    credential.attributes.map Prod.fst = credential.kind.attributes := by
  cases credential <;> rfl

theorem expiryMillis_of_static (static : credential.kind.isToken = false) :
    credential.expiryMillis = 0 := by
  cases credential with
  | s3SecretKey _ | ossSecretKey _ => rfl
  | s3Token _ _ _ | gcsToken _ _ | ossToken _ _ _ => cases static

/-- A credential has the attributes of properties if and only if they stand under their keys. -/
theorem attributes_eq_iff : credential.attributes =
      credential.kind.attributes.map (fun field => (field, attributeText properties field)) ↔
    ∀ field text, (field, text) ∈ credential.attributes → properties.get? field.key = some text := by
  constructor
  · intro same field text member
    have filled := isBlank_of_mem_attributes member
    rw [same] at member
    obtain ⟨other, -, equal⟩ := List.mem_map.1 member
    cases equal
    exact (attributeText_eq_iff filled).1 rfl
  · intro stand
    rw [← map_fst_attributes, List.map_map]
    have each : ∀ entry ∈ credential.attributes,
        (entry.1, attributeText properties entry.1) = entry := by
      rintro ⟨field, text⟩ member
      rw [(attributeText_eq_iff (isBlank_of_mem_attributes member)).2 (stand field text member)]
    exact ((List.map_congr_left each).trans (List.map_id _)).symm

/-- The stages in which properties are read. -/
theorem ofProperties_eq_ok_iff_exists : ofProperties properties = .ok credential ↔
    ∃ kind expiry, properties.get? kindKey = some kind.name ∧
      ((kind.isToken = true → readExpiry kind properties = .ok expiry) ∧
        (kind.isToken = false → expiry = 0)) ∧
      ofMaterial kind (readMaterial kind properties expiry) = .ok credential := by
  unfold ofProperties
  constructor
  · intro read
    split at read
    · cases read
    · next name tag =>
      obtain ⟨kind, parsed, rest⟩ := bind_eq_ok_iff.1 read
      obtain rfl := Kind.parse_eq_ok_iff.1 parsed
      dsimp only at rest
      split at rest
      · next isToken =>
        obtain ⟨expiry, instant, made⟩ := bind_eq_ok_iff.1 rest
        refine ⟨kind, expiry, tag, ⟨fun _ => instant, ?_⟩, made⟩
        intro static
        cases isToken.symm.trans static
      · next static => exact ⟨kind, 0, tag, ⟨fun isToken => absurd isToken static, fun _ => rfl⟩, rest⟩
  · rintro ⟨kind, expiry, tag, ⟨dynamic, static⟩, made⟩
    rw [tag]
    refine bind_eq_ok_iff.2 ⟨kind, Kind.parse_eq_ok_iff.2 rfl, ?_⟩
    dsimp only
    split
    · next isToken => exact bind_eq_ok_iff.2 ⟨expiry, dynamic isToken, made⟩
    · next isStatic =>
      rw [static (Bool.eq_false_iff.2 isStatic)] at made
      exact made

/-- A credential is read from properties by its kind, its expiry and its attributes. -/
theorem ofProperties_eq_ok_iff_parts : ofProperties properties = .ok credential ↔
    properties.get? kindKey = some credential.kind.name ∧
      (credential.kind.isToken = true →
        readExpiry credential.kind properties = .ok credential.expiryMillis) ∧
      credential.attributes =
        credential.kind.attributes.map (fun field => (field, attributeText properties field)) := by
  have places (kind : Kind) (expiry : Int64) :
      kind.attributes.map (fun field => (field, (readMaterial kind properties expiry).text field)) =
        kind.attributes.map (fun field => (field, attributeText properties field)) := by
    refine List.map_congr_left fun field belongs => ?_
    rw [text_readMaterial belongs]
  rw [ofProperties_eq_ok_iff_exists]
  constructor
  · rintro ⟨kind, expiry, tag, instant, made⟩
    obtain ⟨rfl, same, told⟩ := ofMaterial_eq_ok_iff.1 made
    rw [places] at same
    refine ⟨tag, ?_, same⟩
    intro isToken
    rw [told isToken, expiry_readMaterial]
    exact instant.1 isToken
  · rintro ⟨tag, spelled, same⟩
    refine ⟨credential.kind, credential.expiryMillis, tag, ⟨spelled, expiryMillis_of_static⟩, ?_⟩
    refine ofMaterial_eq_ok_iff.2 ⟨rfl, ?_, fun _ => expiry_readMaterial.symm⟩
    rw [places]
    exact same

/-- **Properties stand for a credential if and only if they encode it.** -/
theorem ofProperties_eq_ok_iff : ofProperties properties = .ok credential ↔
    Encodes properties credential := by
  rw [ofProperties_eq_ok_iff_parts, attributes_eq_iff]
  constructor
  · rintro ⟨tag, spelled, stand⟩
    refine ⟨tag, stand, ?_⟩
    intro isToken
    obtain ⟨text, present, read⟩ := readExpiry_eq_ok_iff.1 (spelled isToken)
    exact ⟨text, present, (Numeral.signed_trim_eq_ok_iff (expiryMillis_pos isToken)).1 read⟩
  · rintro ⟨tag, stand, expiry⟩
    refine ⟨tag, ?_, stand⟩
    intro isToken
    obtain ⟨text, present, spells⟩ := expiry isToken
    exact readExpiry_eq_ok_iff.2
      ⟨text, present, (Numeral.signed_trim_eq_ok_iff (expiryMillis_pos isToken)).2 spells⟩

end Reading

variable {credential : Credential} {properties : Properties}

/-! ## Writing -/

/-- The attributes of a credential go by different keys. -/
theorem nodup_keys_attributes (credential : Credential) :
    ((credential.attributes.map fun field => (field.1.key, field.2)).map Prod.fst).Nodup := by
  have keys : (credential.attributes.map fun field => (field.1.key, field.2)).map Prod.fst =
      credential.kind.attributes.map Attribute.key := by
    rw [← map_fst_attributes, List.map_map, List.map_map]
    rfl
  rw [keys]
  cases credential.kind <;> decide

theorem get?_info {field : Attribute} {text : String}
    (member : (field, text) ∈ credential.attributes) :
    credential.info.get? field.key = some text := by
  rw [Keyed.get?_eq_some_iff, info, Keyed.entries_ofList (nodup_keys_attributes credential)]
  exact List.mem_map_of_mem (f := fun field : Attribute × String => (field.1.key, field.2)) member

/-- **What is written of a credential stands for it.** -/
theorem encodes_toProperties (credential : Credential) :
    Encodes credential.toProperties credential := by
  refine ⟨?_, ?_, ?_⟩
  · rw [toProperties, Keyed.get?_insert, if_neg (by decide), Keyed.get?_insert, if_pos rfl]
  · intro field text member
    rw [toProperties, Keyed.get?_insert, if_neg field.key_ne_expiryKey.symm, Keyed.get?_insert,
      if_neg field.key_ne_kindKey.symm]
    exact get?_info member
  · intro _
    refine ⟨_, ?_, Numeral.spells_toString _⟩
    rw [toProperties, Keyed.get?_insert, if_pos rfl]

/-- A credential that is written is read back. -/
theorem ofProperties_toProperties (credential : Credential) :
    ofProperties credential.toProperties = .ok credential :=
  ofProperties_eq_ok_iff.2 (encodes_toProperties credential)

/-! ## What is kept -/

/-- What properties have in common with the properties that are written of their credential: the kind
and the attributes are the same texts, and the expiry is the number that they spell. Nothing else
matters. -/
structure Kept (properties : Properties) (credential : Credential) : Prop where
  tag : ∃ name, properties.get? kindKey = some name ∧
    credential.toProperties.get? kindKey = some name
  attributes : ∀ field ∈ credential.kind.attributes, ∃ text,
    properties.get? field.key = some text ∧ credential.toProperties.get? field.key = some text
  expiry : credential.kind.isToken = true → ∃ text, properties.get? expiryKey = some text ∧
    Numeral.Spells text credential.expiryMillis.toInt
  noExpiry : credential.kind.isToken = false → credential.expiryMillis = 0
  others : ∀ similar, AgreeOn credential.kind properties similar → ofProperties similar = .ok credential

/-- Properties that agree with an encoding on the keys of its kind are one, too. -/
theorem encodes_of_agree {similar : Properties} (encodes : Encodes properties credential)
    (agree : AgreeOn credential.kind properties similar) : Encodes similar credential := by
  refine ⟨agree.tag ▸ encodes.tag, ?_, ?_⟩
  · intro field text member
    have belongs : field ∈ credential.kind.attributes := by
      rw [← map_fst_attributes]
      exact List.mem_map_of_mem member
    rw [← agree.attributes field belongs]
    exact encodes.attributes field text member
  · intro isToken
    rw [← agree.expiry isToken]
    exact encodes.expiry isToken

theorem kept_of_encodes (encodes : Encodes properties credential) : Kept properties credential where
  tag := ⟨credential.kind.name, encodes.tag, (encodes_toProperties credential).tag⟩
  attributes := by
    intro field belongs
    rw [← map_fst_attributes] at belongs
    obtain ⟨⟨_, text⟩, member, rfl⟩ := List.mem_map.1 belongs
    exact ⟨text, encodes.attributes _ text member,
      (encodes_toProperties credential).attributes _ text member⟩
  expiry := encodes.expiry
  noExpiry := expiryMillis_of_static
  others := fun _ agree => ofProperties_eq_ok_iff.2 (encodes_of_agree encodes agree)

/-! ## JSON -/

/-- A JSON text holds a credential if and only if it holds properties that stand for it. -/
theorem read_decode_eq_ok_iff {text : String} : Json.read decode text = .ok credential ↔
    ∃ properties, Json.read (Json.Decoder.map Json.Decoder.string) text = .ok properties ∧
      ofProperties properties = .ok credential := by
  have decoded : decode Json.levelLimit (Json.Document.ofText text).1 = .ok credential ↔
      ∃ properties, Json.Decoder.map Json.Decoder.string Json.levelLimit (Json.Document.ofText text).1 =
        .ok properties ∧ ofProperties properties = .ok credential := by
    rw [decode, bind_eq_ok_iff]
    refine exists_congr fun properties => and_congr_right fun _ => ?_
    cases ofProperties properties <;> simp
  simp only [Json.read_eq_ok_iff, decoded]
  constructor
  · rintro ⟨⟨properties, found, stands⟩, closed⟩
    exact ⟨properties, ⟨found, closed⟩, stands⟩
  · rintro ⟨properties, ⟨found, closed⟩, stands⟩
    exact ⟨⟨properties, found, stands⟩, closed⟩

/-- Properties that stand for a credential are read as it from JSON. -/
theorem read_decode_print (stands : ofProperties properties = .ok credential) :
    Json.read decode properties.toJson.print = .ok credential :=
  read_decode_eq_ok_iff.2 ⟨properties, Json.read_print_map properties, stands⟩

/-- **The codec of credentials.** A credential that is written is read back, and writing it again
changes nothing. Of properties that stand for a credential the kind and the attributes are kept as
they are, the expiry is kept as a number, and nothing else matters. In JSON a credential is a map of
texts, and the same holds there. -/
theorem properties_codec (credential : Credential) :
    ofProperties credential.toProperties = .ok credential ∧
      (ofProperties credential.toProperties).map toProperties = .ok credential.toProperties ∧
      (∀ properties, ofProperties properties = .ok credential → Kept properties credential) ∧
      (∀ text, Json.read decode text = .ok credential ↔
        ∃ properties, Json.read (Json.Decoder.map Json.Decoder.string) text = .ok properties ∧
          ofProperties properties = .ok credential) ∧
      ∀ properties, ofProperties properties = .ok credential →
        Json.read decode properties.toJson.print = .ok credential := by
  refine ⟨ofProperties_toProperties credential, ?_, ?_, fun _ => read_decode_eq_ok_iff,
    fun _ => read_decode_print⟩
  · rw [ofProperties_toProperties]
    rfl
  · intro properties stands
    exact kept_of_encodes (ofProperties_eq_ok_iff.1 stands)

/-- A token with space around it, its expiry with space, a plus and zeros, and a note. -/
def spelledProperties : Properties :=
  Keyed.ofList [("note", "kept aside"), (expiryKey, " +0042\t"), (Attribute.gcsToken.key, " token "),
    (kindKey, Kind.gcsToken.name)]

/-- The credential that is spelled so. -/
def spelledCredential : Credential :=
  .gcsToken ⟨" token ", by decide +kernel⟩ ⟨42, by decide⟩

/-- The space around the token is kept, the number is read, and the note does not matter. -/
theorem properties_codec_spelled :
    ofProperties spelledProperties = .ok spelledCredential ∧
      spelledCredential.toProperties.get? Attribute.gcsToken.key = some " token " ∧
      Numeral.Spells " +0042\t" 42 ∧
      Json.read decode spelledProperties.toJson.print = .ok spelledCredential := by
  have stands : ofProperties spelledProperties = .ok spelledCredential := by rfl
  obtain ⟨-, -, kept, -, printed⟩ := properties_codec spelledCredential
  refine ⟨stands, ?_, ?_, printed _ stands⟩
  · obtain ⟨text, present, same⟩ := (kept _ stands).attributes .gcsToken (by decide)
    cases present
    exact same
  · obtain ⟨text, present, spells⟩ := (kept _ stands).expiry rfl
    cases present
    exact spells

end Credential

end StorageBroker
