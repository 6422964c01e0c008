import StorageBroker.Proofs.Json.Printed

/-!
# Printed values are decoded

A decoder recovers what was written if it takes the document of the written value for it
(`Decoder.Recovers`). Texts and integers are recovered, and so are lists and maps of what is
recovered one level further inside. A record is recovered from the draft into which its members are
read (`Decoder.recovers_record`).

A value as such is recovered if it does not go beyond the levels that may be opened, and if the
members of each object in it stand in ascending order of their names
(`Value.Legible.value_document`).
-/

set_option autoImplicit false

namespace StorageBroker.Json

open Document

/-! ## Members in order -/

section Order

variable {name : String} {value : Value} {members sorted : List (String × Value)}

/-- The names of members ascend. -/
def Ascending (members : List (String × Value)) : Prop :=
  members.Pairwise fun member later => member.1 < later.1

instance : DecidablePred Ascending := fun members =>
  inferInstanceAs (Decidable (members.Pairwise fun member later => member.1 < later.1))

/-- A member whose name is above all others is set behind them. -/
theorem insertMember_of_above (above : ∀ member ∈ sorted, member.1 < name) :
    insertMember name value sorted = sorted ++ [(name, value)] := by
  induction sorted with
  | nil => rfl
  | cons member sorted ih =>
    obtain ⟨here, later⟩ := List.forall_mem_cons.1 above
    have least : ¬ name < member.1 := String.lt_asymm here
    have different : name ≠ member.1 := by
      rintro rfl
      exact least here
    rw [insertMember, if_neg least, if_neg different, ih later, List.cons_append]

/-- Members that ascend are set one behind the other. -/
theorem foldl_insertMember (ascending : Ascending (sorted ++ members)) :
    members.foldl (fun sorted member => insertMember member.1 member.2 sorted) sorted =
      sorted ++ members := by
  induction members generalizing sorted with
  | nil => rw [List.foldl_nil, List.append_nil]
  | cons member members ih =>
    have above : ∀ earlier ∈ sorted, earlier.1 < member.1 := by
      intro earlier among
      exact (List.pairwise_append.1 ascending).2.2 earlier among member List.mem_cons_self
    have split : sorted ++ member :: members = sorted ++ [member] ++ members := by simp
    rw [split] at ascending
    rw [List.foldl_cons, insertMember_of_above above, split]
    exact ih ascending

/-- **Members that ascend are in order.** -/
theorem sortMembers_of_ascending (ascending : Ascending members) :
    sortMembers members = members :=
  foldl_insertMember ascending

end Order

/-! ## Any value -/

/-- A value that can be read from a text within a number of levels: every number in it is an integer,
and the names of the members of an object ascend. -/
inductive Value.Legible : Nat → Value → Prop where
  | null {levels : Nat} : Legible levels .null
  | bool {levels : Nat} (value : Bool) : Legible levels (.bool value)
  | integer {levels : Nat} (value : Int)
      (fits : -9223372036854775808 ≤ value ∧ value < 18446744073709551616) :
      Legible levels (.number (.integer value fits))
  | string {levels : Nat} (text : String) : Legible levels (.string text)
  | array {levels : Nat} {items : List Value} (each : ∀ item ∈ items, Legible levels item) :
      Legible (levels + 1) (.array items)
  | object {levels : Nat} {members : List (String × Value)} (ascending : Ascending members)
      (each : ∀ member ∈ members, Legible levels member.2) :
      Legible (levels + 1) (.object members)

section Values

variable {levels : Nat} {value : Value} {items : List Value} {members : List (String × Value)}

theorem Value.Legible.integral (legible : value.Legible levels) : value.Integral := by
  induction legible with
  | null => exact .null
  | bool value => exact .bool value
  | integer value fits => exact .integer value fits
  | string text => exact .string text
  | array _ ih => exact .array ih
  | object _ _ ih => exact .object ih

theorem itemValues_itemDocuments
    (each : ∀ item ∈ items, Decoder.value levels item.document = .ok item) :
    Decoder.itemValues levels (itemDocuments items) = .ok items := by
  induction items with
  | nil => rfl
  | cons item items ih =>
    obtain ⟨here, later⟩ := List.forall_mem_cons.1 each
    rw [itemDocuments, Decoder.itemValues, here, ih later]
    rfl

theorem memberValues_memberDocuments
    (each : ∀ member ∈ members, Decoder.value levels member.2.document = .ok member.2) :
    Decoder.memberValues levels (memberDocuments members) = .ok members := by
  induction members with
  | nil => rfl
  | cons member members ih =>
    obtain ⟨here, later⟩ := List.forall_mem_cons.1 each
    rw [memberDocuments, Decoder.memberValues, here, ih later]
    rfl

/-- **A legible value is taken for itself.** -/
theorem Value.Legible.value_document (legible : value.Legible levels) :
    Decoder.value levels value.document = .ok value := by
  induction legible with
  | null => rfl
  | bool value => rfl
  | integer value fits => rfl
  | string text => rfl
  | array _ ih =>
    rw [Value.document, Decoder.value]
    simp only [Decoder.openLevel, bind, Except.bind]
    rw [itemValues_itemDocuments ih]
    rfl
  | @object _ members ascending _ ih =>
    rw [Value.document, Decoder.value]
    simp only [Decoder.openLevel, bind, Except.bind]
    rw [memberValues_memberDocuments ih]
    exact congrArg (fun members => Except.ok (Value.object members))
      (sortMembers_of_ascending ascending)

end Values

/-! ## What is recovered -/

namespace Decoder

/-- What was written is recovered from its document. -/
def Recovers {α : Type} (decode : Decoder α) (write : α → Value) (levels : Nat) (value : α) : Prop :=
  decode levels (write value).document = .ok value

variable {α : Type} {levels : Nat}

theorem recovers_string (text : String) : Recovers string .string levels text := rfl

/-- An integer in the range of a type is taken for the value of the type. -/
theorem map_integer_document {wanted : String} {least greatest number : Int}
    {fits : -9223372036854775808 ≤ number ∧ number < 18446744073709551616} {ofInt : Int → α}
    {value : α} (within : least ≤ number ∧ number ≤ greatest) (back : ofInt number = value) :
    (integer wanted least greatest levels (Value.number (.integer number fits)).document).map
      ofInt = .ok value := by
  have taken : integer wanted least greatest levels
      (Value.number (.integer number fits)).document = .ok number := if_pos within
  rw [taken, ← back]
  rfl

section Collections

variable {decode : Decoder α} {write : α → Value}

theorem items_itemDocuments {values : List α}
    (each : ∀ value ∈ values, Recovers decode write levels value) :
    items (decode levels) (itemDocuments (values.map write)) = .ok values := by
  induction values with
  | nil => rfl
  | cons value values ih =>
    obtain ⟨here, later⟩ := List.forall_mem_cons.1 each
    rw [List.map_cons, itemDocuments, items, here, ih later]
    rfl

/-- **A list of what is recovered is recovered.** -/
theorem recovers_list {values : List α}
    (each : ∀ value ∈ values, Recovers decode write levels value) :
    Recovers (list decode) (fun values => .array (values.map write)) (levels + 1) values := by
  rw [Recovers, Value.document, list]
  simp only [openLevel, bind, Except.bind]
  rw [items_itemDocuments each]
  rfl

theorem members_memberDocuments {entries : List (String × α)}
    (each : ∀ entry ∈ entries, Recovers decode write levels entry.2) :
    members (decode levels)
      (memberDocuments (entries.map fun entry => (entry.1, write entry.2))) = .ok entries := by
  induction entries with
  | nil => rfl
  | cons entry entries ih =>
    obtain ⟨here, later⟩ := List.forall_mem_cons.1 each
    rw [List.map_cons, memberDocuments, members, here, ih later]
    rfl

/-- **A map of what is recovered is recovered**, with its entries in their order. -/
theorem recovers_map {collection : Keyed String α}
    (each : ∀ entry ∈ collection.entries, Recovers decode write levels entry.2) :
    Recovers (map decode)
      (fun collection => .object (collection.entries.map fun entry => (entry.1, write entry.2)))
      (levels + 1) collection := by
  rw [Recovers, Value.document, map]
  simp only [openLevel, bind, Except.bind]
  rw [members_memberDocuments each]
  exact congrArg Except.ok (Keyed.ofList_entries collection)

end Collections

end Decoder

/-! ## Members of a record -/

section Records

variable {σ : Type} {levels : Nat} {fields : List (Decoder.Field σ)} {field : Decoder.Field σ}
  {draft final : σ} {name : String} {value : Document} {members : List (Option String × Document)}

/-- A member under the name of a field is read into the draft, if there was none before. -/
theorem fillByName_known (known : fields.find? (fun field => field.name == name) = some field) :
    Decoder.fillByName fields levels ((some name, value) :: members) draft = .ok final ↔
      field.isSet draft = false ∧ ∃ next, field.read levels value draft = .ok next ∧
        Decoder.fillByName fields levels members next = .ok final := by
  rw [Decoder.fillByName, Decoder.memberName]
  dsimp only [bind, Except.bind]
  rw [known]
  dsimp only
  cases field.isSet draft with
  | true => simp
  | false =>
    rw [if_neg Bool.false_ne_true]
    exact bind_eq_ok_iff.trans (and_iff_right rfl).symm

/-- A member under another name is read past. -/
theorem fillByName_unknown (unknown : fields.find? (fun field => field.name == name) = none) :
    Decoder.fillByName fields levels ((some name, value) :: members) draft = .ok final ↔
      Decoder.skip value = .ok () ∧ Decoder.fillByName fields levels members draft = .ok final := by
  rw [Decoder.fillByName, Decoder.memberName]
  dsimp only [bind, Except.bind]
  rw [unknown]
  refine bind_eq_ok_iff.trans ⟨?_, ?_⟩
  · rintro ⟨_, passed, rest⟩
    exact ⟨passed, rest⟩
  · rintro ⟨passed, rest⟩
    exact ⟨(), passed, rest⟩

/-- **A record is recovered** if its members are read into a draft that is completed to it. -/
theorem Decoder.recovers_record {α : Type} {shape : Decoder.Shape σ α} {write : α → Value}
    {value : α} {written : List (String × Value)} (final : σ)
    (object : write value = .object written)
    (filled : Decoder.fillByName shape.fields levels (memberDocuments written) shape.draft =
      .ok final) (completed : shape.complete final = .ok value) :
    Recovers (Decoder.record shape) write (levels + 1) value := by
  rw [Recovers, object, Value.document, Decoder.record]
  simp only [Decoder.openLevel, bind, Except.bind]
  rw [filled]
  exact completed

end Records

/-! ## Maps of texts -/

/-- **A printed map of texts is read back.** -/
theorem read_print_map (collection : Keyed String String) :
    read (Decoder.map Decoder.string)
        (Value.object (collection.entries.map fun entry => (entry.1, .string entry.2))).print =
      .ok collection := by
  rw [read_print (.object_map fun entry _ => .string entry.2)]
  exact Decoder.recovers_map fun entry _ => Decoder.recovers_string entry.2

end StorageBroker.Json
