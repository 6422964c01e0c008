import StorageBroker.Proofs.Json.Decoded
import StorageBroker.Table.Identifier

/-!
# Which identifiers there are

An identifier is proper if it has at least one level and none of its components is blank. Of
components just the proper identifiers are made (`TableId.make_eq_ok_iff`), and of a text just the
proper one whose components are joined in it (`TableId.parse_eq_ok_iff`).

A JSON text is read as just the identifier that it spells (`TableId.read_decode_eq_ok_iff`), and
every identifier is spelled by some text (`TableId.read_decode_print`). Nothing is checked there, so
not every identifier that is read from JSON is proper (`TableId.not_forall_gives_proper`).
-/

set_option autoImplicit false

namespace StorageBroker

/-! ## Pieces of a text -/

namespace Text

variable {separator : Char} {part text : List Char} {parts : List (List Char)}

/-- A text without a separator is a single piece. -/
theorem pieces_of_not_mem (free : separator ∉ text) : pieces separator text = [text] := by
  induction text with
  | nil => rfl
  | cons character rest ih =>
    rw [List.mem_cons, not_or] at free
    rw [pieces, if_neg (Ne.symm free.1), ih free.2]

/-- What stands in front of a separator is a piece. -/
theorem pieces_append_cons (free : separator ∉ part) :
    pieces separator (part ++ separator :: text) = part :: pieces separator text := by
  induction part with
  | nil => rw [List.nil_append, pieces, if_pos rfl]
  | cons character rest ih =>
    rw [List.mem_cons, not_or] at free
    rw [List.cons_append, pieces, if_neg (Ne.symm free.1), ih free.2]

/-- Parts without a separator are the pieces of what they are joined to. -/
theorem pieces_intercalate (filled : parts ≠ []) (free : ∀ part ∈ parts, separator ∉ part) :
    pieces separator (List.intercalate [separator] parts) = parts := by
  induction parts with
  | nil => exact absurd rfl filled
  | cons part parts ih =>
    obtain ⟨here, later⟩ := List.forall_mem_cons.1 free
    cases parts with
    | nil => rw [List.intercalate_singleton, pieces_of_not_mem here]
    | cons second parts =>
      rw [List.intercalate_cons_cons, List.append_assoc, List.singleton_append,
        pieces_append_cons here, ih (List.cons_ne_nil _ _) later]

/-- A text has certain pieces if and only if it is joined of them and no separator stands in one. -/
theorem map_pieces_eq_iff {text : String} {parts : List String} (filled : parts ≠ []) :
    (pieces separator text.toList).map String.ofList = parts ↔
      text = String.intercalate (String.singleton separator) parts ∧
        ∀ part ∈ parts, separator ∉ part.toList := by
  have joined : (String.intercalate (String.singleton separator) parts).toList =
      List.intercalate [separator] (parts.map String.toList) := by
    rw [String.toList_intercalate, String.toList_singleton]
  constructor
  · rintro rfl
    have back : ((pieces separator text.toList).map String.ofList).map String.toList =
        pieces separator text.toList := by
      rw [List.map_map]
      exact (List.map_congr_left fun piece _ => String.toList_ofList).trans (List.map_id _)
    refine ⟨?_, ?_⟩
    · rw [← String.toList_inj, joined, back, join_pieces]
    · intro part member
      obtain ⟨piece, cut, rfl⟩ := List.mem_map.1 member
      rw [String.toList_ofList]
      exact not_mem_of_mem_pieces cut
  · rintro ⟨rfl, free⟩
    have each : ∀ piece ∈ parts.map String.toList, separator ∉ piece := by
      intro piece member
      obtain ⟨part, among, rfl⟩ := List.mem_map.1 member
      exact free part among
    have nonempty : parts.map String.toList ≠ [] :=
      fun none_ => filled (List.map_eq_nil_iff.1 none_)
    rw [joined, pieces_intercalate nonempty each, List.map_map]
    exact (List.map_congr_left fun part _ => String.ofList_toList).trans (List.map_id parts)

end Text

/-! ## What decoders take -/

namespace Json

/-- What stands under a name in an object, in order. -/
def Document.under (name : String) (members : List (Option String × Document)) : List Document :=
  members.filterMap fun member => if member.1 = some name then some member.2 else none

/-- The members of an object can be read past: their names are texts, and their values are well
formed. -/
def Passable (members : List (Option String × Document)) : Prop :=
  ∀ member ∈ members, (∃ name, member.1 = some name) ∧ Decoder.skip member.2 = .ok ()

/-- A member under a name can be read past if its value can. -/
theorem passable_cons_iff {name : String} {value : Document}
    {members : List (Option String × Document)} :
    Passable ((some name, value) :: members) ↔ Decoder.skip value = .ok () ∧ Passable members := by
  rw [Passable, List.forall_mem_cons]
  constructor
  · rintro ⟨⟨-, passed⟩, others⟩
    exact ⟨passed, others⟩
  · rintro ⟨passed, others⟩
    exact ⟨⟨⟨name, rfl⟩, passed⟩, others⟩

theorem Document.under_cons_self {name : String} {value : Document}
    {members : List (Option String × Document)} :
    under name ((some name, value) :: members) = value :: under name members := by
  simp [under]

theorem Document.under_cons_of_ne {name other : String} {value : Document}
    {members : List (Option String × Document)} (different : other ≠ name) :
    under name ((some other, value) :: members) = under name members := by
  simp [under, different]

section Decoders

variable {levels : Nat} {document value : Document} {documents : List Document} {text name : String}
  {items : List String} {ending : Ending} {members : List (Option String × Document)}

theorem string_eq_ok_iff : Decoder.string levels document = .ok text ↔
    document = .string (some text) := by
  unfold Decoder.string
  split
  · next found => simp
  · next other =>
    constructor
    · rintro ⟨⟩
    · rintro rfl
      exact absurd rfl (other text)

theorem expectClosed_eq_ok_iff {done : Unit} :
    Decoder.expectClosed ending = .ok done ↔ ending = .closed := by
  cases ending <;> simp [Decoder.expectClosed]

theorem items_string_eq_ok_iff : Decoder.items (Decoder.string levels) documents = .ok items ↔
    documents = items.map fun text => .string (some text) := by
  induction documents generalizing items with
  | nil => cases items <;> simp [Decoder.items]
  | cons document documents ih =>
    simp only [Decoder.items, bind_eq_ok_iff, string_eq_ok_iff, ih]
    constructor
    · rintro ⟨text, rfl, texts, rfl, ⟨⟩⟩
      rfl
    · intro same
      cases items with
      | nil => cases same
      | cons text texts =>
        obtain ⟨here, later⟩ := List.cons.inj same
        exact ⟨text, here, texts, later, rfl⟩

/-- A list of texts is read from an array of just these texts. -/
theorem list_string_eq_ok_iff : Decoder.list Decoder.string (levels + 1) document = .ok items ↔
    document = .texts items := by
  cases document with
  | array documents ending =>
    simp only [Decoder.list, Decoder.openLevel, bind_eq_ok_iff, items_string_eq_ok_iff,
      expectClosed_eq_ok_iff]
    constructor
    · rintro ⟨_, ⟨⟩, texts, rfl, ⟨⟩, rfl, ⟨⟩⟩
      rfl
    · intro same
      cases same
      exact ⟨levels, rfl, items, rfl, (), rfl, rfl⟩
  | _ => simp [Decoder.list, Document.texts]

theorem skip_texts (items : List String) : Decoder.skip (.texts items) = .ok () := by
  have each : Decoder.skipItems (items.map fun text => .string (some text)) = .ok () := by
    induction items with
    | nil => rfl
    | cons text items ih =>
      rw [List.map_cons, Decoder.skipItems, Decoder.skip, ih]
      rfl
  rw [Document.texts, Decoder.skip, each]
  rfl

theorem texts_injective {others : List String} (same : Document.texts items = .texts others) :
    items = others := by
  injection same with listed
  exact (List.map_inj_right fun _ _ alike => by injections).1 listed

end Decoders

end Json

namespace TableId

/-! ## Proper identifiers -/

/-- An identifier with at least one level and without a blank component. -/
structure Proper (id : TableId) : Prop where
  qualified : id.levels ≠ []
  filled : ∀ level ∈ id.levels, Text.isBlank level = false
  named : Text.isBlank id.name = false

instance (id : TableId) : Decidable id.Proper :=
  decidable_of_iff
    (id.levels ≠ [] ∧ (∀ level ∈ id.levels, Text.isBlank level = false) ∧
      Text.isBlank id.name = false)
    ⟨fun ⟨qualified, filled, named⟩ => ⟨qualified, filled, named⟩,
      fun proper => ⟨proper.qualified, proper.filled, proper.named⟩⟩

variable {id : TableId} {levels : List String} {name text : String}

/-- **An identifier is made of components if and only if it has them and is proper.** -/
theorem make_eq_ok_iff : make levels name = .ok id ↔ id = ⟨levels, name⟩ ∧ id.Proper := by
  unfold make
  constructor
  · intro made
    split at made
    · cases made
    · next qualified =>
      split at made
      · cases made
      · next filled =>
        cases made
        simp only [Bool.or_eq_true, List.any_eq_true, not_or, not_exists, not_and,
          Bool.not_eq_true] at filled
        rw [List.isEmpty_iff] at qualified
        exact ⟨rfl, qualified, filled.2, filled.1⟩
  · rintro ⟨rfl, qualified, filled, named⟩
    have all : (Text.isBlank name || levels.any Text.isBlank) = false := by
      rw [Bool.or_eq_false_iff, List.any_eq_false]
      exact ⟨named, fun level member => Bool.eq_false_iff.1 (filled level member)⟩
    rw [if_neg (by rw [List.isEmpty_iff]; exact qualified), all, if_neg Bool.false_ne_true]

/-- The components of an identifier, from the first level on. -/
def components (id : TableId) : List String := id.levels ++ [id.name]

theorem components_ne_nil (id : TableId) : id.components ≠ [] :=
  List.append_ne_nil_of_right_ne_nil _ (List.cons_ne_nil _ _)

/-- **An identifier is made of a text if and only if it is proper and the text is its components**,
with a slash between them, or with a dot if there is no slash in the text. -/
theorem parse_eq_ok_iff : parse text = .ok id ↔ id.Proper ∧
    text = String.intercalate (String.singleton (separatorOf text)) id.components ∧
      ∀ component ∈ id.components, separatorOf text ∉ component.toList := by
  rw [← Text.map_pieces_eq_iff (components_ne_nil id)]
  unfold parse
  dsimp only
  generalize (Text.pieces (separatorOf text) text.toList).map String.ofList = parts
  constructor
  · intro parsed
    split at parsed
    · cases parsed
    · next enough =>
      split at parsed
      · next made =>
        cases parsed
        obtain ⟨rfl, proper⟩ := make_eq_ok_iff.1 made
        rcases List.eq_nil_or_concat parts with rfl | ⟨levels, name, rfl⟩
        · exact absurd Nat.zero_lt_two enough
        · refine ⟨proper, ?_⟩
          simp only [components, List.concat_eq_append, List.dropLast_concat, List.getLastD_concat]
      · cases parsed
  · rintro ⟨proper, rfl⟩
    have made : make id.components.dropLast (id.components.getLastD "") = .ok id := by
      rw [components, List.dropLast_concat, List.getLastD_concat]
      exact make_eq_ok_iff.2 ⟨rfl, proper⟩
    have enough : ¬ id.components.length < 2 := by
      have := List.length_pos_iff.2 proper.qualified
      rw [components, List.length_append, List.length_singleton]
      omega
    rw [if_neg enough, made]

/-- The parts of a proper identifier: the database is the first level, and it is not blank; the
written form has all components, with dots between them. -/
theorem Proper.parts (proper : id.Proper) : id.levels.head? = some id.database ∧
    Text.isBlank id.database = false ∧ id.display = String.intercalate "." id.components := by
  obtain ⟨first, others, same⟩ := List.exists_cons_of_ne_nil proper.qualified
  have database : id.database = first := by rw [TableId.database, same, List.headD_cons]
  refine ⟨by rw [same, database, List.head?_cons], ?_, ?_⟩
  · rw [database]
    exact proper.filled first (same ▸ List.mem_cons_self)
  · rw [components, String.intercalate_append_of_ne_nil proper.qualified (List.cons_ne_nil _ _),
      String.intercalate_singleton]
    rfl

/-! ## Identifiers in JSON -/

/-- A document spells an identifier: it is an object in which the two fields stand once each, with
just the levels and the name, whatever stands under other names; or an array of the two. -/
inductive SpelledBy (id : TableId) : Json.Document → Prop where
  | object {members : List (Option String × Json.Document)} (passable : Json.Passable members)
      (levels : Json.Document.under "namespace" members = [.texts id.levels])
      (name : Json.Document.under "name" members = [.string (some id.name)]) :
      SpelledBy id (.object members .closed)
  | array : SpelledBy id (.array [.texts id.levels, .string (some id.name)] .closed)

section Decode

open Json

variable {limit : Nat} {draft final : Draft} {members : List (Option String × Document)}
  {document value : Document} {field : String}

theorem fillByName_levels :
    Decoder.fillByName shape.fields limit ((some "namespace", value) :: members) draft = .ok final ↔
      draft.levels = none ∧ ∃ levels, Decoder.list Decoder.string limit value = .ok levels ∧
        Decoder.fillByName shape.fields limit members ⟨some levels, draft.name⟩ = .ok final := by
  rw [fillByName_known rfl]
  simp only [bind_eq_ok_iff, Option.isSome_eq_false_iff, Option.isNone_iff_eq_none]
  refine and_congr_right fun _ => ⟨?_, ?_⟩
  · rintro ⟨_, ⟨levels, read, ⟨⟩⟩, rest⟩
    exact ⟨levels, read, rest⟩
  · rintro ⟨levels, read, rest⟩
    exact ⟨_, ⟨levels, read, rfl⟩, rest⟩

theorem fillByName_name :
    Decoder.fillByName shape.fields limit ((some "name", value) :: members) draft = .ok final ↔
      draft.name = none ∧ ∃ name, Decoder.string limit value = .ok name ∧
        Decoder.fillByName shape.fields limit members ⟨draft.levels, some name⟩ = .ok final := by
  rw [fillByName_known rfl]
  simp only [bind_eq_ok_iff, Option.isSome_eq_false_iff, Option.isNone_iff_eq_none]
  refine and_congr_right fun _ => ⟨?_, ?_⟩
  · rintro ⟨_, ⟨name, read, ⟨⟩⟩, rest⟩
    exact ⟨name, read, rest⟩
  · rintro ⟨name, read, rest⟩
    exact ⟨_, ⟨name, read, rfl⟩, rest⟩

theorem fillByName_other (levels : field ≠ "namespace") (name : field ≠ "name") :
    Decoder.fillByName shape.fields limit ((some field, value) :: members) draft = .ok final ↔
      Decoder.skip value = .ok () ∧
        Decoder.fillByName shape.fields limit members draft = .ok final := by
  refine fillByName_unknown ?_
  simp [shape, levels.symm, name.symm]

theorem slot_nil_iff {α : Type} {write : α → Document} {slot last : Option α}
    (injective : ∀ item other, write item = write other → item = other) :
    (slot.map write).toList ++ [] = (last.map write).toList ↔ slot = last := by
  rw [List.append_nil]
  constructor
  · intro same
    cases slot <;> cases last
    · rfl
    · cases same
    · cases same
    · exact congrArg some (injective _ _ (List.singleton_inj.1 same))
  · rintro rfl
    rfl

/-- A value that stands where another one may have stood before is the only one. -/
theorem slot_cons_iff {α : Type} {write : α → Document} {slot last : Option α}
    {values : List Document} :
    (slot.map write).toList ++ value :: values = (last.map write).toList ↔
      slot = none ∧ ∃ item, value = write item ∧
        ((some item).map write).toList ++ values = (last.map write).toList := by
  cases slot with
  | some item => cases last <;> simp
  | none =>
    cases last with
    | none => simp
    | some item =>
      constructor
      · intro same
        obtain ⟨rfl, rfl⟩ := List.cons.inj same
        exact ⟨rfl, item, rfl, rfl⟩
      · rintro ⟨-, other, rfl, same⟩
        exact same

/-- **The members of an object are read into a draft** if and only if they can be read past and each
field stands once in it or in the members. -/
theorem fillByName_eq_ok_iff :
    Decoder.fillByName shape.fields (limit + 1) members draft = .ok final ↔
      Passable members ∧
        (draft.levels.map Document.texts).toList ++ Document.under "namespace" members =
          (final.levels.map Document.texts).toList ∧
        (draft.name.map fun name => Document.string (some name)).toList ++
            Document.under "name" members =
          (final.name.map fun name => Document.string (some name)).toList := by
  induction members generalizing draft with
  | nil =>
    have named {text other : String} (same : Document.string (some text) = .string (some other)) :
        text = other := by injections
    rw [Document.under, Document.under, List.filterMap_nil, List.filterMap_nil,
      slot_nil_iff fun _ _ => texts_injective, slot_nil_iff fun _ _ => named, Decoder.fillByName]
    constructor
    · rintro ⟨⟩
      exact ⟨List.forall_mem_nil _, rfl, rfl⟩
    · rintro ⟨-, levels, name⟩
      obtain ⟨_, _⟩ := draft
      cases levels
      cases name
      rfl
  | cons member members ih =>
    obtain ⟨name, value⟩ := member
    cases name with
    | none =>
      constructor
      · rintro ⟨⟩
      · rintro ⟨passable, -⟩
        obtain ⟨_, ⟨⟩⟩ := (List.forall_mem_cons.1 passable).1.1
    | some field =>
      rw [passable_cons_iff]
      by_cases levels : field = "namespace"
      · subst levels
        rw [Document.under_cons_self, Document.under_cons_of_ne (by decide), slot_cons_iff,
          fillByName_levels]
        simp only [list_string_eq_ok_iff, ih]
        constructor
        · rintro ⟨new, texts, rfl, passable, once, others⟩
          exact ⟨⟨skip_texts texts, passable⟩, ⟨new, texts, rfl, once⟩, others⟩
        · rintro ⟨⟨-, passable⟩, ⟨new, texts, rfl, once⟩, others⟩
          exact ⟨new, texts, rfl, passable, once, others⟩
      by_cases name : field = "name"
      · subst name
        rw [Document.under_cons_self, Document.under_cons_of_ne (by decide), slot_cons_iff,
          fillByName_name]
        simp only [string_eq_ok_iff, ih]
        constructor
        · rintro ⟨new, text, rfl, passable, others, once⟩
          exact ⟨⟨rfl, passable⟩, others, new, text, rfl, once⟩
        · rintro ⟨⟨-, passable⟩, others, new, text, rfl, once⟩
          exact ⟨new, text, rfl, passable, others, once⟩
      · rw [fillByName_other levels name, Document.under_cons_of_ne levels,
          Document.under_cons_of_ne name, ih, and_assoc]

theorem complete_eq_ok_iff : shape.complete draft = .ok id ↔
    draft = ⟨some id.levels, some id.name⟩ := by
  obtain ⟨levels, name⟩ := draft
  cases levels with
  | none => exact ⟨nofun, nofun⟩
  | some levels =>
    cases name with
    | none => exact ⟨nofun, nofun⟩
    | some name =>
      constructor
      · rintro ⟨⟩
        rfl
      · intro same
        cases same
        rfl

/-- The items of an array are read into a draft if and only if the first two are the fields. -/
theorem fillByPosition_eq_ok_iff {wanted : String} {documents rest : List Document}
    {ending : Ending} : Decoder.fillByPosition wanted (limit + 1) ending 0 shape.fields documents
        shape.draft = .ok (final, rest) ↔
      ∃ levels name, documents = .texts levels :: .string (some name) :: rest ∧
        final = ⟨some levels, some name⟩ := by
  match documents with
  | [] =>
    constructor
    · intro filled
      cases ending <;> cases filled
    · rintro ⟨_, _, ⟨⟩, _⟩
  | [first] =>
    constructor
    · intro filled
      obtain ⟨_, _, missing⟩ := bind_eq_ok_iff.1 filled
      cases ending <;> cases missing
    · rintro ⟨_, _, ⟨⟩, _⟩
  | first :: second :: others =>
    have taken : Decoder.fillByPosition wanted (limit + 1) ending 0 shape.fields
          (first :: second :: others) shape.draft =
        (Decoder.list Decoder.string (limit + 1) first >>= fun levels =>
          .ok (Draft.mk (some levels) none)) >>= fun draft =>
            (Decoder.string (limit + 1) second >>= fun name =>
              .ok (Draft.mk draft.levels (some name))) >>= fun draft => .ok (draft, others) := rfl
    simp only [taken, bind_eq_ok_iff, list_string_eq_ok_iff, string_eq_ok_iff]
    constructor
    · rintro ⟨_, ⟨levels, rfl, ⟨⟩⟩, _, ⟨name, rfl, ⟨⟩⟩, ⟨⟩⟩
      exact ⟨levels, name, rfl, rfl⟩
    · rintro ⟨levels, name, ⟨⟩, rfl⟩
      exact ⟨_, ⟨levels, rfl, rfl⟩, _, ⟨name, rfl, rfl⟩, rfl⟩

/-- **A document is read as an identifier if and only if it spells it.** -/
theorem decode_eq_ok_iff : decode (limit + 2) document = .ok id ↔ id.SpelledBy document := by
  cases document with
  | object members ending =>
    simp only [decode, Decoder.record, Decoder.openLevel, bind_eq_ok_iff, expectClosed_eq_ok_iff,
      complete_eq_ok_iff]
    constructor
    · rintro ⟨_, ⟨⟩, _, filled, _, rfl, rfl⟩
      obtain ⟨passable, levels, name⟩ := fillByName_eq_ok_iff.1 filled
      exact .object passable levels name
    · rintro ⟨passable, levels, name⟩
      exact ⟨_, rfl, ⟨some id.levels, some id.name⟩,
        fillByName_eq_ok_iff.2 ⟨passable, levels, name⟩, (), rfl, rfl⟩
  | array documents ending =>
    simp only [decode, Decoder.record, Decoder.openLevel, bind_eq_ok_iff, complete_eq_ok_iff]
    constructor
    · rintro ⟨_, ⟨⟩, ⟨draft, rest⟩, filled, value, full, ends⟩
      obtain ⟨levels, name, rfl, rfl⟩ := fillByPosition_eq_ok_iff.1 filled
      cases full
      split at ends
      · next none_ =>
        obtain ⟨_, closed, ⟨⟩⟩ := bind_eq_ok_iff.1 ends
        cases expectClosed_eq_ok_iff.1 closed
        cases List.isEmpty_iff.1 none_
        exact .array
      · cases ends
    · rintro ⟨⟩
      exact ⟨_, rfl, _, fillByPosition_eq_ok_iff.2 ⟨_, _, rfl, rfl⟩, id, rfl, rfl⟩
  | _ => constructor <;> rintro ⟨⟩

/-- **A text is read as an identifier if and only if it spells it**, with only space behind. -/
theorem read_decode_eq_ok_iff : Json.read decode text = .ok id ↔
    id.SpelledBy (Document.ofText text).1 ∧
      (Document.skipSpace (Document.ofText text).2).isEmpty = true := by
  rw [Json.read_eq_ok_iff, ← decode_eq_ok_iff]
  rfl

/-- The printed form of an identifier spells it. -/
theorem ofText_print (id : TableId) : Document.ofText id.toJson.print =
    (.object [(some "namespace", .texts id.levels), (some "name", .string (some id.name))] .closed,
      []) := by
  have integral : id.toJson.Integral := by
    apply Value.Integral.object
    simp only [List.forall_mem_cons]
    exact ⟨.array_map fun level _ => .string level, .string id.name, List.forall_mem_nil _⟩
  rw [integral.ofText_print]
  simp [toJson, Value.document, memberDocuments, itemDocuments_eq_map, Document.texts]

/-- **Every identifier can be read from JSON**, whatever its components are. -/
theorem read_decode_print (id : TableId) : Json.read decode id.toJson.print = .ok id := by
  rw [read_decode_eq_ok_iff, ofText_print]
  refine ⟨.object ?_ rfl rfl, rfl⟩
  rw [passable_cons_iff, passable_cons_iff]
  exact ⟨skip_texts id.levels, rfl, List.forall_mem_nil _⟩

end Decode

/-! ## All ways to an identifier -/

/-- What an identifier can be had of: its components, its written form, or a JSON text. -/
inductive Source where
  | components (levels : List String) (name : String)
  | written (text : String)
  | json (text : String)

namespace Source

/-- An identifier is had of a source. -/
def Gives : Source → TableId → Prop
  | .components levels name, id => make levels name = .ok id
  | .written text, id => parse text = .ok id
  | .json text, id => Json.read decode text = .ok id

/-- A source says what the components of an identifier are. -/
def Tells : Source → TableId → Prop
  | .components levels name, id => id = ⟨levels, name⟩
  | .written text, id =>
    text = String.intercalate (String.singleton (separatorOf text)) id.components ∧
      ∀ component ∈ id.components, separatorOf text ∉ component.toList
  | .json text, id =>
    id.SpelledBy (Json.Document.ofText text).1 ∧
      (Json.Document.skipSpace (Json.Document.ofText text).2).isEmpty = true

/-- Components are checked when they are given and when they are written, but not in JSON. -/
def Checked : Source → Prop
  | .components _ _ | .written _ => True
  | .json _ => False

/-- **What is had of a source is what it tells**, if it is checked only where that is proper. -/
theorem gives_iff {source : Source} :
    source.Gives id ↔ source.Tells id ∧ (source.Checked → id.Proper) := by
  cases source with
  | components levels name =>
    refine make_eq_ok_iff.trans (and_congr_right fun _ => ?_)
    exact ⟨fun proper _ => proper, fun checked => checked trivial⟩
  | written text =>
    refine parse_eq_ok_iff.trans (and_comm.trans (and_congr_right fun _ => ?_))
    exact ⟨fun proper _ => proper, fun checked => checked trivial⟩
  | json text =>
    refine read_decode_eq_ok_iff.trans ?_
    exact ⟨fun spelled => ⟨spelled, False.elim⟩, And.left⟩

end Source

/-- **When identifiers are proper.**

* What is had of a source is what it tells, and where a source is checked it has to be proper.
* So all that is had of a source is proper if and only if the source is checked, or it tells of
  nothing that is not proper.
* This makes a difference, as every identifier can be read from JSON.
* A proper identifier has a database, which is its first level and not blank, and a written form in
  which all components stand. -/
theorem identifiers_by_source (source : Source) (id : TableId) :
    (source.Gives id ↔ source.Tells id ∧ (source.Checked → id.Proper)) ∧
    ((∀ other, source.Gives other → other.Proper) ↔
      source.Checked ∨ ∀ other, source.Tells other → other.Proper) ∧
    (Source.json id.toJson.print).Gives id ∧
    (id.Proper → id.levels.head? = some id.database ∧ Text.isBlank id.database = false ∧
      id.display = String.intercalate "." id.components) := by
  refine ⟨Source.gives_iff, ?_, read_decode_print id, Proper.parts⟩
  constructor
  · intro always
    by_cases checked : source.Checked
    · exact .inl checked
    · refine .inr fun other tells => always other ?_
      exact Source.gives_iff.2 ⟨tells, fun here => absurd here checked⟩
  · rintro (checked | proper) other gives
    · exact (Source.gives_iff.1 gives).2 checked
    · exact proper other (Source.gives_iff.1 gives).1

/-- The text of an identifier without a level. -/
def unqualifiedText : String := "\x7b\"namespace\":[],\"name\":\"orders\"\x7d"

theorem identifiers_by_source_unqualified :
    (Source.json unqualifiedText).Gives ⟨[], "orders"⟩ ∧
      ¬ (Source.components [] "orders").Gives ⟨[], "orders"⟩ ∧
      (Source.written "sales/eu/orders.v2").Gives ⟨["sales", "eu"], "orders.v2"⟩ ∧
      (TableId.mk ["sales", "eu"] "orders.v2").display = "sales.eu.orders.v2" := by
  have proper : (TableId.mk ["sales", "eu"] "orders.v2").Proper := by decide
  obtain ⟨-, -, read, -⟩ := identifiers_by_source (.json unqualifiedText) ⟨[], "orders"⟩
  obtain ⟨-, sound, -, -⟩ := identifiers_by_source (.components [] "orders") ⟨[], "orders"⟩
  obtain ⟨gives, -, -, parts⟩ :=
    identifiers_by_source (.written "sales/eu/orders.v2") ⟨["sales", "eu"], "orders.v2"⟩
  refine ⟨read, ?_, gives.2 ⟨⟨by rfl, by decide⟩, fun _ => proper⟩, ?_⟩
  · intro made
    exact (sound.2 (.inl trivial) _ made).qualified rfl
  · exact (parts proper).2.2.trans (by rfl)

/-- **Not all that can be had is proper**: an identifier without a level can be read from JSON. -/
theorem not_forall_gives_proper :
    ¬ ∀ (source : Source) (id : TableId), source.Gives id → id.Proper := by
  intro always
  have read : (Source.json unqualifiedText).Gives ⟨[], "orders"⟩ := read_decode_print ⟨[], "orders"⟩
  exact (always _ _ read).qualified rfl

end TableId

end StorageBroker
