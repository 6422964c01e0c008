import StorageBroker.Json.Decoder
import StorageBroker.Json.Printer
import StorageBroker.Proofs.Json.Integer
import StorageBroker.Proofs.Keyed
import StorageBroker.Proofs.Outcome

/-!
# Printed values are read back

What is printed of a text is read as the text again (`readString_print`): each character that is
escaped comes back from its escape (`readParts_escapeChar`).

What is printed of any value without binary numbers is read as the document of that value
(`Value.Integral.ofText_print`). This is shown of a value in any place of a text (`Value.ReadsBack`),
and of arrays and objects from what is known of their parts. The reader is told how many steps it may
take; three for each character are enough, as there are no more between one character and the next.
-/

set_option autoImplicit false

namespace StorageBroker.Json

open Document

/-! ## Strings -/

/-- The part of a string as which a printed character is read: five of the control characters are
escaped by a letter, and the others by their number. -/
def partOf (character : Char) : StringPart :=
  if character.toNat < 0x20 ∧ character ∉ ['\x08', '\x0c', '\n', '\r', '\t'] then
    .unit character.toNat
  else .plain character

section Strings

variable {character : Char} {characters rest : List Char} {parts : List StringPart}

/-- Two hexadecimal digits behind two zeros are a code unit. -/
theorem readUnit_hexPair : ∀ code < 0x20,
    readUnit '0' '0' (Nat.digitChar (code / 16)) (Nat.digitChar (code % 16)) = some code := by
  decide

/-- A character that stands for itself is read as it is. -/
theorem readParts_plain (quote : character ≠ '"') (escape : character ≠ '\\')
    (printable : ¬ character.toNat < 0x20) :
    readParts (character :: rest) =
      (readParts rest).map fun read => (.plain character :: read.1, read.2) := by
  rw [readParts, if_neg printable]
  · cases readParts rest <;> rfl
  · exact quote
  · rintro _ _ _ _ _ rfl
    exact absurd rfl escape
  · rintro _ _ rfl
    exact absurd rfl escape

/-- A letter behind a backslash is read as the character it stands for. -/
theorem readParts_letter {letter : Char} (stands : escaped? letter = some character)
    (other : letter ≠ 'u') : readParts ('\\' :: letter :: rest) =
      (readParts rest).map fun read => (.plain character :: read.1, read.2) := by
  rw [readParts, stands]
  · cases readParts rest <;> rfl
  · rintro _ _ _ _ _ rfl
    exact absurd rfl other

/-- **A printed character is read back.** -/
theorem readParts_escapeChar : readParts (escapeChar character ++ rest) =
    (readParts rest).map fun read => (partOf character :: read.1, read.2) := by
  by_cases quote : character = '"'
  · subst quote
    exact readParts_letter rfl (by decide)
  by_cases escape : character = '\\'
  · subst escape
    exact readParts_letter rfl (by decide)
  by_cases backspace : character = '\x08'
  · subst backspace
    exact readParts_letter rfl (by decide)
  by_cases feed : character = '\x0c'
  · subst feed
    exact readParts_letter rfl (by decide)
  by_cases line : character = '\n'
  · subst line
    exact readParts_letter rfl (by decide)
  by_cases carriage : character = '\r'
  · subst carriage
    exact readParts_letter rfl (by decide)
  by_cases tab : character = '\t'
  · subst tab
    exact readParts_letter rfl (by decide)
  by_cases control : character.toNat < 0x20
  · have part : partOf character = .unit character.toNat := by
      simp [partOf, control, backspace, feed, line, carriage, tab]
    have written : escapeChar character = ['\\', 'u', '0', '0',
        Nat.digitChar (character.toNat / 16), Nat.digitChar (character.toNat % 16)] := by
      simp [escapeChar, quote, escape, backspace, feed, line, carriage, tab, control, hexPair]
    rw [written, part, List.cons_append, List.cons_append, List.cons_append, List.cons_append,
      List.cons_append, List.cons_append, List.nil_append, readParts,
      readUnit_hexPair character.toNat control]
    cases readParts rest <;> rfl
  · have part : partOf character = .plain character := by simp [partOf, control]
    have written : escapeChar character = [character] := by
      simp [escapeChar, quote, escape, backspace, feed, line, carriage, tab, control]
    rw [written, part, List.singleton_append, readParts_plain quote escape control]

theorem readParts_print : readParts (characters.flatMap escapeChar ++ '"' :: rest) =
    some (characters.map partOf, rest) := by
  induction characters with
  | nil => rfl
  | cons character characters ih =>
    rw [List.flatMap_cons, List.append_assoc, readParts_escapeChar, ih]
    rfl

/-- A code unit that is no half of a pair is a character. -/
theorem joinParts_unit {code : Nat} (low : code < 0xD800) :
    joinParts (.unit code :: parts) = (joinParts parts).map (Char.ofNat code :: ·) := by
  have high : isHighSurrogate code = false := by simp [isHighSurrogate]; omega
  have second : isLowSurrogate code = false := by simp [isLowSurrogate]; omega
  cases parts with
  | nil => simp [joinParts, high, second]
  | cons part parts =>
    cases part with
    | plain character => simp [joinParts, high, second]
    | unit code => simp [joinParts, high, second]

theorem joinParts_map_partOf : joinParts (characters.map partOf) = some characters := by
  induction characters with
  | nil => rfl
  | cons character characters ih =>
    rw [List.map_cons, partOf]
    split
    · next numbered =>
      rw [joinParts_unit (by omega), ih, Option.map_some, Char.ofNat_toNat]
    · rw [joinParts, ih, Option.map_some]

/-- **A printed text is read back.** -/
theorem readString_print (text : String) :
    readString (text.toList.flatMap escapeChar ++ '"' :: rest) = some (some text, rest) := by
  simp only [readString, readParts_print, Option.map_some, joinParts_map_partOf,
    String.ofList_toList]

end Strings

/-! ## Documents of values -/

/-- An array of texts, as it is read. -/
def Document.texts (items : List String) : Document :=
  .array (items.map fun text => .string (some text)) .closed

mutual

/-- A value as it is read. -/
def Value.document : Value → Document
  | .null => .null
  | .bool value => .bool value
  | .number value => .number (some value)
  | .string text => .string (some text)
  | .array items => .array (itemDocuments items) .closed
  | .object members => .object (memberDocuments members) .closed

/-- The items of an array as they are read. -/
def itemDocuments : List Value → List Document
  | [] => []
  | item :: items => item.document :: itemDocuments items

/-- The members of an object as they are read. -/
def memberDocuments : List (String × Value) → List (Option String × Document)
  | [] => []
  | (name, value) :: members => (some name, value.document) :: memberDocuments members

end

theorem Value.document_ne_broken (value : Value) : value.document ≠ .broken := by
  cases value <;> rintro ⟨⟩

theorem itemDocuments_eq_map (items : List Value) :
    itemDocuments items = items.map Value.document := by
  induction items with
  | nil => rfl
  | cons item items ih => rw [itemDocuments, ih, List.map_cons]

/-- A value in which every number is an integer. -/
inductive Value.Integral : Value → Prop where
  | null : Integral .null
  | bool (value : Bool) : Integral (.bool value)
  | integer (value : Int)
      (fits : -9223372036854775808 ≤ value ∧ value < 18446744073709551616) :
      Integral (.number (.integer value fits))
  | string (text : String) : Integral (.string text)
  | array {items : List Value} (each : ∀ item ∈ items, Integral item) : Integral (.array items)
  | object {members : List (String × Value)} (each : ∀ member ∈ members, Integral member.2) :
      Integral (.object members)

theorem Value.Integral.array_map {α : Type} {write : α → Value} {items : List α}
    (each : ∀ item ∈ items, (write item).Integral) : Integral (.array (items.map write)) := by
  apply Integral.array
  intro value among
  obtain ⟨item, member, rfl⟩ := List.mem_map.1 among
  exact each item member

theorem Value.Integral.object_map {α : Type} {write : α → Value} {entries : List (String × α)}
    (each : ∀ entry ∈ entries, (write entry.2).Integral) :
    Integral (.object (entries.map fun entry => (entry.1, write entry.2))) := by
  apply Integral.object
  intro member among
  obtain ⟨entry, inside, rfl⟩ := List.mem_map.1 among
  exact each entry inside

/-! ## Reading printed values -/

/-- A value is read back from what is printed of it, whatever follows. -/
structure Value.ReadsBack (value : Value) : Prop where
  /-- What is printed begins like a value, and not like the end of an array. -/
  opens : ∃ first others, printValue value = first :: others ∧ isSpace first = false ∧ first ≠ ']'
  reads : ∀ (fuel : Nat) (rest : List Char), 3 * (printValue value).length ≤ fuel →
    Delimited rest → readValue fuel (printValue value ++ rest) = (value.document, rest)

section Values

variable {first : Char} {others printed rest : List Char} {fuel : Nat} {value : Value}
  {items : List Value} {members : List (String × Value)} {document : Document}

/-! ### Scalars -/

/-- What is no array and no object is a scalar. -/
theorem readValue_scalar (space : isSpace first = false) (array : first ≠ '[')
    (object : first ≠ '\x7b') :
    readValue (fuel + 1) (first :: others) = readScalar (first :: others) := by
  have kept : skipSpace (first :: others) = first :: others :=
    List.dropWhile_cons_of_neg (Bool.eq_false_iff.1 space)
  rw [readValue, kept]
  split
  · next same => exact absurd (List.cons.inj same).1 array
  · next same => exact absurd (List.cons.inj same).1 object
  · rfl

/-- A printed text is read as a value. -/
theorem readValue_printString (text : String) :
    readValue (fuel + 1) (printString text ++ rest) = (.string (some text), rest) := by
  have quoted : printString text ++ rest =
      '"' :: (text.toList.flatMap escapeChar ++ '"' :: rest) := by
    simp [printString]
  rw [quoted, readValue_scalar rfl (by decide) (by decide), readScalar, readString_print]

/-- What does not begin like another scalar is a numeral. -/
theorem readScalar_numeral {numeral : Numeral} (read : Numeral.read (first :: others) =
      some (numeral, rest)) (number : first.isDigit = true ∨ first = '-') :
    readScalar (first :: others) = (.number numeral.value?, rest) := by
  have other {letter : Char} (same : first = letter) : letter.isDigit = true ∨ letter = '-' :=
    same ▸ number
  rw [readScalar, read]
  all_goals
    rintro _ ⟨⟩
    exact absurd (other rfl) (by decide)

/-- The decimal of an integer begins with a digit or a minus. -/
theorem exists_toString_eq_cons (value : Int) : ∃ first others,
    (toString value).toList = first :: others ∧ (first.isDigit = true ∨ first = '-') := by
  by_cases negative : value < 0
  · exact ⟨'-', _, Numeral.toList_toString_of_neg negative, .inr rfl⟩
  · obtain ⟨number, rfl⟩ := Int.eq_ofNat_of_zero_le (Int.not_lt.1 negative)
    obtain ⟨first, others, same, digit⟩ := Numeral.exists_toDigits_eq_cons number
    exact ⟨first, others, (Text.Numeral.toList_toString_of_nonneg number).trans same, .inl digit⟩

/-- A number does not begin like anything else. -/
theorem ne_of_number (other : Char) (number : first.isDigit = true ∨ first = '-')
    (different : ¬ (other.isDigit = true ∨ other = '-')) : first ≠ other := by
  rintro rfl
  exact different number

theorem isSpace_of_number (number : first.isDigit = true ∨ first = '-') :
    isSpace first = false := by
  have space := ne_of_number ' ' number (by decide)
  have tab := ne_of_number '\t' number (by decide)
  have line := ne_of_number '\n' number (by decide)
  have carriage := ne_of_number '\r' number (by decide)
  simp [isSpace, space, tab, line, carriage]

/-- A value is read back if it is, up to three steps for each character. -/
theorem Value.ReadsBack.of_cons (opens : printValue value = first :: others)
    (space : isSpace first = false) (closing : first ≠ ']')
    (reads : ∀ (fuel : Nat) (rest : List Char), 3 * others.length ≤ fuel → Delimited rest →
      readValue (fuel + 3) (first :: (others ++ rest)) = (value.document, rest)) :
    value.ReadsBack := by
  refine ⟨⟨first, others, opens, space, closing⟩, ?_⟩
  intro fuel rest enough delimited
  rw [opens, List.length_cons] at enough
  obtain ⟨less, rfl⟩ := Nat.exists_eq_add_of_le' (show 3 ≤ fuel by omega)
  rw [opens, List.cons_append]
  exact reads less rest (by omega) delimited

theorem Value.ReadsBack.null : ReadsBack .null :=
  .of_cons rfl rfl (by decide) fun _ _ _ _ => rfl

theorem Value.ReadsBack.bool (value : Bool) : ReadsBack (.bool value) := by
  cases value with
  | true => exact .of_cons rfl rfl (by decide) fun _ _ _ _ => rfl
  | false => exact .of_cons rfl rfl (by decide) fun _ _ _ _ => rfl

theorem Value.ReadsBack.string (text : String) : ReadsBack (.string text) :=
  .of_cons rfl rfl (by decide) fun _ _ _ _ => readValue_printString text

/-- **An integer is read back.** -/
theorem Value.ReadsBack.integer (value : Int)
    (fits : -9223372036854775808 ≤ value ∧ value < 18446744073709551616) :
    ReadsBack (.number (.integer value fits)) := by
  obtain ⟨first, others, same, number⟩ := exists_toString_eq_cons value
  have space := isSpace_of_number number
  refine .of_cons same space (ne_of_number _ number (by decide)) ?_
  intro fuel rest _ delimited
  have read := Numeral.read_toString value delimited
  rw [same, List.cons_append] at read
  rw [readValue_scalar space (ne_of_number _ number (by decide)) (ne_of_number _ number (by decide)),
    readScalar_numeral read number, Numeral.value?_ofInteger fits, Value.document]

/-! ### Arrays -/

/-- What follows an item does not belong to it. -/
theorem delimited_printItems : Delimited (printItems items ++ ']' :: rest) := by
  cases items with
  | nil =>
    rintro _ ⟨⟩
    exact .inr (.inl rfl)
  | cons item items =>
    rintro _ ⟨⟩
    exact .inl rfl

/-- An item is read, with the items behind it. -/
theorem readItem_value (reads : readValue fuel (printed ++ rest) = (document, rest))
    (whole : document ≠ .broken) :
    readItem (fuel + 1) (printed ++ rest) =
      let (items, ending, rest) := readItems fuel false rest
      (document :: items, ending, rest) := by
  rw [readItem]
  simp only [reads]

/-- What begins like a value stands for an item, first or behind a comma. -/
theorem readItems_opens (space : isSpace first = false) (closing : first ≠ ']') :
    readItems (fuel + 1) true (first :: others) = readItem fuel (first :: others) ∧
      readItems (fuel + 1) false (',' :: first :: others) = readItem fuel (first :: others) := by
  have kept : skipSpace (first :: others) = first :: others :=
    List.dropWhile_cons_of_neg (Bool.eq_false_iff.1 space)
  have comma : skipSpace (',' :: first :: others) = ',' :: first :: others := rfl
  constructor
  · unfold readItems
    rw [kept]
    split
    · next _ same => exact absurd (List.cons.inj same).1 closing
    · rfl
    · next wrong _ => cases wrong
    · next wrong _ _ => cases wrong
  · unfold readItems
    rw [comma]
    split
    · next same => cases same
    · next wrong _ => cases wrong
    · next same =>
      cases same
      rw [kept]
      split
      · next same => exact absurd (List.cons.inj same).1 closing
      · next same => cases same
      · rfl
    · next other => exact absurd rfl (other _)

/-- **The printed items behind the first are read back**, if each of them is. -/
theorem readItems_printItems (each : ∀ item ∈ items, item.ReadsBack)
    (enough : 3 * (printItems items).length + 1 ≤ fuel) :
    readItems fuel false (printItems items ++ ']' :: rest) =
      (itemDocuments items, .closed, rest) := by
  induction items generalizing fuel with
  | nil =>
    obtain ⟨less, rfl⟩ := Nat.exists_eq_add_of_le' (Nat.le_trans (Nat.le_add_left 1 _) enough)
    rfl
  | cons item items ih =>
    obtain ⟨here, later⟩ := List.forall_mem_cons.1 each
    obtain ⟨first, others, opens, space, closing⟩ := here.opens
    simp only [printItems, List.length_cons, List.length_append] at enough
    obtain ⟨less, rfl⟩ := Nat.exists_eq_add_of_le' (show 2 ≤ fuel by omega)
    have printed : printItems (item :: items) ++ ']' :: rest =
        ',' :: (printValue item ++ (printItems items ++ ']' :: rest)) := by
      simp [printItems]
    have goesOn : readItems (less + 2) false (printItems (item :: items) ++ ']' :: rest) =
        readItem (less + 1) (printValue item ++ (printItems items ++ ']' :: rest)) := by
      rw [printed, opens]
      exact (readItems_opens space closing).2
    have reads := here.reads less (printItems items ++ ']' :: rest) (by omega) delimited_printItems
    rw [goesOn, readItem_value reads item.document_ne_broken, ih later (by omega), itemDocuments]

/-- **An array is read back** if its items are. -/
theorem Value.ReadsBack.array (each : ∀ item ∈ items, item.ReadsBack) :
    ReadsBack (.array items) := by
  cases items with
  | nil => exact .of_cons rfl rfl (by decide) fun _ _ _ _ => rfl
  | cons item items =>
    obtain ⟨here, later⟩ := List.forall_mem_cons.1 each
    obtain ⟨first, others, opens, space, closing⟩ := here.opens
    have printed : printValue (.array (item :: items)) =
        '[' :: (printValue item ++ printItems items ++ [']']) := rfl
    refine .of_cons printed rfl (by decide) ?_
    intro fuel rest enough _
    simp only [List.length_append, List.length_cons, List.length_nil] at enough
    have parts : printValue item ++ printItems items ++ [']'] ++ rest =
        printValue item ++ (printItems items ++ ']' :: rest) := by
      simp
    have array (characters : List Char) : readValue (fuel + 3) ('[' :: characters) =
        let (items, ending, rest) := readItems (fuel + 2) true characters
        (.array items ending, rest) := rfl
    have begins : readItems (fuel + 2) true (printValue item ++ (printItems items ++ ']' :: rest)) =
        readItem (fuel + 1) (printValue item ++ (printItems items ++ ']' :: rest)) := by
      rw [opens]
      exact (readItems_opens space closing).1
    have reads := here.reads fuel (printItems items ++ ']' :: rest) (by omega) delimited_printItems
    rw [parts, array, begins, readItem_value reads item.document_ne_broken,
      readItems_printItems later (by omega), Value.document, itemDocuments]

/-! ### Objects -/

/-- What follows a member does not belong to it. -/
theorem delimited_printMembers : Delimited (printMembers members ++ '\x7d' :: rest) := by
  cases members with
  | nil =>
    rintro _ ⟨⟩
    exact .inr (.inr rfl)
  | cons member members =>
    rintro _ ⟨⟩
    exact .inl rfl

/-- A member whose value is printed is read, with the members behind it. -/
theorem readMember_value (name : String)
    (reads : readValue fuel (printed ++ rest) = (document, rest)) (whole : document ≠ .broken) :
    readMember (fuel + 1) (name.toList.flatMap escapeChar ++ '"' :: ':' :: (printed ++ rest)) =
      let (members, ending, rest) := readMembers fuel false rest
      ((some name, document) :: members, ending, rest) := by
  have colon : skipSpace (':' :: (printed ++ rest)) = ':' :: (printed ++ rest) := rfl
  rw [readMember, readString_print]
  simp only [colon, reads]

/-- **The printed members behind the first are read back**, if each of them is. -/
theorem readMembers_printMembers (each : ∀ member ∈ members, member.2.ReadsBack)
    (enough : 3 * (printMembers members).length + 1 ≤ fuel) :
    readMembers fuel false (printMembers members ++ '\x7d' :: rest) =
      (memberDocuments members, .closed, rest) := by
  induction members generalizing fuel with
  | nil =>
    obtain ⟨less, rfl⟩ := Nat.exists_eq_add_of_le' (Nat.le_trans (Nat.le_add_left 1 _) enough)
    rfl
  | cons member members ih =>
    obtain ⟨name, value⟩ := member
    obtain ⟨(here : value.ReadsBack), later⟩ := List.forall_mem_cons.1 each
    simp only [printMembers, List.length_cons, List.length_append] at enough
    obtain ⟨less, rfl⟩ := Nat.exists_eq_add_of_le' (show 2 ≤ fuel by omega)
    have printed : printMembers ((name, value) :: members) ++ '\x7d' :: rest =
        ',' :: '"' :: (name.toList.flatMap escapeChar ++ '"' :: ':' ::
          (printValue value ++ (printMembers members ++ '\x7d' :: rest))) := by
      simp [printMembers, printString]
    have goesOn (characters : List Char) : readMembers (less + 2) false (',' :: '"' :: characters) =
        readMember (less + 1) characters := rfl
    have reads := here.reads less (printMembers members ++ '\x7d' :: rest) (by omega)
      delimited_printMembers
    rw [printed, goesOn, readMember_value name reads value.document_ne_broken,
      ih later (by omega), memberDocuments]

/-- **An object is read back** if the values of its members are. -/
theorem Value.ReadsBack.object (each : ∀ member ∈ members, member.2.ReadsBack) :
    ReadsBack (.object members) := by
  cases members with
  | nil => exact .of_cons rfl rfl (by decide) fun _ _ _ _ => rfl
  | cons member members =>
    obtain ⟨name, value⟩ := member
    obtain ⟨(here : value.ReadsBack), later⟩ := List.forall_mem_cons.1 each
    have printed : printValue (.object ((name, value) :: members)) =
        '\x7b' :: (printString name ++ ':' :: printValue value ++ printMembers members ++
          ['\x7d']) := rfl
    refine .of_cons printed rfl (by decide) ?_
    intro fuel rest enough _
    simp only [List.length_append, List.length_cons, List.length_nil] at enough
    have parts : printString name ++ ':' :: printValue value ++ printMembers members ++
          ['\x7d'] ++ rest = '"' :: (name.toList.flatMap escapeChar ++ '"' :: ':' ::
        (printValue value ++ (printMembers members ++ '\x7d' :: rest))) := by
      simp [printString]
    have object (characters : List Char) : readValue (fuel + 3) ('\x7b' :: '"' :: characters) =
        let (members, ending, rest) := readMember (fuel + 1) characters
        (.object members ending, rest) := rfl
    have reads := here.reads fuel (printMembers members ++ '\x7d' :: rest) (by omega)
      delimited_printMembers
    rw [parts, object, readMember_value name reads value.document_ne_broken,
      readMembers_printMembers later (by omega), Value.document, memberDocuments]

/-- **Every value without binary numbers is read back.** -/
theorem Value.Integral.readsBack (integral : value.Integral) : value.ReadsBack := by
  induction integral with
  | null => exact .null
  | bool value => exact .bool value
  | integer value fits => exact .integer value fits
  | string text => exact .string text
  | array _ ih => exact .array ih
  | object _ ih => exact .object ih

/-- **The text of a value without binary numbers is read as its document**, to the end. -/
theorem Value.Integral.ofText_print (integral : value.Integral) :
    ofText value.print = (value.document, []) := by
  have read := integral.readsBack.reads (3 * value.print.length + 3) []
    (by rw [Value.print, String.length_ofList]; omega) (by rintro _ ⟨⟩)
  rw [List.append_nil] at read
  rw [ofText, Value.print, String.toList_ofList]
  exact read

end Values

/-! ## Whole texts -/

section Texts

variable {α : Type}

/-- A text is read if and only if its document is, and nothing but space stands behind it. -/
theorem read_eq_ok_iff {decode : Decoder α} {text : String} {value : α} :
    read decode text = .ok value ↔ decode levelLimit (ofText text).1 = .ok value ∧
      (skipSpace (ofText text).2).isEmpty = true := by
  unfold read
  rw [bind_eq_ok_iff]
  constructor
  · rintro ⟨found, decoded, ends⟩
    split at ends
    · next closed =>
      cases ends
      exact ⟨decoded, closed⟩
    · cases ends
  · rintro ⟨decoded, closed⟩
    exact ⟨value, decoded, by rw [if_pos closed]⟩

/-- **What a decoder takes a printed value for** depends on its document only. -/
theorem read_print {decode : Decoder α} {value : Value} (integral : value.Integral) :
    read decode value.print = decode levelLimit value.document := by
  unfold read
  rw [integral.ofText_print]
  dsimp only
  cases decode levelLimit value.document <;> rfl

end Texts

end StorageBroker.Json
