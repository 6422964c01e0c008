import StorageBroker.Json.Document
import StorageBroker.Keyed

/-!
# Decoders: typed readings of documents

A decoder takes a document and gives a value of a type, or the first fault in the order of the
text. Arrays, objects and records may nest up to a limit; a decoder is told how many further
levels it may open. What a decoder skips need only be well formed: there the limit does not
count, nor do numbers that are too large or surrogates without a partner.

A record is an object with known members, in any order, or an array of its fields in the order of
their declaration. The fault of a missing field comes after all those of the members that are
there.
-/

set_option autoImplicit false

namespace StorageBroker.Json

/-- A typed reading of a document below a number of levels that may still be opened. -/
abbrev Decoder (α : Type) := Nat → Document → Except Fault α

/-- How many levels a text may open. -/
def levelLimit : Nat := 127

namespace Decoder

/-! ## Building blocks -/

/-- The fault of a document that is not what was wanted. -/
def mismatch (wanted : String) (document : Document) : Fault :=
  match document.found? with
  | some found => .invalidType found wanted
  | none => .malformed

/-- The levels left inside an array, an object or a record. -/
def openLevel : Nat → Except Fault Nat
  | 0 => .error .malformed
  | levels + 1 => .ok levels

/-- Requires that an array or object ends as it should. -/
def expectClosed : Ending → Except Fault Unit
  | .closed => .ok ()
  | _ => .error .malformed

mutual

/-- Requires that a document is well formed. -/
def skip : Document → Except Fault Unit
  | .broken => .error .malformed
  | .array items ending => do
    skipItems items
    expectClosed ending
  | .object members ending => do
    skipMembers members
    expectClosed ending
  | .null | .bool _ | .number _ | .string _ => .ok ()

/-- Requires that all documents are well formed. -/
def skipItems : List Document → Except Fault Unit
  | [] => .ok ()
  | item :: rest => do
    skip item
    skipItems rest

/-- Requires that all members are well formed. -/
def skipMembers : List (Option String × Document) → Except Fault Unit
  | [] => .ok ()
  | (_, value) :: rest => do
    skip value
    skipMembers rest

end

/-- A name without a stray surrogate. -/
def memberName : Option String → Except Fault String
  | some name => .ok name
  | none => .error .malformed

/-! ## Scalars -/

/-- A string. -/
def string : Decoder String
  | _, .string (some value) => .ok value
  | _, document => .error (mismatch "a string" document)

/-- An integer of a range. -/
def integer (wanted : String) (least greatest : Int) : Decoder Int
  | _, .number (some (.integer value _)) =>
    if least ≤ value ∧ value ≤ greatest then .ok value else .error (.invalidInteger value wanted)
  | _, document => .error (mismatch wanted document)

/-- A signed integer of 32 bits. -/
def int32 : Decoder Int32 := fun levels document =>
  (integer "i32" Int32.minValue.toInt Int32.maxValue.toInt levels document).map Int32.ofInt

/-- A signed integer of 64 bits. -/
def int64 : Decoder Int64 := fun levels document =>
  (integer "i64" Int64.minValue.toInt Int64.maxValue.toInt levels document).map Int64.ofInt

/-- An unsigned integer of 64 bits, under the name of its use. -/
def unsigned (wanted : String) : Decoder UInt64 := fun levels document =>
  (integer wanted 0 (UInt64.size - 1 : Nat) levels document).map fun value =>
    UInt64.ofNat value.toNat

/-- A binary number; integers are numbers too. -/
def binary64 : Decoder Binary64
  | _, .number (some value) => .ok value.toBinary64
  | _, document => .error (mismatch "f64" document)

/-- A value that may be null. -/
def optional {α : Type} (decode : Decoder α) : Decoder (Option α)
  | _, .null => .ok none
  | levels, document => (decode levels document).map some

/-! ## Collections -/

/-- The items of a list, from the first on. -/
def items {α : Type} (decode : Document → Except Fault α) : List Document → Except Fault (List α)
  | [] => .ok []
  | item :: rest => do
    let value ← decode item
    let values ← items decode rest
    .ok (value :: values)

/-- A list. -/
def list {α : Type} (decode : Decoder α) : Decoder (List α)
  | levels, .array documents ending => do
    let levels ← openLevel levels
    let values ← items (decode levels) documents
    expectClosed ending
    .ok values
  | _, document => .error (mismatch "a sequence" document)

/-- The members of a map, from the first on. -/
def members {α : Type} (decode : Document → Except Fault α) :
    List (Option String × Document) → Except Fault (List (String × α))
  | [] => .ok []
  | (name, document) :: rest => do
    let name ← memberName name
    let value ← decode document
    let values ← members decode rest
    .ok ((name, value) :: values)

/-- A map with any names; of several members with one name the last counts. -/
def map {α : Type} (decode : Decoder α) : Decoder (Keyed String α)
  | levels, .object documents ending => do
    let levels ← openLevel levels
    let values ← members (decode levels) documents
    expectClosed ending
    .ok (Keyed.ofList values)
  | _, document => .error (mismatch "a map" document)

mutual

/-- Any value. -/
def value : Nat → Document → Except Fault Value
  | _, .broken => .error .malformed
  | _, .null => .ok .null
  | _, .bool value => .ok (.bool value)
  | _, .number (some value) => .ok (.number value)
  | _, .number none => .error .malformed
  | _, .string (some value) => .ok (.string value)
  | _, .string none => .error .malformed
  | levels, .array documents ending => do
    let levels ← openLevel levels
    let values ← itemValues levels documents
    expectClosed ending
    .ok (.array values)
  | levels, .object documents ending => do
    let levels ← openLevel levels
    let values ← memberValues levels documents
    expectClosed ending
    .ok (.object (sortMembers values))

/-- The items of an array as values. -/
def itemValues : Nat → List Document → Except Fault (List Value)
  | _, [] => .ok []
  | levels, item :: rest => do
    let item ← value levels item
    let items ← itemValues levels rest
    .ok (item :: items)

/-- The members of an object as values. -/
def memberValues : Nat → List (Option String × Document) → Except Fault (List (String × Value))
  | _, [] => .ok []
  | levels, (name, document) :: rest => do
    let name ← memberName name
    let member ← value levels document
    let members ← memberValues levels rest
    .ok ((name, member) :: members)

end

/-! ## Enumerations -/

/-- The value of a name. -/
def variant {α : Type} (known : List (String × α)) (name : String) : Except Fault α :=
  match known.lookup name with
  | some value => .ok value
  | none => .error (.unknownVariant name (known.map Prod.fst))

/-- One of several names, alone or as the only member of an object, whose value is then null. -/
def enumeration {α : Type} (known : List (String × α)) : Decoder α
  | _, .string (some name) => variant known name
  | levels, .object ((name, content) :: others) ending => do
    let _ ← openLevel levels
    let name ← memberName name
    let value ← variant known name
    match content, others, ending with
    | .null, [], .closed => .ok value
    | .null, _, _ => .error .malformed
    | content, _, _ => .error (mismatch "unit" content)
  | _, _ => .error .malformed

/-! ## Records -/

/-- A field of a record that is built up in a draft `σ`. -/
structure Field (σ : Type) where
  name : String
  /-- Whether an array in place of the record must reach up to this field. -/
  required : Bool
  isSet : σ → Bool
  read : Nat → Document → σ → Except Fault σ

/-- A record: its name, its fields in the order of their declaration, and how a draft with what
was read becomes a value. -/
structure Shape (σ α : Type) where
  name : String
  fields : List (Field σ)
  draft : σ
  complete : σ → Except Fault α

/-- Reads the members of an object into a draft. -/
def fillByName {σ : Type} (fields : List (Field σ)) (levels : Nat) :
    List (Option String × Document) → σ → Except Fault σ
  | [], draft => .ok draft
  | (name, document) :: rest, draft => do
    let name ← memberName name
    match fields.find? fun field => field.name == name with
    | none =>
      skip document
      fillByName fields levels rest draft
    | some field =>
      if field.isSet draft then .error (.duplicateField name)
      else
        let draft ← field.read levels document draft
        fillByName fields levels rest draft

/-- Reads the items of an array into a draft, field by field; gives back the items left over. -/
def fillByPosition {σ : Type} (wanted : String) (levels : Nat) (ending : Ending) :
    Nat → List (Field σ) → List Document → σ → Except Fault (σ × List Document)
  | _, [], documents, draft => .ok (draft, documents)
  | position, field :: fields, document :: documents, draft => do
    let draft ← field.read levels document draft
    fillByPosition wanted levels ending (position + 1) fields documents draft
  | position, field :: fields, [], draft => do
    expectClosed ending
    if field.required then .error (.invalidLength position wanted)
    else fillByPosition wanted levels ending (position + 1) fields [] draft

/-- What a record is called in a fault. -/
def Shape.wanted {σ α : Type} (shape : Shape σ α) : String := s!"struct {shape.name}"

/-- What a record is called where an array in its place has the wrong length. -/
def Shape.wantedLength {σ α : Type} (shape : Shape σ α) : String :=
  s!"struct {shape.name} with {shape.fields.length} elements"

/-- A record. -/
def record {σ α : Type} (shape : Shape σ α) : Decoder α
  | levels, .object documents ending => do
    let levels ← openLevel levels
    let draft ← fillByName shape.fields levels documents shape.draft
    expectClosed ending
    shape.complete draft
  | levels, .array documents ending => do
    let levels ← openLevel levels
    let (draft, rest) ←
      fillByPosition shape.wantedLength levels ending 0 shape.fields documents shape.draft
    let value ← shape.complete draft
    if rest.isEmpty then
      expectClosed ending
      .ok value
    else .error .malformed
  | _, document => .error (mismatch shape.wanted document)

/-- A field that must be there. -/
def present {α : Type} (name : String) : Option α → Except Fault α
  | some value => .ok value
  | none => .error (.missingField name)

end Decoder

/-! ## Whole texts -/

/-- A value from a whole text, with nothing but space behind it. -/
def read {α : Type} (decode : Decoder α) (text : String) : Except Fault α := do
  let (document, rest) := Document.ofText text
  let value ← decode levelLimit document
  if (Document.skipSpace rest).isEmpty then .ok value else .error .malformed

end StorageBroker.Json
