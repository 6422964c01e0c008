import StorageBroker.Json.Fault
import StorageBroker.Json.Numeral
import StorageBroker.Text.Hexadecimal

/-!
# Documents: JSON texts as far as they can be read

Reading a text from the left gives a document, also when the text is at fault: the document then
ends in a broken place, where the grammar stops holding. So a later reader that walks a document
in the order of the text meets its own faults and those of the grammar in the order in which they
stand. A document keeps what only some readers mind: members in order with repeated names,
strings whose surrogates do not pair, and numbers that are too large.
-/

set_option autoImplicit false

namespace StorageBroker.Json

/-- How the items of an array or the members of an object end. -/
inductive Ending where
  | closed
  /-- The grammar does not go on here. -/
  | broken
  deriving DecidableEq

/-- A text as far as it can be read. -/
inductive Document where
  | broken
  | null
  | bool (value : Bool)
  /-- A number, unless it is too large. -/
  | number (value : Option Number)
  /-- A string, unless it holds a surrogate without its partner. -/
  | string (value : Option String)
  | array (items : List Document) (ending : Ending)
  | object (members : List (Option String × Document)) (ending : Ending)

instance : Inhabited Document := ⟨.broken⟩

/-- What a document begins with; nothing if it is broken or has no value. -/
def Document.found? : Document → Option Found
  | .broken => none
  | .null => some .null
  | .bool value => some (.bool value)
  | .number value => value.map .number
  | .string value => value.map .string
  | .array _ _ => some .sequence
  | .object _ _ => some .map

namespace Document

/-! ## White space -/

/-- The four characters that may stand between the parts of a text. -/
def isSpace (character : Char) : Bool :=
  character == ' ' || character == '\t' || character == '\n' || character == '\r'

/-- The characters without the space they begin with. -/
def skipSpace (characters : List Char) : List Char :=
  characters.dropWhile isSpace

/-! ## Strings -/

/-- A part of a string: a character, or a code unit of 16 bits by its number. -/
inductive StringPart where
  | plain (character : Char)
  | unit (code : Nat)
  deriving DecidableEq

/-- The code unit of four hexadecimal digits. -/
def readUnit (first second third fourth : Char) : Option Nat := do
  let first ← Text.hexValue? first
  let second ← Text.hexValue? second
  let third ← Text.hexValue? third
  let fourth ← Text.hexValue? fourth
  some (((first * 16 + second) * 16 + third) * 16 + fourth)

/-- The character that one letter behind a backslash stands for. -/
def escaped? : Char → Option Char
  | '"' => some '"'
  | '\\' => some '\\'
  | '/' => some '/'
  | 'b' => some '\x08'
  | 'f' => some '\x0c'
  | 'n' => some '\n'
  | 'r' => some '\r'
  | 't' => some '\t'
  | _ => none

/-- The parts of a string up to its closing quote, and the rest. -/
def readParts : List Char → Option (List StringPart × List Char)
  | [] => none
  | '"' :: rest => some ([], rest)
  | '\\' :: 'u' :: first :: second :: third :: fourth :: rest => do
    let code ← readUnit first second third fourth
    let (parts, rest) ← readParts rest
    some (.unit code :: parts, rest)
  | '\\' :: letter :: rest => do
    let character ← escaped? letter
    let (parts, rest) ← readParts rest
    some (.plain character :: parts, rest)
  | character :: rest =>
    if character.toNat < 0x20 then none
    else do
      let (parts, rest) ← readParts rest
      some (.plain character :: parts, rest)

/-- Whether a code unit is the first half of a pair. -/
def isHighSurrogate (code : Nat) : Bool := 0xD800 ≤ code && code < 0xDC00

/-- Whether a code unit is the second half of a pair. -/
def isLowSurrogate (code : Nat) : Bool := 0xDC00 ≤ code && code < 0xE000

/-- The characters of a string, if each surrogate has its partner. -/
def joinParts : List StringPart → Option (List Char)
  | [] => some []
  | .plain character :: rest => (joinParts rest).map (character :: ·)
  | .unit high :: .unit low :: rest =>
    if isHighSurrogate high then
      if isLowSurrogate low then
        (joinParts rest).map
          (Char.ofNat (0x10000 + (high - 0xD800) * 0x400 + (low - 0xDC00)) :: ·)
      else none
    else if isLowSurrogate high then none
    else (joinParts (.unit low :: rest)).map (Char.ofNat high :: ·)
  | .unit code :: rest =>
    if isHighSurrogate code || isLowSurrogate code then none
    else (joinParts rest).map (Char.ofNat code :: ·)

/-- A string behind its opening quote. -/
def readString (characters : List Char) : Option (Option String × List Char) :=
  (readParts characters).map fun (parts, rest) => ((joinParts parts).map String.ofList, rest)

/-! ## Values -/

/-- A value that is no array and no object. -/
def readScalar : List Char → Document × List Char
  | 'n' :: 'u' :: 'l' :: 'l' :: rest => (.null, rest)
  | 't' :: 'r' :: 'u' :: 'e' :: rest => (.bool true, rest)
  | 'f' :: 'a' :: 'l' :: 's' :: 'e' :: rest => (.bool false, rest)
  | '"' :: rest =>
    match readString rest with
    | some (value, rest) => (.string value, rest)
    | none => (.broken, [])
  | characters =>
    match Numeral.read characters with
    | some (numeral, rest) => (.number numeral.value?, rest)
    | none => (.broken, [])

mutual

/-- A value at the front of the characters, and the rest. -/
def readValue : Nat → List Char → Document × List Char
  | 0, _ => (.broken, [])
  | fuel + 1, characters =>
    match skipSpace characters with
    | '[' :: rest =>
      let (items, ending, rest) := readItems fuel true rest
      (.array items ending, rest)
    | '{' :: rest =>
      let (members, ending, rest) := readMembers fuel true rest
      (.object members ending, rest)
    | rest => readScalar rest

/-- The items of an array up to its closing bracket; `first` says that none came before. -/
def readItems : Nat → Bool → List Char → List Document × Ending × List Char
  | 0, _, _ => ([], .broken, [])
  | fuel + 1, first, characters =>
    match first, skipSpace characters with
    | _, ']' :: rest => ([], .closed, rest)
    | true, rest => readItem fuel rest
    | false, ',' :: rest =>
      match skipSpace rest with
      | ']' :: _ => ([], .broken, [])
      | [] => ([], .broken, [])
      | rest => readItem fuel rest
    | false, _ => ([], .broken, [])

/-- One item and the items behind it. -/
def readItem : Nat → List Char → List Document × Ending × List Char
  | 0, _ => ([], .broken, [])
  | fuel + 1, characters =>
    match readValue fuel characters with
    | (.broken, _) => ([.broken], .broken, [])
    | (item, rest) =>
      let (items, ending, rest) := readItems fuel false rest
      (item :: items, ending, rest)

/-- The members of an object up to its closing brace; `first` says that none came before. -/
def readMembers : Nat → Bool → List Char → List (Option String × Document) × Ending × List Char
  | 0, _, _ => ([], .broken, [])
  | fuel + 1, first, characters =>
    match first, skipSpace characters with
    | _, '}' :: rest => ([], .closed, rest)
    | true, '"' :: rest => readMember fuel rest
    | true, _ => ([], .broken, [])
    | false, ',' :: rest =>
      match skipSpace rest with
      | '"' :: rest => readMember fuel rest
      | _ => ([], .broken, [])
    | false, _ => ([], .broken, [])

/-- One member behind the opening quote of its name, and the members behind it. -/
def readMember : Nat → List Char → List (Option String × Document) × Ending × List Char
  | 0, _ => ([], .broken, [])
  | fuel + 1, characters =>
    match readString characters with
    | none => ([], .broken, [])
    | some (name, rest) =>
      match skipSpace rest with
      | ':' :: rest =>
        match readValue fuel rest with
        | (.broken, _) => ([(name, .broken)], .broken, [])
        | (value, rest) =>
          let (members, ending, rest) := readMembers fuel false rest
          ((name, value) :: members, ending, rest)
      | _ => ([(name, .broken)], .broken, [])

end

/-- The document of a text, and what follows its value. Each step but every third takes a character
away, so the steps are bounded by the length of the text. -/
def ofText (text : String) : Document × List Char :=
  readValue (3 * text.length + 3) text.toList

end Document

end StorageBroker.Json
