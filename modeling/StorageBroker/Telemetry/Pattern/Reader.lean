import StorageBroker.Telemetry.Pattern.Basic
import StorageBroker.Text.Alphanumeric
import StorageBroker.Text.Blank
import StorageBroker.Text.Hexadecimal

/-!
# Patterns from their texts

A text is read part by part. Brackets and parentheses that are open are kept with what was read
before them, the innermost in front, so that each part is read in one step. A group may be told to
pass over space and comments between the parts.

A repetition by counts ends in a brace. A pattern stands inside of braces itself and holds no such
brace, so that there is no such repetition, and a brace that opens one is at fault.
-/

set_option autoImplicit false

namespace StorageBroker.Telemetry.Pattern

/-! ## Space -/

/-- The characters without the space and the comments they begin with. A comment goes from a hash to
the end of its line. -/
def passSpace (commented : Bool) : List Char → List Char
  | [] => []
  | letter :: rest =>
    if commented then passSpace (letter != '\n') rest
    else if Text.isBlankChar letter then passSpace false rest
    else if letter = '#' then passSpace true rest
    else letter :: rest

/-- The characters from the next part on. -/
def pass (spaced : Bool) (characters : List Char) : List Char :=
  if spaced then passSpace false characters else characters

/-- The character that comes next, seen from afar: of a comment the first character counts. -/
def glimpse (spaced : Bool) (characters : List Char) : Option Char :=
  if spaced then
    match characters.dropWhile Text.isBlankChar with
    | '#' :: rest => (rest.dropWhile Text.isBlankChar).head?
    | rest => rest.head?
  else characters.head?

/-! ## Escapes -/

/-- What stands behind a backslash. -/
inductive Escape where
  /-- A character by its code, perhaps given as a byte. -/
  | character (code : Nat) (byte : Bool)
  | shorthand (letter : Char) (negated : Bool)
  | edge (ofWord : Bool)
  deriving DecidableEq, Repr

/-- An escape as an item. -/
def Escape.toPattern : Escape → Pattern
  | .character code byte => .character code byte
  | .shorthand letter negated => .shorthand letter negated
  | .edge ofWord => .edge ofWord

/-- An escape as a member of a set; an edge is none. -/
def Escape.toMember? : Escape → Option CharacterSet
  | .character code _ => some (.character code)
  | .shorthand letter negated => some (.shorthand letter negated)
  | .edge _ => none

/-- A number of so many hexadecimal digits, behind the number `value`. -/
def readDigits (spaced : Bool) : Nat → Nat → List Char → Option (Nat × List Char)
  | 0, value, rest => some (value, rest)
  | count + 1, value, characters =>
    match pass spaced characters with
    | [] => none
    | letter :: rest =>
      match Text.hexValue? letter with
      | none => none
      | some digit => readDigits spaced count (value * 16 + digit) rest

/-- Whether a number is the code of a character, and of no surrogate. -/
def isScalar (code : Nat) : Bool :=
  code < 0xD800 || (0xE000 ≤ code && code < 0x110000)

/-- A character by so many hexadecimal digits. -/
def readCode (spaced : Bool) (count : Nat) (byte : Bool) (characters : List Char) :
    Option (Escape × List Char) :=
  match readDigits spaced count 0 characters with
  | none => none
  | some (code, rest) => if isScalar code then some (.character code byte, rest) else none

/-- The control codes that have letters. -/
def controls : List (Char × Nat) :=
  [('a', 7), ('t', 9), ('n', 10), ('v', 11), ('f', 12), ('r', 13)]

/-- What one character behind a backslash stands for. -/
def escape? (letter : Char) : Option Escape :=
  match controls.lookup letter with
  | some code => some (.character code false)
  | none =>
    if ['d', 's', 'w'].contains letter then some (.shorthand letter false)
    else if ['D', 'S', 'W'].contains letter then some (.shorthand letter.toLower true)
    else if ['A', 'z'].contains letter then some (.edge false)
    else if ['b', 'B', '<', '>'].contains letter then some (.edge true)
    else if letter.toNat < 0x80 && !letter.isAlphanum then some (.character letter.toNat false)
    else none

/-- An escape behind its backslash. -/
def readEscape (spaced : Bool) : List Char → Option (Escape × List Char)
  | [] => none
  | 'x' :: rest => readCode spaced 2 true rest
  | 'u' :: rest => readCode spaced 4 false rest
  | 'U' :: rest => readCode spaced 8 false rest
  | letter :: rest => (escape? letter).map fun escape => (escape, rest)

/-! ## Sets -/

/-- The names of the sets that have one. -/
def setNames : List String :=
  ["alnum", "alpha", "ascii", "blank", "cntrl", "digit", "graph", "lower", "print", "punct",
    "space", "upper", "word", "xdigit"]

/-- A set by its name between colons, behind the opening bracket. -/
def readNamedSet : List Char → Option (CharacterSet × List Char)
  | ':' :: rest =>
    let negated := rest.head? == some '^'
    let named := if negated then rest.drop 1 else rest
    let name := String.ofList (named.takeWhile (· != ':'))
    match named.dropWhile (· != ':') with
    | ':' :: ']' :: behind =>
      if setNames.contains name then some (.named name negated, behind) else none
    | _ => none
  | _ => none

/-- A character or an escape as a member of a set. -/
def readMember (spaced : Bool) : List Char → Option (CharacterSet × List Char)
  | [] => none
  | '\\' :: rest =>
    match readEscape spaced rest with
    | none => none
    | some (escape, rest) => escape.toMember?.map fun member => (member, rest)
  | letter :: rest => some (.character letter.toNat, rest)

/-- All characters from one to another, if the ends are characters in their order. -/
def rangeOf? : CharacterSet → CharacterSet → Option CharacterSet
  | .character first, .character last => if first ≤ last then some (.range first last) else none
  | _, _ => none

/-- A member of a set, or all characters from one to another. A dash before the end of the set or
before another dash makes no range. -/
def readRange (spaced : Bool) (characters : List Char) : Option (CharacterSet × List Char) :=
  match readMember spaced characters with
  | none => none
  | some (first, rest) =>
    match pass spaced rest with
    | '-' :: behind =>
      if glimpse spaced behind == some ']' || glimpse spaced behind == some '-' then
        some (first, '-' :: behind)
      else
        match readMember spaced (pass spaced behind) with
        | none => none
        | some (last, rest) => (rangeOf? first last).map fun range => (range, rest)
    | rest => some (first, rest)

/-- Where the reading of a set stands. -/
inductive SetPlace where
  | opened
  /-- Behind the mark that takes all other characters. -/
  | complemented
  /-- Behind dashes at the beginning, which stand for themselves. -/
  | dashed
  | inside
  deriving DecidableEq, Repr

/-- What was read of a set since its bracket was opened. -/
structure OpenSet where
  negated : Bool
  /-- The mark of an operation and what stands left of it. -/
  left : Option (Char × CharacterSet)
  /-- The members since then, the last in front. -/
  members : List CharacterSet

namespace OpenSet

/-- A set of which nothing was read. -/
def fresh : OpenSet := ⟨false, none, []⟩

/-- A set with one more member. -/
def adding (set : OpenSet) (member : CharacterSet) : OpenSet :=
  { set with members := member :: set.members }

/-- What was read, as one set. -/
def content (set : OpenSet) : CharacterSet :=
  let right := CharacterSet.ofMembers set.members.reverse
  match set.left with
  | none => right
  | some (mark, left) => .operation mark left right

/-- A set behind the mark of an operation. -/
def operating (set : OpenSet) (mark : Char) : OpenSet :=
  ⟨set.negated, some (mark, set.content), []⟩

end OpenSet

/-- A set up to its closing bracket, as an item, with the sets in which it stands. -/
def readSet (spaced : Bool) :
    Nat → SetPlace → OpenSet → List OpenSet → List Char → Option (Pattern × List Char)
  | 0, _, _, _, _ => none
  | fuel + 1, place, current, outer, characters =>
    match place, pass spaced characters with
    | _, [] => none
    | .opened, '^' :: rest =>
      readSet spaced fuel .complemented { current with negated := true } outer rest
    | .opened, '-' :: rest =>
      readSet spaced fuel .dashed (current.adding (.character '-'.toNat)) outer rest
    | .complemented, '-' :: rest =>
      readSet spaced fuel .dashed (current.adding (.character '-'.toNat)) outer rest
    | .dashed, '-' :: rest =>
      readSet spaced fuel .dashed (current.adding (.character '-'.toNat)) outer rest
    | .opened, ']' :: rest =>
      readSet spaced fuel .inside (current.adding (.character ']'.toNat)) outer rest
    | .complemented, ']' :: rest =>
      readSet spaced fuel .inside (current.adding (.character ']'.toNat)) outer rest
    | _, ']' :: rest =>
      match outer with
      | [] => some (.set current.negated current.content, rest)
      | around :: outer =>
        let inner : CharacterSet := .bracket current.negated current.content
        readSet spaced fuel .inside (around.adding inner) outer rest
    | _, '[' :: rest =>
      match readNamedSet rest with
      | some (named, rest) => readSet spaced fuel .inside (current.adding named) outer rest
      | none => readSet spaced fuel .opened OpenSet.fresh (current :: outer) rest
    | _, '&' :: '&' :: rest => readSet spaced fuel .inside (current.operating '&') outer rest
    | _, '-' :: '-' :: rest => readSet spaced fuel .inside (current.operating '-') outer rest
    | _, '~' :: '~' :: rest => readSet spaced fuel .inside (current.operating '~') outer rest
    | _, rest =>
      match readRange spaced rest with
      | none => none
      | some (member, rest) => readSet spaced fuel .inside (current.adding member) outer rest

/-! ## Groups -/

/-- What an opening parenthesis begins. -/
inductive Opening where
  /-- A group, perhaps with a name or with modes of its own. -/
  | group (name : Option String) (change : ModeChange)
  /-- No group, but modes for what follows. -/
  | setting (change : ModeChange)
  deriving DecidableEq, Repr

/-- The name of a group up to its closing bracket. -/
def readName (characters : List Char) : Option (Opening × List Char) :=
  let continues (character : Char) : Bool :=
    ['_', '.', '[', ']'].contains character || Text.isAlphanumeric character
  match characters.takeWhile (· != '>'), characters.dropWhile (· != '>') with
  | first :: others, _ :: rest =>
    if (first == '_' || Text.isAlphabetic first) && others.all continues then
      some (.group (some (String.ofList (first :: others))) ModeChange.none, rest)
    else none
  | _, _ => none

/-- Modes up to a colon, which begins a group, or up to the closing parenthesis. Letters behind a
dash take their modes away; none may stand twice, and the dash not at the end. -/
def readModes (change : ModeChange) (seen : List Char) : List Char → Option (Opening × List Char)
  | [] => none
  | ':' :: rest => if seen.head? == some '-' then none else some (.group none change, rest)
  | ')' :: rest =>
    if seen.isEmpty || seen.head? == some '-' then none else some (.setting change, rest)
  | letter :: rest =>
    if seen.contains letter || !('-' :: ModeChange.letters).contains letter then none
    else readModes (change.set letter !(seen.contains '-')) (letter :: seen) rest

/-- What stands behind an opening parenthesis. -/
def readOpening (spaced : Bool) (characters : List Char) : Option (Opening × List Char) :=
  match pass spaced characters with
  | '?' :: 'P' :: '<' :: rest => readName rest
  | '?' :: '<' :: rest => readName rest
  | '?' :: rest => readModes ModeChange.none [] rest
  | rest => some (.group none ModeChange.none, rest)

/-! ## Patterns -/

/-- What was read of a group since it was opened. -/
structure OpenGroup where
  /-- Whether space and comments are passed over. -/
  spaced : Bool
  /-- The branches that have ended, the last in front. -/
  branches : List Pattern
  /-- The items of the branch that has not, the last in front. -/
  items : List Pattern

namespace OpenGroup

/-- A group of which nothing was read. -/
def fresh (spaced : Bool) : OpenGroup := ⟨spaced, [], []⟩

/-- A group with one more item. -/
def adding (group : OpenGroup) (item : Pattern) : OpenGroup :=
  { group with items := item :: group.items }

/-- A group with a branch more ended. -/
def branching (group : OpenGroup) : OpenGroup :=
  { group with branches := ofItems group.items.reverse :: group.branches, items := [] }

/-- What was read, as one pattern. -/
def content (group : OpenGroup) : Pattern := ofBranches group.branching.branches.reverse

/-- A group with its last item repeated, if there is one that may be. -/
def repeating (group : OpenGroup) (mark : Char) : Option OpenGroup :=
  match group.items with
  | [] => none
  | item :: before =>
    if item.isRepeatable then some { group with items := .repetition mark item :: before } else none

end OpenGroup

/-- Where the reading of a pattern stands. -/
structure Reading where
  /-- The innermost group. -/
  inner : OpenGroup
  /-- The groups around it, each with the name and the modes of the one inside. -/
  outer : List (Option String × ModeChange × OpenGroup)
  /-- The names of groups so far. -/
  names : List String

namespace Reading

/-- The beginning of a pattern. -/
def initial : Reading := ⟨OpenGroup.fresh false, [], []⟩

/-- The reading behind one more item. -/
def adding (reading : Reading) (item : Pattern) : Reading :=
  { reading with inner := reading.inner.adding item }

/-- The reading behind an opening parenthesis, unless it names a group by a name that was given
before. -/
def opening (reading : Reading) : Opening → Option Reading
  | .setting change =>
    let inner := reading.inner.adding (.setting change)
    some { reading with inner := { inner with spaced := change.spaced.getD inner.spaced } }
  | .group name change =>
    if name.any reading.names.contains then none
    else
      some ⟨OpenGroup.fresh (change.spaced.getD reading.inner.spaced),
        (name, change, reading.inner) :: reading.outer, name.toList ++ reading.names⟩

/-- The reading behind a closing parenthesis. -/
def closing (reading : Reading) : Option Reading :=
  match reading.outer with
  | [] => none
  | (name, change, around) :: outer =>
    some ⟨around.adding (.group name change reading.inner.content), outer, reading.names⟩

/-- Reads one part of a pattern: an item, a repetition, or an edge of a branch or a group. -/
def advance (reading : Reading) : List Char → Option (Reading × List Char)
  | [] => none
  | '(' :: rest =>
    match readOpening reading.inner.spaced rest with
    | none => none
    | some (opening, rest) => (reading.opening opening).map fun reading => (reading, rest)
  | ')' :: rest => reading.closing.map fun reading => (reading, rest)
  | '|' :: rest => some ({ reading with inner := reading.inner.branching }, rest)
  | '[' :: rest =>
    (readSet reading.inner.spaced (rest.length + 1) .opened OpenSet.fresh [] rest).map
      fun (item, rest) => (reading.adding item, rest)
  | '\\' :: rest =>
    (readEscape reading.inner.spaced rest).map
      fun (escape, rest) => (reading.adding escape.toPattern, rest)
  | '.' :: rest => some (reading.adding .any, rest)
  | '\x7b' :: _ => none
  | letter :: rest =>
    if ['?', '*', '+'].contains letter then
      let behind := if rest.head? == some '?' then rest.drop 1 else rest
      (reading.inner.repeating letter).map fun inner =>
        ({ reading with inner := inner }, behind)
    else if ['^', '$'].contains letter then some (reading.adding (.edge false), rest)
    else some (reading.adding (.character letter.toNat false), rest)

/-- The pattern behind all parts, if all groups are closed. -/
def readAll : Nat → Reading → List Char → Option Pattern
  | 0, _, _ => none
  | fuel + 1, reading, characters =>
    match pass reading.inner.spaced characters with
    | [] => if reading.outer.isEmpty then some reading.inner.content else none
    | rest =>
      match reading.advance rest with
      | none => none
      | some (reading, rest) => readAll fuel reading rest

end Reading

/-- The pattern of a text. Each part takes a character away, so the parts are bounded by the length
of the text. -/
def read? (text : List Char) : Option Pattern :=
  Reading.readAll (text.length + 1) Reading.initial text

end StorageBroker.Telemetry.Pattern
