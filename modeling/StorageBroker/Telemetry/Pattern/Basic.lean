/-!
# Patterns

A pattern is a regular expression as a tree. Its items are characters, escapes, sets in brackets and
groups in parentheses, each of which may be repeated; sequences of items are the branches of an
alternation. Nothing here says what a pattern matches, for that is never asked. What is said is
which patterns can be used at all: those that are not too deep (`depth`), and those that need no
more than is at hand in the modes that hold where they stand (`usable`).

Modes say whether letters are taken in both cases, and whether characters are those of Unicode or
single bytes. No tables of Unicode are at hand. A pattern that needs one, for the case of letters or
for what is a digit, a space, a word or the edge of a word, cannot be used; neither can one that
could match a part of a character.
-/

set_option autoImplicit false

namespace StorageBroker.Telemetry

/-! ## Modes -/

/-- The modes in which a part of a pattern stands. -/
structure Modes where
  /-- Whether letters are taken in both cases. -/
  caseless : Bool
  /-- Whether characters are those of Unicode, or single bytes. -/
  wide : Bool
  deriving DecidableEq, Repr

/-- The modes at the beginning of a pattern. -/
def Modes.usual : Modes := ⟨false, true⟩

/-- The modes that are set, to what; the others stay as they are. -/
structure ModeChange where
  /-- Whether space and comments between the parts are passed over. -/
  spaced : Option Bool
  caseless : Option Bool
  wide : Option Bool
  deriving DecidableEq, Repr

namespace ModeChange

/-- All modes stay as they are. -/
def none : ModeChange := ⟨.none, .none, .none⟩

/-- Sets one mode more, by its letter. Four of the letters have no part in what can be used. -/
def set (change : ModeChange) (letter : Char) (value : Bool) : ModeChange :=
  if letter = 'x' then { change with spaced := some value }
  else if letter = 'i' then { change with caseless := some value }
  else if letter = 'u' then { change with wide := some value }
  else change

/-- The letters of the modes. -/
def letters : List Char := ['i', 'm', 's', 'U', 'u', 'R', 'x']

end ModeChange

/-- The modes behind a change. -/
def Modes.changed (modes : Modes) (change : ModeChange) : Modes :=
  ⟨change.caseless.getD modes.caseless, change.wide.getD modes.wide⟩

/-- Whether a character can be used, outside of sets. A single byte above ASCII is no character. -/
def Modes.admitCharacter (modes : Modes) (code : Nat) (byte : Bool) : Bool :=
  if modes.wide then !modes.caseless else !byte || code < 0x80

/-- Whether a shorthand can be used. -/
def Modes.admitShorthand (modes : Modes) (negated : Bool) : Bool := !modes.wide && !negated

/-! ## Sets -/

/-- A set of characters. -/
inductive CharacterSet where
  | empty
  | character (code : Nat)
  /-- All characters from one to another. -/
  | range (first last : Nat)
  /-- A set that has a name, or all other characters. -/
  | named (name : String) (negated : Bool)
  /-- The digits, the spaces or the characters of words, or all others. -/
  | shorthand (letter : Char) (negated : Bool)
  | union (members : List CharacterSet)
  /-- A set in brackets of its own, or all other characters. -/
  | bracket (negated : Bool) (content : CharacterSet)
  /-- An intersection or a difference, by its mark. -/
  | operation (mark : Char) (left right : CharacterSet)

namespace CharacterSet

/-- Several members as one set. -/
def ofMembers : List CharacterSet → CharacterSet
  | [] => .empty
  | [member] => member
  | members => .union members

mutual

/-- How deep a set is nested. -/
def depth : CharacterSet → Nat
  | .empty | .character _ | .range _ _ | .named _ _ | .shorthand _ _ => 0
  | .union members => deepest members + 1
  | .bracket _ content => depth content + 1
  | .operation _ left right => max (depth left) (depth right) + 1

/-- How deep the deepest of several sets is nested. -/
def deepest : List CharacterSet → Nat
  | [] => 0
  | member :: rest => max (depth member) (deepest rest)

end

mutual

/-- Whether a set can be used. Where letters would be taken in both cases a set can have no members,
and single bytes admit neither a character above ASCII nor the complement of a set. -/
def usable (modes : Modes) : CharacterSet → Bool
  | .empty => true
  | .character code => if modes.wide then !modes.caseless else code < 0x80
  | .range first last =>
    if modes.wide then !modes.caseless else first < 0x80 && last < 0x80
  | .named _ negated => if modes.wide then !modes.caseless else !negated
  | .shorthand _ negated => modes.admitShorthand negated
  | .union members => allUsable modes members
  | .bracket negated content => (modes.wide || !negated) && usable modes content
  | .operation _ left right => usable modes left && usable modes right

/-- Whether several sets can be used. -/
def allUsable (modes : Modes) : List CharacterSet → Bool
  | [] => true
  | member :: rest => usable modes member && allUsable modes rest

end

end CharacterSet

/-! ## Trees -/

/-- A pattern. -/
inductive Pattern where
  | empty
  /-- No item, but modes for what follows in the same group. -/
  | setting (change : ModeChange)
  /-- A character by its code, perhaps given as a byte. -/
  | character (code : Nat) (byte : Bool)
  /-- Any character. -/
  | any
  /-- An edge of the text, of a line or of a word. -/
  | edge (ofWord : Bool)
  /-- The digits, the spaces or the characters of words, or all others. -/
  | shorthand (letter : Char) (negated : Bool)
  /-- A set in brackets, or all other characters. -/
  | set (negated : Bool) (content : CharacterSet)
  /-- An item repeated, by the mark of the repetition. -/
  | repetition (mark : Char) (item : Pattern)
  /-- A group, perhaps with a name or with modes of its own. -/
  | group (name : Option String) (change : ModeChange) (content : Pattern)
  | sequence (items : List Pattern)
  | alternation (branches : List Pattern)

namespace Pattern

/-- Several items one behind another. -/
def ofItems : List Pattern → Pattern
  | [] => .empty
  | [item] => item
  | items => .sequence items

/-- Several branches. -/
def ofBranches : List Pattern → Pattern
  | [] => .empty
  | [branch] => branch
  | branches => .alternation branches

/-- Whether an item may be repeated. -/
def isRepeatable : Pattern → Bool
  | .empty | .setting _ => false
  | _ => true

mutual

/-- How deep a pattern is nested. -/
def depth : Pattern → Nat
  | .empty | .setting _ | .character _ _ | .any | .edge _ | .shorthand _ _ => 0
  | .set negated content => (CharacterSet.bracket negated content).depth
  | .repetition _ item => depth item + 1
  | .group _ _ content => depth content + 1
  | .sequence items => deepest items + 1
  | .alternation branches => deepest branches + 1

/-- How deep the deepest of several patterns is nested. -/
def deepest : List Pattern → Nat
  | [] => 0
  | pattern :: rest => max (depth pattern) (deepest rest)

end

mutual

/-- The modes behind a pattern that stands in some modes, if it can be used there. -/
def modesBehind (modes : Modes) : Pattern → Option Modes
  | .empty => some modes
  | .setting change => some (modes.changed change)
  | .character code byte => if modes.admitCharacter code byte then some modes else none
  | .any => if modes.wide then some modes else none
  | .edge ofWord => if modes.wide && ofWord then none else some modes
  | .shorthand _ negated => if modes.admitShorthand negated then some modes else none
  | .set negated content =>
    if (CharacterSet.bracket negated content).usable modes then some modes else none
  | .repetition _ item => modesBehind modes item
  | .group _ change content => (modesBehind (modes.changed change) content).map fun _ => modes
  | .sequence items => modesBehindAll modes items
  | .alternation branches => modesBehindAll modes branches

/-- The modes behind several patterns, each of which stands in those that the one before it left. -/
def modesBehindAll (modes : Modes) : List Pattern → Option Modes
  | [] => some modes
  | pattern :: rest =>
    match modesBehind modes pattern with
    | none => none
    | some modes => modesBehindAll modes rest

end

/-- How deep a pattern may be nested. -/
def depthLimit : Nat := 250

/-- Whether a pattern can be used. -/
def usable (pattern : Pattern) : Bool :=
  pattern.depth ≤ depthLimit && (pattern.modesBehind Modes.usual).isSome

end Pattern

end StorageBroker.Telemetry
