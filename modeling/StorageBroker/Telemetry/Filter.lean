import StorageBroker.Telemetry.Config
import StorageBroker.Telemetry.FieldRule
import StorageBroker.Text.Numeral
import StorageBroker.Text.Offset

/-!
# Log filters

A filter is a list of directives, separated by commas. A directive lets events of some targets
through up to a level; it may be a level alone, for all targets, or a target alone, for all
levels. It may besides name a span, or fields, in brackets. A directive covers the events whose
target begins with its own and which have all its fields. One that names a span, or the value of a
field, is about the inside of spans and covers no event outside of them. Of the directives that
cover an event the one with the longest target decides, and among these the one with the most
fields. A filter without directives lets nothing through.
-/

set_option autoImplicit false

namespace StorageBroker.Telemetry

/-! ## Levels -/

/-- The level of an event. -/
inductive Level where
  | error
  | warn
  | info
  | debug
  | trace
  deriving DecidableEq, Repr

namespace Level

/-- All levels, the most severe first. -/
def all : List Level := [.error, .warn, .info, .debug, .trace]

/-- The name of a level. -/
def name : Level → String
  | .error => "ERROR"
  | .warn => "WARN"
  | .info => "INFO"
  | .debug => "DEBUG"
  | .trace => "TRACE"

/-- How verbose a level is, from one on. -/
def rank : Level → Nat
  | .error => 1
  | .warn => 2
  | .info => 3
  | .debug => 4
  | .trace => 5

end Level

/-- Up to which level events pass, from zero, which lets nothing through, to five. -/
abbrev Threshold := Fin 6

/-- The threshold that lets everything through. -/
def Threshold.all : Threshold := 5

/-- The name of a threshold. -/
def Threshold.name (threshold : Threshold) : String :=
  match Level.all.find? fun level => level.rank == threshold.val with
  | some level => Text.toLowerAscii level.name
  | none => "off"

/-- A threshold by its number, or by its name in any case. -/
def Threshold.parse (text : String) : Option Threshold :=
  match Text.Numeral.unsigned text with
  | .ok number =>
    if small : number.toNat < 6 then some ⟨number.toNat, small⟩ else none
  | .error _ =>
    [0, 1, 2, 3, 4, 5].find? fun threshold : Threshold =>
      Text.equalsIgnoringCase threshold.name text

/-! ## Directives -/

/-- Which events pass up to which level. -/
structure Directive where
  /-- What the targets begin with; all targets if missing. -/
  target : Option String
  /-- Whether a span is named, even by an empty name. -/
  namesSpan : Bool
  fields : List FieldRule
  threshold : Threshold
  deriving DecidableEq, Repr

namespace Directive

/-- Where the reading of a directive stands, with the place where its current part begins, by the
number of bytes before it. -/
inductive Place where
  | start
  | levelOrTarget (start : Nat)
  | span (start : Nat)
  | field (start : Nat)
  | fields
  | behindSpan
  | level (start : Nat)
  deriving DecidableEq, Repr

/-- Whether a directive may begin with a character. -/
def mayBegin (character : Char) : Bool :=
  Text.isAlphanumeric character || character == '-' || character == ':' || character == '_'

/-- The text between two places. -/
def cut (whole : List Char) (first last : Nat) : String :=
  String.ofList (Text.between first last whole)

/-- Reads one character at a place. -/
def advance (whole : List Char) (position : Nat) (character : Char) :
    Place × Directive → Option (Place × Directive)
  | (.start, directive) =>
    if character = '[' then some (.span (position + 1), directive)
    else if mayBegin character then some (.levelOrTarget position, directive)
    else none
  | (.levelOrTarget start, directive) =>
    if character = '=' then
      some (.level (position + 1), { directive with target := some (cut whole start position) })
    else if character = '[' then
      some (.span (position + 1), { directive with target := some (cut whole start position) })
    else some (.levelOrTarget start, directive)
  | (.span start, directive) =>
    if character = ']' then some (.behindSpan, { directive with namesSpan := true })
    else if character = '\x7b' then
      some (.field (position + 1),
        { directive with namesSpan := start != position })
    else some (.span start, directive)
  | (.field start, directive) =>
    if character = '\x7d' then
      if start = position then none
      else
        (FieldRule.parse (Text.between start position whole)).map fun field =>
          (.fields, { directive with fields := directive.fields ++ [field] })
    else some (.field start, directive)
  | (.fields, directive) => if character = ']' then some (.behindSpan, directive) else none
  | (.behindSpan, directive) =>
    if character = '=' then some (.level (position + 1), directive) else none
  | (.level start, directive) => some (.level start, directive)

/-- Reads characters from a place on. -/
def advanceAll (whole : List Char) (position : Nat) :
    List Char → Place × Directive → Option (Place × Directive)
  | [], reached => some reached
  | character :: rest, reached =>
    match advance whole position character reached with
    | none => none
    | some reached => advanceAll whole (position + character.utf8Size) rest reached

/-- What a directive is where its text ends. It may not end within brackets, nor before it began. -/
def complete (whole : List Char) : Place × Directive → Option Directive
  | (.levelOrTarget start, directive) =>
    let text := String.ofList (Text.dropBytes start whole)
    match Threshold.parse text with
    | some threshold => some { directive with threshold := threshold }
    | none => some { directive with target := some text }
  | (.level start, directive) =>
    let text := String.ofList (Text.dropBytes start whole)
    if text.isEmpty then some directive
    else (Threshold.parse text).map fun threshold => { directive with threshold := threshold }
  | (.behindSpan, directive) => some directive
  | _ => none

/-- A directive from its text. Space around it is passed over in finding the parts, but the parts
are cut from the whole text. -/
def parse (text : List Char) : Option Directive :=
  (advanceAll text 0 (Text.trimChars text) (.start, ⟨none, false, [], Threshold.all⟩)).bind
    (complete text)

/-- Whether a directive asks for the value of a field. -/
def asksForValue (directive : Directive) : Bool :=
  directive.fields.any fun field => field.value.isSome

/-- Whether a directive is about the inside of spans only. -/
def isWithinSpan (directive : Directive) : Bool :=
  directive.namesSpan || directive.asksForValue

/-- Whether a directive is about events outside of spans that have a target and some fields. -/
def covers (directive : Directive) (target : String) (fields : List String) : Bool :=
  !directive.isWithinSpan && (directive.fields.all fun field => fields.contains field.name) &&
    match directive.target with
    | none => true
    | some beginning => beginning.toList.isPrefixOf target.toList

/-- The length of the target, from one on; zero for all targets. -/
def reach (directive : Directive) : Nat :=
  match directive.target with
  | none => 0
  | some target => target.utf8ByteSize + 1

/-- Whether a directive is at least as specific as another one. -/
def isAsSpecific (directive other : Directive) : Bool :=
  other.reach < directive.reach ||
    (other.reach == directive.reach && other.fields.length ≤ directive.fields.length)

end Directive

/-! ## Filters -/

/-- Several directives, in the order in which they were given. -/
abbrev Filter := List Directive

namespace Filter

/-- The directives of a text between commas, if each can be read. Empty ones are left out, but not
blank ones. -/
def parse (text : String) : Option Filter :=
  ((Text.pieces ',' text.toList).filter fun piece => !piece.isEmpty).mapM Directive.parse

/-- The directives in force for a configuration; the usual level if they cannot be read. -/
def ofConfig (config : Config) : Filter :=
  (parse config.directives).getD [⟨none, false, [], 3⟩]

/-- The directive that decides: the most specific one, and of several the last. -/
def deciding (filter : Filter) (target : String) (fields : List String) : Option Directive :=
  (filter.filter fun directive => directive.covers target fields).foldl
    (fun best directive =>
      match best with
      | none => some directive
      | some other => if directive.isAsSpecific other then some directive else some other)
    none

/-- Whether an event of a level, a target and some fields passes. -/
def enables (filter : Filter) (target : String) (fields : List String) (level : Level) : Bool :=
  match filter.deciding target fields with
  | none => false
  | some directive => level.rank ≤ directive.threshold.val

/-- The most verbose level that any directive lets through. The values of fields are known late, so
that a directive that asks for one counts as if it let everything through. -/
def mostVerbose (filter : Filter) : Threshold :=
  if filter.any Directive.asksForValue then Threshold.all
  else
    filter.foldl
      (fun most directive => if most ≤ directive.threshold then directive.threshold else most) 0

end Filter

/-! ## Logging -/

/-- An event. -/
structure Event where
  level : Level
  target : String
  message : String
  deriving DecidableEq, Repr

/-- The fields of an event: it has a message and nothing else. -/
def Event.fields (_ : Event) : List String := ["message"]

/-- The events that are logged, of those that happen. -/
def logged (config : Config) (events : List Event) : List Event :=
  events.filter fun event =>
    (Filter.ofConfig config).enables event.target event.fields event.level

/-- What is logged when logging is set up once more. -/
def repeatedSetup : Event :=
  ⟨.debug, "gravitino_access::telemetry", "tracing subscriber already initialized, skipping"⟩

end StorageBroker.Telemetry
