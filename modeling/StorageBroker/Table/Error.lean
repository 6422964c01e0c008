import StorageBroker.Json.Fault

/-!
# Faults of tables, their metadata and their probes

An error names its cause; errors from outside are kept as they were reported.
-/

set_option autoImplicit false

namespace StorageBroker

/-- The categories of errors about tables. -/
inductive TableError.Category where
  | config
  | metadata
  | probeUnavailable
  | metastore
  deriving DecidableEq, Repr

/-- What is wrong with a table, its metadata or its probe. -/
inductive TableError where
  /-- An error from outside, by its category and its text. -/
  | reported (category : TableError.Category) (text : String)
  -- Faults of configuration
  | noNamespace (name : String)
  | blankComponent (levels : List String) (name : String)
  | tooFewParts (text : String)
  | invalidParts (text : String)
  | blankLocation
  | zeroCapacity
  | zeroTimeout
  -- Faults of metadata
  | unreadable (fault : Json.Fault)
  | unsupportedVersion (version : Int32)
  -- Faults of a metastore
  | notFound (name : String)
  deriving DecidableEq

namespace TableError

/-- The category of an error. -/
def category : TableError → Category
  | .reported category _ => category
  | .noNamespace _ | .blankComponent _ _ | .tooFewParts _ | .invalidParts _ | .blankLocation
  | .zeroCapacity | .zeroTimeout => .config
  | .unreadable _ | .unsupportedVersion _ => .metadata
  | .notFound _ => .metastore

/-- What the text of an error begins with. -/
def Category.heading : Category → String
  | .config => "Configuration error: "
  | .metadata => "Metadata error: "
  | .probeUnavailable => "Probe unavailable: "
  | .metastore => "Metastore error: "

/-- The text of an error. -/
def message (error : TableError) : String :=
  error.category.heading ++
    match error with
    | .reported _ text => text
    | .noNamespace name => s!"table '{name}' has no namespace"
    | .blankComponent levels name =>
      "blank component in table identifier '" ++ String.intercalate "." levels ++ s!".{name}'"
    | .tooFewParts text => s!"invalid table identifier '{text}': expected namespace and table"
    | .invalidParts text => s!"invalid table identifier '{text}'"
    | .blankLocation => "metadata location should not be blank"
    | .zeroCapacity => "metadata cache capacity must be > 0"
    | .zeroTimeout => "probe timeout must be > 0"
    | .unreadable fault => s!"JSON parse error: {fault.message}"
    | .unsupportedVersion version => s!"unsupported format version {version.toInt}"
    | .notFound name => s!"{name} not found"

end TableError

end StorageBroker
