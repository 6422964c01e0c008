import StorageBroker.Json.Decoder
import StorageBroker.Table.Error
import StorageBroker.Text.Blank
import StorageBroker.Text.Pieces

/-!
# Table identifiers

A table is named by the levels of its namespace and its own name. `make` requires at least one
level and no blank component; `parse` splits a text at slashes, or at dots if it has no slash, and
then requires the same. An identifier in a JSON text is taken as it stands.
-/

set_option autoImplicit false

namespace StorageBroker

/-- A table name below a namespace of several levels. -/
structure TableId where
  levels : List String
  name : String
  deriving DecidableEq

namespace TableId

/-! ## Making identifiers -/

/-- An identifier of at least one level and no blank component. -/
def make (levels : List String) (name : String) : Except TableError TableId :=
  if levels.isEmpty then .error (.noNamespace name)
  else if Text.isBlank name || levels.any Text.isBlank then .error (.blankComponent levels name)
  else .ok ⟨levels, name⟩

/-- A slash if the text has one, else a dot. -/
def separatorOf (text : String) : Char :=
  if text.toList.contains '/' then '/' else '.'

/-- An identifier from its written form. -/
def parse (text : String) : Except TableError TableId :=
  let parts := (Text.pieces (separatorOf text) text.toList).map String.ofList
  if parts.length < 2 then .error (.tooFewParts text)
  else
    match make parts.dropLast (parts.getLastD "") with
    | .ok id => .ok id
    | .error _ => .error (.invalidParts text)

/-! ## Parts -/

/-- The first level, which a metastore takes for the database. -/
def database (id : TableId) : String := id.levels.headD ""

/-- The written form with dots. -/
def display (id : TableId) : String :=
  String.intercalate "." id.levels ++ "." ++ id.name

/-! ## Order -/

/-- Whether one identifier stands before another: by the levels, then by the name. -/
def before (left right : TableId) : Bool :=
  left.levels < right.levels || (left.levels == right.levels && left.name < right.name)

/-- Adds an identifier to ascending ones, unless it is among them. -/
def insertSorted (id : TableId) : List TableId → List TableId
  | [] => [id]
  | first :: rest =>
    if id.before first then id :: first :: rest
    else if id = first then first :: rest
    else first :: insertSorted id rest

/-- The identifiers in ascending order, each once. -/
def sort (ids : List TableId) : List TableId :=
  ids.foldl (fun sorted id => insertSorted id sorted) []

/-! ## JSON -/

/-- An identifier as a JSON value. -/
def toJson (id : TableId) : Json.Value :=
  .object [("namespace", .array (id.levels.map .string)), ("name", .string id.name)]

/-- What was read of an identifier so far. -/
structure Draft where
  levels : Option (List String)
  name : Option String

/-- An identifier as a record. -/
def shape : Json.Decoder.Shape Draft TableId where
  name := "TableIdentifier"
  fields :=
    [{ name := "namespace", required := true, isSet := fun draft => draft.levels.isSome,
       read := fun levels document draft => do
         let value ← Json.Decoder.list Json.Decoder.string levels document
         .ok { draft with levels := some value } },
     { name := "name", required := true, isSet := fun draft => draft.name.isSome,
       read := fun levels document draft => do
         let value ← Json.Decoder.string levels document
         .ok { draft with name := some value } }]
  draft := ⟨none, none⟩
  complete := fun draft => do
    let levels ← Json.Decoder.present "namespace" draft.levels
    let name ← Json.Decoder.present "name" draft.name
    .ok ⟨levels, name⟩

/-- An identifier in a JSON text, as it stands. -/
def decode : Json.Decoder TableId := Json.Decoder.record shape

end TableId

end StorageBroker
