import StorageBroker.Decimal.Shortest
import StorageBroker.Text.Quoted

/-!
# JSON values

A number is an integer when it is written without fraction and exponent and fits 64 bits, signed
or unsigned; every other number is a binary one. The members of an object stand in ascending
order of their names, each name once, when the object was read from a text.
-/

set_option autoImplicit false

namespace StorageBroker.Json

/-- A number of either sort. The bounds of an integer are the powers of two that no signed and no
unsigned word of 64 bits goes beyond. -/
inductive Number where
  | integer (value : Int) (fits : -9223372036854775808 ≤ value ∧ value < 18446744073709551616)
  | real (value : Binary64)
  deriving DecidableEq

/-- The binary number nearest to a number. -/
def Number.toBinary64 : Number → Binary64
  | .integer value _ => Binary64.ofInt value
  | .real value => value

/-- A number as it is written. -/
def Number.write : Number → String
  | .integer value _ => toString value
  | .real value => Decimal.write .compact value

/-- A JSON value. -/
inductive Value where
  | null
  | bool (value : Bool)
  | number (value : Number)
  | string (value : String)
  | array (items : List Value)
  | object (members : List (String × Value))

instance : Inhabited Value := ⟨.null⟩

/-! ## Equality -/

mutual

/-- Decides whether two values are equal. -/
def Value.decideEq : (left right : Value) → Decidable (left = right)
  | .null, .null => isTrue rfl
  | .bool left, .bool right =>
    if same : left = right then isTrue (by rw [same]) else isFalse (by simpa using same)
  | .number left, .number right =>
    if same : left = right then isTrue (by rw [same]) else isFalse (by simpa using same)
  | .string left, .string right =>
    if same : left = right then isTrue (by rw [same]) else isFalse (by simpa using same)
  | .array left, .array right =>
    match decideEqItems left right with
    | isTrue same => isTrue (by rw [same])
    | isFalse different => isFalse (by simpa using different)
  | .object left, .object right =>
    match decideEqMembers left right with
    | isTrue same => isTrue (by rw [same])
    | isFalse different => isFalse (by simpa using different)
  | .null, .bool _ | .null, .number _ | .null, .string _ | .null, .array _ | .null, .object _
  | .bool _, .null | .bool _, .number _ | .bool _, .string _ | .bool _, .array _
  | .bool _, .object _ | .number _, .null | .number _, .bool _ | .number _, .string _
  | .number _, .array _ | .number _, .object _ | .string _, .null | .string _, .bool _
  | .string _, .number _ | .string _, .array _ | .string _, .object _ | .array _, .null
  | .array _, .bool _ | .array _, .number _ | .array _, .string _ | .array _, .object _
  | .object _, .null | .object _, .bool _ | .object _, .number _ | .object _, .string _
  | .object _, .array _ => isFalse (by simp)

/-- Decides whether two lists of values are equal. -/
def decideEqItems : (left right : List Value) → Decidable (left = right)
  | [], [] => isTrue rfl
  | [], _ :: _ | _ :: _, [] => isFalse (by simp)
  | left :: lefts, right :: rights =>
    match left.decideEq right with
    | isFalse different => isFalse (by simp [different])
    | isTrue same =>
      match decideEqItems lefts rights with
      | isFalse different => isFalse (by simp [different])
      | isTrue rest => isTrue (by rw [same, rest])

/-- Decides whether two lists of members are equal. -/
def decideEqMembers : (left right : List (String × Value)) → Decidable (left = right)
  | [], [] => isTrue rfl
  | [], _ :: _ | _ :: _, [] => isFalse (by simp)
  | (leftName, left) :: lefts, (rightName, right) :: rights =>
    if name : leftName = rightName then
      match left.decideEq right with
      | isFalse different => isFalse (by simp [different])
      | isTrue same =>
        match decideEqMembers lefts rights with
        | isFalse different => isFalse (by simp [different])
        | isTrue rest => isTrue (by rw [name, same, rest])
    else isFalse (by simp [name])

end

instance : DecidableEq Value := Value.decideEq

/-! ## Members in order -/

/-- Sets a member among members in ascending order of names. -/
def insertMember (name : String) (value : Value) :
    List (String × Value) → List (String × Value)
  | [] => [(name, value)]
  | (first, kept) :: rest =>
    if name < first then (name, value) :: (first, kept) :: rest
    else if name = first then (name, value) :: rest
    else (first, kept) :: insertMember name value rest

/-- The members in ascending order of names; of several members with one name the last counts. -/
def sortMembers (members : List (String × Value)) : List (String × Value) :=
  members.foldl (fun sorted member => insertMember member.1 member.2 sorted) []

/-- The member of a name. -/
def Value.member? (name : String) : Value → Option Value
  | .object members => members.lookup name
  | _ => none

end StorageBroker.Json
