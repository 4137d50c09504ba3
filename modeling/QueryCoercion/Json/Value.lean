import QueryCoercion.Decimal
import QueryCoercion.Text.Quoted

namespace QueryCoercion

/-- A number written as an integer of at most 64 bits stays an integer, every other one is the
binary64 number it is read as. -/
inductive Json.Number where
  | integer (value : Int)
  | float (value : Binary64)
deriving DecidableEq

/-- Objects that come from text have their members in the order of their names, each name
once. -/
inductive Json where
  | null
  | bool (value : Bool)
  | number (value : Json.Number)
  | string (value : String)
  | array (items : List Json)
  | object (members : List (String × Json))
deriving Inhabited

namespace Json

def int (value : Int) : Json := .number (.integer value)

def nat (value : Nat) : Json := .int value

/-- A missing value is written as null. -/
def ofOption {α : Type} (encode : α → Json) : Option α → Json
  | some value => encode value
  | none => .null

/-- Places a member by its name; a later member replaces an earlier one. -/
def putMember (name : String) (value : Json) : List (String × Json) → List (String × Json)
  | [] => [(name, value)]
  | member :: rest =>
    if name < member.1 then (name, value) :: member :: rest
    else if name = member.1 then (name, value) :: rest
    else member :: putMember name value rest

def ofMembers (members : List (String × Json)) : Json :=
  .object (members.foldl (fun sorted member => putMember member.1 member.2 sorted) [])

end Json

/-- What a complaint says about the JSON it met. -/
inductive Found where
  | null
  | bool (value : Bool)
  | integer (value : Int)
  | float (value : Binary64)
  | string (value : String)
  | sequence
  | map
deriving DecidableEq

def Found.text : Found → String
  | .null => "null"
  | .bool value => "boolean `" ++ (if value then "true" else "false") ++ "`"
  | .integer value => "integer `" ++ toString value ++ "`"
  | .float value => "floating point `" ++ Layout.complaint.render value ++ "`"
  | .string value => "string " ++ Quoted.render value
  | .sequence => "sequence"
  | .map => "map"

def Json.Number.found : Json.Number → Found
  | .integer value => .integer value
  | .float value => .float value

def Json.found : Json → Found
  | .null => .null
  | .bool value => .bool value
  | .number value => value.found
  | .string value => .string value
  | .array _ => .sequence
  | .object _ => .map

/-- What a place in a typed value may hold. -/
inductive Shape where
  | int64
  | position
  | string
  | sequence
  | record (name : String)
  | variant
  | singleVariant
  | unit
deriving DecidableEq

def Shape.text : Shape → String
  | .int64 => "i64"
  | .position => "usize"
  | .string => "a string"
  | .sequence => "a sequence"
  | .record name => "struct " ++ name
  | .variant => "string or map"
  | .singleVariant => "map with a single key"
  | .unit => "unit"

inductive DecodeError where
  | wrongType (found : Found) (expected : Shape)
  | wrongValue (found : Found) (expected : Shape)
  | tooShort (length : Nat) (record : String) (size : Nat)
  | tooLong (length : Nat)
  | missingField (name : String)
  | repeatedField (name : String)
  | unknownVariant (name : String) (choices : List String)
deriving DecidableEq

namespace DecodeError

def code (text : String) : String := "`" ++ text ++ "`"

def choiceText : List String → String
  | [] => "there are no variants"
  | [a] => "expected " ++ code a
  | [a, b] => "expected " ++ code a ++ " or " ++ code b
  | choices => "expected one of " ++ ", ".intercalate (choices.map code)

def message : DecodeError → String
  | .wrongType found expected => "invalid type: " ++ found.text ++ ", expected " ++ expected.text
  | .wrongValue found expected => "invalid value: " ++ found.text ++ ", expected " ++ expected.text
  | .tooShort length record size =>
    "invalid length " ++ toString length ++ ", expected struct " ++ record ++ " with " ++
      toString size ++ " elements"
  | .tooLong length =>
    "invalid length " ++ toString length ++ ", expected fewer elements in array"
  | .missingField name => "missing field " ++ code name
  | .repeatedField name => "duplicate field " ++ code name
  | .unknownVariant name choices => "unknown variant " ++ code name ++ ", " ++ choiceText choices

end DecodeError

namespace Json

abbrev Decoded (α : Type) := Except DecodeError α

def asString : Json → Decoded String
  | .string value => .ok value
  | other => .error (.wrongType other.found .string)

def asInt64 : Json → Decoded Int64
  | .number (.integer value) =>
    if Int64.minValue.toInt ≤ value ∧ value ≤ Int64.maxValue.toInt then .ok (.ofInt value)
    else .error (.wrongValue (.integer value) .int64)
  | other => .error (.wrongType other.found .int64)

def asPosition : Json → Decoded Nat
  | .number (.integer value) =>
    if 0 ≤ value ∧ value < Int.pow 2 64 then .ok value.toNat
    else .error (.wrongValue (.integer value) .position)
  | other => .error (.wrongType other.found .position)

def asList : Json → Decoded (List Json)
  | .array items => .ok items
  | other => .error (.wrongType other.found .sequence)

def asUnit : Json → Decoded Unit
  | .null => .ok ()
  | other => .error (.wrongType other.found .unit)

def optional {α : Type} (decode : Json → Decoded α) : Json → Decoded (Option α)
  | .null => .ok none
  | value => (decode value).map some

/-- A choice is a name, or an object with that one name and null as its value. -/
def asVariant {α : Type} (ofName : String → Decoded α) : Json → Decoded α
  | .string name => ofName name
  | .object [(name, value)] => do
    let choice ← ofName name
    asUnit value
    .ok choice
  | .object _ => .error (.wrongValue .map .singleVariant)
  | other => .error (.wrongType other.found .variant)

/-- The field of a record that is given as an array. -/
def element {α : Type} (decode : Json → Decoded α) (absent : Nat → Decoded α)
    (items : List Json) (index : Nat) : Decoded α :=
  match items[index]? with
  | some item => decode item
  | none => absent index

/-- A field that an array may not leave out. -/
def tooShort {α : Type} (record : String) (size index : Nat) : Decoded α :=
  .error (.tooShort index record size)

/-- The value a record ends with, unless its array goes on after the last field. -/
def within {α : Type} (size : Nat) (items : List Json) (value : α) : Decoded α :=
  if size < items.length then .error (.tooLong items.length) else .ok value

/-- Takes the members of an object one by one into a partial record. -/
def fields {α : Type} (take : α → String → Json → Decoded α) :
    α → List (String × Json) → Decoded α
  | partly, [] => .ok partly
  | partly, member :: rest => do fields take (← take partly member.1 member.2) rest

def require {α : Type} (name : String) : Option α → Decoded α
  | some value => .ok value
  | none => .error (.missingField name)

end Json

end QueryCoercion
