import QueryCoercion.Json.Value
import QueryCoercion.Names

namespace QueryCoercion

inductive Scope where
  | event
  | person
deriving DecidableEq

namespace Scope

def name : Scope → String
  | .event => "Event"
  | .person => "Person"

def ofName : String → Json.Decoded Scope
  | "Event" => .ok .event
  | "Person" => .ok .person
  | other => .error (.unknownVariant other ["Event", "Person"])

def ofJson : Json → Json.Decoded Scope := Json.asVariant ofName

end Scope

inductive Kind where
  | string
  | numeric
  | boolean
  | dateTime
  | unknown
deriving DecidableEq

namespace Kind

def name : Kind → String
  | .string => "String"
  | .numeric => "Numeric"
  | .boolean => "Boolean"
  | .dateTime => "DateTime"
  | .unknown => "Unknown"

/-- A name that is not known stands for the unknown kind. -/
def ofName : String → Kind
  | "String" => .string
  | "Numeric" => .numeric
  | "Boolean" => .boolean
  | "DateTime" => .dateTime
  | _ => .unknown

def ofJson : Json → Json.Decoded Kind := Json.asVariant fun name => .ok (ofName name)

/-- The name that users see. -/
def label : Kind → String
  | .dateTime => "DateTime"
  | .numeric => "Float"
  | .boolean => "Boolean"
  | .string => "String"
  | .unknown => "String"

end Kind

/-- A row of the catalog. One without a scope is about an event property. In JSON it is an
object, or an array of its four fields, of which the last two may be missing. -/
structure Definition where
  team : Int64
  name : String
  scope : Option Scope
  kind : Option Kind
deriving DecidableEq

namespace Definition

def isIn (d : Definition) : Scope → Bool
  | .event => d.scope == none || d.scope == some .event
  | .person => d.scope == some .person

def typeName : String := "PropertyDefinition"

/-- A row of which only some members have been read. -/
structure Draft where
  team : Option Int64 := none
  name : Option String := none
  scope : Option Scope := none
  kind : Option Kind := none

def Draft.take (d : Draft) (key : String) (value : Json) : Json.Decoded Draft :=
  match key with
  | "team_id" => (Json.asInt64 value).map fun team => { d with team := some team }
  | "name" => (Json.asString value).map fun name => { d with name := some name }
  | "category" => (Json.optional Scope.ofJson value).map fun scope => { d with scope := scope }
  | "property_type" => (Json.optional Kind.ofJson value).map fun kind => { d with kind := kind }
  | _ => .ok d

def Draft.finish (d : Draft) : Json.Decoded Definition := do
  let team ← Json.require "team_id" d.team
  let name ← Json.require "name" d.name
  .ok ⟨team, name, d.scope, d.kind⟩

def ofItems (items : List Json) : Json.Decoded Definition := do
  let team ← Json.element Json.asInt64 (Json.tooShort typeName 4) items 0
  let name ← Json.element Json.asString (Json.tooShort typeName 4) items 1
  let scope ← Json.element (Json.optional Scope.ofJson) (fun _ => .ok none) items 2
  let kind ← Json.element (Json.optional Kind.ofJson) (fun _ => .ok none) items 3
  Json.within 4 items ⟨team, name, scope, kind⟩

def ofJson : Json → Json.Decoded Definition
  | .object members => do (← Json.fields Draft.take {} members).finish
  | .array items => ofItems items
  | other => .error (.wrongType other.found (.record typeName))

/-- The first row that cannot be read fails the whole list. -/
def listOf : List Json → Json.Decoded (List Definition)
  | [] => .ok []
  | item :: rest => do
    let row ← ofJson item
    let rows ← listOf rest
    .ok (row :: rows)

def toJson (d : Definition) : Json :=
  .object [("category", .ofOption (fun s => .string s.name) d.scope), ("name", .string d.name),
    ("property_type", .ofOption (fun k => .string k.name) d.kind), ("team_id", .int d.team.toInt)]

end Definition

structure Request where
  names : NameSet
  team : Int64
  scope : Scope
deriving DecidableEq

/-- The names a catalog knows, with a kind where it has one. -/
abbrev Answer := NameMap (Option Kind)

inductive CatalogError where
  | unavailable (reason : String)
  | lookupFailed (scope : Scope) (team : Int64) (reason : String)
  | invalidDefinitions (cause : DecodeError)
deriving DecidableEq

def CatalogError.message : CatalogError → String
  | .unavailable reason => "catalog unavailable: " ++ reason
  | .lookupFailed scope team reason =>
    "lookup of " ++ scope.name ++ " properties for team " ++ toString team.toInt ++ " failed: " ++ reason
  | .invalidDefinitions cause => "invalid property definitions: " ++ cause.message

/-- Answers requests for some names of one team in one scope. It may keep a state of its own,
and it may fail. -/
structure Catalog (σ : Type) where
  lookup : Request → σ → Except CatalogError Answer × σ

namespace Catalog

variable {σ : Type}

def recorded (c : Catalog σ) : Catalog (σ × List Request) where
  lookup request state :=
    let (answer, inner) := c.lookup request state.1
    (answer, inner, state.2 ++ [request])

/-- What a catalog answers in place of a lookup. -/
inductive Reply where
  | unavailable (reason : String)
  | failed (reason : String)
  | answer (found : Answer)

def Reply.result (r : Reply) (request : Request) : Except CatalogError Answer :=
  match r with
  | .unavailable reason => .error (.unavailable reason)
  | .failed reason => .error (.lookupFailed request.scope request.team reason)
  | .answer found => .ok found

/-- A scope with a reply of its own is not looked up. -/
def scripted (script : Scope → Option Reply) (c : Catalog σ) : Catalog σ where
  lookup request state :=
    match script request.scope with
    | some reply => (reply.result request, state)
    | none => c.lookup request state

end Catalog

/-- A catalog held in memory, its rows in the order they came. Of several rows of a name the
last one counts, in the place of the first. -/
structure Store where
  rows : List Definition
  /-- Counted without end, where a machine word would start again from zero. -/
  lookups : Nat
deriving DecidableEq

namespace Store

def empty : Store := ⟨[], 0⟩

def insert (s : Store) (row : Definition) : Store := { s with rows := s.rows ++ [row] }

/-- Adds a row that has a kind. -/
def define (s : Store) (team : Int64) (name : String) (scope : Option Scope) (kind : Kind) : Store :=
  s.insert ⟨team, name, scope, some kind⟩

/-- Adds all rows of a JSON array, or none if one of them cannot be read. -/
def load (s : Store) (rows : Json) : Except CatalogError Nat × Store :=
  match Json.asList rows >>= Definition.listOf with
  | .error cause => (.error (.invalidDefinitions cause), s)
  | .ok rows => (.ok rows.length, { s with rows := s.rows ++ rows })

def size (s : Store) : Nat := s.rows.length

def isEmpty (s : Store) : Bool := s.rows.isEmpty

/-- Whether a row bears on a request. -/
def answers (request : Request) (row : Definition) : Bool :=
  row.team == request.team && row.isIn request.scope && request.names.names.contains row.name

def find (s : Store) (request : Request) : Answer :=
  .ofList ((s.rows.filter (answers request)).map fun row => (row.name, row.kind))

def catalog : Catalog Store where
  lookup request s := (.ok (s.find request), { s with lookups := s.lookups + 1 })

end Store

end QueryCoercion
