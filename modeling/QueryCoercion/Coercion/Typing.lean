import QueryCoercion.Catalog
import QueryCoercion.Coercion.Reads

namespace QueryCoercion

/-- What the pass reports while it runs. -/
inductive Event where
  | noTeam
  | lookedUp (scope : Scope) (requested typed : Nat)
  | nothingToDo
  | started (eventNames personNames : Nat) (timestamps : Bool) (timezone : String)
  | coercing (property : String) (kind : Kind)
  | converting (column timezone : String)
  | noticesDropped (count : Nat)
deriving DecidableEq

/-- What an event carries under a name. -/
inductive Detail where
  | count (value : Nat)
  | flag (value : Bool)
  | text (value : String)
deriving DecidableEq

namespace Event

def level : Event → String
  | .coercing _ _ => "TRACE"
  | .converting _ _ => "TRACE"
  | _ => "DEBUG"

def message : Event → String
  | .noTeam => "no team in context, skipping property type lookups"
  | .lookedUp _ _ _ => "looked up property types"
  | .nothingToDo => "no typed properties or timestamps, leaving tree unchanged"
  | .started _ _ _ _ => "rewriting property types"
  | .coercing _ _ => "coercing property"
  | .converting _ _ => "converting timezone"
  | .noticesDropped _ => "no notice sink available, property notices dropped"

def details : Event → List (String × Detail)
  | .noTeam => []
  | .lookedUp scope requested typed =>
    [("category", .text scope.name), ("requested", .count requested), ("typed", .count typed)]
  | .nothingToDo => []
  | .started eventNames personNames timestamps timezone =>
    [("event_properties", .count eventNames), ("person_properties", .count personNames),
      ("found_timestamps", .flag timestamps), ("timezone", .text timezone)]
  | .coercing property kind => [("property", .text property), ("kind", .text kind.name)]
  | .converting column timezone => [("field", .text column), ("timezone", .text timezone)]
  | .noticesDropped count => [("dropped", .count count)]

end Event

/-- The kinds of the properties that a tree reads. -/
structure Typing where
  event : NameMap Kind
  person : NameMap Kind

/-- How a query of the catalog ended, and what it left behind. -/
structure Fetched (σ α : Type) where
  result : Except CatalogError α
  catalog : σ
  events : List Event

namespace Typing

variable {σ : Type}

def empty : Typing := ⟨.empty, .empty⟩

def get? (t : Typing) (scope : Scope) (name : String) : Option Kind :=
  match scope with
  | .event => t.event.get? name
  | .person => t.person.get? name

def isEmpty (t : Typing) : Bool := t.event.isEmpty && t.person.isEmpty

/-- Whether a tree stays as it is, given whether it reads timestamps. -/
def isIdle (t : Typing) (timestamps : Bool) : Bool := t.isEmpty && !timestamps

def fetchScope (c : Catalog σ) (names : NameSet) (team : Int64) (scope : Scope) (state : σ) :
    Fetched σ (NameMap Kind) :=
  if names.isEmpty then ⟨.ok .empty, state, []⟩
  else
    match c.lookup ⟨names, team, scope⟩ state with
    | (.error err, state) => ⟨.error err, state, []⟩
    | (.ok found, state) =>
      ⟨.ok found.filled, state, [.lookedUp scope names.size found.filled.size]⟩

/-- Asks at most once for each scope, persons first, and stops at the first failure. -/
def fetchTeam (c : Catalog σ) (reads : Reads) (team : Int64) (state : σ) : Fetched σ Typing :=
  match fetchScope c reads.person team .person state with
  | ⟨.error err, state, events⟩ => ⟨.error err, state, events⟩
  | ⟨.ok person, state, events⟩ =>
    match fetchScope c reads.event team .event state with
    | ⟨.error err, state, more⟩ => ⟨.error err, state, events ++ more⟩
    | ⟨.ok event, state, more⟩ => ⟨.ok ⟨event, person⟩, state, events ++ more⟩

def fetch (c : Catalog σ) (reads : Reads) (team : Option Int64) (state : σ) : Fetched σ Typing :=
  match team with
  | some team => fetchTeam c reads team state
  | none => ⟨.ok empty, state, if reads.hasProperties then [.noTeam] else []⟩

end Typing

end QueryCoercion
