import QueryCoercion.Catalog
import QueryCoercion.Expr.Basic
import QueryCoercion.Expr.Visit
import QueryCoercion.Names

/-!
What a tree reads: the property names of each scope that its direct reads are about,
in order of first occurrence, and whether it reads a date and time column. Only a path of
one segment names a catalogued property. A property column of the person tables, or of the
person table that hangs off an event, is about persons; that of events is about events; and
events also carry a column of person properties.
-/
namespace QueryCoercion

def Source.propertyScope? (s : Source) : Option Scope :=
  if s.virtualField? = some "poe" then some .person
  else if s.isBase then
    match s.tableName? with
    | some name =>
      if name = "persons" ∨ name = "raw_persons" then some .person
      else if name = "events" then some .event
      else none
    | none => none
  else none

def Source.personPropertyScope? (s : Source) : Option Scope :=
  if s.isBase ∧ s.tableName? = some "events" then some .person else none

namespace PropertyRef

/-- Whether the read goes through the plain property column. -/
def isDirect (p : PropertyRef) : Bool := p.column.name == "properties"

def scope? (p : PropertyRef) : Option Scope :=
  if p.column.name = "properties" then p.column.source.propertyScope?
  else if p.column.name = "person_properties" then p.column.source.personPropertyScope?
  else none

def classify? (p : PropertyRef) : Option (Scope × String) :=
  match p.segment?, p.scope? with
  | some name, some scope => some (scope, name)
  | _, _ => none

end PropertyRef

structure Reads where
  person : NameSet
  event : NameSet
  timestamps : Bool

namespace Reads

def empty : Reads := ⟨.empty, .empty, false⟩

def addName (r : Reads) (scope : Scope) (name : String) : Reads :=
  match scope with
  | .person => { r with person := r.person.insert name }
  | .event => { r with event := r.event.insert name }

/-- What is met on a walk counts if it is a date and time column or a direct read. -/
def visit (r : Reads) : Visit → Reads
  | .field f => if f.isDateTime then { r with timestamps := true } else r
  | .property p =>
    if p.isDirect then
      match p.classify? with
      | some (scope, name) => r.addName scope name
      | none => r
    else r
  | _ => r

/-- Goes on with another tree. -/
def collect (r : Reads) (e : Expr) : Reads := e.visits.foldl visit r

def ofExpr (e : Expr) : Reads := empty.collect e

def names (r : Reads) : Scope → NameSet
  | .person => r.person
  | .event => r.event

def hasProperties (r : Reads) : Bool := !r.person.isEmpty || !r.event.isEmpty

/-- The same names, in whatever order. -/
def same (r s : Reads) : Bool :=
  r.person.same s.person && r.event.same s.event && r.timestamps == s.timestamps

end Reads

end QueryCoercion
