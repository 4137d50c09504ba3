import QueryCoercion.Json.Value
import QueryCoercion.Names
import QueryCoercion.Text.Quoted

namespace QueryCoercion

inductive ColumnKind where
  | integer
  | float
  | string
  | stringJson
  | boolean
  | date
  | dateTime
deriving DecidableEq

namespace ColumnKind

def all : List ColumnKind := [.integer, .float, .string, .stringJson, .boolean, .date, .dateTime]

def name : ColumnKind → String
  | .integer => "Integer"
  | .float => "Float"
  | .string => "String"
  | .stringJson => "StringJson"
  | .boolean => "Boolean"
  | .date => "Date"
  | .dateTime => "DateTime"

def ofName? (name : String) : Option ColumnKind := all.find? fun kind => kind.name == name

def isDateTime (kind : ColumnKind) : Bool := kind == .dateTime

def ofJson : Json → Json.Decoded ColumnKind :=
  Json.asVariant fun text =>
    match ofName? text with
    | some kind => .ok kind
    | none => .error (.unknownVariant text (all.map name))

end ColumnKind

structure Table where
  name : String
  columns : NameMap ColumnKind

namespace Table

def ofColumns (name : String) (columns : List (String × ColumnKind)) : Table :=
  ⟨name, .ofList columns⟩

def column? (t : Table) (name : String) : Option ColumnKind := t.columns.get? name

/-- Whatever the order in which the columns were added. -/
def same (t u : Table) : Bool := t.name == u.name && t.columns.same u.columns

end Table

/-- Where columns come from: a table, seen through aliases and virtual tables, or the result of
a subquery, which has no table. -/
inductive Source where
  | base (table : Table)
  | aliased (name : String) (of : Source)
  | virtual (field : String) (parent : Source)
  | subquery

namespace Source

/-- The table under all aliases and virtual tables. -/
def table? : Source → Option Table
  | .base table => some table
  | .aliased _ of => of.table?
  | .virtual _ parent => parent.table?
  | .subquery => none

def tableName? (s : Source) : Option String := s.table?.map Table.name

/-- Only the outermost source is looked at. -/
def isBase : Source → Bool
  | .subquery => false
  | _ => true

/-- The field through which the outermost source is reached, if it is virtual. -/
def virtualField? : Source → Option String
  | .virtual field _ => some field
  | _ => none

def same : Source → Source → Bool
  | .base t, .base u => t.same u
  | .aliased a s, .aliased b t => a == b && s.same t
  | .virtual f s, .virtual g t => f == g && s.same t
  | .subquery, .subquery => true
  | _, _ => false

/-- Names stand in diagnostics as they are. -/
def inspect : Source → String
  | .base table => "Base(" ++ table.name ++ ")"
  | .aliased name of => "Alias(" ++ name ++ " -> " ++ of.inspect ++ ")"
  | .virtual field parent => "Virtual(" ++ field ++ " on " ++ parent.inspect ++ ")"
  | .subquery => "Subquery"

end Source

structure ColumnRef where
  name : String
  source : Source

namespace ColumnRef

def kind? (c : ColumnRef) : Option ColumnKind := c.source.table?.bind (·.column? c.name)

def isDateTime (c : ColumnRef) : Bool := c.kind? == some .dateTime

def same (c d : ColumnRef) : Bool := c.name == d.name && c.source.same d.source

end ColumnRef

structure PropertyRef where
  path : List String
  column : ColumnRef

namespace PropertyRef

/-- The property of a path that has no further segments. -/
def segment? (p : PropertyRef) : Option String :=
  match p.path with
  | [name] => some name
  | _ => none

def same (p q : PropertyRef) : Bool := p.path == q.path && p.column.same q.column

end PropertyRef

/-- What a field is bound to: a column, or a path into a property column. -/
inductive Binding where
  | column (ref : ColumnRef)
  | property (ref : PropertyRef)

namespace Binding

/-- The column that is read, directly or for one of its properties. -/
def columnRef : Binding → ColumnRef
  | .column ref => ref
  | .property ref => ref.column

def isDateTime (b : Binding) : Bool :=
  match b with
  | .column ref => ref.isDateTime
  | .property _ => false

def property? : Binding → Option PropertyRef
  | .property ref => some ref
  | .column _ => none

def same : Binding → Binding → Bool
  | .column c, .column d => c.same d
  | .property p, .property q => p.same q
  | _, _ => false

end Binding

end QueryCoercion
