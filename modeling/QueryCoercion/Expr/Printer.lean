import QueryCoercion.Expr.Basic
import QueryCoercion.Text.Quoted

namespace QueryCoercion

def Field.chars (f : Field) : List Char :=
  List.intercalate ['.'] (f.chain.map fun name => Identifier.chars name.toList)

def Field.render (f : Field) : String := String.ofList f.chars

def Grouping.separator : Grouping → String
  | .conjunction => " AND "
  | .disjunction => " OR "
  | .tuple => ", "

namespace Expr

mutual

def render : Expr → String
  | .field f => f.render
  | .constant value _ => value.render
  | .call name args _ => name ++ "(" ++ ", ".intercalate (renderAll args) ++ ")"
  | .binary left (.comparison op) right _ => render left ++ " " ++ op.symbol ++ " " ++ render right
  | .binary left (.arithmetic op) right _ =>
    "(" ++ render left ++ " " ++ op.symbol ++ " " ++ render right ++ ")"
  | .group kind items => "(" ++ kind.separator.intercalate (renderAll items) ++ ")"
  | .negation inner => "NOT " ++ render inner
  | .aliased name inner _ => render inner ++ " AS " ++ Identifier.render name

def renderAll : List Expr → List String
  | [] => []
  | e :: rest => render e :: renderAll rest

end

end Expr

end QueryCoercion

/- The outline of a tree for diagnostics: every node with its variant, the names of its
fields, and its binding and span. -/
namespace QueryCoercion.Outline

def variant (name : String) (content : String) : String := name ++ "(" ++ content ++ ")"

def record (name : String) (fields : List (String × String)) : String :=
  name ++ " \x7b " ++ ", ".intercalate (fields.map fun field => field.1 ++ ": " ++ field.2) ++ " \x7d"

def list (items : List String) : String := "[" ++ ", ".intercalate items ++ "]"

def option {α : Type} (inspect : α → String) : Option α → String
  | some value => variant "Some" (inspect value)
  | none => "None"

def names (chain : List String) : String := list (chain.map Quoted.render)

def span : Option Span → String :=
  option fun s => record "Span" [("start", toString s.start), ("end", toString s.stop)]

def column (c : ColumnRef) : String :=
  record "FieldType" [("name", Quoted.render c.name), ("table_type", c.source.inspect)]

def property (p : PropertyRef) : String :=
  record "PropertyType" [("chain", names p.path), ("field_type", column p.column)]

def binding : Binding → String
  | .column c => variant "Field" (column c)
  | .property p => variant "Property" (property p)

def field (f : Field) : String :=
  record "Field" [("chain", names f.chain), ("ty", option binding f.binding), ("span", span f.span)]

def grouping : Grouping → String
  | .conjunction => "And"
  | .disjunction => "Or"
  | .tuple => "Tuple"

def operator : Operator → String
  | .comparison op => variant "ComparatorOp" op.symbol
  | .arithmetic op => op.name

/-- The names of a binary node: of its variant and of its record. -/
def binaryNames : Operator → String × String
  | .comparison _ => ("Compare", "CompareOperation")
  | .arithmetic _ => ("Arithmetic", "ArithmeticOperation")

mutual

def expr : Expr → String
  | .field f => variant "Field" (field f)
  | .constant value s =>
    variant "Constant" (record "Constant" [("value", value.inspect), ("span", span s)])
  | .call name args s =>
    variant "Call" (record "Call"
      [("name", Quoted.render name), ("args", list (exprs args)), ("span", span s)])
  | .binary left op right s =>
    variant (binaryNames op).1 (record (binaryNames op).2
      [("left", expr left), ("op", operator op), ("right", expr right), ("span", span s)])
  | .group kind items => variant (grouping kind) (list (exprs items))
  | .negation inner => variant "Not" (expr inner)
  | .aliased name inner s =>
    variant "Alias" (record "Alias"
      [("alias", Quoted.render name), ("expr", expr inner), ("span", span s)])

def exprs : List Expr → List String
  | [] => []
  | e :: rest => expr e :: exprs rest

end

end QueryCoercion.Outline
