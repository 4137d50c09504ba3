import QueryCoercion.Decimal
import QueryCoercion.Schema
import QueryCoercion.Text.Quoted

namespace QueryCoercion

inductive Constant where
  | string (value : String)
  | int (value : Int64)
  | float (value : Binary64)
  | bool (value : Bool)
  | null
deriving DecidableEq

namespace Constant

/-- Both zeros are the same, and a float is never the same as an integer. -/
def same : Constant → Constant → Bool
  | .float x, .float y => x.same y
  | a, b => a == b

def string? : Constant → Option String
  | .string value => some value
  | _ => none

def render : Constant → String
  | .string value => Literal.render value
  | .int value => toString value.toInt
  | .float value => Layout.query.render value
  | .bool true => "true"
  | .bool false => "false"
  | .null => "NULL"

def variantName : Constant → String
  | .string _ => "String"
  | .int _ => "Int"
  | .float _ => "Float"
  | .bool _ => "Bool"
  | .null => "Null"

def inspect (c : Constant) : String := c.variantName ++ "(" ++ c.render ++ ")"

end Constant

inductive Comparator where
  | eq
  | notEq
  | lt
  | ltEq
  | gt
  | gtEq
  | like
  | notLike
  | inside
  | notInside
deriving DecidableEq

inductive Arithmetic where
  | add
  | sub
  | mul
  | div
  | mod
deriving DecidableEq

inductive Operator where
  | comparison (op : Comparator)
  | arithmetic (op : Arithmetic)
deriving DecidableEq

def Comparator.symbol : Comparator → String
  | .eq => "="
  | .notEq => "!="
  | .lt => "<"
  | .ltEq => "<="
  | .gt => ">"
  | .gtEq => ">="
  | .like => "LIKE"
  | .notLike => "NOT LIKE"
  | .inside => "IN"
  | .notInside => "NOT IN"

def Arithmetic.symbol : Arithmetic → String
  | .add => "+"
  | .sub => "-"
  | .mul => "*"
  | .div => "/"
  | .mod => "%"

def Arithmetic.name : Arithmetic → String
  | .add => "Add"
  | .sub => "Sub"
  | .mul => "Mul"
  | .div => "Div"
  | .mod => "Mod"

def Operator.symbol : Operator → String
  | .comparison op => op.symbol
  | .arithmetic op => op.symbol

/-- A stretch of the query text in bytes, the last byte excluded. -/
structure Span where
  start : Nat
  stop : Nat
deriving DecidableEq

structure Field where
  chain : List String
  binding : Option Binding
  span : Option Span

inductive Grouping where
  | conjunction
  | disjunction
  | tuple
deriving DecidableEq

inductive Expr where
  | field (f : Field)
  | constant (value : Constant) (span : Option Span)
  | call (name : String) (args : List Expr) (span : Option Span)
  | binary (left : Expr) (op : Operator) (right : Expr) (span : Option Span)
  | group (kind : Grouping) (items : List Expr)
  | negation (inner : Expr)
  | aliased (name : String) (inner : Expr) (span : Option Span)

namespace Field

def last? (f : Field) : Option String := f.chain.getLast?

def property? (f : Field) : Option PropertyRef := f.binding.bind Binding.property?

/-- Whether the field is bound to a date and time column. -/
def isDateTime (f : Field) : Bool :=
  match f.binding with
  | some binding => binding.isDateTime
  | none => false

def sameBinding : Option Binding → Option Binding → Bool
  | some b, some c => b.same c
  | none, none => true
  | _, _ => false

def same (f g : Field) : Bool :=
  f.chain == g.chain && sameBinding f.binding g.binding && f.span == g.span

end Field

namespace Expr

def constant? : Expr → Option Constant
  | .constant value _ => some value
  | _ => none

def field? : Expr → Option Field
  | .field f => some f
  | _ => none

def span? : Expr → Option Span
  | .field f => f.span
  | .constant _ span => span
  | .call _ _ span => span
  | .binary _ _ _ span => span
  | .aliased _ _ span => span
  | .group _ _ => none
  | .negation _ => none

mutual

def leaves : Expr → List Field
  | .field f => [f]
  | .constant _ _ => []
  | .call _ args _ => leavesAll args
  | .binary left _ right _ => leaves left ++ leaves right
  | .group _ items => leavesAll items
  | .negation inner => leaves inner
  | .aliased _ inner _ => leaves inner

def leavesAll : List Expr → List Field
  | [] => []
  | e :: rest => leaves e ++ leavesAll rest

end

theorem leavesAll_eq_flatMap (es : List Expr) : leavesAll es = es.flatMap leaves := by
  induction es with
  | nil => rfl
  | cons e rest ih => simp [leavesAll, ih]

mutual

def replaceLeaves (g : Field → Expr) : Expr → Expr
  | .field f => g f
  | .constant value span => .constant value span
  | .call name args span => .call name (replaceLeavesAll g args) span
  | .binary left op right span => .binary (replaceLeaves g left) op (replaceLeaves g right) span
  | .group kind items => .group kind (replaceLeavesAll g items)
  | .negation inner => .negation (replaceLeaves g inner)
  | .aliased name inner span => .aliased name (replaceLeaves g inner) span

def replaceLeavesAll (g : Field → Expr) : List Expr → List Expr
  | [] => []
  | e :: rest => replaceLeaves g e :: replaceLeavesAll g rest

end

theorem replaceLeavesAll_eq_map (g : Field → Expr) (es : List Expr) :
    replaceLeavesAll g es = es.map (replaceLeaves g) := by
  induction es with
  | nil => rfl
  | cons e rest ih => simp [replaceLeavesAll, ih]

mutual

/-- Sameness of trees, spans and bindings included. -/
def same : Expr → Expr → Bool
  | .field f, .field g => f.same g
  | .constant a s, .constant b t => a.same b && s == t
  | .call n as s, .call m bs t => n == m && sameAll as bs && s == t
  | .binary l o r s, .binary l' o' r' t => same l l' && o == o' && same r r' && s == t
  | .group k as, .group j bs => k == j && sameAll as bs
  | .negation a, .negation b => same a b
  | .aliased n a s, .aliased m b t => n == m && same a b && s == t
  | _, _ => false

def sameAll : List Expr → List Expr → Bool
  | [], [] => true
  | a :: as, b :: bs => same a b && sameAll as bs
  | _, _ => false

end

end Expr

end QueryCoercion
