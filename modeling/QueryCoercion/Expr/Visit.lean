import QueryCoercion.Expr.Basic

/-!
Walks over a tree. A read-only walk meets every node before its children, and at a
field its binding and the column behind it. A copying walk goes the same way and puts
something in the place of every field, except below the nodes that it keeps whole.
-/
namespace QueryCoercion

inductive Visit where
  | node (e : Expr)
  | field (f : Field)
  | binding (b : Binding)
  | property (p : PropertyRef)
  | column (c : ColumnRef)

namespace Visit

def ofBinding (b : Binding) : List Visit :=
  match b with
  | .column c => [.binding b, .column c]
  | .property p => [.binding b, .property p, .column p.column]

def ofField (f : Field) : List Visit :=
  .field f :: (f.binding.map ofBinding).getD []

def column? : Visit → Option ColumnRef
  | .column c => some c
  | _ => none

end Visit

/-- What a copying walk does on its way: which nodes it keeps whole, and what it puts in the
place of a field. It may carry a state from one field to the next. -/
structure Copier (σ : Type) where
  keeps : Expr → Bool
  field : Field → σ → Expr × σ

/-- Keeps nothing whole, and asks a hook about the property reads. -/
def Copier.ofHook {σ : Type} (hook : Field → PropertyRef → σ → Expr × σ) : Copier σ where
  keeps _ := false
  field f s :=
    match f.property? with
    | some property => hook f property s
    | none => (.field f, s)

namespace Expr

mutual

def visits : Expr → List Visit
  | .field f => .node (.field f) :: Visit.ofField f
  | .constant value span => [.node (.constant value span)]
  | .call name args span => .node (.call name args span) :: visitsAll args
  | .binary left op right span => .node (.binary left op right span) :: (visits left ++ visits right)
  | .group kind items => .node (.group kind items) :: visitsAll items
  | .negation inner => .node (.negation inner) :: visits inner
  | .aliased name inner span => .node (.aliased name inner span) :: visits inner

def visitsAll : List Expr → List Visit
  | [] => []
  | e :: rest => visits e ++ visitsAll rest

end

mutual

/-- Copies a tree from left to right. -/
def copyBy {σ : Type} (c : Copier σ) : Expr → σ → Expr × σ
  | .field f, s => if c.keeps (.field f) then (.field f, s) else c.field f s
  | .constant value span, s => (.constant value span, s)
  | .call name args span, s =>
    if c.keeps (.call name args span) then (.call name args span, s)
    else
      let done := copyAllBy c args s
      (.call name done.1 span, done.2)
  | .binary left op right span, s =>
    if c.keeps (.binary left op right span) then (.binary left op right span, s)
    else
      let first := copyBy c left s
      let second := copyBy c right first.2
      (.binary first.1 op second.1 span, second.2)
  | .group kind items, s =>
    if c.keeps (.group kind items) then (.group kind items, s)
    else
      let done := copyAllBy c items s
      (.group kind done.1, done.2)
  | .negation inner, s =>
    if c.keeps (.negation inner) then (.negation inner, s)
    else
      let done := copyBy c inner s
      (.negation done.1, done.2)
  | .aliased name inner span, s =>
    if c.keeps (.aliased name inner span) then (.aliased name inner span, s)
    else
      let done := copyBy c inner s
      (.aliased name done.1 span, done.2)

def copyAllBy {σ : Type} (c : Copier σ) : List Expr → σ → List Expr × σ
  | [], s => ([], s)
  | e :: rest, s =>
    let first := copyBy c e s
    let others := copyAllBy c rest first.2
    (first.1 :: others.1, others.2)

end

/-- Copies a tree and asks a hook about its property reads alone. -/
def copy {σ : Type} (hook : Field → PropertyRef → σ → Expr × σ) : Expr → σ → Expr × σ :=
  copyBy (.ofHook hook)

/-- Puts an expression in the place of each property read and copies the rest. -/
def replaceReads (g : Field → PropertyRef → Expr) (e : Expr) : Expr :=
  (e.copy (fun f property s => (g f property, s)) ()).1

/-- The columns that the fields of a tree read, property reads included. -/
def columns (e : Expr) : List ColumnRef := e.visits.filterMap Visit.column?

/-- What the fields of a tree are bound to. -/
def bindings (e : Expr) : List Binding := e.leaves.filterMap Field.binding

end Expr

end QueryCoercion
