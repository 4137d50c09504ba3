import QueryCoercion.Coercion.Typing
import QueryCoercion.Context
import QueryCoercion.Expr.Printer

/-!
The pass over a tree: collect what it reads, fetch the kinds, and coerce the tree unless
there is nothing to coerce. A date and time column is converted to the timezone; a
property read of a kind is wrapped in the conversion of that kind, where there is one.
Nodes that are already coerced stay as they are. A journal takes the notices about typed
reads, which are only counted when there is no log for them, and the events on the way.
-/
namespace QueryCoercion

inductive Coercion where
  | toFloat
  | toDateTime
  | isTrue
  | toTimeZone (timezone : String)
deriving DecidableEq

namespace Coercion

def ofKind? : Kind → Option Coercion
  | .numeric => some .toFloat
  | .dateTime => some .toDateTime
  | .boolean => some .isTrue
  | .string => none
  | .unknown => none

def wrap (c : Coercion) (f : Field) : Expr :=
  match c with
  | .toFloat => .call "toFloat" [.field f] none
  | .toDateTime => .call "toDateTime" [.field f] none
  | .isTrue => .binary (.field f) (.comparison .eq) (.constant (.string "true") none) none
  | .toTimeZone timezone =>
    .call "toTimeZone" [.field f, .constant (.string timezone) none] none

/-- Recognises wrapped fields, whatever the spans of the wrapper. -/
def shape? : Expr → Option (Coercion × Field)
  | .call name [.field f] _ =>
    if name = "toFloat" then some (.toFloat, f)
    else if name = "toDateTime" then some (.toDateTime, f)
    else none
  | .call name [.field f, .constant (.string timezone) _] _ =>
    if name = "toTimeZone" then some (.toTimeZone timezone, f) else none
  | .binary (.field f) (.comparison .eq) (.constant (.string text) _) _ =>
    if text = "true" then some (.isTrue, f) else none
  | _ => none

theorem shape?_wrap (c : Coercion) (f : Field) : shape? (c.wrap f) = some (c, f) := by
  cases c <;> simp [wrap, shape?]

end Coercion

structure Rules where
  timezone : String
  typing : Typing

namespace Rules

/-- The name and kind of a catalogued property read. -/
def read? (r : Rules) (f : Field) : Option (String × Kind) :=
  match f.property? with
  | some p =>
    match p.classify? with
    | some (scope, name) => (r.typing.get? scope name).map fun kind => (name, kind)
    | none => none
  | none => none

def coercion? (r : Rules) (f : Field) : Option Coercion :=
  if f.isDateTime then some (.toTimeZone r.timezone)
  else (r.read? f).bind fun read => Coercion.ofKind? read.2

def coerce (r : Rules) (f : Field) : Expr :=
  match r.coercion? f with
  | some c => c.wrap f
  | none => .field f

/-- The field of a node that already is what the rules make of it. -/
def coerced? (r : Rules) (e : Expr) : Option Field :=
  match Coercion.shape? e with
  | some (c, f) => if r.coercion? f = some c then some f else none
  | none => none

def isCoerced (r : Rules) (e : Expr) : Bool := (r.coerced? e).isSome

end Rules

namespace Notice

/-- A property read is called by the last name of its chain. -/
def label (f : Field) (name : String) : String := f.last?.getD name

/-- The stretch of the text that ends with the label as it is printed, but never
before the field itself. -/
def range (span : Option Span) (label : String) : Option Nat × Option Nat :=
  match span with
  | some s => (some (max s.start (s.stop - (Identifier.render label).utf8ByteSize)), some s.stop)
  | none => (none, none)

def ofRead (f : Field) (name : String) (kind : Kind) : Notice :=
  let label := label f name
  let (start, stop) := range f.span label
  ⟨start, stop, "Property '" ++ label ++ "' is of type '" ++ kind.label ++ "'"⟩

end Notice

structure Journal where
  log : Option (List Notice)
  dropped : Nat
  events : List Event

namespace Journal

def start (log : Option (List Notice)) : Journal := ⟨log, 0, []⟩

def notify (notice : Notice) (j : Journal) : Journal :=
  match j.log with
  | some log => { j with log := some (log ++ [notice]) }
  | none => { j with dropped := j.dropped + 1 }

def emit (event : Event) (j : Journal) : Journal := { j with events := j.events ++ [event] }

/-- Tells at the end how many notices were lost, if any. -/
def finish (j : Journal) : Journal :=
  if 0 < j.dropped then j.emit (.noticesDropped j.dropped) else j

end Journal

namespace Rules

/-- What coercing one field leaves in the journal. -/
def note (r : Rules) (f : Field) (j : Journal) : Journal :=
  match f.binding with
  | some (.column c) => if c.isDateTime then j.emit (.converting c.name r.timezone) else j
  | _ =>
    match r.read? f with
    | some (name, kind) =>
      (j.notify (.ofRead f name kind)).emit (.coercing (Notice.label f name) kind)
    | none => j

def apply (r : Rules) : Expr → Journal → Expr × Journal :=
  Expr.copyBy ⟨r.isCoerced, fun f j => (r.coerce f, r.note f j)⟩

/-- A coerced tree with the log and the events it left. -/
structure Run where
  tree : Expr
  log : Option (List Notice)
  events : List Event

def run (r : Rules) (log : Option (List Notice)) (e : Expr) : Run :=
  let done := r.apply e (.start log)
  ⟨done.1, done.2.log, done.2.finish.events⟩

end Rules

/-- One run after another over the same tree and log, each in a timezone of its own. -/
def Typing.runs (t : Typing) : Option (List Notice) → Expr → List String → List Rules.Run
  | _, _, [] => []
  | log, e, timezone :: rest =>
    let run := Rules.run ⟨timezone, t⟩ log e
    run :: t.runs run.log run.tree rest

inductive Outcome where
  | unchanged
  | coerced (tree : Expr)

/-- The tree after the pass, given the one before. -/
def Outcome.tree (o : Outcome) (before : Expr) : Expr :=
  match o with
  | .unchanged => before
  | .coerced tree => tree

structure Pass (σ : Type) where
  result : Except CatalogError Outcome
  context : Option Context
  catalog : σ
  events : List Event

namespace Pass

variable {σ : Type}

def defaultTimezone : String := "UTC"

def timezone (context : Option Context) : String :=
  (context.bind Context.timezone?).getD defaultTimezone

def withLog (context : Option Context) (log : Option (List Notice)) : Option Context :=
  match context, log with
  | some c, some log => some { c with notices := log }
  | context, _ => context

def run (c : Catalog σ) (context : Option Context) (e : Expr) (state : σ) : Pass σ :=
  let reads := Reads.ofExpr e
  match Typing.fetch c reads (context.bind Context.team) state with
  | ⟨.error err, state, events⟩ => ⟨.error err, context, state, events⟩
  | ⟨.ok typing, state, events⟩ =>
    if typing.isIdle reads.timestamps then ⟨.ok .unchanged, context, state, events ++ [.nothingToDo]⟩
    else
      let rules : Rules := ⟨timezone context, typing⟩
      let run := rules.run (context.map Context.notices) e
      let started :=
        .started typing.event.size typing.person.size reads.timestamps rules.timezone
      ⟨.ok (.coerced run.tree), withLog context run.log, state, events ++ started :: run.events⟩

end Pass

end QueryCoercion
