import QueryCoercion.Catalog
import QueryCoercion.Coercion.Pass

namespace QueryCoercion

/-- One catalog in memory, at most one context, and a tree that passes run over. -/
structure Session where
  store : Store
  context : Option Context
  tree : Expr

inductive Step where
  | insert (row : Definition)
  | define (team : Int64) (name : String) (scope : Option Scope) (kind : Kind)
  | load (rows : Json)
  | lookup (request : Request)
  | enter (context : Option Context)
  | setTeam (team : Option Int64)
  | setDatabase (database : Option Database)
  | timezone
  | push (notice : Notice)
  | notices
  | drain
  | setTree (tree : Expr)
  | resolve

inductive Reply where
  | done
  | loaded (count : Nat)
  | found (answer : Answer)
  | timezone (name : Option String)
  | notices (log : List Notice)
  | drained (log : List Notice)
  | resolved (outcome : Outcome) (before : Expr) (requests : List Request)

inductive StepError where
  | noContext
  | catalog (cause : CatalogError)

structure Stepped where
  session : Session
  reply : Except StepError Reply
  events : List Event := []

namespace Session

def start : Session := ⟨.empty, none, .group .tuple []⟩

abbrev Script := Scope → Option Catalog.Reply

def catalog (script : Script) : Catalog Store := Store.catalog.scripted script

/-- Works on the context, if there is one. -/
def inContext (s : Session) (act : Context → Context × Reply) : Stepped :=
  match s.context with
  | some c => ⟨{ s with context := some (act c).1 }, .ok (act c).2, []⟩
  | none => ⟨s, .error .noContext, []⟩

def load (s : Session) (rows : Json) : Stepped :=
  match s.store.load rows with
  | (.ok count, store) => ⟨{ s with store := store }, .ok (.loaded count), []⟩
  | (.error cause, store) => ⟨{ s with store := store }, .error (.catalog cause), []⟩

def lookup (script : Script) (s : Session) (request : Request) : Stepped :=
  match (catalog script).lookup request s.store with
  | (.ok answer, store) => ⟨{ s with store := store }, .ok (.found answer), []⟩
  | (.error cause, store) => ⟨{ s with store := store }, .error (.catalog cause), []⟩

def resolve (script : Script) (s : Session) : Stepped :=
  let pass := Pass.run (catalog script).recorded s.context s.tree (s.store, [])
  let (store, requests) := pass.catalog
  match pass.result with
  | .ok outcome =>
    ⟨⟨store, pass.context, outcome.tree s.tree⟩, .ok (.resolved outcome s.tree requests), pass.events⟩
  | .error cause => ⟨⟨store, pass.context, s.tree⟩, .error (.catalog cause), pass.events⟩

def step (script : Script) (s : Session) : Step → Stepped
  | .insert row => ⟨{ s with store := s.store.insert row }, .ok .done, []⟩
  | .define team name scope kind =>
    ⟨{ s with store := s.store.define team name scope kind }, .ok .done, []⟩
  | .load rows => s.load rows
  | .lookup request => s.lookup script request
  | .enter context => ⟨{ s with context := context }, .ok .done, []⟩
  | .setTeam team => s.inContext fun c => ({ c with team := team }, .done)
  | .setDatabase database => s.inContext fun c => ({ c with database := database }, .done)
  | .timezone => s.inContext fun c => (c, .timezone c.timezone?)
  | .push notice => s.inContext fun c => (c.push notice, .done)
  | .notices => s.inContext fun c => (c, .notices c.notices)
  | .drain => s.inContext fun c => ({ c with notices := [] }, .drained c.notices)
  | .setTree tree => ⟨{ s with tree := tree }, .ok .done, []⟩
  | .resolve => s.resolve script

end Session

end QueryCoercion
