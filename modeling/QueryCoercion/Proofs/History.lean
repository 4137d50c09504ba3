import Mathlib.Algebra.Ring.Nat
import QueryCoercion.Proofs.Idle
import QueryCoercion.Proofs.Loading
import QueryCoercion.Proofs.Lookups
import QueryCoercion.Session

/-!
The history of a catalog in memory that passes share in one context. Every action works on
its own part of the session: rows only come from insertions and from loads that are
accepted, lookups are only counted by passes, and notices are only added at the end of
the log.
-/
namespace QueryCoercion

inductive Action where
  | insert (row : Definition)
  | define (team : Int64) (name : String) (scope : Option Scope) (kind : Kind)
  | load (rows : Json)
  | resolve (tree : Expr)

namespace Action

/-- The rows that an action brings. A load brings none if one of its rows cannot be read. -/
def rows : Action → List Definition
  | .insert row => [row]
  | .define team name scope kind => [⟨team, name, scope, some kind⟩]
  | .load rows => (Json.asList rows >>= Definition.listOf).toOption.getD []
  | .resolve _ => []

/-- A load brings the rows that its JSON was written from. -/
theorem rows_load_map_toJson (rows : List Definition) :
    (load (.array (rows.map Definition.toJson))).rows = rows := by
  have read : Json.asList (.array (rows.map Definition.toJson)) >>= Definition.listOf = .ok rows :=
    Definition.listOf_map_toJson rows
  rw [Action.rows, read]
  rfl

/-- How many lookups an action takes: a pass with a team one for each scope in which the tree
reads a name. -/
def lookups (team : Option Int64) : Action → Nat
  | .resolve tree =>
    if team.isSome then
      [Scope.person, .event].countP fun scope => !((Reads.ofExpr tree).names scope).isEmpty
    else 0
  | _ => 0

def isResolve : Action → Bool
  | .resolve _ => true
  | _ => false

end Action

theorem Reads.length_requests (r : Reads) (team : Int64) : (r.requests team).length =
    [Scope.person, .event].countP fun scope => !(r.names scope).isEmpty := by
  have one (scope : Scope) : (r.requestsIn team scope).length =
      [scope].countP fun scope => !(r.names scope).isEmpty := by
    unfold requestsIn
    split <;> simp_all
  rw [requests, List.length_append, one, one, ← List.countP_append]
  rfl

theorem Pass.store_of_run (s : Store) (context : Context) (e : Expr) :
    (run Store.catalog.recorded (some context) e (s, [])).catalog.1 =
      ⟨s.rows, s.lookups + (Action.resolve e).lookups context.team⟩ := by
  cases given : (some context).bind Context.team with
  | none =>
    have teamless : context.team = none := given
    rw [(run_teamless Store.catalog.recorded given e (s, [])).2.2, teamless]
    rfl
  | some team =>
    rw [(run_ask Store.catalog.recorded given e (s, [])).1, Catalog.ask_recorded,
      (Store.ask_catalog _ s).2, Reads.length_requests, show context.team = some team from given]
    rfl

namespace Session

/-- All lookups are answered from memory. -/
def unscripted : Script := fun _ => none

/-- Takes an action by steps of the session. -/
def act (s : Session) : Action → Stepped
  | .insert row => s.step unscripted (.insert row)
  | .define team name scope kind => s.step unscripted (.define team name scope kind)
  | .load rows => s.step unscripted (.load rows)
  | .resolve tree => (s.step unscripted (.setTree tree)).session.step unscripted .resolve

def after (s : Session) (actions : List Action) : Session :=
  actions.foldl (fun s action => (s.act action).session) s

def log (s : Session) : List Notice := (s.context.map Context.notices).getD []

theorem catalog_unscripted : catalog unscripted = Store.catalog := rfl

theorem act_resolve (s : Session) (tree : Expr) :
    let pass := Pass.run Store.catalog.recorded s.context tree (s.store, [])
    (s.act (.resolve tree)).session.store = pass.catalog.1 ∧
    (s.act (.resolve tree)).session.context = pass.context ∧
    ∀ outcome before requests,
      (s.act (.resolve tree)).reply = .ok (.resolved outcome before requests) →
        pass.result = .ok outcome := by
  have acted : s.act (.resolve tree) = resolve unscripted { s with tree := tree } := rfl
  rw [acted, resolve, catalog_unscripted]
  dsimp only
  generalize Pass.run Store.catalog.recorded s.context tree (s.store, []) = pass
  obtain ⟨result, context, ⟨store, requests⟩, events⟩ := pass
  cases result with
  | error err => simp
  | ok outcome => simp

theorem act_load_of_read (s : Session) {json : Json} {rows : List Definition}
    (read : Json.asList json >>= Definition.listOf = .ok rows) : s.act (.load json) =
      ⟨{ s with store := ⟨s.store.rows ++ rows, s.store.lookups⟩ },
        .ok (.loaded rows.length), []⟩ := by
  simp only [act, step, load, Store.load, read]

theorem act_load_of_refused (s : Session) {json : Json} {cause : DecodeError}
    (refused : Json.asList json >>= Definition.listOf = .error cause) :
    s.act (.load json) = ⟨s, .error (.catalog (.invalidDefinitions cause)), []⟩ := by
  simp only [act, step, load, Store.load, refused]

/-- Every action brings its rows, takes its lookups, and at most adds to the log. -/
theorem act_spec {s : Session} {context : Context} (inside : s.context = some context)
    (action : Action) :
    (s.act action).session.store =
      ⟨s.store.rows ++ action.rows, s.store.lookups + action.lookups context.team⟩ ∧
    ∃ added, (s.act action).session.context = some (context.noting added) := by
  have still : ∃ added, s.context = some (context.noting added) :=
    ⟨[], by rw [inside, Context.noting_nil]⟩
  cases action with
  | insert row => exact ⟨rfl, still⟩
  | define team name scope kind => exact ⟨rfl, still⟩
  | load json =>
    cases read : Json.asList json >>= Definition.listOf with
    | ok rows =>
      have brought : (Action.load json).rows = rows := by rw [Action.rows, read]; rfl
      rw [s.act_load_of_read read, brought]
      exact ⟨rfl, still⟩
    | error cause =>
      have brought : (Action.load json).rows = [] := by rw [Action.rows, read]; rfl
      rw [s.act_load_of_refused read, brought, List.append_nil]
      exact ⟨rfl, still⟩
  | resolve tree =>
    obtain ⟨store, after, -⟩ := s.act_resolve tree
    rw [inside] at store after
    rw [store, after, Pass.store_of_run, Action.rows, List.append_nil]
    exact ⟨rfl, Pass.context_of_run _ _ _ _⟩

theorem after_spec {s : Session} {context : Context} (inside : s.context = some context)
    (actions : List Action) :
    (s.after actions).store = ⟨s.store.rows ++ actions.flatMap Action.rows,
      s.store.lookups + (actions.map (Action.lookups context.team)).sum⟩ ∧
    ∃ added, (s.after actions).context = some (context.noting added) := by
  induction actions generalizing s context with
  | nil => exact ⟨by simp [after], [], by rw [Context.noting_nil]; exact inside⟩
  | cons action rest ih =>
    -- noting leaves the team, so the rest of the lookups is counted for the same one
    obtain ⟨store, added, context'⟩ := act_spec inside action
    obtain ⟨stores, more, contexts⟩ := ih context'
    rw [store] at stores
    refine ⟨?_, added ++ more, ?_⟩
    · rw [List.flatMap_cons, List.map_cons, List.sum_cons, ← List.append_assoc, ← Nat.add_assoc]
      exact stores
    · rw [← Context.noting_noting]
      exact contexts

theorem act_unchanged {s : Session} {tree before : Expr} {requests : List Request}
    (unchanged : (s.act (.resolve tree)).reply = .ok (.resolved .unchanged before requests)) :
    (s.act (.resolve tree)).session.context = s.context := by
  obtain ⟨-, after, replied⟩ := s.act_resolve tree
  rw [after]
  exact Pass.context_of_unchanged (replied _ _ _ unchanged)

end Session

theorem Action.sum_lookups_le (team : Option Int64) (actions : List Action) :
    (actions.map (lookups team)).sum ≤ 2 * actions.countP isResolve := by
  induction actions with
  | nil => simp
  | cons action rest ih =>
    have here : action.lookups team ≤ 2 * [action].countP isResolve := by
      cases action with
      | resolve tree =>
        rw [lookups]
        split
        · exact List.countP_le_length
        · exact Nat.zero_le _
      | _ => exact Nat.zero_le _
    rw [List.map_cons, List.sum_cons, ← List.singleton_append, List.countP_append]
    omega

/-- What a catalog in memory, the passes over it and their context have come to after any
actions. Its rows are those that were inserted or defined and those of the loads that were
accepted, in their order; a load that is refused leaves everything as it was. It was looked
up once for each scope in which a tree with a pass reads a name, if the context has a team,
and so at most twice for a pass. The context keeps its team and database, its log is the
beginning of every later one, and a pass that leaves its tree alone adds nothing. -/
theorem history_of_shared_catalog (team : Option Int64) (database : Option Database)
    (actions : List Action) :
    let opened : Session := { Session.start with context := some ⟨team, database, []⟩ }
    let now := opened.after actions
    now.store.rows = actions.flatMap Action.rows ∧
    (∀ json rows, Json.asList json >>= Definition.listOf = .ok rows →
      (now.act (.load json)).reply = .ok (.loaded rows.length)) ∧
    (∀ json cause, Json.asList json >>= Definition.listOf = .error cause →
      now.act (.load json) = ⟨now, .error (.catalog (.invalidDefinitions cause)), []⟩) ∧
    now.store.lookups = (actions.map (Action.lookups team)).sum ∧
    now.store.lookups ≤ 2 * actions.countP Action.isResolve ∧
    now.context = some ⟨team, database, now.log⟩ ∧
    (∀ more, now.log <+: (opened.after (actions ++ more)).log) ∧
    ∀ tree before requests,
      (now.act (.resolve tree)).reply = .ok (.resolved .unchanged before requests) →
        (now.act (.resolve tree)).session.log = now.log := by
  intro opened now
  obtain ⟨store, added, inside⟩ := Session.after_spec (s := opened) rfl actions
  have rows : now.store.rows = actions.flatMap Action.rows := by
    rw [store]
    exact List.nil_append _
  have lookups : now.store.lookups = (actions.map (Action.lookups team)).sum := by
    rw [store]
    exact Nat.zero_add _
  have bounded : now.store.lookups ≤ 2 * actions.countP Action.isResolve :=
    Nat.le_trans (Nat.le_of_eq lookups) (Action.sum_lookups_le team actions)
  refine ⟨rows, ?_, ?_, lookups, bounded, ?_, ?_, ?_⟩
  · intro json rows read
    rw [now.act_load_of_read read]
  · intro json cause refused
    exact now.act_load_of_refused refused
  · simp only [Session.log, now, inside]
    rfl
  · intro more
    have later : opened.after (actions ++ more) = now.after more := List.foldl_append
    obtain ⟨-, noted, further⟩ := Session.after_spec inside more
    rw [later, Session.log, Session.log, inside, further]
    exact List.prefix_append _ _
  · intro tree before requests unchanged
    rw [Session.log, Session.act_unchanged unchanged, Session.log]

namespace Sample

/-- Two rows, a load that is refused and one that is not, and a pass. -/
def morning : List Action :=
  [.define 7 "age" (some .person) .numeric, .insert ⟨7, "country", none, some .string⟩,
    .load (.object []), .load (.array [signup.toJson]), .resolve visit]

end Sample

theorem history_of_morning :
    let opened : Session := { Session.start with context := some ⟨some 7, none, []⟩ }
    let now := opened.after Sample.morning
    let idle := now.act (.resolve (.constant .null none))
    now.store.rows = [⟨7, "age", some .person, some .numeric⟩,
      ⟨7, "country", none, some .string⟩, Sample.signup] ∧
    now.store.lookups = 2 ∧
    (now.act (.load (.array [Sample.signup.toJson]))).reply = .ok (.loaded 1) ∧
    now.act (.load .null) =
      ⟨now, .error (.catalog (.invalidDefinitions (.wrongType .null .sequence))), []⟩ ∧
    idle.reply = .ok (.resolved .unchanged (.constant .null none) []) ∧
    idle.session.log = now.log := by
  intro opened now idle
  obtain ⟨rows, accepted, refused, lookups, -, -, -, silent⟩ :=
    history_of_shared_catalog (some 7) none Sample.morning
  have brought : (Action.load (.array [Sample.signup.toJson])).rows = [Sample.signup] :=
    Action.rows_load_map_toJson [Sample.signup]
  have read : Json.asList (.array [Sample.signup.toJson]) >>= Definition.listOf =
      .ok [Sample.signup] := Definition.listOf_map_toJson [Sample.signup]
  have all : Sample.morning.flatMap Action.rows = [⟨7, "age", some .person, some .numeric⟩,
      ⟨7, "country", none, some .string⟩, Sample.signup] := by
    simp only [Sample.morning, List.flatMap_cons, brought]
    rfl
  have loaded := accepted (.array [Sample.signup.toJson]) [Sample.signup] read
  have unread := refused .null (.wrongType .null .sequence) rfl
  have unchanged : idle.reply = .ok (.resolved .unchanged (.constant .null none) []) := rfl
  exact ⟨rows.trans all, lookups, loaded, unread, unchanged, silent _ _ _ unchanged⟩

end QueryCoercion
