import QueryCoercion.Coercion.Pass
import QueryCoercion.Proofs.Collected
import QueryCoercion.Proofs.Rewrite

namespace QueryCoercion

theorem NameMap.get?_of_isEmpty {β : Type} {m : NameMap β} (blank : m.isEmpty = true)
    (name : String) : m.get? name = none := by
  rw [get?, List.isEmpty_iff.mp blank, findEntry]

theorem Typing.get?_of_isEmpty {t : Typing} (blank : t.isEmpty = true) (scope : Scope)
    (name : String) : t.get? scope name = none := by
  rw [isEmpty, Bool.and_eq_true] at blank
  cases scope with
  | event => exact NameMap.get?_of_isEmpty blank.1 name
  | person => exact NameMap.get?_of_isEmpty blank.2 name

namespace Rules

theorem read?_of_isEmpty {r : Rules} (blank : r.typing.isEmpty = true) (f : Field) :
    r.read? f = none := by
  unfold read?
  split
  · split
    · rw [Typing.get?_of_isEmpty blank, Option.map_none]
    · rfl
  · rfl

theorem reports_of_isEmpty {r : Rules} (blank : r.typing.isEmpty = true) (e : Expr) :
    r.reports e = [] := by
  rw [reports, List.filterMap_eq_nil_iff]
  intro f _
  rw [report?, read?_of_isEmpty blank, Option.map_none]

theorem silent_of_isIdle {r : Rules} {e : Expr}
    (idle : r.typing.isIdle (Reads.ofExpr e).timestamps = true) {f : Field} (leaf : f ∈ e.leaves) :
    f.isDateTime = false ∧ r.read? f = none := by
  rw [Typing.isIdle, Bool.and_eq_true, Bool.not_eq_true', Reads.timestamps_ofExpr] at idle
  obtain ⟨blank, undated⟩ := idle
  exact ⟨by simpa using List.any_eq_false.mp undated f leaf, read?_of_isEmpty blank f⟩

theorem rewrite_of_isIdle {r : Rules} {e : Expr}
    (idle : r.typing.isIdle (Reads.ofExpr e).timestamps = true) :
    r.rewrite e = e ∧ r.reports e = [] := by
  constructor
  · apply Expr.walk_eq_self
    intro f leaf
    obtain ⟨plain, unread⟩ := silent_of_isIdle idle leaf
    apply coerce_of_none
    simp [coercion?, plain, unread]
  · rw [Typing.isIdle, Bool.and_eq_true] at idle
    exact reports_of_isEmpty idle.1 e

/-- How a pass ends that coerces by these rules. -/
def outcome (r : Rules) (e : Expr) : Outcome :=
  if r.typing.isIdle (Reads.ofExpr e).timestamps then .unchanged else .coerced (r.rewrite e)

theorem outcome_eq_unchanged_iff {r : Rules} {e : Expr} : r.outcome e = .unchanged ↔
    r.typing.isIdle (Reads.ofExpr e).timestamps = true := by
  unfold outcome
  split <;> simp_all

theorem outcome_eq_coerced_iff {r : Rules} {e tree : Expr} : r.outcome e = .coerced tree ↔
    r.typing.isIdle (Reads.ofExpr e).timestamps = false ∧ r.rewrite e = tree := by
  unfold outcome
  split <;> simp_all

theorem tree_outcome (r : Rules) (e : Expr) : (r.outcome e).tree e = r.rewrite e := by
  unfold outcome
  split
  · rename_i idle
    exact (rewrite_of_isIdle idle).1.symm
  · rfl

end Rules

/-- The context with more notices at the end of its log. -/
def Context.noting (c : Context) (added : List Notice) : Context :=
  { c with notices := c.notices ++ added }

@[simp] theorem Context.noting_nil (c : Context) : c.noting [] = c := by
  simp [noting]

@[simp] theorem Context.noting_noting (c : Context) (added more : List Notice) :
    (c.noting added).noting more = c.noting (added ++ more) := by
  simp [noting]

namespace Pass

variable {σ : Type}

theorem withLog_map (context : Option Context) (added : List Notice) :
    withLog context ((context.map Context.notices).map (· ++ added)) =
      context.map fun c => c.noting added := by
  cases context <;> rfl

theorem result_of_fetched {c : Catalog σ} {context : Option Context} {e : Expr} {state : σ}
    {typing : Typing}
    (fetched : (Typing.fetch c (Reads.ofExpr e) (context.bind Context.team) state).result =
      .ok typing) :
    (run c context e state).result = .ok (Rules.outcome ⟨timezone context, typing⟩ e) := by
  unfold run Rules.outcome
  dsimp only
  generalize Typing.fetch c (Reads.ofExpr e) (context.bind Context.team) state = done at *
  obtain ⟨result, after, events⟩ := done
  cases fetched
  dsimp only
  split
  · rfl
  · rw [Rules.run_tree]

theorem catalog_of_run (c : Catalog σ) (context : Option Context) (e : Expr) (state : σ) :
    (run c context e state).catalog =
      (Typing.fetch c (Reads.ofExpr e) (context.bind Context.team) state).catalog := by
  unfold run
  dsimp only
  rcases Typing.fetch c (Reads.ofExpr e) (context.bind Context.team) state with
    ⟨err | typing, after, events⟩
  · rfl
  · dsimp only
    split <;> rfl

/-- The whole of a pass whose kinds could be fetched. -/
theorem run_of_fetched {c : Catalog σ} {context : Option Context} {e : Expr} {state : σ}
    {typing : Typing}
    (fetched : (Typing.fetch c (Reads.ofExpr e) (context.bind Context.team) state).result =
      .ok typing) :
    (∃ outcome, (run c context e state).result = .ok outcome ∧
      outcome.tree e = Rules.rewrite ⟨timezone context, typing⟩ e) ∧
    (run c context e state).context = context.map (fun x =>
      x.noting ((Rules.reports ⟨timezone context, typing⟩ e).map Report.notice)) ∧
    (run c context e state).catalog =
      (Typing.fetch c (Reads.ofExpr e) (context.bind Context.team) state).catalog := by
  refine ⟨⟨_, result_of_fetched fetched, Rules.tree_outcome _ e⟩, ?_,
    catalog_of_run c context e state⟩
  unfold run
  dsimp only
  generalize Typing.fetch c (Reads.ofExpr e) (context.bind Context.team) state = done at *
  obtain ⟨result, after, events⟩ := done
  cases fetched
  dsimp only
  split
  · rename_i idle
    rw [(Rules.rewrite_of_isIdle (r := ⟨timezone context, typing⟩) idle).2]
    simp
  · rw [Rules.run_log, withLog_map]

theorem run_of_failed {c : Catalog σ} {context : Option Context} {e : Expr} {state : σ}
    {err : CatalogError}
    (failed : (Typing.fetch c (Reads.ofExpr e) (context.bind Context.team) state).result =
      .error err) :
    (run c context e state).result = .error err ∧ (run c context e state).context = context := by
  unfold run
  dsimp only
  generalize Typing.fetch c (Reads.ofExpr e) (context.bind Context.team) state = done at *
  obtain ⟨result, after, events⟩ := done
  cases failed
  exact ⟨rfl, rfl⟩

theorem result_eq_error_iff {c : Catalog σ} {context : Option Context} {e : Expr} {state : σ}
    {err : CatalogError} : (run c context e state).result = .error err ↔
      (Typing.fetch c (Reads.ofExpr e) (context.bind Context.team) state).result = .error err := by
  cases fetched : (Typing.fetch c (Reads.ofExpr e) (context.bind Context.team) state).result with
  | error other => rw [(run_of_failed fetched).1, Except.error.injEq, Except.error.injEq]
  | ok typing =>
    rw [result_of_fetched fetched]
    constructor <;> intro impossible <;> cases impossible

theorem context_of_run (c : Catalog σ) (context : Context) (e : Expr) (state : σ) :
    ∃ added, (run c (some context) e state).context = some (context.noting added) := by
  cases fetched :
      (Typing.fetch c (Reads.ofExpr e) ((some context).bind Context.team) state).result with
  | error err =>
    refine ⟨[], ?_⟩
    rw [(run_of_failed fetched).2, Context.noting_nil]
  | ok typing => exact ⟨_, (run_of_fetched fetched).2.1⟩

theorem fetched_of_run {c : Catalog σ} {context : Option Context} {e : Expr} {state : σ}
    {outcome : Outcome} (succeeds : (run c context e state).result = .ok outcome) :
    ∃ typing,
      (Typing.fetch c (Reads.ofExpr e) (context.bind Context.team) state).result = .ok typing ∧
      outcome.tree e = Rules.rewrite ⟨timezone context, typing⟩ e := by
  cases fetched : (Typing.fetch c (Reads.ofExpr e) (context.bind Context.team) state).result with
  | error err =>
    rw [(run_of_failed fetched).1] at succeeds
    cases succeeds
  | ok typing =>
    obtain ⟨⟨_, done, tree⟩, -, -⟩ := run_of_fetched fetched
    cases succeeds.symm.trans done
    exact ⟨typing, rfl, tree⟩

theorem context_of_failed {c : Catalog σ} {context : Option Context} {e : Expr} {state : σ}
    {err : CatalogError} (fails : (run c context e state).result = .error err) :
    (run c context e state).context = context :=
  (run_of_failed (result_eq_error_iff.mp fails)).2

end Pass

/- Fields of the event store, for statements about particular trees. -/
namespace Sample

def events : Source :=
  .base (.ofColumns "events" [("uuid", .string), ("event", .string), ("timestamp", .dateTime),
    ("properties", .stringJson), ("person_properties", .stringJson)])

def persons : Source :=
  .base (.ofColumns "persons"
    [("id", .string), ("created_at", .dateTime), ("properties", .stringJson)])

def timestamp : Field := ⟨["timestamp"], some (.column ⟨"timestamp", events⟩), none⟩

/-- A read of one property through a column. -/
def read (source : Source) (column name : String) : Field :=
  ⟨[column, name], some (.property ⟨[name], column, source⟩), none⟩

end Sample

end QueryCoercion
