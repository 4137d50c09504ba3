import QueryCoercion.Catalog
import QueryCoercion.Proofs.Passes
import QueryCoercion.Proofs.Policy

namespace QueryCoercion

/-- Whether the read has no conversion. -/
def Report.isPlain (x : Report) : Bool := x.kind = .string ∨ x.kind = .unknown

namespace Rules

def Extends (r r' : Rules) : Prop :=
  ∀ f c, r.coercion? f = some c → r'.coercion? f = some c

theorem Extends.refl (r : Rules) : r.Extends r := fun _ _ given => given

variable {r r' : Rules}

theorem Extends.isCoerced (more : r.Extends r') {e : Expr} (done : r.isCoerced e = true) :
    r'.isCoerced e = true := by
  obtain ⟨c, f, around, given⟩ := isCoerced_iff.mp done
  exact isCoerced_iff.mpr ⟨c, f, around, more f c given⟩

/-- Where other rules ask for another coercion of the same field, a node is not done. -/
theorem Extends.isCoerced_of_other (more : r.Extends r') {e : Expr}
    (other : ∀ c f, Coercion.Around c f e → ∃ d, r.coercion? f = some d ∧ d ≠ c) :
    r'.isCoerced e = false := by
  rw [Bool.eq_false_iff, ne_eq, isCoerced_iff]
  rintro ⟨c, f, around, given⟩
  obtain ⟨d, asked, apart⟩ := other c f around
  rw [more f d asked] at given
  exact apart (Option.some.inj given)

theorem rewrite_rewrite (more : r.Extends r') (e : Expr) :
    r'.rewrite (r.rewrite e) = r'.rewrite e := by
  induction e using Expr.byNodes with
  | field f =>
    rw [rewrite_field, rewrite_field]
    cases given : r.coercion? f with
    | none => rw [coerce_of_none given, rewrite_field]
    | some c =>
      have asked := more f c given
      rw [coerce_of_some given, coerce_of_some asked, rewrite_coerced (isCoerced_wrap asked)]
  | node e inner ih =>
    rcases r.rewrite_cases inner with done | ⟨c, f, -, -, same⟩ | ⟨-, rebuilt, bare, other⟩
    · rw [rewrite_coerced done]
    · rw [same]
    · have inner' := Expr.inner_mapChildren r.rewrite inner
      rw [rebuilt, rewrite_node inner' (isCoerced_of_shapeless bare),
        rewrite_node inner (more.isCoerced_of_other other), Expr.mapChildren_mapChildren]
      exact Expr.mapChildren_congr ih

theorem exposed_rewrite (more : r.Extends r') (e : Expr) :
    r'.exposed (r.rewrite e) = (r'.exposed e).filter fun f => (r.coercion? f).isNone := by
  induction e using Expr.byNodes with
  | field f =>
    rw [rewrite_field, exposed_field]
    cases given : r.coercion? f with
    | none => simp [coerce_of_none given, given]
    | some c =>
      rw [coerce_of_some given, exposed_coerced (isCoerced_wrap (more f c given))]
      simp [given]
  | node e inner ih =>
    rcases r.rewrite_cases inner with done | ⟨c, f, around, given, same⟩ | ⟨-, rebuilt, bare, other⟩
    · rw [rewrite_coerced done, exposed_coerced (more.isCoerced done), List.filter_nil]
    · -- the only field of the node is left alone, whether it is exposed or not
      rw [same, eq_comm, List.filter_eq_self]
      intro g member
      have leaf := Expr.mem_leaves_of_outside member
      rw [around.leaves, List.mem_singleton] at leaf
      simp [leaf, given]
    · have inner' := Expr.inner_mapChildren r.rewrite inner
      rw [rebuilt, exposed_node inner' (isCoerced_of_shapeless bare),
        exposed_node inner (more.isCoerced_of_other other), Expr.children_mapChildren,
        List.flatMap_map, List.filter_flatMap]
      exact List.flatMap_congr ih

/-- Of what other rules report, only the reads that were left alone are still reported. -/
theorem reports_rewrite_of_extends (more : r.Extends r') (e : Expr) :
    r'.reports (r.rewrite e) = (r'.reports e).filter fun x => (r.coercion? x.field).isNone := by
  rw [reports, exposed_rewrite more, reports, List.filterMap_filter, List.filter_filterMap]
  congr 1
  funext f
  cases given : r'.read? f with
  | none => simp [report?, given]
  | some read => cases left : r.coercion? f <;> simp [report?, given, left, Option.filter]

theorem reports_rewrite (r : Rules) (e : Expr) :
    r.reports (r.rewrite e) = (r.reports e).filter Report.isPlain := by
  rw [reports_rewrite_of_extends (.refl r)]
  apply List.filter_congr
  intro x reported
  obtain ⟨f, -, known⟩ := List.mem_filterMap.mp reported
  obtain ⟨read, given, rfl⟩ := Option.map_eq_some_iff.mp known
  have coercion := coercion?_of_read given
  cases kind : read.2 <;> simp [coercion, kind, Coercion.ofKind?, Report.isPlain]

end Rules

/-- From states that lookups do not leave, a catalog gives every request one answer. -/
structure Catalog.Steady {σ : Type} (c : Catalog σ) (valid : σ → Prop)
    (answer : Request → Except CatalogError Answer) : Prop where
  answers : ∀ s, valid s → ∀ request, (c.lookup request s).1 = answer request
  keeps : ∀ s, valid s → ∀ request, valid (c.lookup request s).2

namespace Typing

variable {σ : Type} {c : Catalog σ} {valid : σ → Prop} {answer : Request → Except CatalogError Answer}

theorem fetchScope_steady (steady : c.Steady valid answer) (names : NameSet) (team : Int64)
    (scope : Scope) : ∃ result requests, ∀ s log, valid s → ∃ s' events, valid s' ∧
      fetchScope c.recorded names team scope (s, log) = ⟨result, (s', log ++ requests), events⟩ := by
  by_cases none : names.isEmpty = true
  · refine ⟨.ok .empty, [], ?_⟩
    intro s log start
    exact ⟨s, [], start, by simp [fetchScope, none]⟩
  · let request : Request := ⟨names, team, scope⟩
    refine ⟨(answer request).map NameMap.filled, [request], ?_⟩
    intro s log start
    have after := steady.keeps s start request
    have reply := steady.answers s start request
    simp only [fetchScope, if_neg none, Catalog.recorded]
    rw [reply]
    cases answer request with
    | error err => exact ⟨_, _, after, rfl⟩
    | ok found => exact ⟨_, _, after, rfl⟩

theorem fetch_steady (steady : c.Steady valid answer) (reads : Reads) (team : Option Int64) :
    ∃ result requests, ∀ s log, valid s → ∃ s' events, valid s' ∧
      fetch c.recorded reads team (s, log) = ⟨result, (s', log ++ requests), events⟩ := by
  cases team with
  | none =>
    refine ⟨.ok .empty, [], ?_⟩
    intro s log start
    exact ⟨s, _, start, by simp only [fetch, List.append_nil]; rfl⟩
  | some team =>
    obtain ⟨person, first, persons⟩ := fetchScope_steady steady reads.person team .person
    obtain ⟨event, second, events⟩ := fetchScope_steady steady reads.event team .event
    cases person with
    | error err =>
      refine ⟨.error err, first, ?_⟩
      intro s log start
      obtain ⟨s', told, after, fetched⟩ := persons s log start
      exact ⟨s', told, after, by simp only [fetch, fetchTeam, fetched]⟩
    | ok person =>
      refine ⟨event.map (⟨·, person⟩), first ++ second, ?_⟩
      intro s log start
      obtain ⟨s', told, middle, fetched⟩ := persons s log start
      obtain ⟨s'', more, after, finished⟩ := events s' (log ++ first) middle
      refine ⟨s'', told ++ more, after, ?_⟩
      cases event <;>
        simp only [fetch, fetchTeam, fetched, finished, Except.map, List.append_assoc]

end Typing

theorem Pass.timezone_notices (context : Option Context) (log : List Notice) :
    timezone (context.map fun x => { x with notices := log }) = timezone context := by
  cases context <;> rfl

/-- A pass that succeeded, followed by a pass over its tree with the same team and database
and any log. The second pass makes the same requests in the same order and leaves the
tree as it is. Of the notices of the first it adds, in their order, those about reads of
the kinds without a conversion. -/
theorem second_pass_changes_nothing {σ : Type} (c : Catalog σ) (valid : σ → Prop)
    (answer : Request → Except CatalogError Answer) (steady : c.Steady valid answer)
    (context : Option Context) (e : Expr) (state later : σ) (starts : valid state)
    (restarts : valid later) (log : List Notice) (outcome : Outcome)
    (succeeds : (Pass.run c.recorded context e (state, [])).result = .ok outcome) :
    let first := Pass.run c.recorded context e (state, [])
    let second := Pass.run c.recorded (context.map fun x => { x with notices := log })
      (outcome.tree e) (later, [])
    valid first.catalog.1 ∧ second.catalog.2 = first.catalog.2 ∧
    (∃ again, second.result = .ok again ∧ again.tree (outcome.tree e) = outcome.tree e) ∧
    ∃ typing,
      (Typing.fetch c.recorded (Reads.ofExpr e) (context.bind Context.team) (state, [])).result =
        .ok typing ∧
      first.context = context.map (fun x =>
        x.noting ((Rules.reports ⟨Pass.timezone context, typing⟩ e).map Report.notice)) ∧
      second.context = context.map fun x => { x with
        notices := log ++ ((Rules.reports ⟨Pass.timezone context, typing⟩ e).filter
          Report.isPlain).map Report.notice } := by
  intro first second
  obtain ⟨typing, known, tree⟩ := Pass.fetched_of_run succeeds
  obtain ⟨-, logged, catalog⟩ := Pass.run_of_fetched known
  obtain ⟨result, requests, fetches⟩ :=
    Typing.fetch_steady steady (Reads.ofExpr e) (context.bind Context.team)
  obtain ⟨_, _, after, fetched⟩ := fetches state [] starts
  obtain ⟨_, _, -, refetched⟩ := fetches later [] restarts
  have ok : result = .ok typing := by rw [← known, fetched]
  -- the second pass asks for what the first one asked for
  have reads : Reads.ofExpr (outcome.tree e) = Reads.ofExpr e := by rw [tree, Rules.reads_rewrite]
  have team : (context.map fun x => { x with notices := log }).bind Context.team =
      context.bind Context.team := by cases context <;> rfl
  rw [← reads, ← team, ok] at refetched
  obtain ⟨⟨again, redone, retree⟩, relogged, recatalog⟩ :=
    Pass.run_of_fetched (congrArg Fetched.result refetched)
  rw [Pass.timezone_notices] at retree relogged
  rw [fetched] at catalog
  rw [refetched] at recatalog
  refine ⟨?_, ?_, ⟨again, redone, ?_⟩, typing, known, logged, ?_⟩
  · simpa only [first, catalog] using after
  · simp only [first, second, catalog, recatalog]
  · rw [retree, tree, Rules.rewrite_rewrite (.refl _)]
  · refine relogged.trans ?_
    rw [Option.map_map, tree, Rules.reports_rewrite]
    rfl

theorem Store.steady (rows : List Definition) :
    catalog.Steady (fun s => s.rows = rows) fun request => .ok (find ⟨rows, 0⟩ request) where
  answers := by
    rintro s rfl request
    rfl
  keeps := by
    rintro s rfl request
    rfl

namespace Sample

def profiles : Store :=
  ⟨[⟨7, "age", some .person, some .numeric⟩, ⟨7, "country", none, some .string⟩], 0⟩

def profile : Expr :=
  .group .tuple [.field (read persons "properties" "age"),
    .field (read events "properties" "country"), .field timestamp]

end Sample

theorem second_pass_over_profile :
    let ran := fun e => Pass.run Store.catalog.recorded (some ⟨some 7, none, []⟩) e
      (Sample.profiles, [])
    ∃ outcome again, (ran Sample.profile).result = .ok outcome ∧
      (ran (outcome.tree Sample.profile)).result = .ok again ∧
      again.tree (outcome.tree Sample.profile) = outcome.tree Sample.profile ∧
      (ran (outcome.tree Sample.profile)).catalog.2 = (ran Sample.profile).catalog.2 := by
  intro ran
  have first : ∃ outcome, (ran Sample.profile).result = .ok outcome := ⟨_, rfl⟩
  obtain ⟨outcome, succeeds⟩ := first
  obtain ⟨-, requests, ⟨again, result, tree⟩, -⟩ :=
    second_pass_changes_nothing Store.catalog _ _ (Store.steady Sample.profiles.rows)
      (some ⟨some 7, none, []⟩) Sample.profile Sample.profiles Sample.profiles rfl rfl [] outcome
      succeeds
  exact ⟨outcome, again, succeeds, result, tree, requests⟩

end QueryCoercion
