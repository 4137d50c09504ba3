import QueryCoercion.Catalog
import QueryCoercion.Proofs.Passes

namespace QueryCoercion

/-- A lookup that was made, and what came back. -/
structure Exchange where
  request : Request
  reply : Except CatalogError Answer

namespace Catalog

variable {σ : Type}

/-- Asks for one request after another up to the first failure. -/
def ask (c : Catalog σ) : List Request → σ → List Exchange × σ
  | [], s => ([], s)
  | request :: rest, s =>
    match c.lookup request s with
    | (.error err, s) => ([⟨request, .error err⟩], s)
    | (.ok found, s) => (⟨request, .ok found⟩ :: (c.ask rest s).1, (c.ask rest s).2)

variable {c : Catalog σ} {request : Request} {s after : σ}

theorem ask_of_failed {err : CatalogError} (looked : c.lookup request s = (.error err, after))
    (rest : List Request) : c.ask (request :: rest) s = ([⟨request, .error err⟩], after) := by
  rw [ask, looked]

theorem ask_of_answered {found : Answer} (looked : c.lookup request s = (.ok found, after))
    (rest : List Request) : c.ask (request :: rest) s =
      (⟨request, .ok found⟩ :: (c.ask rest after).1, (c.ask rest after).2) := by
  rw [ask, looked]

theorem ask_append_of_failed {first : List Request} {err : CatalogError}
    (failed : ∃ x ∈ (c.ask first s).1, x.reply = .error err) (rest : List Request) :
    c.ask (first ++ rest) s = c.ask first s := by
  induction first generalizing s with
  | nil => simp [ask] at failed
  | cons request others ih =>
    rcases looked : c.lookup request s with ⟨_ | found, after⟩
    · rw [List.cons_append, ask_of_failed looked, ask_of_failed looked]
    · rw [ask_of_answered looked] at failed
      have later : ∃ x ∈ (c.ask others after).1, x.reply = .error err := by simpa using failed
      rw [List.cons_append, ask_of_answered looked, ask_of_answered looked, ih later]

theorem ask_append_of_answered {first : List Request}
    (answered : ∀ err, ¬ ∃ x ∈ (c.ask first s).1, x.reply = .error err) (rest : List Request) :
    c.ask (first ++ rest) s =
      ((c.ask first s).1 ++ (c.ask rest (c.ask first s).2).1,
        (c.ask rest (c.ask first s).2).2) := by
  induction first generalizing s with
  | nil => rfl
  | cons request others ih =>
    rcases looked : c.lookup request s with ⟨err | found, after⟩
    · rw [ask_of_failed looked] at answered
      exact absurd ⟨_, List.mem_cons_self, rfl⟩ (answered err)
    · rw [ask_of_answered looked] at answered
      have later : ∀ err, ¬ ∃ x ∈ (c.ask others after).1, x.reply = .error err := by
        rintro err ⟨x, member, reply⟩
        exact answered err ⟨x, List.mem_cons_of_mem _ member, reply⟩
      rw [List.cons_append, ask_of_answered looked, ask_of_answered looked, ih later]
      rfl

theorem recorded_lookup {answer : Except CatalogError Answer}
    (looked : c.lookup request s = (answer, after)) (log : List Request) :
    c.recorded.lookup request (s, log) = (answer, after, log ++ [request]) := by
  simp only [recorded, looked]

/-- What is recorded are the requests that were asked for, failed ones included. -/
theorem ask_recorded (c : Catalog σ) (plan : List Request) (s : σ) (log : List Request) :
    c.recorded.ask plan (s, log) =
      ((c.ask plan s).1, (c.ask plan s).2, log ++ (c.ask plan s).1.map Exchange.request) := by
  induction plan generalizing s log with
  | nil => simp [ask]
  | cons request rest ih =>
    rcases looked : c.lookup request s with ⟨err | found, after⟩
    · rw [ask_of_failed (recorded_lookup looked log), ask_of_failed looked]
      rfl
    · rw [ask_of_answered (recorded_lookup looked log), ask_of_answered looked, ih]
      simp

end Catalog

theorem Store.ask_catalog (plan : List Request) (s : Store) :
    (catalog.ask plan s).1.map Exchange.request = plan ∧
    (catalog.ask plan s).2 = ⟨s.rows, s.lookups + plan.length⟩ := by
  induction plan generalizing s with
  | nil => exact ⟨rfl, rfl⟩
  | cons request rest ih =>
    obtain ⟨requests, after⟩ := ih ⟨s.rows, s.lookups + 1⟩
    rw [Catalog.ask_of_answered (c := catalog) rfl]
    refine ⟨congrArg (request :: ·) requests, ?_⟩
    rw [after, List.length_cons, Nat.add_assoc, Nat.add_comm 1]

namespace Reads

/-- The request for the names of one scope, if there are any. -/
def requestsIn (r : Reads) (team : Int64) (scope : Scope) : List Request :=
  if (r.names scope).isEmpty then [] else [⟨r.names scope, team, scope⟩]

/-- What is to be looked up for the names that were collected, persons first. -/
def requests (r : Reads) (team : Int64) : List Request :=
  r.requestsIn team .person ++ r.requestsIn team .event

end Reads

/-- How a query ended, with the record of requests put aside. -/
def Fetched.unrecorded {σ α : Type} (f : Fetched (σ × List Request) α) : Fetched σ α :=
  ⟨f.result, f.catalog.1, f.events⟩

/-- How a pass ended, with the record of requests put aside. -/
def Pass.unrecorded {σ : Type} (p : Pass (σ × List Request)) : Pass σ :=
  ⟨p.result, p.context, p.catalog.1, p.events⟩

namespace Typing

variable {σ : Type}

theorem fetchScope_ask (c : Catalog σ) (reads : Reads) (team : Int64) (scope : Scope) (s : σ) :
    (fetchScope c (reads.names scope) team scope s).catalog =
      (c.ask (reads.requestsIn team scope) s).2 ∧
    ∀ err, (fetchScope c (reads.names scope) team scope s).result = .error err ↔
      ∃ x ∈ (c.ask (reads.requestsIn team scope) s).1, x.reply = .error err := by
  unfold fetchScope Reads.requestsIn
  split
  · simp [Catalog.ask]
  · rcases looked : c.lookup ⟨reads.names scope, team, scope⟩ s with ⟨err | found, after⟩
    · simp [Catalog.ask_of_failed looked]
    · rw [Catalog.ask_of_answered looked, Catalog.ask]
      simp

theorem fetchTeam_of_failed {c : Catalog σ} {reads : Reads} {team : Int64} {s : σ}
    {err : CatalogError} (failed : (fetchScope c reads.person team .person s).result = .error err) :
    (fetchTeam c reads team s).result = .error err ∧
    (fetchTeam c reads team s).catalog = (fetchScope c reads.person team .person s).catalog := by
  unfold fetchTeam
  generalize fetchScope c reads.person team .person s = persons at *
  obtain ⟨result, after, events⟩ := persons
  cases failed
  exact ⟨rfl, rfl⟩

theorem fetchTeam_of_found {c : Catalog σ} {reads : Reads} {team : Int64} {s : σ}
    {person : NameMap Kind}
    (found : (fetchScope c reads.person team .person s).result = .ok person) :
    let middle := (fetchScope c reads.person team .person s).catalog
    (fetchTeam c reads team s).result =
      (fetchScope c reads.event team .event middle).result.map (⟨·, person⟩) ∧
    (fetchTeam c reads team s).catalog = (fetchScope c reads.event team .event middle).catalog := by
  unfold fetchTeam
  generalize fetchScope c reads.person team .person s = persons at *
  obtain ⟨result, middle, events⟩ := persons
  cases found
  dsimp only
  rcases fetchScope c reads.event team .event middle with ⟨err | event, after, more⟩ <;>
    exact ⟨rfl, rfl⟩

theorem fetchTeam_ask (c : Catalog σ) (reads : Reads) (team : Int64) (s : σ) :
    (fetchTeam c reads team s).catalog = (c.ask (reads.requests team) s).2 ∧
    ∀ err, (fetchTeam c reads team s).result = .error err ↔
      ∃ x ∈ (c.ask (reads.requests team) s).1, x.reply = .error err := by
  obtain ⟨reached, failed⟩ := fetchScope_ask c reads team .person s
  obtain ⟨ended, later⟩ :=
    fetchScope_ask c reads team .event (c.ask (reads.requestsIn team .person) s).2
  rw [← reached] at ended later
  cases persons : (fetchScope c reads.person team .person s).result with
  | error err =>
    -- the failure about persons ends the asking as it ends the fetching
    obtain ⟨result, catalog⟩ := fetchTeam_of_failed persons
    rw [Reads.requests, Catalog.ask_append_of_failed ((failed err).mp persons)]
    refine ⟨catalog.trans reached, ?_⟩
    intro other
    rw [← failed other]
    simp only [Reads.names, persons, result, Except.error.injEq]
  | ok person =>
    obtain ⟨result, catalog⟩ := fetchTeam_of_found persons
    have answered (err : CatalogError) :
        ¬ ∃ x ∈ (c.ask (reads.requestsIn team .person) s).1, x.reply = .error err := by
      intro some
      cases persons.symm.trans ((failed err).mpr some)
    rw [Reads.requests, Catalog.ask_append_of_answered answered, ← reached]
    refine ⟨catalog.trans ended, ?_⟩
    intro err
    simp only [List.mem_append, or_and_right, exists_or, answered err, false_or]
    rw [← later err, result]
    simp only [Reads.names]
    cases (fetchScope c reads.event team .event
      (fetchScope c reads.person team .person s).catalog).result <;> simp [Except.map]

theorem fetchScope_recorded (c : Catalog σ) (names : NameSet) (team : Int64) (scope : Scope)
    (state : σ × List Request) :
    (fetchScope c.recorded names team scope state).unrecorded =
      fetchScope c names team scope state.1 := by
  obtain ⟨s, log⟩ := state
  unfold fetchScope
  split
  · rfl
  · rcases looked : c.lookup ⟨names, team, scope⟩ s with ⟨err | found, after⟩ <;>
      rw [Catalog.recorded_lookup looked] <;> rfl

theorem fetch_recorded (c : Catalog σ) (reads : Reads) (team : Option Int64)
    (state : σ × List Request) :
    (fetch c.recorded reads team state).unrecorded = fetch c reads team state.1 := by
  cases team with
  | none => rfl
  | some team =>
    simp only [fetch, fetchTeam, ← fetchScope_recorded]
    rcases fetchScope c.recorded reads.person team .person state with ⟨err | person, middle, told⟩
    · rfl
    · simp only [Fetched.unrecorded, ← fetchScope_recorded]
      rcases fetchScope c.recorded reads.event team .event middle with
        ⟨err | event, after, more⟩ <;> rfl

end Typing

namespace Pass

variable {σ : Type}

theorem run_recorded (c : Catalog σ) (context : Option Context) (e : Expr)
    (state : σ × List Request) :
    (run c.recorded context e state).unrecorded = run c context e state.1 := by
  simp only [run, ← Typing.fetch_recorded]
  rcases Typing.fetch c.recorded (Reads.ofExpr e) (context.bind Context.team) state with
    ⟨err | typing, after, events⟩
  · rfl
  · simp only [Fetched.unrecorded]
    split <;> rfl

theorem timezone_eq (context : Option Context) :
    timezone context = (context.bind Context.database).elim "UTC" (·.config.timezone) := by
  rcases context with _ | ⟨team, _ | database, notices⟩ <;> rfl

theorem run_ask (c : Catalog σ) {context : Option Context} {team : Int64}
    (given : context.bind Context.team = some team) (e : Expr) (s : σ) :
    (run c context e s).catalog = (c.ask ((Reads.ofExpr e).requests team) s).2 ∧
    ∀ err, (run c context e s).result = .error err ↔
      ∃ x ∈ (c.ask ((Reads.ofExpr e).requests team) s).1, x.reply = .error err := by
  rw [catalog_of_run]
  simp only [result_eq_error_iff]
  rw [given]
  exact Typing.fetchTeam_ask c (Reads.ofExpr e) team s

/-- A pass without a team asks for nothing and knows no kinds, whatever the catalog. -/
theorem run_teamless (c : Catalog σ) {context : Option Context}
    (given : context.bind Context.team = none) (e : Expr) (s : σ) :
    (run c context e s).result = .ok (Rules.outcome ⟨timezone context, .empty⟩ e) ∧
    (run c context e s).context = context ∧ (run c context e s).catalog = s := by
  have fetched : (Typing.fetch c (Reads.ofExpr e) (context.bind Context.team) s).result =
      .ok .empty := by rw [given]; rfl
  refine ⟨result_of_fetched fetched, ?_, ?_⟩
  · rw [(run_of_fetched fetched).2.1, Rules.reports_of_isEmpty rfl]
    simp
  · rw [catalog_of_run, given]
    rfl

end Pass

/-- The lookups of a pass, and how it fails. Without a team, in a context or not, nothing is
looked up. The pass succeeds, whatever the catalog; it coerces the tree knowing no kinds,
and adds no notices. With a team the requests that were collected are asked for up to the
first failure, and the pass fails exactly with the error of a lookup that failed. Then the
context stays as it was. -/
theorem lookups_and_failures_of_pass {σ : Type} (c : Catalog σ) (context : Option Context)
    (e : Expr) (state : σ) :
    (context.bind Context.team = none →
      (∀ log, (Pass.run c.recorded context e (state, log)).catalog = (state, log)) ∧
      (∃ outcome, (Pass.run c context e state).result = .ok outcome ∧
        (∀ log, outcome.tree e = (Rules.run
          ⟨(context.bind Context.database).elim "UTC" (·.config.timezone), .empty⟩ log e).tree) ∧
        ∀ (τ : Type) (other : Catalog τ) (start : τ),
          (Pass.run other context e start).result = .ok outcome) ∧
      (Pass.run c context e state).context = context) ∧
    (∀ team, context.bind Context.team = some team →
      let asked := c.ask ((Reads.ofExpr e).requests team) state
      (∀ log, (Pass.run c.recorded context e (state, log)).catalog =
        (asked.2, log ++ asked.1.map Exchange.request)) ∧
      ∀ err,
        ((Pass.run c context e state).result = .error err ↔
          ∃ x ∈ asked.1, x.reply = .error err) ∧
        ((Pass.run c context e state).result = .error err →
          (Pass.run c context e state).context = context)) := by
  constructor
  · intro teamless
    obtain ⟨result, still, -⟩ := Pass.run_teamless c teamless e state
    refine ⟨?_, ⟨_, result, ?_, ?_⟩, still⟩
    · intro log
      exact (Pass.run_teamless c.recorded teamless e (state, log)).2.2
    · intro log
      rw [Rules.tree_outcome, Rules.run_tree, Pass.timezone_eq]
    · intro τ other start
      exact (Pass.run_teamless other teamless e start).1
  · intro team given asked
    refine ⟨?_, ?_⟩
    · intro log
      rw [(Pass.run_ask c.recorded given e (state, log)).1, Catalog.ask_recorded]
    · intro err
      exact ⟨(Pass.run_ask c given e state).2 err, Pass.context_of_failed⟩

namespace Sample

/-- A catalog in memory of which the half about events is out of reach. -/
def personsOnly : Catalog Store := Store.catalog.scripted fun scope =>
  match scope with
  | .person => none
  | .event => some (.unavailable "out of reach")

def visit : Expr :=
  .group .conjunction [.field (read events "properties" "country"),
    .field (read persons "properties" "age")]

def welcome (team : Option Int64) : Context := ⟨team, none, [⟨none, none, "welcome"⟩]⟩

end Sample

theorem failed_pass_over_visit :
    (Pass.run Sample.personsOnly (some (Sample.welcome (some 7))) Sample.visit .empty).result =
      .error (.unavailable "out of reach") ∧
    (Pass.run Sample.personsOnly (some (Sample.welcome (some 7))) Sample.visit .empty).context =
      some (Sample.welcome (some 7)) ∧
    (Pass.run Sample.personsOnly.recorded (some (Sample.welcome (some 7))) Sample.visit
      (.empty, [])).catalog =
      (⟨[], 1⟩, [⟨.ofList ["age"], 7, .person⟩, ⟨.ofList ["country"], 7, .event⟩]) ∧
    ∃ outcome,
      (Pass.run Sample.personsOnly (some (Sample.welcome none)) Sample.visit .empty).result =
        .ok outcome := by
  obtain ⟨-, teamed⟩ := lookups_and_failures_of_pass Sample.personsOnly
    (some (Sample.welcome (some 7))) Sample.visit .empty
  obtain ⟨requests, fails⟩ := teamed 7 rfl
  obtain ⟨teamless, -⟩ := lookups_and_failures_of_pass Sample.personsOnly
    (some (Sample.welcome none)) Sample.visit .empty
  obtain ⟨-, ⟨outcome, result, -⟩, -⟩ := teamless rfl
  have failed := (fails (.unavailable "out of reach")).1.mpr
    ⟨⟨⟨.ofList ["country"], 7, .event⟩, _⟩, List.mem_of_getElem? (i := 1) rfl, rfl⟩
  exact ⟨failed, (fails _).2 failed, requests [], outcome, result⟩

end QueryCoercion
