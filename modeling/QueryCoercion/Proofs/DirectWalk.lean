import QueryCoercion.Proofs.LastRow
import QueryCoercion.Proofs.Passes
import QueryCoercion.Proofs.Policy

namespace QueryCoercion

theorem PropertyRef.scope_of_indirect {p : PropertyRef} {scope : Scope} {name : String}
    (indirect : p.isDirect = false) (read : p.classify? = some (scope, name)) :
    scope = .person := by
  have column : p.column.name ≠ "properties" := by simpa [isDirect] using indirect
  have found := (classify?_eq_some_iff.mp read).2
  rw [scope?, if_neg column] at found
  split at found
  · unfold Source.personPropertyScope? at found
    split at found
    · exact (Option.some.inj found).symm
    · cases found
  · cases found

namespace Typing

/-- The event of a lookup that found these kinds, if there was one. -/
def lookedUp (names : NameSet) (scope : Scope) (found : NameMap Kind) : List Event :=
  if names.isEmpty then [] else [.lookedUp scope names.size found.size]

theorem fetchScope_store (names : NameSet) (team : Int64) (scope : Scope) (s : Store) :
    ∃ found lookups,
      fetchScope Store.catalog names team scope s =
        ⟨.ok found, ⟨s.rows, lookups⟩, lookedUp names scope found⟩ ∧
      ∀ name, found.get? name =
        if name ∈ names.names then Store.kind? s.rows team scope name else none := by
  unfold fetchScope lookedUp
  split
  · rename_i none
    refine ⟨.empty, s.lookups, rfl, ?_⟩
    intro name
    rw [List.isEmpty_iff.mp none]
    simp
  · exact ⟨_, _, rfl, fun name => Store.get?_filled_find s ⟨names, team, scope⟩ name⟩

theorem fetchTeam_store (reads : Reads) (team : Int64) (s : Store) :
    ∃ typing, (fetchTeam Store.catalog reads team s).result = .ok typing ∧
      (fetchTeam Store.catalog reads team s).events =
        lookedUp reads.person .person typing.person ++ lookedUp reads.event .event typing.event ∧
      ∀ scope name, typing.get? scope name =
        if name ∈ (reads.names scope).names then Store.kind? s.rows team scope name else none := by
  obtain ⟨person, lookups, persons, personKinds⟩ := fetchScope_store reads.person team .person s
  obtain ⟨event, _, events, eventKinds⟩ :=
    fetchScope_store reads.event team .event ⟨s.rows, lookups⟩
  refine ⟨⟨event, person⟩, ?_, ?_, ?_⟩
  · simp only [fetchTeam, persons, events]
  · simp only [fetchTeam, persons, events]
  · intro scope name
    cases scope with
    | event => exact eventKinds name
    | person => exact personKinds name

end Typing

/-- The rows of a team as a policy for a whole tree: the last row of a name in its scope
counts. A read through the person properties of events is only coerced along with a
direct read of the same name from a person. -/
def Policy.ofRows (rows : List Definition) (team : Int64) (timezone : String) (whole : Expr) :
    Policy where
  timezone := timezone
  kind? f :=
    match f.property? with
    | some p =>
      match p.classify? with
      | some (scope, name) =>
        if p.isDirect || whole.leaves.any fun g => g.direct? == some (.person, name) then
          Store.kind? rows team scope name
        else none
      | none => none
    | none => none

theorem Reads.collected_iff {e : Expr} {f : Field} (leaf : f ∈ e.leaves) {p : PropertyRef}
    (bound : f.property? = some p) {scope : Scope} {name : String}
    (read : p.classify? = some (scope, name)) :
    name ∈ ((ofExpr e).names scope).names ↔
      p.isDirect || e.leaves.any fun g => g.direct? == some (.person, name) := by
  rw [mem_names_ofExpr]
  cases direct : p.isDirect with
  | true =>
    have asked : f.direct? = some (scope, name) := by simp [Field.direct?, bound, direct, read]
    simp only [Bool.true_or, iff_true]
    exact ⟨f, leaf, asked⟩
  | false => simp [PropertyRef.scope_of_indirect direct read]

theorem Policy.kind?_ofRows {rows : List Definition} {team : Int64} {timezone : String} {e : Expr}
    {r : Rules} (kinds : ∀ scope name, r.typing.get? scope name =
      if name ∈ ((Reads.ofExpr e).names scope).names then Store.kind? rows team scope name
      else none)
    (f : Field) (leaf : f ∈ e.leaves) :
    r.policy.kind? f = (ofRows rows team timezone e).kind? f := by
  cases bound : f.property? with
  | none => simp [Rules.policy, Rules.read?, ofRows, bound]
  | some p =>
    cases read : p.classify? with
    | none => simp [Rules.policy, Rules.read?, ofRows, bound, read]
    | some found =>
      obtain ⟨scope, name⟩ := found
      simp only [Rules.policy, Rules.read?, ofRows, bound, read, kinds,
        Reads.collected_iff leaf bound read, Option.map_map, Function.comp_def, Option.map_id']

/-- A pass over a catalog in memory succeeds, and coerces the tree by rules that know the
kinds of the collected names from the rows. -/
theorem Pass.run_store (store : Store) (team : Int64) (database : Option Database)
    (notices : List Notice) (e : Expr) :
    ∃ (r : Rules) (outcome : Outcome),
      (run Store.catalog (some ⟨some team, database, notices⟩) e store).result = .ok outcome ∧
      outcome.tree e = r.rewrite e ∧ r.timezone = database.elim "UTC" (·.config.timezone) ∧
      ∀ scope name, r.typing.get? scope name =
        if name ∈ ((Reads.ofExpr e).names scope).names then Store.kind? store.rows team scope name
        else none := by
  obtain ⟨typing, fetched, -, kinds⟩ := Typing.fetchTeam_store (Reads.ofExpr e) team store
  obtain ⟨⟨outcome, result, tree⟩, -, -⟩ :=
    @run_of_fetched _ _ (some ⟨some team, database, notices⟩) _ _ _ fetched
  refine ⟨_, outcome, result, tree, ?_, kinds⟩
  cases database <;> rfl

/-- For every tree, every catalog in memory and every context with a team, a pass succeeds,
and its tree is that of the direct walk which asks the rows at every field. -/
theorem pass_eq_direct_walk (store : Store) (team : Int64) (database : Option Database)
    (notices : List Notice) (e : Expr) :
    ∃ outcome,
      (Pass.run Store.catalog (some ⟨some team, database, notices⟩) e store).result = .ok outcome ∧
      outcome.tree e =
        (Policy.ofRows store.rows team (database.elim "UTC" (·.config.timezone)) e).walk e := by
  obtain ⟨r, outcome, result, tree, zone, kinds⟩ := Pass.run_store store team database notices e
  refine ⟨outcome, result, ?_⟩
  rw [tree, Rules.rewrite_eq_walk]
  exact Policy.walk_congr zone (Policy.kind?_ofRows kinds)

end QueryCoercion
