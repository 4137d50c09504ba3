import Mathlib.Logic.Relation
import QueryCoercion.Proofs.DirectWalk
import QueryCoercion.Proofs.Lookups
import QueryCoercion.Proofs.Rewrite

/-!
What a pass can tell about the rows of a catalog in memory: for every name that is collected
from the tree, the kind that the last row of the team gives it. Catalogs that agree on
these kinds lead to the same outcome, notices, lookups and events. So rows of other teams,
rows of names that are not read, rows that later ones replace, and the order of rows of
different names do not matter.
-/
namespace QueryCoercion

/-- Maps with the same values have equally many, as every name stands once. -/
theorem NameMap.size_eq_of_get? {β : Type} {m n : NameMap β}
    (same : ∀ name, m.get? name = n.get? name) : m.size = n.size := by
  have names : (m.entries.map Prod.fst).Perm (n.entries.map Prod.fst) := by
    rw [List.perm_ext_iff_of_nodup m.nodup n.nodup]
    intro name
    rw [← not_iff_not, ← findEntry_eq_none_iff, ← findEntry_eq_none_iff]
    exact Eq.congr_left (same name)
  simpa [size] using names.length_eq

theorem NameMap.isEmpty_eq_size {β : Type} (m : NameMap β) : m.isEmpty = (m.size == 0) := by
  cases m with
  | mk entries _ => cases entries <;> rfl

namespace Typing

variable {t u : Typing}

theorem sizes_of_get? (kinds : ∀ scope name, t.get? scope name = u.get? scope name) :
    t.event.size = u.event.size ∧ t.person.size = u.person.size :=
  ⟨NameMap.size_eq_of_get? (kinds .event), NameMap.size_eq_of_get? (kinds .person)⟩

theorem isIdle_of_get? (kinds : ∀ scope name, t.get? scope name = u.get? scope name)
    (timestamps : Bool) : t.isIdle timestamps = u.isIdle timestamps := by
  obtain ⟨event, person⟩ := sizes_of_get? kinds
  simp only [isIdle, isEmpty, NameMap.isEmpty_eq_size, event, person]

end Typing

/-- The same outcome, notices and events of two passes, and the same lookups on the way. -/
structure Pass.Alike {σ τ : Type} (p : Pass (σ × List Request)) (q : Pass (τ × List Request)) :
    Prop where
  result : p.result = q.result
  context : p.context = q.context
  requests : p.catalog.2 = q.catalog.2
  events : p.events = q.events

namespace Pass

theorem run_congr {σ τ : Type} {c : Catalog σ} {d : Catalog τ} {context : Option Context}
    {e : Expr} {s : σ} {t : τ} {typing typing' : Typing}
    (fetched : (Typing.fetch c (Reads.ofExpr e) (context.bind Context.team) s).result = .ok typing)
    (fetched' : (Typing.fetch d (Reads.ofExpr e) (context.bind Context.team) t).result =
      .ok typing')
    (kinds : ∀ scope name, typing.get? scope name = typing'.get? scope name)
    (events : (Typing.fetch c (Reads.ofExpr e) (context.bind Context.team) s).events =
      (Typing.fetch d (Reads.ofExpr e) (context.bind Context.team) t).events) :
    (run c context e s).result = (run d context e t).result ∧
    (run c context e s).context = (run d context e t).context ∧
    (run c context e s).events = (run d context e t).events := by
  have runs (log : Option (List Notice)) : Rules.run ⟨timezone context, typing⟩ log e =
      Rules.run ⟨timezone context, typing'⟩ log e := by
    apply Rules.run_congr
    · rfl
    · exact fun f _ => Rules.read?_congr kinds f
  obtain ⟨event, person⟩ := Typing.sizes_of_get? kinds
  unfold run
  dsimp only
  generalize Typing.fetch c (Reads.ofExpr e) (context.bind Context.team) s = first at *
  generalize Typing.fetch d (Reads.ofExpr e) (context.bind Context.team) t = second at *
  obtain ⟨result, after, told⟩ := first
  obtain ⟨result', after', told'⟩ := second
  cases fetched
  cases fetched'
  cases events
  dsimp only
  rw [Typing.isIdle_of_get? kinds, runs, event, person]
  split
  · exact ⟨rfl, rfl, rfl⟩
  · exact ⟨rfl, rfl, rfl⟩

end Pass

namespace Store

/-- For every name that is collected, the last row of the team gives the same kind. -/
def Alike (team : Int64) (reads : Reads) (rows rows' : List Definition) : Prop :=
  ∀ scope, ∀ name ∈ (reads.names scope).names,
    kind? rows team scope name = kind? rows' team scope name

/-- A change of the rows that the reads of a team do not notice. -/
inductive Immaterial (team : Int64) (reads : Reads) : List Definition → List Definition → Prop where
  | foreign (before after : List Definition) {row : Definition} (elsewhere : row.team ≠ team) :
      Immaterial team reads (before ++ row :: after) (before ++ after)
  | unread (before after : List Definition) {row : Definition}
      (unasked : ∀ scope, row.isIn scope → row.name ∉ (reads.names scope).names) :
      Immaterial team reads (before ++ row :: after) (before ++ after)
  | replaced (before after : List Definition) {row later : Definition} (follows : later ∈ after)
      (sameTeam : later.team = row.team) (sameName : later.name = row.name)
      (sameScope : ∀ scope, later.isIn scope = row.isIn scope) :
      Immaterial team reads (before ++ row :: after) (before ++ after)
  | swapped (before after : List Definition) {row other : Definition}
      (apart : row.name ≠ other.name) :
      Immaterial team reads (before ++ row :: other :: after) (before ++ other :: row :: after)

theorem getLast?_filter_drop {α : Type} {p : α → Bool} {before after : List α} {row : α}
    (covered : p row = true → ∃ later ∈ after, p later = true) :
    ((before ++ row :: after).filter p).getLast? = ((before ++ after).filter p).getLast? := by
  by_cases bears : p row = true
  · obtain ⟨later, member, also⟩ := covered bears
    have some : after.filter p ≠ [] := List.ne_nil_of_mem (List.mem_filter.mpr ⟨member, also⟩)
    rw [List.filter_append, List.filter_cons_of_pos bears, List.filter_append,
      List.getLast?_append, List.getLast?_append, List.getLast?_cons_of_ne_nil some]
  · rw [List.filter_append, List.filter_cons_of_neg bears, List.filter_append]

theorem Immaterial.alike {team : Int64} {reads : Reads} {rows rows' : List Definition}
    (change : Immaterial team reads rows rows') : Alike team reads rows rows' := by
  intro scope name collected
  unfold kind?
  congr 1
  unfold last?
  cases change with
  | foreign before after elsewhere =>
    apply getLast?_filter_drop
    intro bears
    simp only [Bool.and_eq_true, beq_iff_eq] at bears
    exact absurd bears.1.1 elsewhere
  | unread before after unasked =>
    apply getLast?_filter_drop
    intro bears
    simp only [Bool.and_eq_true, beq_iff_eq] at bears
    exact absurd (bears.2 ▸ collected) (unasked scope bears.1.2)
  | replaced before after follows sameTeam sameName sameScope =>
    apply getLast?_filter_drop
    intro bears
    refine ⟨_, follows, ?_⟩
    rw [sameTeam, sameName, sameScope]
    exact bears
  | @swapped before after row other apart =>
    -- only one of the two can have the name, and the other one is passed over
    by_cases named : row.name = name
    · have passed : (other.name == name) = false :=
        beq_eq_false_iff_ne.mpr fun also => apart (named.trans also.symm)
      simp [List.filter_cons, passed]
    · have passed : (row.name == name) = false := beq_eq_false_iff_ne.mpr named
      simp [List.filter_cons, passed]

theorem alike_of_changes {team : Int64} {reads : Reads} {rows rows' : List Definition}
    (changes : Relation.EqvGen (Immaterial team reads) rows rows') :
    Alike team reads rows rows' := by
  intro scope name collected
  induction changes with
  | rel _ _ change => exact change.alike scope name collected
  | refl _ => rfl
  | symm _ _ _ ih => exact ih.symm
  | trans _ _ _ _ _ first second => exact first.trans second

end Store

theorem Typing.fetchTeam_alike {team : Int64} {reads : Reads} {s t : Store}
    (alike : Store.Alike team reads s.rows t.rows) :
    ∃ typing typing', (fetchTeam Store.catalog reads team s).result = .ok typing ∧
      (fetchTeam Store.catalog reads team t).result = .ok typing' ∧
      (∀ scope name, typing.get? scope name = typing'.get? scope name) ∧
      (fetchTeam Store.catalog reads team s).events =
        (fetchTeam Store.catalog reads team t).events := by
  obtain ⟨typing, fetched, events, kinds⟩ := fetchTeam_store reads team s
  obtain ⟨typing', fetched', events', kinds'⟩ := fetchTeam_store reads team t
  have same (scope : Scope) (name : String) : typing.get? scope name = typing'.get? scope name := by
    rw [kinds, kinds']
    split
    · rename_i collected
      exact alike scope name collected
    · rfl
  refine ⟨typing, typing', fetched, fetched', same, ?_⟩
  obtain ⟨event, person⟩ := sizes_of_get? same
  simp only [events, events', lookedUp, event, person]

theorem Pass.alike_of_rows (e : Expr) (team : Int64) (database : Option Database)
    (notices : List Notice) (s t : Store)
    (alike : Store.Alike team (Reads.ofExpr e) s.rows t.rows) :
    (run Store.catalog.recorded (some ⟨some team, database, notices⟩) e (s, [])).Alike
      (run Store.catalog.recorded (some ⟨some team, database, notices⟩) e (t, [])) := by
  let context : Context := ⟨some team, database, notices⟩
  obtain ⟨_, _, fetched, fetched', kinds, told⟩ := Typing.fetchTeam_alike alike
  obtain ⟨result, logged, events⟩ :=
    @run_congr _ _ _ _ (some context) _ _ _ _ _ fetched fetched' kinds told
  have plain (x : Store) := run_recorded Store.catalog (some context) e (x, [])
  have requests (x : Store) : (run Store.catalog.recorded (some context) e (x, [])).catalog.2 =
      (Reads.ofExpr e).requests team := by
    rw [(run_ask Store.catalog.recorded rfl e (x, [])).1, Catalog.ask_recorded, List.nil_append]
    exact (Store.ask_catalog _ x).1
  -- what holds of the plain passes holds of the recorded ones
  simp only [← plain, unrecorded] at result logged events
  exact ⟨result, logged, (requests s).trans (requests t).symm, events⟩

/-- Passes over two catalogs in memory have the same outcome, notices, lookups and events when
the last rows of the team give the same kinds to the names that are collected; in
particular when the rows come from each other by leaving out, or putting in, rows of other
teams, rows that are not asked for and rows that later ones replace, and by changing the
order of rows of different names. -/
theorem rows_beyond_reads_do_not_matter (e : Expr) (team : Int64) (database : Option Database)
    (notices : List Notice) (s t : Store) :
    let ran (x : Store) :=
      Pass.run Store.catalog.recorded (some ⟨some team, database, notices⟩) e (x, [])
    (Store.Alike team (Reads.ofExpr e) s.rows t.rows → (ran s).Alike (ran t)) ∧
    (Relation.EqvGen (Store.Immaterial team (Reads.ofExpr e)) s.rows t.rows →
      (ran s).Alike (ran t)) := by
  intro ran
  have alike := Pass.alike_of_rows e team database notices s t
  exact ⟨alike, fun changes => alike (Store.alike_of_changes changes)⟩

namespace Sample

def crowded : Store :=
  ⟨[⟨8, "age", some .person, some .boolean⟩, ⟨7, "age", some .person, some .string⟩,
    ⟨7, "country", none, some .string⟩, ⟨7, "age", some .person, some .numeric⟩], 5⟩

def tidy : Store :=
  ⟨[⟨7, "age", some .person, some .numeric⟩, ⟨7, "country", none, some .string⟩], 0⟩

end Sample

theorem visit_over_crowded_and_tidy :
    let ran (x : Store) :=
      Pass.run Store.catalog.recorded (some ⟨some 7, none, []⟩) Sample.visit (x, [])
    Store.Alike 7 (Reads.ofExpr Sample.visit) Sample.crowded.rows Sample.tidy.rows ∧
    (ran Sample.crowded).Alike (ran Sample.tidy) ∧
    Relation.EqvGen (Store.Immaterial 7 (Reads.ofExpr Sample.visit)) Sample.tidy.rows
      Sample.crowded.rows ∧
    (ran Sample.tidy).Alike (ran Sample.crowded) := by
  intro ran
  have alike : Store.Alike 7 (Reads.ofExpr Sample.visit) Sample.crowded.rows Sample.tidy.rows := by
    intro scope
    cases scope <;> decide
  have changes : Relation.EqvGen (Store.Immaterial 7 (Reads.ofExpr Sample.visit))
      Sample.crowded.rows Sample.tidy.rows := by
    apply Relation.EqvGen.trans
    · exact .rel _ _ (.foreign [] _ (by decide))
    apply Relation.EqvGen.trans
    · exact .rel _ _ (.replaced [] _ (List.mem_of_getElem? (i := 1) rfl) rfl rfl fun _ => rfl)
    · exact .rel _ _ (.swapped [] [] (by decide))
  obtain ⟨agree, -⟩ :=
    rows_beyond_reads_do_not_matter Sample.visit 7 none [] Sample.crowded Sample.tidy
  obtain ⟨-, changed⟩ :=
    rows_beyond_reads_do_not_matter Sample.visit 7 none [] Sample.tidy Sample.crowded
  exact ⟨alike, agree alike, changes.symm, changed changes.symm⟩

end QueryCoercion
