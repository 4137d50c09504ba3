import QueryCoercion.Proofs.FirstReads
import QueryCoercion.Proofs.Notices
import QueryCoercion.Proofs.Repetition
import QueryCoercion.Proofs.Sameness

/-!
When a pass gives a new tree. It does so whenever the tree has a column of date and time or
a kind was fetched, without a look at what stands around the fields. The new tree differs
from the one before, or there are new notices, unless every field that the pass is about
stood in its wrapper already; then the new tree is a copy and nothing is reported.
-/
namespace QueryCoercion

theorem NameMap.isEmpty_iff {β : Type} {m : NameMap β} :
    m.isEmpty = true ↔ ∀ name, m.get? name = none := by
  constructor
  · exact NameMap.get?_of_isEmpty
  · intro none
    rw [isEmpty, List.isEmpty_iff, List.eq_nil_iff_forall_not_mem]
    rintro ⟨name, value⟩ stored
    have found : m.get? name = some value := mem_entries_iff.mp stored
    rw [none name] at found
    cases found

theorem Typing.isEmpty_iff {t : Typing} :
    t.isEmpty = true ↔ ∀ scope name, t.get? scope name = none := by
  rw [isEmpty, Bool.and_eq_true, NameMap.isEmpty_iff, NameMap.isEmpty_iff]
  constructor
  · rintro ⟨event, person⟩ scope
    cases scope with
    | event => exact event
    | person => exact person
  · intro none
    exact ⟨none .event, none .person⟩

theorem Typing.isIdle_iff {t : Typing} {e : Expr} :
    t.isIdle (Reads.ofExpr e).timestamps = true ↔
      (∀ scope name, t.get? scope name = none) ∧ ∀ f ∈ e.leaves, f.isDateTime = false := by
  rw [isIdle, Bool.and_eq_true, isEmpty_iff, Bool.not_eq_true', Reads.timestamps_ofExpr,
    List.any_eq_false]
  simp

namespace Rules

/-- A field that coercing is about: a column of date and time, or a read of a property whose
kind is known. -/
def Concerns (r : Rules) (f : Field) : Prop :=
  f.isDateTime = true ∨
    ∃ p scope name kind, f.property? = some p ∧ p.classify? = some (scope, name) ∧
      r.typing.get? scope name = some kind

/-- Every field that coercing is about stands in the wrapper that it is to stand in. -/
def Done (r : Rules) (e : Expr) : Prop :=
  ∀ i f, e.leaves[i]? = some f → r.Concerns f → ∃ node, Expr.Within node i e ∧ r.Wraps f node

variable {r : Rules} {e : Expr} {f : Field}

theorem not_concerns_iff : ¬ r.Concerns f ↔ r.coercion? f = none ∧ r.report? f = none := by
  constructor
  · intro other
    obtain ⟨undated, unread⟩ := not_or.mp other
    have unreported : r.report? f = none := by
      rw [Option.eq_none_iff_forall_ne_some]
      intro x known
      obtain ⟨-, p, scope, typed⟩ := report?_eq_some_iff.mp known
      exact unread ⟨p, scope, x.name, x.kind, typed⟩
    refine ⟨?_, unreported⟩
    rw [Option.eq_none_iff_forall_ne_some]
    intro c given
    rcases coercion?_cases given with ⟨dated, -⟩ | ⟨p, scope, name, kind, bound, about, typed, -⟩
    · exact undated dated
    · exact unread ⟨p, scope, name, kind, bound, about, typed⟩
  · rintro ⟨silent, unreported⟩ (dated | ⟨p, scope, name, kind, typed⟩)
    · rw [r.coercion?_of_isDateTime dated] at silent
      cases silent
    · have known : r.report? f = some ⟨f, name, kind⟩ :=
        report?_eq_some_iff.mpr ⟨rfl, p, scope, typed⟩
      rw [unreported] at known
      cases known

theorem mem_exposed_iff : f ∈ r.exposed e ↔ ∃ i, r.Loose e i f := by
  rw [exposed_eq_loose, List.mem_filterMap]
  constructor
  · rintro ⟨s, member, loose⟩
    obtain ⟨i, seat⟩ := List.mem_iff_getElem?.mp member
    exact ⟨i, loose_iff.mpr ⟨s, seat, loose⟩⟩
  · rintro ⟨i, loose⟩
    obtain ⟨s, seat, found⟩ := loose_iff.mp loose
    exact ⟨s, List.mem_of_getElem? seat, found⟩

theorem done_iff_exposed : r.Done e ↔ ∀ f ∈ r.exposed e, ¬ r.Concerns f := by
  constructor
  · intro done f member concerns
    obtain ⟨i, loose⟩ := mem_exposed_iff.mp member
    obtain ⟨node, within, wraps⟩ := done i f loose.leaf concerns
    exact loose.unwrapped node within wraps
  · intro silent i f leaf concerns
    by_contra unwrapped
    have loose : r.Loose e i f :=
      ⟨leaf, fun node within wraps => unwrapped ⟨node, within, wraps⟩⟩
    exact silent f (mem_exposed_iff.mpr ⟨i, loose⟩) concerns

theorem rewrite_eq_self_iff : r.rewrite e = e ↔ ∀ f ∈ r.exposed e, r.coercion? f = none := by
  constructor
  · intro same f member
    -- after a rewrite only the fields that it left alone stand outside of wrappers
    have left := exposed_rewrite (.refl r) e
    rw [same] at left
    have alone := List.filter_eq_self.mp left.symm f member
    exact Option.isNone_iff_eq_none.mp alone
  · intro silent
    exact Expr.walk_eq_self_of_outside fun f member => coerce_of_none (silent f member)

theorem reports_eq_nil_iff : r.reports e = [] ↔ ∀ f ∈ r.exposed e, r.report? f = none := by
  rw [reports, List.filterMap_eq_nil_iff]

/-- There is nothing to change and nothing to report just when all is done already. -/
theorem done_iff : r.Done e ↔ r.rewrite e = e ∧ r.reports e = [] := by
  rw [done_iff_exposed, rewrite_eq_self_iff, reports_eq_nil_iff]
  constructor
  · intro silent
    exact ⟨fun f member => (not_concerns_iff.mp (silent f member)).1,
      fun f member => (not_concerns_iff.mp (silent f member)).2⟩
  · rintro ⟨silent, unreported⟩ f member
    exact not_concerns_iff.mpr ⟨silent f member, unreported f member⟩

theorem rewrite_eq_of_same (alike : (r.rewrite e).same e = true) : r.rewrite e = e := by
  induction e using Expr.byNodes with
  | field f =>
    rw [rewrite_field] at alike ⊢
    -- no wrapper is the same as a field, whatever their spans
    obtain ⟨g, came, -⟩ := Expr.field_of_same (Expr.same_symm alike)
    obtain ⟨rfl, silent⟩ := coercion?_of_coerce_eq_field came
    exact coerce_of_none silent
  | node e inner ih =>
    rcases r.rewrite_node_cases inner with same | ⟨-, rebuilt⟩
    · exact same
    · rw [rebuilt] at alike ⊢
      have below := (Expr.same_iff.mp alike).2
      rw [Expr.children_mapChildren, List.forall₂_map_left_iff, List.forall₂_same] at below
      exact Expr.mapChildren_id fun c member => ih c member (below c member)

theorem same_rewrite_iff : (r.rewrite e).same e = true ↔ r.rewrite e = e := by
  constructor
  · exact rewrite_eq_of_same
  · intro unmoved
    rw [unmoved]
    exact Expr.same_refl e

/-- Why there is something to coerce: a field that coercing is about, or else a kind under a
name that no direct read has. -/
theorem cause_of_busy (busy : r.typing.isIdle (Reads.ofExpr e).timestamps = false) :
    (∃ f ∈ e.leaves, r.Concerns f) ∨
      ∃ scope name kind, name ∉ ((Reads.ofExpr e).names scope).names ∧
        r.typing.get? scope name = some kind := by
  by_cases dated : ∀ f ∈ e.leaves, f.isDateTime = false
  · have known : ¬ ∀ scope name, r.typing.get? scope name = none := by
      intro none
      rw [Typing.isIdle_iff.mpr ⟨none, dated⟩] at busy
      cases busy
    obtain ⟨scope, unknown⟩ := not_forall.mp known
    obtain ⟨name, found⟩ := not_forall.mp unknown
    obtain ⟨kind, typed⟩ := Option.ne_none_iff_exists'.mp found
    by_cases asked : name ∈ ((Reads.ofExpr e).names scope).names
    · obtain ⟨f, leaf, read⟩ := (Reads.mem_names_ofExpr e scope name).mp asked
      obtain ⟨p, binding, -, about⟩ := Field.direct?_eq_some_iff.mp read
      have bound : f.property? = some p := by rw [Field.property?, binding]; rfl
      exact .inl ⟨f, leaf, .inr ⟨p, scope, name, kind, bound, about, typed⟩⟩
    · exact .inr ⟨scope, name, kind, asked, typed⟩
  · push Not at dated
    obtain ⟨f, leaf, dated⟩ := dated
    exact .inl ⟨f, leaf, .inl (eq_true_of_ne_false dated)⟩

end Rules

/-- The log has got new notices. -/
def Context.Noted (before after : Option Context) : Prop :=
  ∃ x added, before = some x ∧ added ≠ [] ∧ after = some (x.noting added)

namespace Pass

variable {σ : Type} {c : Catalog σ} {context : Option Context} {e : Expr} {state : σ}
  {typing : Typing}

theorem isEmpty_of_contextless
    (fetched : (Typing.fetch c (Reads.ofExpr e) (Option.bind none Context.team) state).result =
      .ok typing) : typing.isEmpty = true := by
  cases fetched
  rfl

theorem noted_iff
    (fetched : (Typing.fetch c (Reads.ofExpr e) (context.bind Context.team) state).result =
      .ok typing) :
    Context.Noted context (run c context e state).context ↔
      Rules.reports ⟨timezone context, typing⟩ e ≠ [] := by
  have logged := (run_of_fetched fetched).2.1
  rw [logged]
  cases context with
  | none =>
    have unreported : Rules.reports ⟨timezone none, typing⟩ e = [] :=
      Rules.reports_of_isEmpty (isEmpty_of_contextless fetched) e
    constructor
    · rintro ⟨x, added, impossible, -⟩
      cases impossible
    · intro reported
      exact absurd unreported reported
  | some x =>
    constructor
    · rintro ⟨y, added, same, new, after⟩ unreported
      cases same
      rw [unreported] at after
      have notices : x.notices = x.notices ++ added := by
        simpa [Context.noting] using congrArg Context.notices (Option.some.inj after)
      exact new (List.append_right_eq_self.mp notices.symm)
    · intro reported
      exact ⟨x, _, rfl, by simpa using reported, rfl⟩

end Pass

/-- A pass that has fetched its kinds leaves the tree alone just when there are no kinds and no
columns of date and time. Where it gives a new tree, this tree differs from the one before or
there are new notices, unless all was done already: then the tree is a copy and the log is as it
was. A new tree has a field that the pass is about, unless the catalog has told a kind under a
name that it was not asked for. -/
theorem new_tree_acts_unless_done {σ : Type} (c : Catalog σ) (context : Option Context) (e : Expr)
    (state : σ) (typing : Typing)
    (fetched : (Typing.fetch c (Reads.ofExpr e) (context.bind Context.team) state).result =
      .ok typing) :
    let r : Rules := ⟨Pass.timezone context, typing⟩
    let pass := Pass.run c context e state
    ∃ outcome, pass.result = .ok outcome ∧
      (outcome = .unchanged ↔
        (∀ scope name, typing.get? scope name = none) ∧ ∀ f ∈ e.leaves, f.isDateTime = false) ∧
      ∀ tree, outcome = .coerced tree →
        (tree.same e = false ∨ Context.Noted context pass.context ↔ ¬ r.Done e) ∧
        (r.Done e → tree = e ∧ pass.context = context) ∧
        ((∃ f ∈ e.leaves, r.Concerns f) ∨
          ∃ scope name kind, name ∉ ((Reads.ofExpr e).names scope).names ∧
            typing.get? scope name = some kind) := by
  intro r pass
  have noted : Context.Noted context pass.context ↔ r.reports e ≠ [] := Pass.noted_iff fetched
  have logged := (Pass.run_of_fetched fetched).2.1
  have alone : r.outcome e = .unchanged ↔
      (∀ scope name, typing.get? scope name = none) ∧ ∀ f ∈ e.leaves, f.isDateTime = false :=
    Rules.outcome_eq_unchanged_iff.trans Typing.isIdle_iff
  refine ⟨r.outcome e, Pass.result_of_fetched fetched, alone, ?_⟩
  intro tree renewed
  obtain ⟨busy, rfl⟩ := Rules.outcome_eq_coerced_iff.mp renewed
  refine ⟨?_, ?_, Rules.cause_of_busy busy⟩
  · rw [noted, Rules.done_iff, not_and_or, ← Rules.same_rewrite_iff, Bool.not_eq_true]
  · intro done
    obtain ⟨same, unreported⟩ := Rules.done_iff.mp done
    refine ⟨same, ?_⟩
    rw [logged, unreported]
    simp

namespace Sample

/-- A column of date and time that stands in its call already. -/
def called : Expr := (Coercion.toTimeZone "UTC").wrap timestamp

end Sample

/-- A field that stands in its call is copied with it, and of a kind that was fetched there is
something to tell. -/
theorem new_trees_of_called_and_profile :
    let context : Option Context := some ⟨some 7, none, []⟩
    let idle := Pass.run Store.catalog context Sample.called Store.empty
    let busy := Pass.run Store.catalog context Sample.profile Sample.profiles
    let typing : Typing := ⟨.ofList [("country", .string)], .ofList [("age", .numeric)]⟩
    ((Typing.fetch Store.catalog (Reads.ofExpr Sample.called) (some 7) Store.empty).result =
      .ok .empty ∧
    idle.result = .ok (.coerced Sample.called) ∧
    Rules.Done ⟨"UTC", .empty⟩ Sample.called ∧
    ¬ (Sample.called.same Sample.called = false ∨ Context.Noted context idle.context)) ∧
    (Typing.fetch Store.catalog (Reads.ofExpr Sample.profile) (some 7) Sample.profiles).result =
      .ok typing ∧
    ¬ Rules.Done ⟨"UTC", typing⟩ Sample.profile ∧
    ∃ tree, busy.result = .ok (.coerced tree) ∧
      (tree.same Sample.profile = false ∨ Context.Noted context busy.context) := by
  intro context idle busy typing
  constructor
  · have fetched : (Typing.fetch Store.catalog (Reads.ofExpr Sample.called)
        (context.bind Context.team) Store.empty).result = .ok .empty := rfl
    have done : Rules.Done ⟨"UTC", .empty⟩ Sample.called := Rules.done_iff.mpr ⟨rfl, rfl⟩
    have renewed : idle.result = .ok (.coerced Sample.called) := rfl
    obtain ⟨outcome, result, -, acts⟩ :=
      new_tree_acts_unless_done Store.catalog context Sample.called Store.empty .empty fetched
    cases renewed.symm.trans result
    refine ⟨fetched, renewed, done, ?_⟩
    intro acted
    exact (acts Sample.called rfl).1.mp acted done
  · have fetched : (Typing.fetch Store.catalog (Reads.ofExpr Sample.profile)
        (context.bind Context.team) Sample.profiles).result = .ok typing := rfl
    have undone : ¬ Rules.Done ⟨"UTC", typing⟩ Sample.profile := by
      intro done
      have told : (Rules.reports ⟨"UTC", typing⟩ Sample.profile).length = 2 := rfl
      rw [(Rules.done_iff.mp done).2] at told
      cases told
    obtain ⟨outcome, result, -, acts⟩ :=
      new_tree_acts_unless_done Store.catalog context Sample.profile Sample.profiles typing fetched
    cases outcome with
    | unchanged => cases result
    | coerced tree => exact ⟨fetched, undone, tree, result, (acts tree rfl).1.mpr undone⟩

/-- Not every new tree differs from the one before or comes with notices. -/
theorem not_every_new_tree_acts :
    ¬ ∀ (store : Store) (context : Option Context) (e tree : Expr),
      (Pass.run Store.catalog context e store).result = .ok (.coerced tree) →
        tree.same e = false ∨
          Context.Noted context (Pass.run Store.catalog context e store).context := by
  intro acts
  let context : Option Context := some ⟨some 7, none, []⟩
  rcases acts .empty context Sample.called Sample.called rfl with differs | noted
  · rw [Expr.same_refl] at differs
    cases differs
  · have unreported : Rules.reports ⟨"UTC", .empty⟩ Sample.called = [] := rfl
    have fetched : (Typing.fetch Store.catalog (Reads.ofExpr Sample.called)
        (context.bind Context.team) Store.empty).result = .ok .empty := rfl
    exact (Pass.noted_iff fetched).mp noted unreported

end QueryCoercion
