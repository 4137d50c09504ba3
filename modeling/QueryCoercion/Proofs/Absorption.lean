import QueryCoercion.Proofs.Repetition
import QueryCoercion.Proofs.TypedReads

namespace QueryCoercion

namespace Typing

/-- Another typing knows at least the same kinds, in either scope. -/
def Extends (t u : Typing) : Prop :=
  ∀ scope name kind, t.get? scope name = some kind → u.get? scope name = some kind

/-- What is known about the property that a field reads. -/
def kindOf? (t : Typing) (f : Field) : Option Kind :=
  (f.property?.bind PropertyRef.classify?).bind fun read => t.get? read.1 read.2

/-- Whether a read is left without a wrapper, for want of a kind or of a conversion. -/
def spares (t : Typing) (f : Field) : Bool :=
  match t.kindOf? f with
  | none => true
  | some .string => true
  | some .unknown => true
  | some .numeric => false
  | some .dateTime => false
  | some .boolean => false

theorem Extends.rules {t u : Typing} (more : t.Extends u) (timezone : String) :
    Rules.Extends ⟨timezone, t⟩ ⟨timezone, u⟩ := by
  intro f c given
  rcases Rules.coercion?_cases given with
    ⟨dated, rfl⟩ | ⟨p, scope, name, kind, bound, about, typed, made⟩
  · exact Rules.coercion?_of_isDateTime _ dated
  · have kept : u.get? scope name = some kind := more scope name kind typed
    rw [Rules.coercion?_of_classify bound about, kept, Option.bind_some, made]

theorem spares_eq {timezone : String} {t : Typing} {f : Field} {p : PropertyRef}
    (bound : f.property? = some p) {scope : Scope} {name : String}
    (about : p.classify? = some (scope, name)) :
    t.spares f = (Rules.coercion? ⟨timezone, t⟩ f).isNone := by
  have known : t.kindOf? f = t.get? scope name := by simp [kindOf?, bound, about]
  rw [Rules.coercion?_of_classify bound about, spares, known]
  cases t.get? scope name with
  | none => rfl
  | some kind => cases kind <;> rfl

end Typing

theorem Rules.property_of_report {r : Rules} {e : Expr} {x : Report} (reported : x ∈ r.reports e) :
    ∃ p scope, x.field.property? = some p ∧ p.classify? = some (scope, x.name) := by
  obtain ⟨f, -, known⟩ := List.mem_filterMap.mp reported
  obtain ⟨rfl, p, scope, bound, about, -⟩ := Rules.report?_eq_some_iff.mp known
  exact ⟨p, scope, bound, about⟩

/-- Coercing by a typing and then by one that extends it, in one timezone: the tree is that of
coercing by the second typing alone. The notices of the second run are those that the second
typing has for the tree before, in their order and without those about reads that the first
typing had wrapped. -/
theorem later_typing_absorbs_earlier (timezone : String) (t u : Typing) (more : t.Extends u)
    (e : Expr) (early log : Option (List Notice)) :
    let first := Rules.run ⟨timezone, t⟩ early e
    let second := Rules.run ⟨timezone, u⟩ log first.tree
    let direct := Rules.run ⟨timezone, u⟩ log e
    let reports := Rules.reports ⟨timezone, u⟩ e
    second.tree = direct.tree ∧
    direct.log = log.map (· ++ reports.map Report.notice) ∧
    second.log =
      log.map (· ++ (reports.filter fun x => t.spares x.field).map Report.notice) := by
  intro first second direct reports
  have extended := more.rules timezone
  have tree : first.tree = Rules.rewrite ⟨timezone, t⟩ e := Rules.run_tree _ _ _
  have spared : Rules.reports ⟨timezone, u⟩ first.tree =
      reports.filter fun x => t.spares x.field := by
    rw [tree, Rules.reports_rewrite_of_extends extended]
    apply List.filter_congr
    intro x reported
    obtain ⟨p, scope, bound, about⟩ := Rules.property_of_report reported
    exact (Typing.spares_eq bound about).symm
  refine ⟨?_, Rules.run_log _ _ _, ?_⟩
  · calc
      second.tree = Rules.rewrite ⟨timezone, u⟩ first.tree := Rules.run_tree _ _ _
      _ = Rules.rewrite ⟨timezone, u⟩ (Rules.rewrite ⟨timezone, t⟩ e) := by rw [tree]
      _ = Rules.rewrite ⟨timezone, u⟩ e := Rules.rewrite_rewrite extended e
      _ = direct.tree := (Rules.run_tree _ _ _).symm
  · rw [Rules.run_log, spared]

namespace Sample

def ages : Typing := ⟨.empty, .ofList [("age", .numeric), ("email", .string)]⟩

/-- Knows the events, too. -/
def agesAndVisits : Typing := ⟨.ofList [("returning", .boolean)], ages.person⟩

def survey : Expr :=
  .group .tuple [.call "toDateTime" [.field (read persons "properties" "age")] none,
    .field (read persons "properties" "email"),
    .field (read events "properties" "returning")]

end Sample

theorem visits_learned_after_survey :
    Sample.ages.Extends Sample.agesAndVisits ∧
    let first := Rules.run ⟨"UTC", Sample.ages⟩ none Sample.survey
    let second := Rules.run ⟨"UTC", Sample.agesAndVisits⟩ (some []) first.tree
    second.tree = (Rules.run ⟨"UTC", Sample.agesAndVisits⟩ (some []) Sample.survey).tree ∧
    second.log = some
      [⟨none, none, "Property 'email' is of type 'String'"⟩,
        ⟨none, none, "Property 'returning' is of type 'Boolean'"⟩] := by
  have more : Sample.ages.Extends Sample.agesAndVisits := by
    intro scope name kind known
    cases scope with
    | event => cases known
    | person => exact known
  obtain ⟨tree, -, log⟩ := later_typing_absorbs_earlier "UTC" Sample.ages Sample.agesAndVisits more
    Sample.survey none (some [])
  refine ⟨more, tree, log.trans ?_⟩
  decide

end QueryCoercion
