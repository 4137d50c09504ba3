import QueryCoercion.Proofs.Collected
import QueryCoercion.Proofs.Rewrite

/-!
The coercions spelled out, without rules and journal. A policy has a timezone and knows
the kinds of property reads. It says what stands in the place of a field and which nodes
are that already; the direct walk over a tree asks it at every field. Rules act as the
policy of their timezone and typing. What they put around fields can be taken off again.
-/
namespace QueryCoercion

structure Policy where
  timezone : String
  kind? : Field → Option Kind

namespace Policy

def leaf (p : Policy) (f : Field) : Expr :=
  if f.isDateTime then .call "toTimeZone" [.field f, .constant (.string p.timezone) none] none
  else
    match p.kind? f with
    | some .numeric => .call "toFloat" [.field f] none
    | some .dateTime => .call "toDateTime" [.field f] none
    | some .boolean => .binary (.field f) (.comparison .eq) (.constant (.string "true") none) none
    | some .string => .field f
    | some .unknown => .field f
    | none => .field f

/-- The field of a node that is what stands in the place of this field, but for the
spans of the node and of its constant. -/
def inner? (p : Policy) : Expr → Option Field
  | .call name [.field f] _ =>
    if name = "toFloat" ∧ p.kind? f = some .numeric then some f
    else if name = "toDateTime" ∧ p.kind? f = some .dateTime then some f
    else none
  | .call name [.field f, .constant (.string timezone) _] _ =>
    if name = "toTimeZone" ∧ f.isDateTime ∧ timezone = p.timezone then some f else none
  | .binary (.field f) (.comparison .eq) (.constant (.string text) _) _ =>
    if p.kind? f = some .boolean ∧ text = "true" then some f else none
  | _ => none

/-- Goes over a tree once, copies the nodes that are already done and puts in the place
of every other field what the policy says. -/
def walk (p : Policy) : Expr → Expr := Expr.walk (fun e => (p.inner? e).isSome) p.leaf

/-- Takes off again what the policy puts around fields. -/
def erase (p : Policy) : Expr → Expr := Expr.strip p.inner?

theorem inner?_congr {p q : Policy} (zone : p.timezone = q.timezone) {e : Expr}
    (kinds : ∀ f ∈ e.leaves, p.kind? f = q.kind? f) : p.inner? e = q.inner? e := by
  unfold inner?
  split <;> simp_all [Expr.leaves, Expr.leavesAll]

theorem leaf_congr {p q : Policy} (zone : p.timezone = q.timezone) {f : Field}
    (kinds : p.kind? f = q.kind? f) : p.leaf f = q.leaf f := by
  simp only [leaf, zone, kinds]

theorem walk_congr {p q : Policy} (zone : p.timezone = q.timezone) {e : Expr}
    (kinds : ∀ f ∈ e.leaves, p.kind? f = q.kind? f) : p.walk e = q.walk e := by
  apply Expr.walk_congr
  · intro f member
    exact leaf_congr zone (kinds f member)
  · intro n among
    rw [inner?_congr zone fun f member => kinds f (among f member)]

end Policy

theorem Field.isDateTime_of_property? {f : Field} {p : PropertyRef}
    (bound : f.property? = some p) : f.isDateTime = false := by
  cases binding : f.binding with
  | none => simp [isDateTime, binding]
  | some b =>
    cases b with
    | column ref => simp [property?, binding, Binding.property?] at bound
    | property ref => simp [isDateTime, binding, Binding.isDateTime]

theorem Field.property?_of_isDateTime {f : Field} (dated : f.isDateTime = true) :
    f.property? = none := by
  cases bound : f.property? with
  | none => rfl
  | some p => simp [isDateTime_of_property? bound] at dated

namespace Rules

def policy (r : Rules) : Policy := ⟨r.timezone, fun f => (r.read? f).map Prod.snd⟩

theorem kind?_of_isDateTime (r : Rules) {f : Field} (dated : f.isDateTime = true) :
    r.policy.kind? f = none := by
  simp [policy, read?, Field.property?_of_isDateTime dated]

theorem coercion?_of_read {r : Rules} {f : Field} {read : String × Kind}
    (given : r.read? f = some read) : r.coercion? f = Coercion.ofKind? read.2 := by
  have undated : f.isDateTime = false := by
    cases dated : f.isDateTime with
    | false => rfl
    | true => simp [read?, Field.property?_of_isDateTime dated] at given
  simp [coercion?, undated, given]

theorem coercion?_of_isDateTime (r : Rules) {f : Field} (dated : f.isDateTime = true) :
    r.coercion? f = some (.toTimeZone r.timezone) := by
  simp [coercion?, dated]

theorem isDateTime_of_silent {r : Rules} {f : Field} (silent : r.coercion? f = none) :
    f.isDateTime = false := by
  cases dated : f.isDateTime with
  | false => rfl
  | true => simp [r.coercion?_of_isDateTime dated] at silent

theorem read?_cases {r : Rules} {f : Field} {read : String × Kind} (given : r.read? f = some read) :
    ∃ p scope, f.property? = some p ∧ p.classify? = some (scope, read.1) ∧
      r.typing.get? scope read.1 = some read.2 := by
  unfold read? at given
  split at given
  · rename_i p bound
    split at given
    · rename_i scope name about
      obtain ⟨kind, typed, rfl⟩ := Option.map_eq_some_iff.mp given
      exact ⟨p, scope, bound, about, typed⟩
    · cases given
  · cases given

theorem report?_eq_some_iff {r : Rules} {f : Field} {x : Report} :
    r.report? f = some x ↔ x.field = f ∧ ∃ p scope, f.property? = some p ∧
      p.classify? = some (scope, x.name) ∧ r.typing.get? scope x.name = some x.kind := by
  constructor
  · intro known
    obtain ⟨read, given, rfl⟩ := Option.map_eq_some_iff.mp known
    exact ⟨rfl, read?_cases given⟩
  · rintro ⟨rfl, p, scope, bound, about, typed⟩
    simp [report?, read?, bound, about, typed]

/-- A coercion comes from the timezone, or from the kind of a property. -/
theorem coercion?_cases {r : Rules} {f : Field} {c : Coercion} (given : r.coercion? f = some c) :
    f.isDateTime = true ∧ c = .toTimeZone r.timezone ∨
    ∃ p scope name kind, f.property? = some p ∧ p.classify? = some (scope, name) ∧
      r.typing.get? scope name = some kind ∧ Coercion.ofKind? kind = some c := by
  by_cases dated : f.isDateTime = true
  · rw [r.coercion?_of_isDateTime dated] at given
    exact .inl ⟨dated, (Option.some.inj given).symm⟩
  · simp only [coercion?, dated, Bool.false_eq_true, if_false, Option.bind_eq_some_iff] at given
    obtain ⟨⟨name, kind⟩, read, made⟩ := given
    obtain ⟨p, scope, bound, about, typed⟩ := read?_cases read
    exact .inr ⟨p, scope, name, kind, bound, about, typed, made⟩

theorem coercion?_eq (r : Rules) (f : Field) :
    r.coercion? f = if f.isDateTime then some (.toTimeZone r.timezone)
      else (r.policy.kind? f).bind Coercion.ofKind? := by
  cases given : r.read? f <;> simp [coercion?, policy, given]

theorem coerce_eq_leaf (r : Rules) (f : Field) : r.coerce f = r.policy.leaf f := by
  unfold coerce Policy.leaf
  rw [coercion?_eq]
  cases dated : f.isDateTime with
  | true => rfl
  | false =>
    cases r.policy.kind? f with
    | none => rfl
    | some kind => cases kind <;> rfl

theorem coercion?_eq_iff_kind {r : Rules} {f : Field} (kind : Kind) {c : Coercion}
    (made : Coercion.ofKind? kind = some c) :
    r.coercion? f = some c ↔ r.policy.kind? f = some kind := by
  rw [coercion?_eq]
  cases dated : f.isDateTime with
  | true =>
    rw [kind?_of_isDateTime r dated]
    cases kind <;> cases made <;> simp
  | false =>
    cases r.policy.kind? f with
    | none => simp
    | some other => cases kind <;> cases made <;> cases other <;> simp [Coercion.ofKind?]

theorem coercion?_eq_toTimeZone_iff {r : Rules} {f : Field} {timezone : String} :
    r.coercion? f = some (.toTimeZone timezone) ↔ f.isDateTime ∧ timezone = r.timezone := by
  rw [coercion?_eq]
  cases dated : f.isDateTime with
  | true => simp [eq_comm]
  | false =>
    cases r.policy.kind? f with
    | none => simp
    | some kind => cases kind <;> simp [Coercion.ofKind?]

theorem inner?_eq_some_iff {r : Rules} {e : Expr} {f : Field} :
    r.policy.inner? e = some f ↔ ∃ c, Coercion.Around c f e ∧ r.coercion? f = some c := by
  constructor
  · intro found
    unfold Policy.inner? at found
    split at found
    · split at found
      · rename_i given
        cases found
        exact ⟨.toFloat, given.1 ▸ .toFloat _ _, (coercion?_eq_iff_kind _ rfl).mpr given.2⟩
      · split at found
        · rename_i given
          cases found
          exact ⟨.toDateTime, given.1 ▸ .toDateTime _ _, (coercion?_eq_iff_kind _ rfl).mpr given.2⟩
        · cases found
    · split at found
      · rename_i given
        cases found
        exact ⟨_, given.1 ▸ .toTimeZone _ _ _ _, coercion?_eq_toTimeZone_iff.mpr given.2⟩
      · cases found
    · split at found
      · rename_i given
        cases found
        exact ⟨.isTrue, given.2 ▸ .isTrue _ _ _, (coercion?_eq_iff_kind _ rfl).mpr given.1⟩
      · cases found
    · cases found
  · rintro ⟨c, around, given⟩
    cases around with
    | toFloat span =>
      have kind := (coercion?_eq_iff_kind .numeric rfl).mp given
      simp [Policy.inner?, kind]
    | toDateTime span =>
      have kind := (coercion?_eq_iff_kind .dateTime rfl).mp given
      simp [Policy.inner?, kind]
    | isTrue span inner =>
      have kind := (coercion?_eq_iff_kind .boolean rfl).mp given
      simp [Policy.inner?, kind]
    | toTimeZone timezone span inner =>
      obtain ⟨dated, rfl⟩ := coercion?_eq_toTimeZone_iff.mp given
      simp [Policy.inner?, dated, policy]

theorem coerced?_eq_inner? (r : Rules) (e : Expr) : r.coerced? e = r.policy.inner? e := by
  apply Option.ext
  intro f
  rw [coerced?_eq_some_iff, inner?_eq_some_iff]

theorem rewrite_eq_walk (r : Rules) (e : Expr) : r.rewrite e = r.policy.walk e := by
  have kept : r.isCoerced = fun e => (r.policy.inner? e).isSome := by
    funext e
    rw [isCoerced, coerced?_eq_inner?]
  have leaf : r.coerce = r.policy.leaf := funext r.coerce_eq_leaf
  rw [rewrite, Policy.walk, kept, leaf]

theorem leaves_rewrite (r : Rules) (e : Expr) : (r.rewrite e).leaves = e.leaves :=
  Expr.leaves_walk r.leaves_coerce e

theorem reads_rewrite (r : Rules) (e : Expr) : Reads.ofExpr (r.rewrite e) = Reads.ofExpr e := by
  rw [Reads.ofExpr, Reads.ofExpr, Reads.collect_eq, Reads.collect_eq, leaves_rewrite]

theorem erase_of_coerced {r : Rules} {e : Expr} {c : Coercion} {f : Field}
    (around : Coercion.Around c f e) (given : r.coercion? f = some c) :
    r.policy.erase e = .field f :=
  Expr.strip_given _ around.field? (inner?_eq_some_iff.mpr ⟨c, around, given⟩)

theorem erase_of_fresh {r : Rules} {e : Expr} (inner : e.field? = none)
    (fresh : r.isCoerced e = false) : r.policy.erase e = e.mapChildren r.policy.erase := by
  have silent : r.policy.inner? e = none := by
    rw [← coerced?_eq_inner?]
    exact Option.isSome_eq_false_iff.mp fresh |> Option.isNone_iff_eq_none.mp
  exact Expr.strip_silent _ inner silent

theorem erase_rewrite (r : Rules) (e : Expr) :
    r.policy.erase (r.rewrite e) = r.policy.erase e := by
  induction e using Expr.byNodes with
  | field f =>
    rw [rewrite_field]
    cases given : r.coercion? f with
    | none => rw [coerce_of_none given]
    | some c =>
      rw [coerce_of_some given, erase_of_coerced (.wrap c f) given, Policy.erase, Expr.strip_field]
  | node e inner ih =>
    rcases r.rewrite_cases inner with done | ⟨c, f, -, -, same⟩ | ⟨fresh, rebuilt, bare, -⟩
    · rw [rewrite_coerced done]
    · rw [same]
    · have inner' := Expr.inner_mapChildren r.rewrite inner
      rw [rebuilt, erase_of_fresh inner' (isCoerced_of_shapeless bare), erase_of_fresh inner fresh,
        Expr.mapChildren_mapChildren]
      exact Expr.mapChildren_congr ih

end Rules

/-- Whatever is coerced under whatever timezone and typing, taking the coercions off gives
what it gives for the tree before; the fields are the same from left to right, and so are
the names and the timestamps that are read off them. -/
theorem run_only_wraps_fields (r : Rules) (log : Option (List Notice)) (e : Expr) :
    r.policy.erase (r.run log e).tree = r.policy.erase e ∧
    (r.run log e).tree.leaves = e.leaves ∧
    Reads.ofExpr (r.run log e).tree = Reads.ofExpr e := by
  rw [r.run_tree]
  exact ⟨r.erase_rewrite e, r.leaves_rewrite e, r.reads_rewrite e⟩

end QueryCoercion
