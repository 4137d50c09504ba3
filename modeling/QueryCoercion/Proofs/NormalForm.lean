import QueryCoercion.Proofs.TypedReads

namespace QueryCoercion

namespace Rules

/-- A date and time column, or a read of a property whose kind has a conversion. -/
def Coercible (r : Rules) (f : Field) : Prop :=
  f.isDateTime = true ∨
    ∃ p scope name kind, f.property? = some p ∧ p.classify? = some (scope, name) ∧
      r.typing.get? scope name = some kind ∧
      (kind = .numeric ∨ kind = .dateTime ∨ kind = .boolean)

/-- The node is exactly the wrapper that the field is to stand in, whatever its spans. -/
inductive Wraps (r : Rules) (f : Field) : Expr → Prop where
  | timestamp (dated : f.isDateTime = true) (span inner : Option Span) :
      Wraps r f (.call "toTimeZone" [.field f, .constant (.string r.timezone) inner] span)
  | read {p : PropertyRef} {scope : Scope} {name : String} {kind : Kind} {node : Expr}
      (bound : f.property? = some p) (about : p.classify? = some (scope, name))
      (typed : r.typing.get? scope name = some kind) (converted : Converted kind f node) :
      Wraps r f node

/-- Every field that is to be coerced stands in its wrapper, wherever it occurs. -/
structure Normal (r : Rules) (e : Expr) : Prop where
  wrapped : ∀ i f, e.leaves[i]? = some f → r.Coercible f →
    ∃ node, Expr.Within node i e ∧ r.Wraps f node
  nowhereElse : ∀ f, r.Coercible f → e ≠ .field f ∧
    ∀ node i, Expr.Within node i e → .field f ∈ node.children → r.Wraps f node

theorem coercible_iff {r : Rules} {f : Field} :
    r.Coercible f ↔ ∃ c, r.coercion? f = some c := by
  constructor
  · rintro (dated | ⟨p, scope, name, kind, bound, about, typed, convertible⟩)
    · exact ⟨_, r.coercion?_of_isDateTime dated⟩
    · obtain ⟨c, made⟩ := Coercion.ofKind?_of_convertible convertible
      refine ⟨c, ?_⟩
      rw [coercion?_of_classify bound about, typed, Option.bind_some, made]
  · rintro ⟨c, given⟩
    rcases coercion?_cases given with ⟨dated, -⟩ | ⟨p, scope, name, kind, bound, about, typed, made⟩
    · exact .inl dated
    · refine .inr ⟨p, scope, name, kind, bound, about, typed, ?_⟩
      cases kind <;> simp_all [Coercion.ofKind?]

theorem wraps_iff {r : Rules} {f : Field} {node : Expr} :
    r.Wraps f node ↔ ∃ c, Coercion.Around c f node ∧ r.coercion? f = some c := by
  constructor
  · rintro (⟨dated, span, inner⟩ | ⟨bound, about, typed, converted⟩)
    · exact ⟨_, .toTimeZone _ f span inner, r.coercion?_of_isDateTime dated⟩
    · have given := r.coercion?_of_classify bound about
      rw [typed, Option.bind_some] at given
      cases converted with
      | numeric _ span => exact ⟨_, .toFloat f span, given⟩
      | dateTime _ span => exact ⟨_, .toDateTime f span, given⟩
      | boolean _ span inner => exact ⟨_, .isTrue f span inner, given⟩
  · rintro ⟨c, around, given⟩
    rcases coercion?_cases given with
      ⟨dated, rfl⟩ | ⟨p, scope, name, kind, bound, about, typed, made⟩
    · cases around
      exact .timestamp dated _ _
    · exact .read bound about typed (.of_around made around)

/-- A tree in which no field is left to be coerced, by its nodes. -/
inductive Settled (r : Rules) : Expr → Prop where
  | alone {f : Field} (silent : r.coercion? f = none) : Settled r (.field f)
  | wrapped {c : Coercion} {f : Field} {e : Expr} (around : Coercion.Around c f e)
      (given : r.coercion? f = some c) : Settled r e
  | node {e : Expr} (inner : e.field? = none) (below : ∀ c ∈ e.children, Settled r c) :
      Settled r e

variable {r : Rules} {e : Expr}

theorem settled_rewrite (r : Rules) (e : Expr) : r.Settled (r.rewrite e) := by
  induction e using Expr.byNodes with
  | field f =>
    rw [rewrite_field]
    cases given : r.coercion? f with
    | none =>
      rw [coerce_of_none given]
      exact .alone given
    | some c =>
      rw [coerce_of_some given]
      exact .wrapped (.wrap c f) given
  | node e inner ih =>
    by_cases done : r.isCoerced e = true
    · obtain ⟨c, f, around, given⟩ := isCoerced_iff.mp done
      rw [rewrite_coerced done]
      exact .wrapped around given
    · rw [rewrite_node inner (Bool.eq_false_iff.mpr done)]
      apply Settled.node (Expr.inner_mapChildren _ inner)
      intro c member
      rw [Expr.children_mapChildren, List.mem_map] at member
      obtain ⟨before, child, rfl⟩ := member
      exact ih before child

theorem Settled.rewrite_eq (settled : r.Settled e) : r.rewrite e = e := by
  induction settled with
  | alone silent => rw [rewrite_field, coerce_of_none silent]
  | wrapped around given => exact rewrite_coerced (isCoerced_iff.mpr ⟨_, _, around, given⟩)
  | node inner below ih =>
    rcases r.rewrite_node_cases inner with same | ⟨-, rebuilt⟩
    · exact same
    · rw [rebuilt]
      exact Expr.mapChildren_id ih

theorem Settled.silent {f : Field} (settled : r.Settled (.field f)) : r.coercion? f = none := by
  cases settled with
  | alone silent => exact silent
  | wrapped around given => cases around
  | node inner below => cases inner

/-- Of all nodes of a settled tree only fields can be unsettled: those in their wrappers. -/
theorem Settled.of_within {node c : Expr} {i : Nat} (settled : r.Settled e)
    (within : Expr.Within node i e) (child : c ∈ node.children) : r.Settled node := by
  induction within with
  | here => exact settled
  | @under e x before after n split deeper ih =>
    have member : x ∈ e.children := by simp [split]
    cases settled with
    | alone silent => simp [Expr.children] at member
    | node inner below => exact ih (below x member)
    | wrapped around given =>
      -- below the wrapper there is nothing that has children
      have childless : x.children = [] := by
        rcases around.mem_children member with rfl | ⟨value, span, rfl⟩
        · rfl
        · rfl
      rw [deeper.eq_of_childless childless, childless] at child
      cases child

theorem Settled.around_of_child {f : Field} {c : Coercion} (settled : r.Settled e)
    (child : .field f ∈ e.children) (given : r.coercion? f = some c) :
    Coercion.Around c f e := by
  cases settled with
  | alone silent => simp [Expr.children] at child
  | node inner below =>
    have silent := (below _ child).silent
    simp [silent] at given
  | @wrapped d g _ around asked =>
    rcases around.mem_children child with same | ⟨value, span, constant⟩
    · cases same
      rw [asked] at given
      cases given
      exact around
    · cases constant

theorem normal_rewrite (r : Rules) (e : Expr) : r.Normal (r.rewrite e) where
  wrapped := by
    intro i f leaf coercible
    obtain ⟨c, given⟩ := coercible_iff.mp coercible
    rw [leaves_rewrite] at leaf
    obtain ⟨node, within, around⟩ := within_rewrite_of_some leaf given
    exact ⟨node, within, wraps_iff.mpr ⟨c, around, given⟩⟩
  nowhereElse := by
    intro f coercible
    obtain ⟨c, given⟩ := coercible_iff.mp coercible
    have settled := r.settled_rewrite e
    constructor
    · intro bare
      rw [bare] at settled
      simp [settled.silent] at given
    · intro node i within child
      have around := (settled.of_within within child).around_of_child child given
      exact wraps_iff.mpr ⟨c, around, given⟩

theorem settled_of_placed (root : ∀ f, r.Coercible f → e ≠ .field f)
    (inside : ∀ f, r.Coercible f → ∀ node i, Expr.Within node i e → .field f ∈ node.children →
      r.Wraps f node) : r.Settled e := by
  induction e using Expr.byNodes with
  | field f =>
    apply Settled.alone
    rw [Option.eq_none_iff_forall_ne_some]
    intro c given
    exact root f (coercible_iff.mpr ⟨c, given⟩) rfl
  | node e inner ih =>
    by_cases here : ∃ f, r.Coercible f ∧ .field f ∈ e.children
    · obtain ⟨f, coercible, child⟩ := here
      obtain ⟨c, around, given⟩ := wraps_iff.mp (inside f coercible e 0 .here child)
      exact .wrapped around given
    · apply Settled.node inner
      intro x member
      apply ih x member
      · rintro f coercible rfl
        exact here ⟨f, coercible, member⟩
      · intro f coercible node i within child
        obtain ⟨before, after, split⟩ := List.append_of_mem member
        exact inside f coercible node _ (.under split within) child

end Rules

/-- Whatever is coerced comes out in normal form, and it comes out as it was exactly when it
was in normal form. -/
theorem run_gives_normal_form (r : Rules) (log : Option (List Notice)) (e : Expr) :
    r.Normal (r.run log e).tree ∧ ((r.run log e).tree = e ↔ r.Normal e) := by
  rw [r.run_tree]
  have normal := r.normal_rewrite e
  refine ⟨normal, ?_, ?_⟩
  · intro same
    rwa [same] at normal
  · intro normal
    have settled : r.Settled e := Rules.settled_of_placed
      (fun f coercible => (normal.nowhereElse f coercible).1)
      fun f coercible => (normal.nowhereElse f coercible).2
    exact settled.rewrite_eq

end QueryCoercion
