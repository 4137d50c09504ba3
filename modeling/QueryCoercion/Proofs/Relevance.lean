import QueryCoercion.Proofs.Notices
import QueryCoercion.Proofs.Rewrite

namespace QueryCoercion

theorem PropertyRef.path_of_classify {p : PropertyRef} {scope : Scope} {name : String}
    (about : p.classify? = some (scope, name)) : p.path = [name] :=
  (classify?_eq_some_iff.mp about).1

namespace Rules

variable {r r' : Rules}

theorem read?_of_property {f : Field} (agree : ∀ p scope name, f.property? = some p →
      p.classify? = some (scope, name) → r.typing.get? scope name = r'.typing.get? scope name) :
    r.read? f = r'.read? f := by
  unfold read?
  split
  · rename_i p bound
    split
    · rename_i scope name about
      rw [agree p scope name bound about]
    · rfl
  · rfl

theorem settle_congr (zone : r.timezone = r'.timezone) {s : Seat}
    (read : r.read? s.field = r'.read? s.field) : r.settle s = r'.settle s := by
  simp only [settle, coercion?_congr zone read]

theorem loose?_congr (zone : r.timezone = r'.timezone) {s : Seat}
    (read : r.read? s.field = r'.read? s.field) : r.loose? s = r'.loose? s := by
  simp only [loose?, coercion?_congr zone read]

/-- What comes to stand around the field at a place depends on the answer for this field. -/
theorem around_run_congr (zone : r.timezone = r'.timezone) {e : Expr} {i : Nat} {f : Field}
    (leaf : e.leaves[i]? = some f) (read : r.read? f = r'.read? f)
    (log : Option (List Notice)) (c : Coercion) :
    (∃ node, Expr.Within node i (r.run log e).tree ∧ Coercion.Around c f node) ↔
      ∃ node, Expr.Within node i (r'.run log e).tree ∧ Coercion.Around c f node := by
  obtain ⟨around, seat⟩ := seat_of_leaf leaf
  have settled : r.settle ⟨f, around⟩ = r'.settle ⟨f, around⟩ := settle_congr zone read
  rw [Expr.within_around_iff, Expr.within_around_iff, run_tree, run_tree, seats_rewrite,
    seats_rewrite, List.getElem?_map, List.getElem?_map, seat, Option.map_some, Option.map_some,
    settled]

theorem tells_congr (zone : r.timezone = r'.timezone) {e : Expr} {i : Nat} {f : Field}
    (leaf : e.leaves[i]? = some f) (read : r.read? f = r'.read? f) (x : Report) :
    r.Tells e i x ↔ r'.Tells e i x := by
  obtain ⟨around, seat⟩ := seat_of_leaf leaf
  have loose : r.loose? ⟨f, around⟩ = r'.loose? ⟨f, around⟩ := loose?_congr zone read
  have known : r.report? f = r'.report? f := by rw [report?, report?, read]
  rw [tells_iff, tells_iff, seat]
  simp only [Option.some.injEq, exists_eq_left', loose]
  cases found : r'.loose? ⟨f, around⟩ with
  | none => rfl
  | some g =>
    have same : f = g := field_of_loose? found
    rw [← same, Option.bind_some, Option.bind_some, known]

end Rules

/-- Two typings give the same run over a tree, its tree, notices and events, if they answer
alike for every property in its scope that a field of the tree is about. This is so in
particular if they only differ in names that the tree has in longer paths, if at all. And each
single read is wrapped and reported alike if they answer alike for its property in its scope,
whatever they know about the same name in the other scope and about the other reads. -/
theorem run_depends_on_kinds_of_reads (timezone : String) (t u : Typing)
    (log : Option (List Notice)) (e : Expr) :
    let first := Rules.run ⟨timezone, t⟩ log e
    let second := Rules.run ⟨timezone, u⟩ log e
    ((∀ f ∈ e.leaves, ∀ p scope name, f.property? = some p → p.classify? = some (scope, name) →
      t.get? scope name = u.get? scope name) → first = second) ∧
    ((∀ scope name, t.get? scope name ≠ u.get? scope name → ∀ f ∈ e.leaves, ∀ p,
      f.property? = some p → name ∈ p.path → 2 ≤ p.path.length) → first = second) ∧
    ∀ i f p scope name, e.leaves[i]? = some f → f.property? = some p →
      p.classify? = some (scope, name) → t.get? scope name = u.get? scope name →
      (∀ c, (∃ node, Expr.Within node i first.tree ∧ Coercion.Around c f node) ↔
        ∃ node, Expr.Within node i second.tree ∧ Coercion.Around c f node) ∧
      ∀ x, Rules.Tells ⟨timezone, t⟩ e i x ↔ Rules.Tells ⟨timezone, u⟩ e i x := by
  intro first second
  have zone : Rules.timezone ⟨timezone, t⟩ = Rules.timezone ⟨timezone, u⟩ := rfl
  have alike (agree : ∀ f ∈ e.leaves, ∀ p scope name, f.property? = some p →
      p.classify? = some (scope, name) → t.get? scope name = u.get? scope name) :
      first = second :=
    Rules.run_congr zone (fun f leaf => Rules.read?_of_property (agree f leaf)) log
  refine ⟨alike, ?_, ?_⟩
  · intro unread
    apply alike
    intro f leaf p scope name bound about
    by_contra differs
    -- what a field is about stands alone in its path, so it is not among the names that differ
    have only := PropertyRef.path_of_classify about
    have long := unread scope name differs f leaf p bound (by simp [only])
    simp [only] at long
  · intro i f p scope name leaf bound about same
    have read : Rules.read? ⟨timezone, t⟩ f = Rules.read? ⟨timezone, u⟩ f := by
      apply Rules.read?_of_property
      intro _ _ _ bound' about'
      cases bound.symm.trans bound'
      cases about.symm.trans about'
      exact same
    exact ⟨Rules.around_run_congr zone leaf read log, Rules.tells_congr zone leaf read⟩

namespace Sample

/-- The plan of the person on an event. -/
def personPlan : Field := read (.virtual "poe" events) "properties" "plan"

/-- The plan of the event beside it, and a longer path with this name. -/
def bothPlans : Expr :=
  .group .tuple [.field personPlan, .field (read events "properties" "plan"),
    .field ⟨["properties", "cart", "plan"],
      some (.property ⟨["cart", "plan"], "properties", events⟩), none⟩]

def plans : Typing := ⟨.ofList [("plan", .boolean)], .ofList [("plan", .numeric)]⟩

def plansAndCarts : Typing :=
  ⟨.ofList [("cart", .numeric), ("plan", .boolean)], plans.person⟩

def personPlans : Typing := ⟨.empty, plans.person⟩

end Sample

theorem plans_apart_from_carts_and_events :
    (∀ log, Rules.run ⟨"UTC", Sample.plans⟩ log (.field Sample.personPlan) =
      Rules.run ⟨"UTC", Sample.personPlans⟩ log (.field Sample.personPlan)) ∧
    (∀ log, Rules.run ⟨"UTC", Sample.plans⟩ log Sample.bothPlans =
      Rules.run ⟨"UTC", Sample.plansAndCarts⟩ log Sample.bothPlans) ∧
    ∀ c, (∃ node, Expr.Within node 0 (Rules.run ⟨"UTC", Sample.plans⟩ none Sample.bothPlans).tree ∧
        Coercion.Around c Sample.personPlan node) ↔
      ∃ node, Expr.Within node 0 (Rules.run ⟨"UTC", Sample.personPlans⟩ none Sample.bothPlans).tree ∧
        Coercion.Around c Sample.personPlan node := by
  have about : PropertyRef.classify? ⟨["plan"], "properties", .virtual "poe" Sample.events⟩ =
      some (.person, "plan") := by decide
  refine ⟨?_, ?_, ?_⟩
  · intro log
    apply (run_depends_on_kinds_of_reads "UTC" Sample.plans Sample.personPlans log _).1
    intro f leaf p scope name bound classified
    cases List.mem_singleton.mp leaf
    cases bound
    cases about.symm.trans classified
    rfl
  · intro log
    apply (run_depends_on_kinds_of_reads "UTC" Sample.plans Sample.plansAndCarts log _).2.1
    intro scope name differs f leaf p bound inside
    have cart : name = "cart" := by
      by_contra other
      cases scope with
      | event =>
        apply differs
        change findEntry name [("plan", Kind.boolean)] =
          findEntry name [("cart", Kind.numeric), ("plan", Kind.boolean)]
        simp [findEntry, Ne.symm other]
      | person => exact differs rfl
    subst cart
    have fields : f ∈ [Sample.personPlan, Sample.read Sample.events "properties" "plan",
        ⟨["properties", "cart", "plan"],
          some (.property ⟨["cart", "plan"], "properties", Sample.events⟩), none⟩] := leaf
    simp only [List.mem_cons, List.not_mem_nil, or_false] at fields
    rcases fields with rfl | rfl | rfl <;> cases bound
    · exact absurd inside (by decide)
    · exact absurd inside (by decide)
    · decide
  · exact ((run_depends_on_kinds_of_reads "UTC" Sample.plans Sample.personPlans none
      Sample.bothPlans).2.2 0 Sample.personPlan _ .person "plan" rfl rfl about rfl).1

end QueryCoercion
