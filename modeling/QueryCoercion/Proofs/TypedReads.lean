import QueryCoercion.Proofs.DirectWalk
import QueryCoercion.Proofs.Seats

namespace QueryCoercion

/-- A node with the conversion of a kind directly around a field. -/
inductive Converted : Kind → Field → Expr → Prop where
  | numeric (f : Field) (span : Option Span) :
      Converted .numeric f (.call "toFloat" [.field f] span)
  | dateTime (f : Field) (span : Option Span) :
      Converted .dateTime f (.call "toDateTime" [.field f] span)
  | boolean (f : Field) (span inner : Option Span) :
      Converted .boolean f
        (.binary (.field f) (.comparison .eq) (.constant (.string "true") inner) span)

theorem Converted.of_around {kind : Kind} {c : Coercion} {f : Field} {e : Expr}
    (made : Coercion.ofKind? kind = some c) (around : Coercion.Around c f e) :
    Converted kind f e := by
  cases kind <;> cases made <;> cases around
  · exact .numeric f _
  · exact .boolean f _ _
  · exact .dateTime f _

theorem Coercion.ofKind?_of_convertible {kind : Kind}
    (convertible : kind = .numeric ∨ kind = .dateTime ∨ kind = .boolean) :
    ∃ c, ofKind? kind = some c := by
  rcases convertible with rfl | rfl | rfl <;> exact ⟨_, rfl⟩

theorem Rules.coercion?_of_classify {r : Rules} {f : Field} {p : PropertyRef} {scope : Scope}
    {name : String} (bound : f.property? = some p) (read : p.classify? = some (scope, name)) :
    r.coercion? f = (r.typing.get? scope name).bind Coercion.ofKind? := by
  cases found : r.typing.get? scope name with
  | none => simp [coercion?, Field.isDateTime_of_property? bound, read?, bound, read, found]
  | some kind =>
    have given : r.read? f = some (name, kind) := by simp [read?, bound, read, found]
    rw [coercion?_of_read given, Option.bind_some]

/-- The read at place `i` of the fields, whose last row has a kind with a conversion, stands
in this conversion after the pass if it is direct or there is a direct read of the same
name from a person. Otherwise a coercion stands around it only where one did before. -/
theorem typed_read_converted (store : Store) (team : Int64) (database : Option Database)
    (notices : List Notice) (e : Expr) (i : Nat) (f : Field) (p : PropertyRef) (scope : Scope)
    (name : String) (kind : Kind) (leaf : e.leaves[i]? = some f) (bound : f.property? = some p)
    (read : p.classify? = some (scope, name))
    (typed : Store.kind? store.rows team scope name = some kind)
    (convertible : kind = .numeric ∨ kind = .dateTime ∨ kind = .boolean) :
    ∃ outcome,
      (Pass.run Store.catalog (some ⟨some team, database, notices⟩) e store).result = .ok outcome ∧
      (outcome.tree e).leaves = e.leaves ∧
      ((p.isDirect ∨ ∃ g ∈ e.leaves, g.direct? = some (.person, name)) →
        ∃ node, Expr.Within node i (outcome.tree e) ∧ Converted kind f node) ∧
      (¬ (p.isDirect ∨ ∃ g ∈ e.leaves, g.direct? = some (.person, name)) →
        ∀ c node, Expr.Within node i (outcome.tree e) → Coercion.Around c f node →
          ∃ before, Expr.Within before i e ∧ Coercion.Around c f before) := by
  obtain ⟨r, outcome, result, tree, -, kinds⟩ := Pass.run_store store team database notices e
  have collected : name ∈ ((Reads.ofExpr e).names scope).names ↔
      (p.isDirect ∨ ∃ g ∈ e.leaves, g.direct? = some (.person, name)) := by
    rw [Reads.collected_iff (List.mem_of_getElem? leaf) bound read]
    simp
  have coercion := r.coercion?_of_classify bound read
  rw [kinds] at coercion
  refine ⟨outcome, result, by rw [tree, r.leaves_rewrite], ?_, ?_⟩
  · intro asked
    obtain ⟨c, made⟩ := Coercion.ofKind?_of_convertible convertible
    rw [if_pos (collected.mpr asked), typed, Option.bind_some, made] at coercion
    obtain ⟨node, within, around⟩ := Rules.within_rewrite_of_some leaf coercion
    exact ⟨node, tree ▸ within, .of_around made around⟩
  · intro unasked c node within around
    rw [if_neg fun member => unasked (collected.mp member), Option.bind_none] at coercion
    exact Rules.within_rewrite_of_none coercion (tree ▸ within) around

namespace Sample

def emails : Store := ⟨[⟨7, "email", some .person, some .numeric⟩], 0⟩

/-- The same property read through the events and from the person. -/
def bothEmails : Expr :=
  .group .tuple [.field (read events "person_properties" "email"),
    .field (read persons "properties" "email")]

end Sample

theorem typed_read_converted_in_company :
    Sample.bothEmails.leaves[0]? = some (Sample.read Sample.events "person_properties" "email") ∧
    Store.kind? Sample.emails.rows 7 .person "email" = some .numeric ∧
    ∃ outcome,
      (Pass.run Store.catalog (some ⟨some 7, none, []⟩) Sample.bothEmails Sample.emails).result =
        .ok outcome ∧
      ∃ node, Expr.Within node 0 (outcome.tree Sample.bothEmails) ∧
        Converted .numeric (Sample.read Sample.events "person_properties" "email") node := by
  refine ⟨rfl, by decide, ?_⟩
  obtain ⟨outcome, result, -, converted, -⟩ :=
    typed_read_converted Sample.emails 7 none [] Sample.bothEmails 0
      (Sample.read Sample.events "person_properties" "email") _ .person "email" .numeric rfl rfl
      (by decide) (by decide) (.inl rfl)
  refine ⟨outcome, result, converted (.inr ?_)⟩
  exact ⟨Sample.read Sample.persons "properties" "email", List.mem_of_getElem? (i := 1) rfl,
    by decide⟩

/-- It is not so that every typed read is converted: a numeric person property that is only
read through the events is not collected, and the tree stays as it is. -/
theorem not_every_typed_read_converted :
    ¬ ∀ (store : Store) (team : Int64) (database : Option Database) (notices : List Notice)
      (e : Expr) (i : Nat) (f : Field) (p : PropertyRef) (scope : Scope) (name : String)
      (kind : Kind), e.leaves[i]? = some f → f.property? = some p →
      p.classify? = some (scope, name) → Store.kind? store.rows team scope name = some kind →
      (kind = .numeric ∨ kind = .dateTime ∨ kind = .boolean) →
      ∃ outcome,
        (Pass.run Store.catalog (some ⟨some team, database, notices⟩) e store).result =
          .ok outcome ∧
        ∃ node, Expr.Within node i (outcome.tree e) ∧ Converted kind f node := by
  intro always
  let lone := Sample.read Sample.events "person_properties" "email"
  obtain ⟨outcome, result, node, within, converted⟩ :=
    always Sample.emails 7 none [] (.field lone) 0 lone _ .person "email" .numeric rfl rfl
      (by decide) (by decide) (.inl rfl)
  have unchanged : (Pass.run Store.catalog (some ⟨some 7, none, []⟩) (.field lone)
      Sample.emails).result = .ok .unchanged := rfl
  cases unchanged.symm.trans result
  cases converted
  generalize place : 0 = n at within
  cases within with
  | under split deeper => simp [Outcome.tree, Expr.children] at split

end QueryCoercion
