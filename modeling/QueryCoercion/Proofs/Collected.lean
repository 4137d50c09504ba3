import QueryCoercion.Coercion.Reads
import QueryCoercion.Proofs.Tree

namespace QueryCoercion

theorem PropertyRef.segment?_eq_some_iff {p : PropertyRef} {name : String} :
    p.segment? = some name ↔ p.path = [name] := by
  unfold segment?
  split
  · rename_i only
    simp [only]
  · rename_i several
    simpa using several name

theorem PropertyRef.classify?_eq_some_iff {p : PropertyRef} {scope : Scope} {name : String} :
    p.classify? = some (scope, name) ↔ p.path = [name] ∧ p.scope? = some scope := by
  rw [← segment?_eq_some_iff, classify?]
  split
  · rename_i segment found
    simp [segment, found, and_comm]
  · rename_i missing
    constructor
    · nofun
    · exact fun given => (missing name scope given.1 given.2).elim

/-- The property that a field reads through the plain property column. -/
def Field.direct? (f : Field) : Option (Scope × String) :=
  match f.property? with
  | some p => if p.isDirect then p.classify? else none
  | none => none

/-- The name of it, if it is read in a scope. -/
def Field.directIn? (scope : Scope) (f : Field) : Option String :=
  match f.direct? with
  | some (other, name) => if other = scope then some name else none
  | none => none

theorem Field.directIn?_eq_some_iff {scope : Scope} {f : Field} {name : String} :
    f.directIn? scope = some name ↔ f.direct? = some (scope, name) := by
  unfold directIn?
  cases f.direct? with
  | none => simp
  | some read => by_cases same : read.1 = scope <;> simp [Prod.ext_iff, same]

namespace Reads

theorem names_addName (r : Reads) (scope other : Scope) (name : String) :
    (r.addName other name).names scope =
      if other = scope then (r.names scope).insert name else r.names scope := by
  cases other <;> cases scope <;> rfl

/-- What is met at one field. -/
def addField (r : Reads) (f : Field) : Reads := (Visit.ofField f).foldl visit r

theorem collect_eq (r : Reads) (e : Expr) : r.collect e = e.leaves.foldl addField r :=
  Expr.foldl_visits (fun _ _ => rfl) e r

theorem addField_eq (r : Reads) (f : Field) : r.addField f =
    match f.binding with
    | some (.column c) => if c.isDateTime then { r with timestamps := true } else r
    | some (.property p) => r.visit (.property p)
    | none => r := by
  rcases f with ⟨chain, _ | ⟨column | property⟩, span⟩ <;> rfl

theorem names_addField (r : Reads) (f : Field) (scope : Scope) :
    (r.addField f).names scope =
      match f.directIn? scope with
      | some name => (r.names scope).insert name
      | none => r.names scope := by
  rw [addField_eq]
  unfold Field.directIn? Field.direct? Field.property?
  cases f.binding with
  | none => rfl
  | some b =>
    cases b with
    | column c =>
      simp only [Option.bind_some, Binding.property?]
      split <;> cases scope <;> rfl
    | property p =>
      simp only [visit, Option.bind_some, Binding.property?]
      split
      · cases p.classify? with
        | none => rfl
        | some read =>
          rw [names_addName]
          by_cases same : read.1 = scope <;> simp [same]
      · rfl

theorem mem_names_addField (r : Reads) (f : Field) (scope : Scope) (name : String) :
    name ∈ ((r.addField f).names scope).names ↔
      name ∈ (r.names scope).names ∨ f.direct? = some (scope, name) := by
  rw [names_addField, ← Field.directIn?_eq_some_iff]
  cases f.directIn? scope with
  | none => simp
  | some other => simp [NameSet.mem_insert, eq_comm]

theorem mem_names_ofExpr (e : Expr) (scope : Scope) (name : String) :
    name ∈ ((ofExpr e).names scope).names ↔ ∃ f ∈ e.leaves, f.direct? = some (scope, name) := by
  have fold (fields : List Field) (r : Reads) :
      name ∈ ((fields.foldl addField r).names scope).names ↔
        name ∈ (r.names scope).names ∨ ∃ f ∈ fields, f.direct? = some (scope, name) := by
    induction fields generalizing r with
    | nil => simp
    | cons f rest ih =>
      rw [List.foldl_cons, ih, mem_names_addField, or_assoc]
      simp only [List.mem_cons, exists_eq_or_imp]
  have none : name ∉ (empty.names scope).names := by cases scope <;> simp [empty, names, NameSet.empty]
  rw [ofExpr, collect_eq, fold]
  simp [none]

theorem timestamps_addField (r : Reads) (f : Field) :
    (r.addField f).timestamps = (r.timestamps || f.isDateTime) := by
  rw [addField_eq]
  cases bound : f.binding with
  | none => simp [Field.isDateTime, bound]
  | some binding =>
    cases binding with
    | column ref =>
      cases dated : ref.isDateTime <;>
        simp [Field.isDateTime, Binding.isDateTime, bound, dated]
    | property ref =>
      simp only [visit, bound, Field.isDateTime, Binding.isDateTime, Bool.or_false]
      split
      · split
        · rename_i scope name _
          cases scope <;> rfl
        · rfl
      · rfl

theorem timestamps_foldl_addField (fields : List Field) (r : Reads) :
    (fields.foldl addField r).timestamps = (r.timestamps || fields.any Field.isDateTime) := by
  induction fields generalizing r with
  | nil => simp
  | cons f rest ih => rw [List.foldl_cons, ih, timestamps_addField, List.any_cons, Bool.or_assoc]

theorem timestamps_ofExpr (e : Expr) : (ofExpr e).timestamps = e.leaves.any Field.isDateTime := by
  rw [ofExpr, collect_eq, timestamps_foldl_addField]
  rfl

end Reads

end QueryCoercion
