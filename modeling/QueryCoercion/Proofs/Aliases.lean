import QueryCoercion.Proofs.FirstReads
import QueryCoercion.Proofs.Passes

/-!
Scopes of reads under aliases. An alias leads to the same table, but hides a virtual table
from the classification, which only looks for one at the outside. So a read under aliases is
classified by the table it leads to and by nothing else. This changes the reads that only the
virtual table makes reads from a person, and no others.
-/
namespace QueryCoercion

/-- The scope of the plain property column of a table. -/
def Scope.ofTable? (table : String) : Option Scope :=
  if table = "persons" ∨ table = "raw_persons" then some .person
  else if table = "events" then some .event
  else none

namespace Source

/-- A source under some aliases, the first of them at the outside. -/
def under (s : Source) (aliases : List String) : Source := aliases.foldr .aliased s

theorem tableName?_under (s : Source) (aliases : List String) :
    (s.under aliases).tableName? = s.tableName? := by
  induction aliases with
  | nil => rfl
  | cons outer rest ih => exact ih

theorem tableName?_of_not_isBase {s : Source} (other : ¬ s.isBase) : s.tableName? = none := by
  cases s with
  | subquery => rfl
  | _ => exact absurd rfl other

/-- The test of the outermost source adds nothing to that of the table. -/
theorem propertyScope?_eq (s : Source) : s.propertyScope? =
    if s.virtualField? = some "poe" then some .person else s.tableName?.bind Scope.ofTable? := by
  unfold propertyScope?
  split
  · rfl
  · split
    · cases s.tableName? <;> rfl
    · rename_i other
      rw [tableName?_of_not_isBase other]
      rfl

theorem personPropertyScope?_eq (s : Source) : s.personPropertyScope? =
    if s.tableName? = some "events" then some .person else none := by
  unfold personPropertyScope?
  by_cases base : s.isBase
  · simp only [base, true_and]
  · simp [tableName?_of_not_isBase base]

theorem propertyScope?_under (s : Source) (outer : String) (others : List String) :
    (s.under (outer :: others)).propertyScope? = s.tableName?.bind Scope.ofTable? := by
  have hidden : (s.under (outer :: others)).virtualField? = none := rfl
  rw [propertyScope?_eq, hidden, if_neg (by simp), tableName?_under]

theorem personPropertyScope?_under (s : Source) (aliases : List String) :
    (s.under aliases).personPropertyScope? = s.personPropertyScope? := by
  rw [personPropertyScope?_eq, personPropertyScope?_eq, tableName?_under]

theorem virtualField?_eq_some_iff {s : Source} {field : String} :
    s.virtualField? = some field ↔ ∃ parent, s = .virtual field parent := by
  cases s <;> simp [virtualField?]

theorem tableName?_eq_some_iff {s : Source} {name : String} :
    s.tableName? = some name ↔ ∃ t, s.LeadsTo t ∧ t.name = name := by
  simp only [tableName?, Option.map_eq_some_iff, table?_eq_some_iff]

end Source

theorem Scope.ofTable?_eq_person_iff {table : String} :
    ofTable? table = some .person ↔ table = "persons" ∨ table = "raw_persons" := by
  unfold ofTable?
  split
  · simp_all
  · split <;> simp_all

namespace PropertyRef

/-- A read with some aliases put around its source. -/
def under (p : PropertyRef) (aliases : List String) : PropertyRef :=
  { p with column := { p.column with source := p.column.source.under aliases } }

/-- A read of one property from the person on an event, by a table that is none of persons. -/
structure RestsOnVirtual (p : PropertyRef) (name : String) : Prop where
  single : p.path = [name]
  plain : p.column.name = "properties"
  virtual : ∃ parent, p.column.source = .virtual "poe" parent
  elsewhere : ∀ t, p.column.source.LeadsTo t → t.name ≠ "persons" ∧ t.name ≠ "raw_persons"

theorem classify?_of_single {p : PropertyRef} {name : String} (single : p.path = [name]) :
    p.classify? = p.scope?.map fun scope => (scope, name) := by
  rw [classify?, segment?_eq_some_iff.mpr single]
  cases p.scope? <;> rfl

theorem classify?_of_several {p : PropertyRef} (several : ∀ name, p.path ≠ [name]) :
    p.classify? = none := by
  have none : p.segment? = none := by
    rw [Option.eq_none_iff_forall_ne_some]
    exact fun name found => several name (segment?_eq_some_iff.mp found)
  rw [classify?, none]

theorem scope?_under_of_plain {p : PropertyRef} (plain : p.column.name = "properties")
    (outer : String) (others : List String) :
    (p.under (outer :: others)).scope? = p.column.source.tableName?.bind Scope.ofTable? := by
  have same : (p.under (outer :: others)).column.name = "properties" := plain
  rw [scope?, if_pos same]
  exact p.column.source.propertyScope?_under outer others

theorem scope?_under_of_other {p : PropertyRef} (other : p.column.name ≠ "properties")
    (aliases : List String) : (p.under aliases).scope? = p.scope? := by
  have same : (p.under aliases).column.name ≠ "properties" := other
  have kept : (p.under aliases).column.source.personPropertyScope? =
      p.column.source.personPropertyScope? := p.column.source.personPropertyScope?_under aliases
  rw [scope?, scope?, if_neg same, if_neg other, kept]
  rfl

theorem scope?_of_restsOnVirtual {p : PropertyRef} {name : String} (rests : p.RestsOnVirtual name) :
    p.scope? = some .person := by
  have virtual := Source.virtualField?_eq_some_iff.mpr rests.virtual
  rw [scope?, if_pos rests.plain, Source.propertyScope?_eq, if_pos virtual]

theorem scope?_under_of_restsOnVirtual {p : PropertyRef} {name : String}
    (rests : p.RestsOnVirtual name) (outer : String) (others : List String) :
    (p.under (outer :: others)).scope? =
      if p.column.source.tableName? = some "events" then some .event else none := by
  rw [scope?_under_of_plain rests.plain]
  cases found : p.column.source.tableName? with
  | none => rfl
  | some known =>
    obtain ⟨t, leads, rfl⟩ := Source.tableName?_eq_some_iff.mp found
    obtain ⟨first, second⟩ := rests.elsewhere t leads
    simp [Scope.ofTable?, first, second]

theorem scope?_under_of_not_restsOnVirtual {p : PropertyRef} {name : String}
    (single : p.path = [name]) (free : ¬ p.RestsOnVirtual name) (outer : String)
    (others : List String) : (p.under (outer :: others)).scope? = p.scope? := by
  by_cases plain : p.column.name = "properties"
  · rw [scope?_under_of_plain plain, scope?, if_pos plain, Source.propertyScope?_eq]
    by_cases virtual : p.column.source.virtualField? = some "poe"
    · -- the virtual table is hidden, so it must be the table that is of persons
      have known : ∃ t, p.column.source.LeadsTo t ∧
          (t.name = "persons" ∨ t.name = "raw_persons") := by
        by_contra unknown
        refine free ⟨single, plain, Source.virtualField?_eq_some_iff.mp virtual, ?_⟩
        intro t leads
        exact not_or.mp fun person => unknown ⟨t, leads, person⟩
      obtain ⟨t, leads, person⟩ := known
      rw [if_pos virtual, Source.tableName?_eq_some_iff.mpr ⟨t, leads, rfl⟩]
      exact Scope.ofTable?_eq_person_iff.mpr person
    · rw [if_neg virtual]
  · exact scope?_under_of_other plain (outer :: others)

end PropertyRef

/-- Aliases around the source of a read keep its scope and name, or keep it without any, unless
it is a read of the person on an event by a table that is none of persons. Such a read is one
from a person, and under any aliases it is one from an event if its table is that of events,
and about no property otherwise. -/
theorem aliases_keep_scope_iff (p : PropertyRef) (outer : String) (others : List String) :
    ((p.under (outer :: others)).classify? = p.classify? ↔ ∀ name, ¬ p.RestsOnVirtual name) ∧
    ∀ name, p.RestsOnVirtual name →
      p.classify? = some (.person, name) ∧
      ((∃ t, p.column.source.LeadsTo t ∧ t.name = "events") →
        (p.under (outer :: others)).classify? = some (.event, name)) ∧
      ((¬ ∃ t, p.column.source.LeadsTo t ∧ t.name = "events") →
        (p.under (outer :: others)).classify? = none) := by
  have masked (name : String) (rests : p.RestsOnVirtual name) :
      p.classify? = some (.person, name) ∧ (p.under (outer :: others)).classify? =
        if p.column.source.tableName? = some "events" then some (.event, name) else none := by
    have single : (p.under (outer :: others)).path = [name] := rests.single
    rw [PropertyRef.classify?_of_single rests.single, PropertyRef.classify?_of_single single,
      PropertyRef.scope?_of_restsOnVirtual rests,
      PropertyRef.scope?_under_of_restsOnVirtual rests]
    exact ⟨rfl, by split <;> rfl⟩
  refine ⟨⟨?_, ?_⟩, ?_⟩
  · intro same name rests
    obtain ⟨person, hidden⟩ := masked name rests
    rw [hidden, person] at same
    split at same <;> simp at same
  · intro free
    by_cases several : ∀ name, p.path ≠ [name]
    · rw [PropertyRef.classify?_of_several several]
      exact PropertyRef.classify?_of_several several
    · obtain ⟨name, single⟩ := not_forall_not.mp several
      have same := PropertyRef.scope?_under_of_not_restsOnVirtual single (free name) outer others
      rw [PropertyRef.classify?_of_single single, ← same]
      exact PropertyRef.classify?_of_single single
  · intro name rests
    obtain ⟨person, hidden⟩ := masked name rests
    rw [← Source.tableName?_eq_some_iff, hidden]
    exact ⟨person, fun events => if_pos events, fun other => if_neg other⟩

namespace Sample

/-- The email of the person on an event. -/
def personEmail : PropertyRef := ⟨["email"], "properties", .virtual "poe" events⟩

end Sample

theorem aliases_around_person_email :
    Sample.personEmail.RestsOnVirtual "email" ∧
    Sample.personEmail.classify? = some (.person, "email") ∧
    (Sample.personEmail.under ["p", "q"]).classify? = some (.event, "email") := by
  have leads : Sample.personEmail.column.source.table? = Sample.events.table? := rfl
  have rests : Sample.personEmail.RestsOnVirtual "email" := by
    refine ⟨rfl, rfl, ⟨Sample.events, rfl⟩, ?_⟩
    intro t reached
    rw [← Source.table?_eq_some_iff, leads] at reached
    cases reached
    decide
  obtain ⟨-, masked⟩ := aliases_keep_scope_iff Sample.personEmail "p" ["q"]
  obtain ⟨person, events, -⟩ := masked "email" rests
  exact ⟨rests, person, events ⟨_, .virtual "poe" (.base _), rfl⟩⟩

/-- It is not so that aliases keep every scope: under an alias, the email of the person on an
event is one of the event. -/
theorem not_aliases_keep_every_scope :
    ¬ ∀ (p : PropertyRef) (outer : String) (others : List String),
      (p.under (outer :: others)).classify? = p.classify? := by
  intro always
  have person : Sample.personEmail.classify? = some (.person, "email") := by decide
  have event : (Sample.personEmail.under ["p"]).classify? = some (.event, "email") := by decide
  have same := always Sample.personEmail "p" []
  rw [person, event] at same
  cases same

end QueryCoercion
