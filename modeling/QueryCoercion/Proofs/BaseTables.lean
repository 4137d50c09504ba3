import QueryCoercion.Proofs.Aliases

namespace QueryCoercion

namespace Source

/-- A source is seen through aliases and virtual tables as the result of a subquery. -/
inductive LeadsToSubquery : Source → Prop where
  | subquery : LeadsToSubquery .subquery
  | aliased (name : String) {s : Source} (leads : LeadsToSubquery s) :
      LeadsToSubquery (.aliased name s)
  | virtual (field : String) {s : Source} (leads : LeadsToSubquery s) :
      LeadsToSubquery (.virtual field s)

/-- A subquery that the outermost layer does not show. -/
structure HidesSubquery (s : Source) : Prop where
  leads : s.LeadsToSubquery
  layered : s ≠ .subquery

theorem table?_eq_none_iff {s : Source} : s.table? = none ↔ s.LeadsToSubquery := by
  constructor
  · intro missing
    induction s with
    | base t => cases missing
    | aliased name s ih => exact .aliased name (ih missing)
    | virtual field s ih => exact .virtual field (ih missing)
    | subquery => exact .subquery
  · intro leads
    induction leads with
    | subquery => rfl
    | aliased name _ ih => exact ih
    | virtual field _ ih => exact ih

theorem isBase_iff {s : Source} : s.isBase = true ↔ s ≠ .subquery := by
  cases s <;> simp [isBase]

theorem not_hidesSubquery_of_table {s : Source} {t : Table} (found : s.table? = some t) :
    ¬ s.HidesSubquery := by
  intro hides
  have missing : s.table? = none := table?_eq_none_iff.mpr hides.leads
  rw [found] at missing
  cases missing

theorem table_or_hidesSubquery_of_isBase {s : Source} (base : s.isBase = true) :
    (∃ t, s.table? = some t) ∨ s.HidesSubquery := by
  cases found : s.table? with
  | some t => exact .inl ⟨t, rfl⟩
  | none => exact .inr ⟨table?_eq_none_iff.mp found, isBase_iff.mp base⟩

theorem isBase_of_table {s : Source} {t : Table} (found : s.table? = some t) :
    s.isBase = true := by
  rw [isBase_iff]
  rintro rfl
  cases found

end Source

/-- Whatever layers a source has, it counts as a base table if it leads to a table or hides a
subquery, and never does it do both. So the test agrees with the resolution to a table, and
with that to its name, unless the source hides a subquery. -/
theorem isBase_agrees_unless_subquery_hidden (s : Source) :
    (s.isBase = true ↔ (∃ t, s.LeadsTo t) ∨ s.HidesSubquery) ∧
    ¬ ((∃ t, s.LeadsTo t) ∧ s.HidesSubquery) ∧
    ((s.isBase = true ↔ ∃ t, s.table? = some t) ↔ ¬ s.HidesSubquery) ∧
    ((∃ t, s.table? = some t) ↔ ∃ name, s.tableName? = some name) := by
  have resolved : (∃ t, s.LeadsTo t) ↔ ∃ t, s.table? = some t := by
    simp only [Source.table?_eq_some_iff]
  rw [resolved]
  refine ⟨⟨Source.table_or_hidesSubquery_of_isBase, ?_⟩, ?_, ⟨?_, ?_⟩, ?_⟩
  · rintro (⟨t, found⟩ | hides)
    · exact Source.isBase_of_table found
    · exact Source.isBase_iff.mpr hides.layered
  · rintro ⟨⟨t, found⟩, hides⟩
    exact Source.not_hidesSubquery_of_table found hides
  · intro agree hides
    obtain ⟨t, found⟩ := agree.mp (Source.isBase_iff.mpr hides.layered)
    exact Source.not_hidesSubquery_of_table found hides
  · intro shown
    constructor
    · intro base
      exact (Source.table_or_hidesSubquery_of_isBase base).resolve_right shown
    · rintro ⟨t, found⟩
      exact Source.isBase_of_table found
  · constructor
    · rintro ⟨t, found⟩
      exact ⟨t.name, congrArg (Option.map Table.name) found⟩
    · rintro ⟨name, named⟩
      obtain ⟨t, found, -⟩ := Option.map_eq_some_iff.mp named
      exact ⟨t, found⟩

/-- It is not so that the test always agrees with the resolution: a subquery under an alias
counts as a base table and leads to no table. -/
theorem not_isBase_always_agrees :
    ¬ ∀ s : Source, s.isBase = true ↔ ∃ t, s.table? = some t := by
  intro always
  obtain ⟨t, found⟩ := (always (.aliased "s" .subquery)).mp rfl
  cases found

end QueryCoercion
