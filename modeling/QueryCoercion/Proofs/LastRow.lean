import QueryCoercion.Catalog

namespace QueryCoercion

namespace NameMap

variable {β : Type}

theorem get?_foldl_insert (entries : List (String × β)) (m : NameMap β) (name : String) :
    (entries.foldl (fun m entry => m.insert entry.1 entry.2) m).get? name =
      ((entries.filter fun entry => entry.1 == name).getLast?.map Prod.snd).or (m.get? name) := by
  induction entries generalizing m with
  | nil => simp
  | cons entry rest ih =>
    rw [List.foldl_cons, ih, get?_insert]
    by_cases same : entry.1 = name
    · rw [if_pos same, List.filter_cons, if_pos (beq_iff_eq.mpr same), List.getLast?_cons]
      cases (rest.filter fun entry => entry.1 == name).getLast? <;> rfl
    · rw [if_neg same, List.filter_cons, if_neg fun h => same (beq_iff_eq.mp h)]

theorem get?_ofList (entries : List (String × β)) (name : String) :
    (ofList entries).get? name =
      (entries.filter fun entry => entry.1 == name).getLast?.map Prod.snd := by
  rw [ofList, get?_foldl_insert, get?_empty, Option.or_none]

theorem findEntry_eq_none_iff (entries : List (String × β)) (name : String) :
    findEntry name entries = none ↔ name ∉ entries.map Prod.fst := by
  induction entries with
  | nil => simp [findEntry]
  | cons entry rest ih =>
    rw [findEntry, List.map_cons, List.mem_cons, not_or, ← ih]
    by_cases same : entry.1 = name
    · simp [same]
    · simp [same, Ne.symm same]

theorem mem_entries_iff {m : NameMap β} {name : String} {value : β} :
    (name, value) ∈ m.entries ↔ m.get? name = some value := by
  obtain ⟨entries, distinct⟩ := m
  simp only [get?]
  induction entries with
  | nil => simp [findEntry]
  | cons entry rest ih =>
    rw [List.map_cons, List.nodup_cons] at distinct
    have others := ih distinct.2
    by_cases first : entry.1 = name
    · subst first
      have absent : (entry.1, value) ∉ rest := fun member =>
        distinct.1 (List.mem_map.mpr ⟨(entry.1, value), member, rfl⟩)
      simp [findEntry, absent, Prod.ext_iff, eq_comm]
    · simp [findEntry, first, others, Prod.ext_iff, Ne.symm first]

/-- An entry without a value does not uncover another one of its name, as there is none. -/
theorem get?_filled (m : NameMap (Option β)) (name : String) :
    m.filled.get? name = (m.get? name).join := by
  obtain ⟨entries, distinct⟩ := m
  simp only [filled, get?]
  induction entries with
  | nil => rfl
  | cons entry rest ih =>
    obtain ⟨first, value⟩ := entry
    rw [List.map_cons, List.nodup_cons] at distinct
    have others := ih distinct.2
    cases value with
    | some value => by_cases same : first = name <;> simp [findEntry, same, others]
    | none =>
      by_cases same : first = name
      · subst same
        rw [(findEntry_eq_none_iff rest first).mpr distinct.1] at others
        simpa [findEntry] using others
      · simpa [findEntry, same] using others

end NameMap

namespace Store

/-- The last row of a team and a name that is in a scope. -/
def last? (rows : List Definition) (team : Int64) (scope : Scope) (name : String) :
    Option Definition :=
  (rows.filter fun row => row.team == team && row.isIn scope && row.name == name).getLast?

/-- The kind that this row gives, if it gives one. -/
def kind? (rows : List Definition) (team : Int64) (scope : Scope) (name : String) : Option Kind :=
  (last? rows team scope name).bind Definition.kind

theorem get?_find (s : Store) (request : Request) (name : String) :
    (s.find request).get? name =
      if name ∈ request.names.names then
        (last? s.rows request.team request.scope name).map Definition.kind
      else none := by
  have named : ((s.rows.filter (answers request)).map fun row => (row.name, row.kind)).filter
      (fun entry => entry.1 == name) =
      ((s.rows.filter fun row => answers request row && row.name == name).map
        fun row => (row.name, row.kind)) := by
    rw [List.filter_map, List.filter_filter]
    simp only [Function.comp_def, Bool.and_comm]
  rw [find, NameMap.get?_ofList, named, List.getLast?_map, Option.map_map]
  split
  · rename_i member
    have rows : (s.rows.filter fun row => answers request row && row.name == name) =
        s.rows.filter fun row =>
          row.team == request.team && row.isIn request.scope && row.name == name := by
      apply List.filter_congr
      intro row _
      by_cases same : row.name = name
      · simp [answers, same, member]
      · simp [beq_eq_false_iff_ne.mpr same]
    rw [rows]
    rfl
  · rename_i absent
    have rows : (s.rows.filter fun row => answers request row && row.name == name) = [] := by
      rw [List.filter_eq_nil_iff]
      intro row _ both
      simp only [answers, Bool.and_eq_true, beq_iff_eq, List.contains_iff_mem] at both
      exact absent (both.2 ▸ both.1.2)
    rw [rows]
    rfl

theorem get?_filled_find (s : Store) (request : Request) (name : String) :
    (s.find request).filled.get? name =
      if name ∈ request.names.names then kind? s.rows request.team request.scope name else none := by
  rw [NameMap.get?_filled, get?_find]
  split
  · rw [kind?]
    cases last? s.rows request.team request.scope name <;> rfl
  · rfl

end Store

end QueryCoercion
