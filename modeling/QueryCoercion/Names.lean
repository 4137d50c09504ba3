/-!
Collections keyed by names that remember the order in which names first came.
Writing a name again keeps its place and takes the new value. Every name stands
once, which the types record.
-/
namespace QueryCoercion

structure NameSet where
  names : List String
  nodup : names.Nodup
deriving DecidableEq

namespace NameSet

def empty : NameSet := ⟨[], List.nodup_nil⟩

def insert (s : NameSet) (name : String) : NameSet :=
  if h : name ∈ s.names then s
  else ⟨s.names ++ [name], List.nodup_append.mpr ⟨s.nodup, by simp, by
    intro a ha b hb hab
    rw [List.mem_singleton] at hb
    exact h (hb ▸ hab ▸ ha)⟩⟩

def ofList (names : List String) : NameSet := names.foldl insert empty

def isEmpty (s : NameSet) : Bool := s.names.isEmpty

def size (s : NameSet) : Nat := s.names.length

/-- The same names, in whatever order. -/
def same (s t : NameSet) : Bool :=
  s.size == t.size && s.names.all fun name => t.names.contains name

instance : Membership String NameSet := ⟨fun s name => name ∈ s.names⟩

theorem mem_insert (s : NameSet) (name other : String) :
    other ∈ (s.insert name).names ↔ other ∈ s.names ∨ other = name := by
  unfold insert
  split
  · rename_i h
    constructor
    · exact Or.inl
    · rintro (known | rfl)
      · exact known
      · exact h
  · simp

end NameSet

def putEntry {β : Type} (name : String) (value : β) : List (String × β) → List (String × β)
  | [] => [(name, value)]
  | entry :: rest =>
    if entry.1 = name then (name, value) :: rest else entry :: putEntry name value rest

theorem mem_names_putEntry {β : Type} (name : String) (value : β) (entries : List (String × β))
    (other : String) : other ∈ (putEntry name value entries).map Prod.fst ↔
      other ∈ entries.map Prod.fst ∨ other = name := by
  induction entries with
  | nil => simp [putEntry]
  | cons entry rest ih =>
    unfold putEntry
    split
    · rename_i h
      simp only [List.map_cons, List.mem_cons, h]
      constructor
      · exact Or.inl
      · rintro (known | rfl)
        · exact known
        · exact Or.inl rfl
    · simp only [List.map_cons, List.mem_cons, ih, or_assoc]

theorem nodup_putEntry {β : Type} (name : String) (value : β) (entries : List (String × β))
    (distinct : (entries.map Prod.fst).Nodup) :
    ((putEntry name value entries).map Prod.fst).Nodup := by
  induction entries with
  | nil => simp [putEntry]
  | cons entry rest ih =>
    rw [List.map_cons, List.nodup_cons] at distinct
    unfold putEntry
    split
    · rename_i h
      rw [List.map_cons, List.nodup_cons]
      exact ⟨h ▸ distinct.1, distinct.2⟩
    · rename_i h
      rw [List.map_cons, List.nodup_cons, mem_names_putEntry]
      refine ⟨?_, ih distinct.2⟩
      rintro (known | same)
      · exact distinct.1 known
      · exact h same

def findEntry {β : Type} (name : String) : List (String × β) → Option β
  | [] => none
  | entry :: rest => if entry.1 = name then some entry.2 else findEntry name rest

theorem findEntry_putEntry {β : Type} (name other : String) (value : β)
    (entries : List (String × β)) : findEntry other (putEntry name value entries) =
      if name = other then some value else findEntry other entries := by
  induction entries with
  | nil => rfl
  | cons entry rest ih =>
    by_cases found : entry.1 = name
    · by_cases same : name = other <;> simp [putEntry, findEntry, found, same]
    · by_cases first : entry.1 = other
      · have apart : name ≠ other := fun same => found (first.trans same.symm)
        simp [putEntry, findEntry, first, apart, apart.symm]
      · simp [putEntry, findEntry, found, first, ih]

structure NameMap (β : Type) where
  entries : List (String × β)
  nodup : (entries.map Prod.fst).Nodup

namespace NameMap

variable {β : Type}

def empty : NameMap β := ⟨[], List.nodup_nil⟩

def insert (m : NameMap β) (name : String) (value : β) : NameMap β :=
  ⟨putEntry name value m.entries, nodup_putEntry name value m.entries m.nodup⟩

def ofList (entries : List (String × β)) : NameMap β :=
  entries.foldl (fun m entry => m.insert entry.1 entry.2) empty

def get? (m : NameMap β) (name : String) : Option β := findEntry name m.entries

def isEmpty (m : NameMap β) : Bool := m.entries.isEmpty

def size (m : NameMap β) : Nat := m.entries.length

@[simp] theorem get?_empty (name : String) : (empty : NameMap β).get? name = none := rfl

theorem get?_insert (m : NameMap β) (name other : String) (value : β) :
    (m.insert name value).get? other = if name = other then some value else m.get? other :=
  findEntry_putEntry name other value m.entries

/-- The same values under the same names, in whatever order. -/
def same [BEq β] (m n : NameMap β) : Bool :=
  m.size == n.size && m.entries.all fun entry => n.get? entry.1 == some entry.2

theorem names_filled_sublist (entries : List (String × Option β)) :
    ((entries.filterMap fun entry => entry.2.map fun value => (entry.1, value)).map
      Prod.fst).Sublist (entries.map Prod.fst) := by
  induction entries with
  | nil => simp
  | cons entry rest ih =>
    obtain ⟨name, value⟩ := entry
    cases value with
    | none => simpa using ih.cons name
    | some value => simpa using ih.cons_cons name

/-- The entries that have a value. -/
def filled (m : NameMap (Option β)) : NameMap β :=
  ⟨m.entries.filterMap fun entry => entry.2.map fun value => (entry.1, value),
    m.nodup.sublist (names_filled_sublist m.entries)⟩

end NameMap

end QueryCoercion
