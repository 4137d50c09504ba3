import QueryCoercion.Proofs.Collected
import QueryCoercion.Proofs.Seats

namespace QueryCoercion

/-- The keys of the members of a list, in the order in which they first come. As the places
grow strictly, no key comes twice. -/
structure FirstKeys {α β : Type} [DecidableEq β] (key? : α → Option β) (xs : List α)
    (keys : List β) : Prop where
  mem_iff : ∀ b, b ∈ keys ↔ ∃ x ∈ xs, key? x = some b
  ordered : keys.Pairwise fun a b =>
    xs.findIdx (fun x => key? x == some a) < xs.findIdx (fun x => key? x == some b)

/-- Puts a key behind the others, unless it is one of them. -/
def putKey {β : Type} [DecidableEq β] (keys : List β) : Option β → List β
  | some b => if b ∈ keys then keys else keys ++ [b]
  | none => keys

namespace FirstKeys

variable {α β : Type} {key? : α → Option β} {xs : List α}

theorem exists_key_append (x : α) (b : β) :
    (∃ y ∈ xs ++ [x], key? y = some b) ↔ (∃ y ∈ xs, key? y = some b) ∨ key? x = some b := by
  simp [or_and_right, exists_or]

variable [DecidableEq β] {keys : List β}

theorem nil (key? : α → Option β) : FirstKeys key? [] [] := ⟨by simp, .nil⟩

theorem findIdx_lt (first : FirstKeys key? xs keys) {b : β} (member : b ∈ keys) :
    xs.findIdx (fun x => key? x == some b) < xs.length := by
  obtain ⟨x, there, given⟩ := (first.mem_iff b).mp member
  exact List.findIdx_lt_length.mpr ⟨x, there, by simp [given]⟩

theorem findIdx_append (first : FirstKeys key? xs keys) (more : List α) {b : β}
    (member : b ∈ keys) :
    (xs ++ more).findIdx (fun x => key? x == some b) =
      xs.findIdx (fun x => key? x == some b) := by
  rw [List.findIdx_append, if_pos (first.findIdx_lt member)]

theorem ordered_append (first : FirstKeys key? xs keys) (more : List α) :
    keys.Pairwise fun a b => (xs ++ more).findIdx (fun x => key? x == some a) <
      (xs ++ more).findIdx (fun x => key? x == some b) := by
  apply first.ordered.imp_of_mem
  intro a b left right before
  rwa [first.findIdx_append more left, first.findIdx_append more right]

theorem known (first : FirstKeys key? xs keys) {x : α} (old : ∀ b, key? x = some b → b ∈ keys) :
    FirstKeys key? (xs ++ [x]) keys := by
  refine ⟨?_, first.ordered_append [x]⟩
  intro b
  rw [exists_key_append, ← first.mem_iff]
  constructor
  · exact .inl
  · rintro (member | given)
    · exact member
    · exact old b given

theorem fresh (first : FirstKeys key? xs keys) {x : α} {b : β} (given : key? x = some b)
    (new : b ∉ keys) : FirstKeys key? (xs ++ [x]) (keys ++ [b]) := by
  constructor
  · intro c
    rw [List.mem_append, first.mem_iff, exists_key_append, given, List.mem_singleton,
      Option.some.injEq, eq_comm (a := c)]
  · -- the new key is first found at the new member, behind the places of all others
    have absent : ¬ xs.findIdx (fun x => key? x == some b) < xs.length := by
      intro present
      obtain ⟨y, there, same⟩ := List.findIdx_lt_length.mp present
      exact new ((first.mem_iff b).mpr ⟨y, there, by simpa using same⟩)
    have place : (xs ++ [x]).findIdx (fun x => key? x == some b) = xs.length := by
      rw [List.findIdx_append, if_neg absent]
      simp [given]
    rw [List.pairwise_append]
    refine ⟨first.ordered_append [x], List.pairwise_singleton _ _, ?_⟩
    intro a member c last
    rw [List.mem_singleton.mp last, place, first.findIdx_append [x] member]
    exact first.findIdx_lt member

theorem next (first : FirstKeys key? xs keys) (x : α) :
    FirstKeys key? (xs ++ [x]) (putKey keys (key? x)) := by
  cases given : key? x with
  | none => exact first.known (by simp [given])
  | some b =>
    rw [putKey]
    split
    · rename_i old
      exact first.known fun c same => by
        rw [given] at same
        exact Option.some.inj same ▸ old
    · rename_i new
      exact first.fresh given new

/-- Anything that takes in members one by one in this way has the keys of all of them. -/
theorem foldl {σ : Type} (view : σ → List β) {add : σ → α → σ}
    (adds : ∀ s x, view (add s x) = putKey (view s) (key? x)) {s : σ}
    (first : FirstKeys key? xs (view s)) (more : List α) :
    FirstKeys key? (xs ++ more) (view (more.foldl add s)) := by
  induction more generalizing s xs with
  | nil => simpa using first
  | cons x rest ih =>
    have step : FirstKeys key? (xs ++ [x]) (view (add s x)) := adds s x ▸ first.next x
    have all := ih step
    rwa [List.append_assoc] at all

end FirstKeys

theorem Field.direct?_eq_some_iff {scope : Scope} {f : Field} {name : String} :
    f.direct? = some (scope, name) ↔ ∃ p, f.binding = some (.property p) ∧
      p.column.name = "properties" ∧ p.classify? = some (scope, name) := by
  rw [direct?, property?]
  cases f.binding with
  | none => simp
  | some b =>
    cases b with
    | column c => simp [Binding.property?]
    | property p =>
      by_cases plain : p.column.name = "properties" <;>
        simp [Binding.property?, PropertyRef.isDirect, plain]

theorem NameSet.names_insert (s : NameSet) (name : String) :
    (s.insert name).names = putKey s.names (some name) := by
  rw [putKey, insert]
  split <;> rfl

namespace Reads

theorem firstKeys_foldl {r : Reads} {scope : Scope} {fields : List Field} (more : List Field)
    (first : FirstKeys (Field.directIn? scope) fields (r.names scope).names) :
    FirstKeys (Field.directIn? scope) (fields ++ more)
      ((more.foldl addField r).names scope).names := by
  have adds (r : Reads) (f : Field) : ((r.addField f).names scope).names =
      putKey (r.names scope).names (f.directIn? scope) := by
    rw [names_addField]
    cases f.directIn? scope with
    | none => rfl
    | some name => exact NameSet.names_insert _ name
  exact FirstKeys.foldl (fun r : Reads => (r.names scope).names) adds first more

theorem foldl_collect (es : List Expr) (r : Reads) :
    es.foldl collect r = (es.flatMap Expr.leaves).foldl addField r := by
  induction es generalizing r with
  | nil => rfl
  | cons e rest ih => rw [List.foldl_cons, ih, List.flatMap_cons, List.foldl_append, collect_eq]

end Reads

/-- A source is seen through aliases and virtual tables as this table. -/
inductive Source.LeadsTo : Source → Table → Prop where
  | base (t : Table) : LeadsTo (.base t) t
  | aliased (name : String) {s : Source} {t : Table} (leads : LeadsTo s t) :
      LeadsTo (.aliased name s) t
  | virtual (field : String) {s : Source} {t : Table} (leads : LeadsTo s t) :
      LeadsTo (.virtual field s) t

theorem Source.table?_eq_some_iff {s : Source} {t : Table} : s.table? = some t ↔ s.LeadsTo t := by
  constructor
  · intro found
    induction s with
    | base u =>
      cases found
      exact .base t
    | aliased name s ih => exact .aliased name (ih found)
    | virtual field s ih => exact .virtual field (ih found)
    | subquery => cases found
  · intro leads
    induction leads with
    | base t => rfl
    | aliased name _ ih => exact ih
    | virtual field _ ih => exact ih

theorem Field.isDateTime_iff {f : Field} :
    f.isDateTime = true ↔ ∃ c t, f.binding = some (.column c) ∧ c.source.LeadsTo t ∧
      t.column? c.name = some .dateTime := by
  unfold isDateTime
  cases f.binding with
  | none => simp
  | some b =>
    cases b with
    | property p => simp [Binding.isDateTime]
    | column c =>
      simp only [Binding.isDateTime, ColumnRef.isDateTime, ColumnRef.kind?, beq_iff_eq,
        Option.bind_eq_some_iff, Source.table?_eq_some_iff]
      constructor
      · rintro ⟨t, leads, dated⟩
        exact ⟨c, t, rfl, leads, dated⟩
      · rintro ⟨_, t, same, leads, dated⟩
        cases same
        exact ⟨t, leads, dated⟩

/-- From any trees gone through in turn, the names of a scope are collected in the order in
which the fields from left to right first read them. They are exactly the names of that scope
that some field reads through the plain property column, and timestamps are noted exactly when
some field is bound to a column that is of date and time in the table it leads to. -/
theorem names_collected_from_trees (es : List Expr) :
    let reads := es.foldl Reads.collect .empty
    (∀ scope, FirstKeys (Field.directIn? scope) (es.flatMap Expr.leaves)
      (reads.names scope).names) ∧
    (∀ scope name, name ∈ (reads.names scope).names ↔
      ∃ e ∈ es, ∃ f i p, Expr.Within (.field f) i e ∧ f.binding = some (.property p) ∧
        p.column.name = "properties" ∧ p.classify? = some (scope, name)) ∧
    (reads.timestamps = true ↔
      ∃ e ∈ es, ∃ f i c t, Expr.Within (.field f) i e ∧ f.binding = some (.column c) ∧
        c.source.LeadsTo t ∧ t.column? c.name = some .dateTime) := by
  intro reads
  have fold : reads = (es.flatMap Expr.leaves).foldl Reads.addField .empty :=
    Reads.foldl_collect es .empty
  have first (scope : Scope) : FirstKeys (Field.directIn? scope) (es.flatMap Expr.leaves)
      (reads.names scope).names := by
    have none : FirstKeys (Field.directIn? scope) [] (Reads.empty.names scope).names := by
      cases scope <;> exact .nil _
    rw [fold]
    exact Reads.firstKeys_foldl _ none
  refine ⟨first, ?_, ?_⟩
  · intro scope name
    rw [(first scope).mem_iff]
    constructor
    · rintro ⟨f, leaf, read⟩
      obtain ⟨e, member, leaf⟩ := List.mem_flatMap.mp leaf
      obtain ⟨i, within⟩ := Expr.mem_leaves_iff.mp leaf
      obtain ⟨p, bound, plain, about⟩ :=
        Field.direct?_eq_some_iff.mp (Field.directIn?_eq_some_iff.mp read)
      exact ⟨e, member, f, i, p, within, bound, plain, about⟩
    · rintro ⟨e, member, f, i, p, within, read⟩
      have direct := Field.direct?_eq_some_iff.mpr ⟨p, read⟩
      refine ⟨f, ?_, Field.directIn?_eq_some_iff.mpr direct⟩
      exact List.mem_flatMap.mpr ⟨e, member, Expr.mem_leaves_iff.mpr ⟨i, within⟩⟩
  · rw [fold, Reads.timestamps_foldl_addField]
    simp only [Reads.empty, Bool.false_or, List.any_eq_true]
    constructor
    · rintro ⟨f, leaf, dated⟩
      obtain ⟨e, member, leaf⟩ := List.mem_flatMap.mp leaf
      obtain ⟨i, within⟩ := Expr.mem_leaves_iff.mp leaf
      obtain ⟨c, t, bound, leads, kind⟩ := Field.isDateTime_iff.mp dated
      exact ⟨e, member, f, i, c, t, within, bound, leads, kind⟩
    · rintro ⟨e, member, f, i, c, t, within, dated⟩
      refine ⟨f, ?_, Field.isDateTime_iff.mpr ⟨c, t, dated⟩⟩
      exact List.mem_flatMap.mpr ⟨e, member, Expr.mem_leaves_iff.mpr ⟨i, within⟩⟩

end QueryCoercion
