import Mathlib.Data.List.Forall2
import Mathlib.Data.List.Perm.Subperm
import QueryCoercion.Proofs.Isolation

/-!
Trees that are the same without being equal: the columns of their tables may stand in
another order, and a zero may have another sign. All that is asked about a field has the
same answer for fields that are the same. So a pass does the same with trees that are the
same, and its trees are the same again.
-/
namespace QueryCoercion

namespace NameMap

variable {β : Type}

theorem same_iff [BEq β] [LawfulBEq β] {m n : NameMap β} :
    m.same n = true ↔ ∀ name, m.get? name = n.get? name := by
  simp only [same, Bool.and_eq_true, beq_iff_eq, List.all_eq_true]
  constructor
  · rintro ⟨sizes, found⟩ name
    have names : (m.entries.map Prod.fst).Perm (n.entries.map Prod.fst) := by
      apply List.Subperm.perm_of_length_le
      · apply List.subperm_of_subset m.nodup
        intro name member
        obtain ⟨entry, stored, rfl⟩ := List.mem_map.mp member
        exact List.mem_map.mpr ⟨entry, mem_entries_iff.mpr (found entry stored), rfl⟩
      · simpa [size] using Nat.le_of_eq sizes.symm
    cases given : m.get? name with
    | some value => exact (found (name, value) (mem_entries_iff.mpr given)).symm
    | none =>
      have absent := (findEntry_eq_none_iff m.entries name).mp given
      rw [names.mem_iff] at absent
      exact ((findEntry_eq_none_iff n.entries name).mpr absent).symm
  · intro values
    refine ⟨size_eq_of_get? values, ?_⟩
    rintro ⟨name, value⟩ stored
    rw [← values]
    exact mem_entries_iff.mp stored

end NameMap

theorem Table.same_iff {t u : Table} :
    t.same u = true ↔ t.name = u.name ∧ ∀ column, t.column? column = u.column? column := by
  simp only [same, Bool.and_eq_true, beq_iff_eq, NameMap.same_iff, column?]

theorem Table.same_refl (t : Table) : t.same t = true :=
  same_iff.mpr ⟨rfl, fun _ => rfl⟩

theorem Table.same_comm (t u : Table) : t.same u = u.same t := by
  rw [Bool.eq_iff_iff, same_iff, same_iff]
  constructor
  · rintro ⟨name, columns⟩
    exact ⟨name.symm, fun column => (columns column).symm⟩
  · rintro ⟨name, columns⟩
    exact ⟨name.symm, fun column => (columns column).symm⟩

namespace Source

variable {s t : Source}

theorem same_refl (s : Source) : s.same s = true := by
  induction s with
  | base table => exact table.same_refl
  | aliased name of ih => simpa [same] using ih
  | virtual field parent ih => simpa [same] using ih
  | subquery => rfl

theorem same_comm (s t : Source) : s.same t = t.same s := by
  induction s generalizing t with
  | base table => cases t <;> simp [same, Table.same_comm]
  | aliased name of ih => cases t <;> simp [same, ih, BEq.comm]
  | virtual field parent ih => cases t <;> simp [same, ih, BEq.comm]
  | subquery => cases t <;> rfl

theorem table_of_same (alike : s.same t = true) :
    s.tableName? = t.tableName? ∧
    ∀ column, s.table?.bind (·.column? column) = t.table?.bind (·.column? column) := by
  induction s generalizing t with
  | base table =>
    cases t with
    | base other =>
      obtain ⟨name, columns⟩ := Table.same_iff.mp alike
      exact ⟨congrArg some name, columns⟩
    | _ => cases alike
  | aliased name of ih =>
    cases t with
    | aliased other below =>
      have tables := ih (Bool.and_eq_true_iff.mp alike).2
      exact tables
    | _ => cases alike
  | virtual field parent ih =>
    cases t with
    | virtual other below =>
      have tables := ih (Bool.and_eq_true_iff.mp alike).2
      exact tables
    | _ => cases alike
  | subquery =>
    cases t with
    | subquery => exact ⟨rfl, fun _ => rfl⟩
    | _ => cases alike

theorem outermost_of_same (alike : s.same t = true) :
    s.isBase = t.isBase ∧ s.virtualField? = t.virtualField? := by
  cases s <;> cases t <;> simp_all [same, isBase, virtualField?]

end Source

theorem ColumnRef.of_same {c d : ColumnRef} (alike : c.same d = true) :
    c.name = d.name ∧ c.isDateTime = d.isDateTime := by
  obtain ⟨name, source⟩ := Bool.and_eq_true_iff.mp alike
  have named : c.name = d.name := beq_iff_eq.mp name
  have columns := (Source.table_of_same source).2 c.name
  rw [isDateTime, isDateTime, kind?, kind?, columns, named]
  exact ⟨rfl, rfl⟩

theorem PropertyRef.of_same {p q : PropertyRef} (alike : p.same q = true) :
    p.isDirect = q.isDirect ∧ p.classify? = q.classify? := by
  obtain ⟨path, column⟩ := Bool.and_eq_true_iff.mp alike
  have name := (ColumnRef.of_same column).1
  have source := (Bool.and_eq_true_iff.mp column).2
  have table := (Source.table_of_same source).1
  obtain ⟨base, field⟩ := Source.outermost_of_same source
  have segment : p.segment? = q.segment? := by simp only [segment?, beq_iff_eq.mp path]
  have scope : p.scope? = q.scope? := by
    simp only [scope?, Source.propertyScope?, Source.personPropertyScope?, name, table, base, field]
  simp only [isDirect, classify?, name, segment, scope, and_self]

namespace Field

variable {f g : Field}

/-- The bindings of fields that are the same. -/
inductive Bound (f g : Field) : Prop where
  | free (left : f.binding = none) (right : g.binding = none)
  | column {c d : ColumnRef} (left : f.binding = some (.column c))
      (right : g.binding = some (.column d)) (alike : c.same d = true)
  | property {p q : PropertyRef} (left : f.binding = some (.property p))
      (right : g.binding = some (.property q)) (alike : p.same q = true)

theorem bound_of_same (alike : f.same g = true) : Bound f g := by
  obtain ⟨both, -⟩ := Bool.and_eq_true_iff.mp alike
  have bindings := (Bool.and_eq_true_iff.mp both).2
  cases left : f.binding with
  | none =>
    cases right : g.binding with
    | none => exact .free left right
    | some _ => simp [sameBinding, left, right] at bindings
  | some b =>
    cases right : g.binding with
    | none => simp [sameBinding, left, right] at bindings
    | some d =>
      rw [left, right] at bindings
      cases b <;> cases d
      · exact .column left right bindings
      · cases bindings
      · cases bindings
      · exact .property left right bindings

theorem text_of_same (alike : f.same g = true) : f.chain = g.chain ∧ f.span = g.span := by
  simp only [same, Bool.and_eq_true, beq_iff_eq] at alike
  exact ⟨alike.1.1, alike.2⟩

theorem sameBinding_comm (b d : Option Binding) : sameBinding b d = sameBinding d b := by
  have columns (c d : ColumnRef) : c.same d = d.same c := by
    simp [ColumnRef.same, Source.same_comm c.source, BEq.comm]
  have properties (p q : PropertyRef) : p.same q = q.same p := by
    simp [PropertyRef.same, columns p.column, BEq.comm]
  rcases b with _ | (c | p) <;> rcases d with _ | (d | q)
  all_goals simp only [sameBinding, Binding.same]
  · exact columns c d
  · exact properties p q

theorem same_refl (f : Field) : f.same f = true := by
  have bindings : sameBinding f.binding f.binding = true := by
    rcases f.binding with _ | (c | p) <;>
      simp [sameBinding, Binding.same, PropertyRef.same, ColumnRef.same, Source.same_refl]
  simp [same, bindings]

theorem same_comm (f g : Field) : f.same g = g.same f := by
  simp [same, sameBinding_comm f.binding, BEq.comm]

theorem isDateTime_of_same (alike : f.same g = true) : f.isDateTime = g.isDateTime := by
  cases bound_of_same alike with
  | free left right => simp [isDateTime, left, right]
  | column left right columns =>
    simpa [isDateTime, left, right, Binding.isDateTime] using (ColumnRef.of_same columns).2
  | property left right properties => simp [isDateTime, left, right, Binding.isDateTime]

end Field

theorem Reads.addField_of_same {f g : Field} (alike : f.same g = true) (r : Reads) :
    r.addField f = r.addField g := by
  rw [addField_eq, addField_eq]
  cases Field.bound_of_same alike with
  | free left right => simp [left, right]
  | column left right columns => simp [left, right, (ColumnRef.of_same columns).2]
  | property left right properties =>
    obtain ⟨direct, about⟩ := PropertyRef.of_same properties
    simp [visit, left, right, direct, about]

namespace Rules

variable {f g : Field}

theorem read?_of_same (r : Rules) (alike : f.same g = true) : r.read? f = r.read? g := by
  cases Field.bound_of_same alike with
  | free left right => simp [read?, Field.property?, left, right]
  | column left right columns => simp [read?, Field.property?, left, right, Binding.property?]
  | property left right properties =>
    simp [read?, Field.property?, left, right, Binding.property?,
      (PropertyRef.of_same properties).2]

theorem coercion?_of_same (r : Rules) (alike : f.same g = true) :
    r.coercion? f = r.coercion? g := by
  simp only [coercion?, Field.isDateTime_of_same alike, r.read?_of_same alike]

theorem note_of_same (r : Rules) (alike : f.same g = true) (j : Journal) :
    r.note f j = r.note g j := by
  have read := r.read?_of_same alike
  obtain ⟨chain, span⟩ := Field.text_of_same alike
  have notice (name : String) (kind : Kind) : Notice.ofRead f name kind = .ofRead g name kind := by
    simp only [Notice.ofRead, Notice.label, Field.last?, chain, span]
  have label (name : String) : Notice.label f name = Notice.label g name := by
    simp only [Notice.label, Field.last?, chain]
  cases Field.bound_of_same alike with
  | free left right => simp [note, left, right, read, notice, label]
  | column left right columns =>
    obtain ⟨name, dated⟩ := ColumnRef.of_same columns
    simp [note, left, right, name, dated]
  | property left right properties => simp [note, left, right, read, notice, label]

end Rules

theorem Constant.same_refl (a : Constant) : a.same a = true := by
  cases a <;> simp [same, Binary64.same]

theorem Constant.same_comm (a b : Constant) : a.same b = b.same a := by
  cases a <;> cases b <;> simp [same, Binary64.same, BEq.comm, Bool.and_comm]

namespace Expr

variable {a b : Expr}

theorem sameAll_iff {as bs : List Expr} :
    sameAll as bs = true ↔ List.Forall₂ (fun a b => same a b = true) as bs := by
  induction as generalizing bs with
  | nil => cases bs <;> simp [sameAll]
  | cons a as ih => cases bs <;> simp [sameAll, ih]

/-- Sameness of two nodes, their children aside. -/
def sameHead : Expr → Expr → Bool
  | .field f, .field g => f.same g
  | .constant value s, .constant other t => value.same other && s == t
  | .call name _ s, .call other _ t => name == other && s == t
  | .binary _ op _ s, .binary _ other _ t => op == other && s == t
  | .group kind _, .group other _ => kind == other
  | .negation _, .negation _ => true
  | .aliased name _ s, .aliased other _ t => name == other && s == t
  | _, _ => false

theorem sameHead_comm (a b : Expr) : sameHead a b = sameHead b a := by
  cases a <;> cases b <;>
    simp [sameHead, Field.same_comm, Constant.same_comm, BEq.comm]

theorem sameHead_mapChildren (g h : Expr → Expr) (a b : Expr) :
    sameHead (a.mapChildren g) (b.mapChildren h) = sameHead a b := by
  cases a <;> cases b <;> rfl

/-- Trees are the same when their heads are and their children are. -/
theorem same_iff {a b : Expr} : a.same b = true ↔
    sameHead a b = true ∧ List.Forall₂ (fun c d => same c d = true) a.children b.children := by
  -- nodes of two kinds have neither the same head nor are they the same
  have apart {below : Prop} : false = true ↔ false = true ∧ below := by simp
  cases a with
  | field f =>
    cases b with
    | field g => simp [same, sameHead, children]
    | _ => exact apart
  | constant value span =>
    cases b with
    | constant other there => simp [same, sameHead, children]
    | _ => exact apart
  | call name args span =>
    cases b with
    | call other others there => simp [same, sameHead, children, sameAll_iff, and_right_comm]
    | _ => exact apart
  | binary left op right span =>
    cases b with
    | binary first other second there =>
      simp only [same, sameHead, children, Bool.and_eq_true, List.forall₂_cons, List.Forall₂.nil,
        and_true]
      constructor
      · rintro ⟨⟨⟨lefts, ops⟩, rights⟩, spans⟩
        exact ⟨⟨ops, spans⟩, lefts, rights⟩
      · rintro ⟨⟨ops, spans⟩, lefts, rights⟩
        exact ⟨⟨⟨lefts, ops⟩, rights⟩, spans⟩
    | _ => exact apart
  | group kind items =>
    cases b with
    | group other others => simp [same, sameHead, children, sameAll_iff]
    | _ => exact apart
  | negation inner =>
    cases b with
    | negation other => simp [same, sameHead, children]
    | _ => exact apart
  | aliased name inner span =>
    cases b with
    | aliased other below there => simp [same, sameHead, children, and_right_comm]
    | _ => exact apart

theorem field_of_same {f : Field} (alike : (field f).same b = true) :
    ∃ g, b = .field g ∧ f.same g = true := by
  obtain ⟨head, -⟩ := same_iff.mp alike
  cases b with
  | field g => exact ⟨g, rfl, head⟩
  | _ => cases head

theorem constant_of_same {text : String} {span : Option Span}
    (alike : (constant (.string text) span).same b = true) : b = .constant (.string text) span := by
  obtain ⟨head, -⟩ := same_iff.mp alike
  cases b with
  | constant value there =>
    cases value <;> simp_all [sameHead, Constant.same]
  | _ => cases head

theorem call_of_same {name : String} {args : List Expr} {span : Option Span}
    (alike : (call name args span).same b = true) :
    ∃ others, b = .call name others span ∧
      List.Forall₂ (fun c d => same c d = true) args others := by
  obtain ⟨head, below⟩ := same_iff.mp alike
  cases b with
  | call other others there =>
    simp only [sameHead, Bool.and_eq_true, beq_iff_eq] at head
    obtain ⟨rfl, rfl⟩ := head
    exact ⟨others, rfl, below⟩
  | _ => cases head

theorem field?_of_same (inner : a.field? = none) (alike : a.same b = true) : b.field? = none := by
  obtain ⟨head, -⟩ := same_iff.mp alike
  cases b with
  | field g =>
    cases a with
    | field f => cases inner
    | _ => cases head
  | _ => rfl

/-- What holds of fields that are the same, and of nodes that are the same when it holds of
their children, holds of all trees that are the same. -/
@[elab_as_elim]
theorem bySame {motive : Expr → Expr → Prop}
    (field : ∀ f g, f.same g = true → motive (.field f) (.field g))
    (node : ∀ a b, a.field? = none → b.field? = none → a.same b = true →
      List.Forall₂ motive a.children b.children → motive a b)
    {a b : Expr} (alike : a.same b = true) : motive a b := by
  induction a using byNodes generalizing b with
  | field f =>
    obtain ⟨g, rfl, fields⟩ := field_of_same alike
    exact field f g fields
  | node a inner ih =>
    have below := (same_iff.mp alike).2
    have each := (List.forall₂_and_left _ _).mpr ⟨fun c member d => @ih c member d, below⟩
    apply node a b inner (field?_of_same inner alike) alike
    exact each.imp fun c d ⟨holds, same⟩ => holds d same

theorem same_refl (e : Expr) : e.same e = true := by
  induction e using byNodes with
  | field f => exact f.same_refl
  | node e inner ih =>
    have head : sameHead e e = true := by cases e <;> simp_all [sameHead, Constant.same_refl, field?]
    exact same_iff.mpr ⟨head, List.forall₂_same.mpr ih⟩

theorem same_symm (alike : a.same b = true) : b.same a = true := by
  refine bySame ?_ ?_ alike
  · intro f g fields
    exact same_iff.mpr ⟨(Field.same_comm g f).trans fields, .nil⟩
  · intro a b _ _ alike below
    have heads := (sameHead_comm b a).trans (same_iff.mp alike).1
    exact same_iff.mpr ⟨heads, below.flip⟩

theorem same_mapChildren {g h : Expr → Expr} (alike : a.same b = true)
    (below : List.Forall₂ (fun c d => (g c).same (h d) = true) a.children b.children) :
    (a.mapChildren g).same (b.mapChildren h) = true := by
  rw [same_iff, sameHead_mapChildren, children_mapChildren, children_mapChildren,
    List.forall₂_map_left_iff, List.forall₂_map_right_iff]
  exact ⟨(same_iff.mp alike).1, below⟩

theorem around_of_same {c : Coercion} {f : Field} (around : Coercion.Around c f a)
    (alike : a.same b = true) : ∃ g, Coercion.Around c g b ∧ f.same g = true := by
  cases around with
  | toFloat _ span =>
    obtain ⟨_, rfl, _ | ⟨first, _ | _⟩⟩ := call_of_same alike
    obtain ⟨g, rfl, fields⟩ := field_of_same first
    exact ⟨g, .toFloat g span, fields⟩
  | toDateTime _ span =>
    obtain ⟨_, rfl, _ | ⟨first, _ | _⟩⟩ := call_of_same alike
    obtain ⟨g, rfl, fields⟩ := field_of_same first
    exact ⟨g, .toDateTime g span, fields⟩
  | toTimeZone timezone _ span inner =>
    obtain ⟨_, rfl, _ | ⟨first, _ | ⟨second, _ | _⟩⟩⟩ := call_of_same alike
    obtain ⟨g, rfl, fields⟩ := field_of_same first
    obtain rfl := constant_of_same second
    exact ⟨g, .toTimeZone timezone g span inner, fields⟩
  | isTrue _ span inner =>
    obtain ⟨head, below⟩ := same_iff.mp alike
    cases b with
    | binary left op right there =>
      simp only [sameHead, Bool.and_eq_true, beq_iff_eq] at head
      obtain ⟨rfl, rfl⟩ := head
      obtain _ | ⟨first, _ | ⟨second, _⟩⟩ := below
      obtain ⟨g, rfl, fields⟩ := field_of_same first
      obtain rfl := constant_of_same second
      exact ⟨g, .isTrue g span inner, fields⟩
    | _ => cases head

section

variable {kept : Expr → Bool} (keeps : ∀ a b, a.same b = true → kept a = kept b)
include keeps

theorem walk_of_same {leaf : Field → Expr}
    (fields : ∀ f g, f.same g = true → (leaf f).same (leaf g) = true) (alike : a.same b = true) :
    (walk kept leaf a).same (walk kept leaf b) = true := by
  refine bySame ?_ ?_ alike
  · intro f g same
    simpa using fields f g same
  · intro a b inner inner' alike below
    rw [walk_node kept leaf inner, walk_node kept leaf inner', keeps a b alike]
    split
    · exact alike
    · exact same_mapChildren alike below

theorem outside_of_same (alike : a.same b = true) :
    List.Forall₂ (fun f g => f.same g = true) (outside kept a) (outside kept b) := by
  refine bySame ?_ ?_ alike
  · intro f g same
    simpa using same
  · intro a b inner inner' alike below
    rw [outside_node kept inner, outside_node kept inner', keeps a b alike]
    split
    · exact .nil
    · exact List.rel_flatMap below fun _ _ fields => fields

end

theorem leaves_of_same (alike : a.same b = true) :
    List.Forall₂ (fun f g => f.same g = true) a.leaves b.leaves := by
  rw [leaves_eq_outside, leaves_eq_outside]
  exact outside_of_same (fun _ _ _ => rfl) alike

end Expr

theorem Reads.ofExpr_of_same {a b : Expr} (alike : a.same b = true) : ofExpr a = ofExpr b := by
  rw [ofExpr, ofExpr, collect_eq, collect_eq]
  refine List.rel_foldl ?_ rfl (Expr.leaves_of_same alike)
  rintro r _ rfl f g fields
  exact addField_of_same fields r

namespace Rules

variable {a b : Expr}

theorem coerce_of_same (r : Rules) {f g : Field} (alike : f.same g = true) :
    (r.coerce f).same (r.coerce g) = true := by
  have asked := r.coercion?_of_same alike
  cases given : r.coercion? g with
  | none =>
    rw [coerce_of_none given, coerce_of_none (asked.trans given)]
    simpa [Expr.same] using alike
  | some c =>
    rw [coerce_of_some given, coerce_of_some (asked.trans given)]
    cases c <;> simp [Coercion.wrap, Expr.same, Expr.sameAll, Constant.same, alike]

theorem isCoerced_of_same (r : Rules) (alike : a.same b = true) :
    r.isCoerced a = r.isCoerced b := by
  have transfer (a b : Expr) (alike : a.same b = true) (done : r.isCoerced a = true) :
      r.isCoerced b = true := by
    obtain ⟨c, f, around, given⟩ := isCoerced_iff.mp done
    obtain ⟨g, around', fields⟩ := Expr.around_of_same around alike
    exact isCoerced_iff.mpr ⟨c, g, around', (r.coercion?_of_same fields).symm.trans given⟩
  rw [Bool.eq_iff_iff]
  exact ⟨transfer a b alike, transfer b a (Expr.same_symm alike)⟩

theorem apply_of_same (r : Rules) (alike : a.same b = true) (j : Journal) :
    (r.apply a j).1.same (r.apply b j).1 = true ∧ (r.apply a j).2 = (r.apply b j).2 := by
  have keeps (a b : Expr) : a.same b = true → r.isCoerced a = r.isCoerced b := r.isCoerced_of_same
  rw [apply_eq, apply_eq]
  constructor
  · exact Expr.walk_of_same keeps (fun f g => r.coerce_of_same) alike
  · refine List.rel_foldl ?_ rfl (Expr.outside_of_same keeps alike)
    rintro j _ rfl f g fields
    exact r.note_of_same fields j

theorem run_of_same (r : Rules) (alike : a.same b = true) (log : Option (List Notice)) :
    (r.run log a).tree.same (r.run log b).tree = true ∧ (r.run log a).log = (r.run log b).log ∧
      (r.run log a).events = (r.run log b).events := by
  obtain ⟨trees, journal⟩ := r.apply_of_same alike (.start log)
  simp only [run, journal, and_self, and_true]
  exact trees

end Rules

/-- Whatever the catalog and the context, passes over trees that are the same collect the same
names in the same order and see timestamps in both or in none. They fail with the same error,
or both leave their trees alone, or end in trees that are the same; and their notices,
lookups and events are the same. -/
theorem pass_respects_sameness {σ : Type} (c : Catalog σ) (context : Option Context) (a b : Expr)
    (alike : a.same b = true) (state : σ) :
    let first := Pass.run c.recorded context a (state, [])
    let second := Pass.run c.recorded context b (state, [])
    Reads.ofExpr a = Reads.ofExpr b ∧
    ((∃ err, first.result = .error err ∧ second.result = .error err) ∨
      first.result = .ok .unchanged ∧ second.result = .ok .unchanged ∨
      ∃ t u, first.result = .ok (.coerced t) ∧ second.result = .ok (.coerced u) ∧
        t.same u = true) ∧
    first.context = second.context ∧ first.catalog = second.catalog ∧
    first.events = second.events := by
  intro first second
  have reads := Reads.ofExpr_of_same alike
  refine ⟨reads, ?_⟩
  simp only [first, second, Pass.run, reads]
  rcases Typing.fetch c.recorded (Reads.ofExpr b) (context.bind Context.team) (state, []) with
    ⟨err | typing, after, events⟩
  · exact ⟨.inl ⟨err, rfl, rfl⟩, rfl, rfl, rfl⟩
  · dsimp only
    split
    · exact ⟨.inr (.inl ⟨rfl, rfl⟩), rfl, rfl, rfl⟩
    · obtain ⟨trees, log, told⟩ := Rules.run_of_same ⟨Pass.timezone context, typing⟩ alike
        (context.map Context.notices)
      refine ⟨.inr (.inr ⟨_, _, rfl, rfl, trees⟩), ?_, rfl, ?_⟩
      · rw [log]
      · rw [told]

namespace Sample

/-- Timestamps after zero, in a table with these columns and with a zero of this sign. -/
def afterZero (columns : List (String × ColumnKind)) (negative : Bool) : Expr :=
  .binary
    (.field ⟨["timestamp"],
      some (.column ⟨"timestamp", .base (.ofColumns "events" columns)⟩), none⟩)
    (.comparison .gt) (.constant (.float (.zero negative)) none) none

end Sample

theorem pass_over_both_zeros :
    let plus := Sample.afterZero [("event", .string), ("timestamp", .dateTime)] false
    let minus := Sample.afterZero [("timestamp", .dateTime), ("event", .string)] true
    let ran (e : Expr) := Pass.run Store.catalog.recorded (some ⟨some 7, none, []⟩) e (.empty, [])
    plus ≠ minus ∧ plus.same minus = true ∧ Reads.ofExpr plus = Reads.ofExpr minus ∧
    ∃ t u, (ran plus).result = .ok (.coerced t) ∧ (ran minus).result = .ok (.coerced u) ∧
      t.same u = true := by
  intro plus minus ran
  have apart : plus ≠ minus := by
    intro same
    have zeros : plus.children.map Expr.constant? = minus.children.map Expr.constant? := by
      rw [same]
    revert zeros
    decide
  have alike : plus.same minus = true := by decide
  obtain ⟨reads, results, -⟩ := pass_respects_sameness Store.catalog (some ⟨some 7, none, []⟩) plus
    minus alike .empty
  refine ⟨apart, alike, reads, ?_⟩
  rcases results with ⟨err, failed, -⟩ | ⟨unchanged, -⟩ | coerced
  · cases failed
  · cases unchanged
  · exact coerced

end QueryCoercion
