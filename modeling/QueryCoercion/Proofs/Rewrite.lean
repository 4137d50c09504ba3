import QueryCoercion.Coercion.Pass
import QueryCoercion.Proofs.Tree

/-!
Coercing a tree, taken apart. The tree that comes out does not depend on the journal,
and what goes into the journal is told by the fields outside of coerced nodes, from
left to right. A node that is not coerced comes out without a coercion of its own, unless
it comes out as it was. All this depends on the timezone and on the kinds of the reads in
the tree, and on nothing else that a typing knows.
-/
namespace QueryCoercion

namespace Coercion

/-- A node with a coercion directly around a field, whatever the spans of the node and
of its constant. -/
inductive Around : Coercion → Field → Expr → Prop where
  | toFloat (f : Field) (span : Option Span) :
      Around .toFloat f (.call "toFloat" [.field f] span)
  | toDateTime (f : Field) (span : Option Span) :
      Around .toDateTime f (.call "toDateTime" [.field f] span)
  | isTrue (f : Field) (span inner : Option Span) :
      Around .isTrue f (.binary (.field f) (.comparison .eq) (.constant (.string "true") inner) span)
  | toTimeZone (timezone : String) (f : Field) (span inner : Option Span) :
      Around (.toTimeZone timezone) f
        (.call "toTimeZone" [.field f, .constant (.string timezone) inner] span)

theorem shape?_eq_some_iff {e : Expr} {c : Coercion} {f : Field} :
    shape? e = some (c, f) ↔ Around c f e := by
  constructor
  · intro shaped
    unfold shape? at shaped
    split at shaped
    · split at shaped
      · cases shaped
        rename_i same
        exact same ▸ .toFloat _ _
      · split at shaped
        · cases shaped
          rename_i same
          exact same ▸ .toDateTime _ _
        · cases shaped
    · split at shaped
      · cases shaped
        rename_i same
        exact same ▸ .toTimeZone _ _ _ _
      · cases shaped
    · split at shaped
      · cases shaped
        rename_i same
        exact same ▸ .isTrue _ _ _
      · cases shaped
    · cases shaped
  · intro around
    cases around <;> simp [shape?]

theorem Around.wrap (c : Coercion) (f : Field) : Around c f (c.wrap f) :=
  shape?_eq_some_iff.mp (shape?_wrap c f)

theorem Around.children {c : Coercion} {f : Field} {e : Expr} (around : Around c f e) :
    ∃ rest, e.children = .field f :: rest ∧
      ∀ x ∈ rest, ∃ value span, x = .constant value span := by
  cases around with
  | toFloat span => exact ⟨[], rfl, by simp⟩
  | toDateTime span => exact ⟨[], rfl, by simp⟩
  | isTrue span inner => exact ⟨[_], rfl, by simp⟩
  | toTimeZone timezone span inner => exact ⟨[_], rfl, by simp⟩

theorem Around.mem_children {c : Coercion} {f : Field} {e x : Expr} (around : Around c f e)
    (member : x ∈ e.children) : x = .field f ∨ ∃ value span, x = .constant value span := by
  obtain ⟨rest, first, others⟩ := around.children
  rw [first] at member
  rcases List.mem_cons.mp member with same | other
  · exact .inl same
  · exact .inr (others x other)

theorem Around.leaves {c : Coercion} {f : Field} {e : Expr} (around : Around c f e) :
    e.leaves = [f] := by
  cases around <;> simp [Expr.leaves, Expr.leavesAll]

theorem Around.field? {c : Coercion} {f : Field} {e : Expr} (around : Around c f e) :
    e.field? = none := by
  cases around <;> rfl

/-- Where replacing the children yields a coercion around a field, the children were
that field and its constant already, provided that fields and constants only come from
themselves. -/
theorem Around.of_mapChildren {c : Coercion} {f : Field} {e : Expr} {g : Expr → Expr}
    (fields : ∀ x f, g x = .field f → x = .field f)
    (constants : ∀ x value span, g x = .constant value span → x = .constant value span)
    (around : Around c f (e.mapChildren g)) : e.mapChildren g = e := by
  obtain ⟨rest, first, others⟩ := around.children
  apply Expr.mapChildren_id
  intro x member
  have image : g x ∈ Expr.field f :: rest := by
    rw [← first, Expr.children_mapChildren]
    exact List.mem_map_of_mem member
  rcases List.mem_cons.mp image with same | other
  · rw [same, fields x f same]
  · obtain ⟨value, span, same⟩ := others (g x) other
    rw [same, constants x value span same]

end Coercion

namespace Journal

/-- The journal after some more notices and events. -/
def add (j : Journal) (notices : List Notice) (events : List Event) : Journal where
  log := j.log.map (· ++ notices)
  dropped := if j.log.isSome then j.dropped else j.dropped + notices.length
  events := j.events ++ events

@[simp] theorem add_nil (j : Journal) : j.add [] [] = j := by
  obtain ⟨log, dropped, events⟩ := j
  cases log <;> simp [add]

theorem add_events (j : Journal) (event : Event) : j.add [] [event] = j.emit event := by
  obtain ⟨log, dropped, events⟩ := j
  cases log <;> simp [add, emit]

theorem add_notice (j : Journal) (notice : Notice) (event : Event) :
    j.add [notice] [event] = (j.notify notice).emit event := by
  obtain ⟨log, dropped, events⟩ := j
  cases log <;> simp [add, notify, emit]

theorem add_add (j : Journal) (notices more : List Notice) (events others : List Event) :
    (j.add notices events).add more others = j.add (notices ++ more) (events ++ others) := by
  obtain ⟨log, dropped, told⟩ := j
  cases log <;> simp [add, Nat.add_assoc]

end Journal

/-- A property read that a notice is about. -/
structure Report where
  field : Field
  name : String
  kind : Kind

def Report.notice (x : Report) : Notice := .ofRead x.field x.name x.kind

namespace Rules

def rewrite (r : Rules) : Expr → Expr := Expr.walk r.isCoerced r.coerce

def exposed (r : Rules) : Expr → List Field := Expr.outside r.isCoerced

def report? (r : Rules) (f : Field) : Option Report :=
  (r.read? f).map fun read => ⟨f, read.1, read.2⟩

/-- The reads of known kind outside of coerced nodes, from left to right. -/
def reports (r : Rules) (e : Expr) : List Report := (r.exposed e).filterMap r.report?

@[simp] theorem rewrite_field (r : Rules) (f : Field) : r.rewrite (.field f) = r.coerce f :=
  Expr.walk_field _ _ f

@[simp] theorem exposed_field (r : Rules) (f : Field) : r.exposed (.field f) = [f] :=
  Expr.outside_field _ f

theorem field?_of_isCoerced {r : Rules} {e : Expr} (done : r.isCoerced e = true) :
    e.field? = none := by
  cases e <;> simp_all [isCoerced, coerced?, Coercion.shape?, Expr.field?]

theorem rewrite_coerced {r : Rules} {e : Expr} (done : r.isCoerced e = true) :
    r.rewrite e = e := by
  rw [rewrite, Expr.walk_node _ _ (field?_of_isCoerced done), done]
  rfl

theorem exposed_coerced {r : Rules} {e : Expr} (done : r.isCoerced e = true) :
    r.exposed e = [] := by
  rw [exposed, Expr.outside_node _ (field?_of_isCoerced done), done]
  rfl

theorem rewrite_node {r : Rules} {e : Expr} (inner : e.field? = none)
    (fresh : r.isCoerced e = false) : r.rewrite e = e.mapChildren r.rewrite := by
  rw [rewrite, Expr.walk_node _ _ inner, fresh]
  rfl

theorem exposed_node {r : Rules} {e : Expr} (inner : e.field? = none)
    (fresh : r.isCoerced e = false) : r.exposed e = e.children.flatMap r.exposed := by
  rw [exposed, Expr.outside_node _ inner, fresh]
  rfl

theorem apply_eq (r : Rules) (e : Expr) (j : Journal) :
    r.apply e j = (r.rewrite e, (r.exposed e).foldl (fun j f => r.note f j) j) :=
  Expr.copyBy_eq r.coerce r.note (fun _ => rfl) e j

/-- The event of coercing one field. -/
def event? (r : Rules) (f : Field) : Option Event :=
  match f.binding with
  | some (.column c) => if c.isDateTime then some (.converting c.name r.timezone) else none
  | _ => (r.report? f).map fun x => .coercing (Notice.label f x.name) x.kind

theorem note_eq_add (r : Rules) (f : Field) (j : Journal) :
    r.note f j = j.add ((r.report? f).map Report.notice).toList (r.event? f).toList := by
  cases bound : f.binding with
  | none => simp [note, event?, report?, read?, Field.property?, bound]
  | some b =>
    cases b with
    | column c =>
      have unread : r.report? f = none := by
        simp [report?, read?, Field.property?, bound, Binding.property?]
      cases dated : c.isDateTime <;>
        simp [note, event?, bound, dated, unread, Journal.add_events]
    | property p =>
      cases given : r.read? f with
      | none => simp [note, event?, bound, report?, given]
      | some read =>
        simp [note, event?, bound, report?, given, Journal.add_notice, Report.notice]

theorem foldl_note_eq_add (r : Rules) (fields : List Field) (j : Journal) :
    fields.foldl (fun j f => r.note f j) j =
      j.add ((fields.filterMap r.report?).map Report.notice) (fields.filterMap r.event?) := by
  induction fields generalizing j with
  | nil => simp
  | cons f rest ih =>
    have notices : ((f :: rest).filterMap r.report?).map Report.notice =
        ((r.report? f).map Report.notice).toList ++
          (rest.filterMap r.report?).map Report.notice := by
      cases given : r.report? f <;> simp [given]
    have events : (f :: rest).filterMap r.event? =
        (r.event? f).toList ++ rest.filterMap r.event? := by
      cases given : r.event? f <;> simp [given]
    rw [List.foldl_cons, ih, note_eq_add, Journal.add_add, notices, events]

theorem apply_eq_add (r : Rules) (e : Expr) (j : Journal) :
    r.apply e j = (r.rewrite e,
      j.add ((r.reports e).map Report.notice) ((r.exposed e).filterMap r.event?)) := by
  rw [apply_eq, foldl_note_eq_add, reports]

theorem run_tree (r : Rules) (log : Option (List Notice)) (e : Expr) :
    (r.run log e).tree = r.rewrite e := by
  simp only [run, apply_eq]

theorem run_log (r : Rules) (log : Option (List Notice)) (e : Expr) :
    (r.run log e).log = log.map (· ++ (r.reports e).map Report.notice) := by
  simp only [run, apply_eq_add, Journal.add, Journal.start]

theorem coerced?_eq_some_iff {r : Rules} {e : Expr} {f : Field} :
    r.coerced? e = some f ↔ ∃ c, Coercion.Around c f e ∧ r.coercion? f = some c := by
  constructor
  · intro found
    unfold coerced? at found
    split at found
    · rename_i c g shaped
      split at found
      · cases found
        exact ⟨c, Coercion.shape?_eq_some_iff.mp shaped, by assumption⟩
      · cases found
    · cases found
  · rintro ⟨c, around, given⟩
    simp [coerced?, Coercion.shape?_eq_some_iff.mpr around, given]

theorem isCoerced_iff {r : Rules} {e : Expr} :
    r.isCoerced e = true ↔ ∃ c f, Coercion.Around c f e ∧ r.coercion? f = some c := by
  simp only [isCoerced, Option.isSome_iff_exists, coerced?_eq_some_iff]
  exact exists_comm

theorem isCoerced_of_around {r : Rules} {e : Expr} {c : Coercion} {f : Field}
    (around : Coercion.Around c f e) : r.isCoerced e = decide (r.coercion? f = some c) := by
  by_cases given : r.coercion? f = some c <;>
    simp [isCoerced, coerced?, Coercion.shape?_eq_some_iff.mpr around, given]

theorem isCoerced_of_shapeless {r : Rules} {e : Expr} (bare : ∀ c f, ¬ Coercion.Around c f e) :
    r.isCoerced e = false := by
  rw [Bool.eq_false_iff, ne_eq, isCoerced_iff]
  rintro ⟨c, f, around, -⟩
  exact bare c f around

theorem coerce_of_some {r : Rules} {f : Field} {c : Coercion} (given : r.coercion? f = some c) :
    r.coerce f = c.wrap f := by
  simp [coerce, given]

theorem coerce_of_none {r : Rules} {f : Field} (given : r.coercion? f = none) :
    r.coerce f = .field f := by
  simp [coerce, given]

theorem leaves_coerce (r : Rules) (f : Field) : (r.coerce f).leaves = [f] := by
  cases given : r.coercion? f with
  | none => rw [coerce_of_none given, Expr.leaves]
  | some c => rw [coerce_of_some given, (Coercion.Around.wrap c f).leaves]

theorem coercion?_of_coerce_eq_field {r : Rules} {f g : Field} (came : r.coerce g = .field f) :
    g = f ∧ r.coercion? g = none := by
  cases given : r.coercion? g with
  | none =>
    rw [coerce_of_none given] at came
    exact ⟨Expr.field.inj came, rfl⟩
  | some c =>
    have wrapped := (Coercion.Around.wrap c g).field?
    rw [← coerce_of_some given, came] at wrapped
    cases wrapped

theorem isCoerced_wrap {r : Rules} {f : Field} {c : Coercion} (given : r.coercion? f = some c) :
    r.isCoerced (c.wrap f) = true :=
  isCoerced_iff.mpr ⟨c, f, .wrap c f, given⟩

theorem rewrite_node_cases (r : Rules) {e : Expr} (inner : e.field? = none) :
    r.rewrite e = e ∨ r.isCoerced e = false ∧ r.rewrite e = e.mapChildren r.rewrite := by
  by_cases done : r.isCoerced e = true
  · exact .inl (rewrite_coerced done)
  · have fresh : r.isCoerced e = false := Bool.eq_false_iff.mpr done
    exact .inr ⟨fresh, rewrite_node inner fresh⟩

theorem eq_field_of_rewrite {r : Rules} {e : Expr} {f : Field}
    (came : r.rewrite e = .field f) : e = .field f := by
  induction e using Expr.byNodes with
  | field g =>
    rw [rewrite_field] at came
    rw [(coercion?_of_coerce_eq_field came).1]
  | node e inner ih =>
    rcases r.rewrite_node_cases inner with same | ⟨-, rebuilt⟩
    · exact same ▸ came
    · have impossible : (e.mapChildren r.rewrite).field? = some f := by rw [← rebuilt, came]; rfl
      simp [inner] at impossible

theorem eq_constant_of_rewrite {r : Rules} {e : Expr} {value : Constant} {span : Option Span}
    (came : r.rewrite e = .constant value span) : e = .constant value span := by
  induction e using Expr.byNodes with
  | field g =>
    have single := r.leaves_coerce g
    rw [← rewrite_field, came, Expr.leaves] at single
    cases single
  | node e inner ih =>
    rcases r.rewrite_node_cases inner with same | ⟨-, rebuilt⟩
    · exact same ▸ came
    · rw [rebuilt] at came
      cases e <;> cases came
      rfl

/-- What can happen to a node other than a field: it is coerced already; or it is a
coercion around a field that the rules leave alone, and stays; or it is rebuilt, and then
it is no coercion around a field and was none that the rules allow. -/
theorem rewrite_cases (r : Rules) {e : Expr} (inner : e.field? = none) :
    r.isCoerced e = true ∨
    (∃ c f, Coercion.Around c f e ∧ r.coercion? f = none ∧ r.rewrite e = e) ∨
    (r.isCoerced e = false ∧ r.rewrite e = e.mapChildren r.rewrite ∧
      (∀ c f, ¬ Coercion.Around c f (e.mapChildren r.rewrite)) ∧
      ∀ c f, Coercion.Around c f e → ∃ d, r.coercion? f = some d ∧ d ≠ c) := by
  by_cases done : r.isCoerced e = true
  · exact .inl done
  have fresh : r.isCoerced e = false := Bool.eq_false_iff.mpr done
  have rebuilt := rewrite_node inner fresh
  by_cases idle : ∃ c f, Coercion.Around c f e ∧ r.coercion? f = none
  · obtain ⟨c, f, around, given⟩ := idle
    refine .inr (.inl ⟨c, f, around, given, ?_⟩)
    apply Expr.walk_eq_self
    intro g leaf
    rw [around.leaves, List.mem_singleton] at leaf
    exact leaf ▸ coerce_of_none given
  · have other : ∀ c f, Coercion.Around c f e → ∃ d, r.coercion? f = some d ∧ d ≠ c := by
      intro c f around
      cases given : r.coercion? f with
      | none => exact absurd ⟨c, f, around, given⟩ idle
      | some d =>
        refine ⟨d, rfl, ?_⟩
        rintro rfl
        exact done (isCoerced_iff.mpr ⟨d, f, around, given⟩)
    refine .inr (.inr ⟨fresh, rebuilt, ?_, other⟩)
    intro c f around
    -- a shape can only come out of a node whose children stay, which then has it already
    have same := around.of_mapChildren (fun x f => eq_field_of_rewrite)
      fun x value span => eq_constant_of_rewrite
    obtain ⟨d, given, -⟩ := other c f (same ▸ around)
    obtain ⟨rest, first, -⟩ := around.children
    have stays : Expr.field f ∈ (e.mapChildren r.rewrite).children := by simp [first]
    rw [Expr.children_mapChildren, List.mem_map] at stays
    obtain ⟨x, -, came⟩ := stays
    rw [eq_field_of_rewrite came, rewrite_field] at came
    rw [(coercion?_of_coerce_eq_field came).2] at given
    cases given

section

variable {r r' : Rules}

theorem coercion?_congr (zone : r.timezone = r'.timezone) {f : Field}
    (read : r.read? f = r'.read? f) : r.coercion? f = r'.coercion? f := by
  simp only [coercion?, zone, read]

theorem coerce_congr (zone : r.timezone = r'.timezone) {f : Field}
    (read : r.read? f = r'.read? f) : r.coerce f = r'.coerce f := by
  simp only [coerce, coercion?_congr zone read]

theorem note_congr (zone : r.timezone = r'.timezone) {f : Field}
    (read : r.read? f = r'.read? f) (j : Journal) : r.note f j = r'.note f j := by
  simp only [note, zone, read]

theorem isCoerced_congr (zone : r.timezone = r'.timezone) {e : Expr}
    (reads : ∀ f ∈ e.leaves, r.read? f = r'.read? f) : r.isCoerced e = r'.isCoerced e := by
  unfold isCoerced coerced?
  split
  · rename_i c f shaped
    have leaf : f ∈ e.leaves := by simp [(Coercion.shape?_eq_some_iff.mp shaped).leaves]
    rw [coercion?_congr zone (reads f leaf)]
  · rfl

/-- Rules of one timezone that know the same kinds for the reads of a tree make the same of
it and leave the same in the journal. -/
theorem apply_congr (zone : r.timezone = r'.timezone) {e : Expr}
    (reads : ∀ f ∈ e.leaves, r.read? f = r'.read? f) (j : Journal) :
    r.apply e j = r'.apply e j := by
  have nodes (n : Expr) (among : ∀ f ∈ n.leaves, f ∈ e.leaves) : r.isCoerced n = r'.isCoerced n :=
    isCoerced_congr zone fun f leaf => reads f (among f leaf)
  have tree : r.rewrite e = r'.rewrite e :=
    Expr.walk_congr (fun f leaf => coerce_congr zone (reads f leaf)) nodes
  have fields : r.exposed e = r'.exposed e := Expr.outside_congr nodes
  rw [apply_eq, apply_eq, tree, fields]
  congr 1
  apply List.foldl_ext
  intro j f member
  exact note_congr zone (reads f (Expr.mem_leaves_of_outside member)) j

theorem run_congr (zone : r.timezone = r'.timezone) {e : Expr}
    (reads : ∀ f ∈ e.leaves, r.read? f = r'.read? f) (log : Option (List Notice)) :
    r.run log e = r'.run log e := by
  simp only [run, apply_congr zone reads]

theorem read?_congr (kinds : ∀ scope name, r.typing.get? scope name = r'.typing.get? scope name)
    (f : Field) : r.read? f = r'.read? f := by
  simp only [read?, kinds]

end

end Rules

end QueryCoercion
