import QueryCoercion.Proofs.NormalForm

namespace QueryCoercion

/-- The list has everything that holds at some place, once and in the order of the places. -/
structure Enumerates {α : Type} (listed : List (Nat × α)) (holds : Nat → α → Prop) : Prop where
  ordered : listed.Pairwise fun a b => a.1 < b.1
  mem_iff : ∀ i a, (i, a) ∈ listed ↔ holds i a

theorem Enumerates.before {α : Type} {earlier later : List (Nat × α)} {i : Nat} {a : α}
    {holds : Nat → α → Prop} (listed : Enumerates (earlier ++ (i, a) :: later) holds) :
    Enumerates earlier fun j b => j < i ∧ holds j b := by
  obtain ⟨first, rest, apart⟩ := List.pairwise_append.mp listed.ordered
  have after := (List.pairwise_cons.mp rest).1
  refine ⟨first, ?_⟩
  intro j b
  constructor
  · intro member
    refine ⟨apart _ member _ List.mem_cons_self, ?_⟩
    exact (listed.mem_iff j b).mp (List.mem_append_left _ member)
  · rintro ⟨left, held⟩
    rcases List.mem_append.mp ((listed.mem_iff j b).mpr held) with member | member
    · exact member
    · rcases List.mem_cons.mp member with same | member
      · cases same
        omega
      · have right := after _ member
        omega

/-- What there is for a member of a list, along with its place. -/
def placed? {α β : Type} (g : α → Option β) (x : α × Nat) : Option (Nat × β) :=
  (g x.1).map fun b => (x.2, b)

theorem exists_enumeration {α β : Type} (g : α → Option β) (xs : List α) :
    ∃ listed, Enumerates listed (fun i b => ∃ x, xs[i]? = some x ∧ g x = some b) ∧
      listed.map Prod.snd = xs.filterMap g := by
  refine ⟨xs.zipIdx.filterMap (placed? g), ⟨?_, ?_⟩, ?_⟩
  · have places : xs.zipIdx.Pairwise fun a b => a.2 < b.2 := by
      rw [← List.pairwise_map, List.zipIdx_map_snd]
      exact List.pairwise_lt_range'
    apply places.filterMap
    intro x y before a first b second
    obtain ⟨_, -, rfl⟩ := Option.map_eq_some_iff.mp first
    obtain ⟨_, -, rfl⟩ := Option.map_eq_some_iff.mp second
    exact before
  · intro i b
    rw [List.mem_filterMap]
    constructor
    · rintro ⟨⟨x, j⟩, member, placed⟩
      obtain ⟨_, given, same⟩ := Option.map_eq_some_iff.mp placed
      cases same
      exact ⟨x, List.mem_zipIdx_iff_getElem?.mp member, given⟩
    · rintro ⟨x, there, given⟩
      exact ⟨(x, i), List.mem_zipIdx_iff_getElem?.mpr there, by simp [placed?, given]⟩
  · have unplaced : (fun x => (placed? g x).map Prod.snd) = g ∘ Prod.fst := by
      funext x
      cases given : g x.1 <;> simp [placed?, given]
    rw [List.map_filterMap, unplaced, ← List.filterMap_map, List.zipIdx_map_fst]

namespace Rules

/-- The field at a place of the tree does not stand in the wrapper that it is to stand in. -/
structure Loose (r : Rules) (e : Expr) (i : Nat) (f : Field) : Prop where
  leaf : e.leaves[i]? = some f
  unwrapped : ∀ node, Expr.Within node i e → ¬ r.Wraps f node

/-- At a place of the tree there is a loose read of a property whose kind is known. -/
structure Tells (r : Rules) (e : Expr) (i : Nat) (x : Report) : Prop where
  loose : r.Loose e i x.field
  typed : ∃ p scope, x.field.property? = some p ∧ p.classify? = some (scope, x.name) ∧
    r.typing.get? scope x.name = some x.kind

/-- What happens to the field at a place of the tree, if anything does. -/
inductive Traces (r : Rules) (e : Expr) (i : Nat) : Event → Prop where
  | coercing {x : Report} (tells : r.Tells e i x) :
      Traces r e i (.coercing (Notice.label x.field x.name) x.kind)
  | converting {f : Field} {c : ColumnRef} (loose : r.Loose e i f)
      (bound : f.binding = some (.column c)) (dated : c.isDateTime = true) :
      Traces r e i (.converting c.name r.timezone)

/-- The field of a seat that does not have the coercion it is to have. -/
def loose? (r : Rules) (s : Seat) : Option Field :=
  match s.around with
  | some c => if r.coercion? s.field = some c then none else some s.field
  | none => some s.field

variable {r : Rules} {e : Expr} {i : Nat}

theorem field_of_loose? {s : Seat} {f : Field} (loose : r.loose? s = some f) : s.field = f := by
  unfold loose? at loose
  split at loose
  · split at loose
    · cases loose
    · exact Option.some.inj loose
  · exact Option.some.inj loose

theorem exposed_eq_loose (r : Rules) (e : Expr) : r.exposed e = e.seats.filterMap r.loose? := by
  induction e using Expr.byNodes with
  | field f => simp [loose?]
  | node e inner ih =>
    rcases Expr.around_or_bare e with ⟨c, f, around⟩ | bare
    · rw [Expr.seats_around around]
      by_cases given : r.coercion? f = some c
      · rw [exposed_coerced (isCoerced_iff.mpr ⟨c, f, around, given⟩)]
        simp [loose?, given]
      · -- a wrapper that the rules do not ask for is gone through, and has one field in it
        have fresh : r.isCoerced e = false := by simp [isCoerced_of_around around, given]
        have below : e.children.flatMap r.exposed = e.children.flatMap Expr.leaves := by
          apply List.flatMap_congr
          intro x member
          rcases around.mem_children member with rfl | ⟨value, span, rfl⟩
          · rw [exposed_field, Expr.leaves]
          · rw [exposed, Expr.outside_node _ rfl, Expr.leaves]
            simp [Expr.children]
        rw [exposed_node inner fresh, below, ← Expr.leaves_node inner, around.leaves]
        simp [loose?, given]
    · rw [exposed_node inner (isCoerced_of_shapeless bare), Expr.seats_bare inner bare,
        List.filterMap_flatMap]
      exact List.flatMap_congr ih

theorem loose_iff {f : Field} :
    r.Loose e i f ↔ ∃ s, e.seats[i]? = some s ∧ r.loose? s = some f := by
  constructor
  · rintro ⟨leaf, unwrapped⟩
    obtain ⟨around, seat⟩ := seat_of_leaf leaf
    refine ⟨_, seat, ?_⟩
    cases around with
    | none => rfl
    | some c =>
      obtain ⟨node, within, around⟩ := Expr.within_of_seat seat
      have other : r.coercion? f ≠ some c := by
        intro given
        exact unwrapped node within (wraps_iff.mpr ⟨c, around, given⟩)
      simp [loose?, other]
  · rintro ⟨⟨g, around⟩, seat, loose⟩
    obtain rfl : g = f := field_of_loose? loose
    have leaf : e.leaves[i]? = some g := by
      rw [← Expr.map_field_seats, List.getElem?_map, seat]
      rfl
    refine ⟨leaf, ?_⟩
    intro node within wraps
    obtain ⟨c, outer, given⟩ := wraps_iff.mp wraps
    have taken := Expr.seat_of_within within outer
    rw [seat] at taken
    cases taken
    simp [loose?, given] at loose

theorem tells_iff {x : Report} :
    r.Tells e i x ↔ ∃ s, e.seats[i]? = some s ∧ (r.loose? s).bind r.report? = some x := by
  constructor
  · rintro ⟨loose, typed⟩
    obtain ⟨s, seat, found⟩ := loose_iff.mp loose
    have known : r.report? x.field = some x := report?_eq_some_iff.mpr ⟨rfl, typed⟩
    exact ⟨s, seat, by rw [found, Option.bind_some, known]⟩
  · rintro ⟨s, seat, told⟩
    obtain ⟨f, found, known⟩ := Option.bind_eq_some_iff.mp told
    obtain ⟨rfl, typed⟩ := report?_eq_some_iff.mp known
    exact ⟨loose_iff.mpr ⟨s, seat, found⟩, typed⟩

theorem event?_of_report {f : Field} {x : Report} (known : r.report? f = some x) :
    r.event? f = some (.coercing (Notice.label x.field x.name) x.kind) := by
  obtain ⟨rfl, p, -, bound, -⟩ := report?_eq_some_iff.mp known
  have unlike (c : ColumnRef) : x.field.binding ≠ some (.column c) := by
    intro column
    simp [Field.property?, column, Binding.property?] at bound
  unfold event?
  split
  · rename_i c column
    exact absurd column (unlike c)
  · rw [known]
    rfl

theorem event?_cases {f : Field} {event : Event} (given : r.event? f = some event) :
    (∃ x, r.report? f = some x ∧ event = .coercing (Notice.label x.field x.name) x.kind) ∨
    ∃ c, f.binding = some (.column c) ∧ c.isDateTime = true ∧
      event = .converting c.name r.timezone := by
  unfold event? at given
  split at given
  · rename_i c bound
    split at given
    · rename_i dated
      exact .inr ⟨c, bound, dated, (Option.some.inj given).symm⟩
    · cases given
  · obtain ⟨x, known, rfl⟩ := Option.map_eq_some_iff.mp given
    obtain ⟨rfl, -⟩ := report?_eq_some_iff.mp known
    exact .inl ⟨x, known, rfl⟩

theorem traces_iff {event : Event} :
    r.Traces e i event ↔
      ∃ s, e.seats[i]? = some s ∧ (r.loose? s).bind r.event? = some event := by
  constructor
  · intro traced
    cases traced with
    | coercing tells =>
      obtain ⟨s, seat, told⟩ := tells_iff.mp tells
      obtain ⟨f, found, known⟩ := Option.bind_eq_some_iff.mp told
      exact ⟨s, seat, by rw [found, Option.bind_some, event?_of_report known]⟩
    | converting loose bound dated =>
      obtain ⟨s, seat, found⟩ := loose_iff.mp loose
      exact ⟨s, seat, by simp [found, event?, bound, dated]⟩
  · rintro ⟨s, seat, told⟩
    obtain ⟨f, found, given⟩ := Option.bind_eq_some_iff.mp told
    rcases event?_cases given with ⟨x, known, rfl⟩ | ⟨c, bound, dated, rfl⟩
    · have tells : r.Tells e i x :=
        tells_iff.mpr ⟨s, seat, by rw [found, Option.bind_some, known]⟩
      exact .coercing tells
    · exact .converting (loose_iff.mpr ⟨s, seat, found⟩) bound dated

theorem exists_told (r : Rules) (e : Expr) :
    ∃ told, Enumerates told (r.Tells e) ∧ told.map Prod.snd = r.reports e := by
  obtain ⟨told, listed, reports⟩ := exists_enumeration (fun s => (r.loose? s).bind r.report?) e.seats
  refine ⟨told, ⟨listed.ordered, ?_⟩, ?_⟩
  · intro i x
    rw [listed.mem_iff, tells_iff]
  · rw [reports, Rules.reports, exposed_eq_loose, List.filterMap_filterMap]

theorem exists_traced (r : Rules) (e : Expr) :
    ∃ traced, Enumerates traced (r.Traces e) ∧
      traced.map Prod.snd = (r.exposed e).filterMap r.event? := by
  obtain ⟨traced, listed, events⟩ := exists_enumeration (fun s => (r.loose? s).bind r.event?) e.seats
  refine ⟨traced, ⟨listed.ordered, ?_⟩, ?_⟩
  · intro i event
    rw [listed.mem_iff, traces_iff]
  · rw [events, exposed_eq_loose, List.filterMap_filterMap]

end Rules

/-- Whatever is coerced, a run with a log adds one notice for each loose read of known kind,
from left to right, which names the read and the kind; and it emits the events of these reads
and of the loose timestamps. A run without a log gives the same tree and the same events, has
dropped as many notices as the other has added, and says so unless there are none. -/
theorem same_run_with_and_without_log (r : Rules) (log : List Notice) (e : Expr) :
    let kept := r.run (some log) e
    let lost := r.run none e
    ∃ told traced, Enumerates told (r.Tells e) ∧ Enumerates traced (r.Traces e) ∧
      kept.log = some (log ++ told.map fun x => x.2.notice) ∧
      (∀ x ∈ told, x.2.notice.message =
        "Property '" ++ x.2.field.chain.getLast?.getD x.2.name ++ "' is of type '" ++
          x.2.kind.label ++ "'") ∧
      kept.events = traced.map Prod.snd ∧
      lost.tree = kept.tree ∧ lost.log = none ∧
      (r.apply e (.start none)).2.dropped = told.length ∧
      lost.events = kept.events ++
        if 0 < told.length then [.noticesDropped told.length] else [] := by
  intro kept lost
  obtain ⟨told, tells, reports⟩ := r.exists_told e
  obtain ⟨traced, traces, events⟩ := r.exists_traced e
  have notices : told.map (fun x => x.2.notice) = (r.reports e).map Report.notice := by
    rw [← reports, List.map_map]
    rfl
  have count : (r.reports e).length = told.length := by rw [← reports, List.length_map]
  have quiet : kept.events = traced.map Prod.snd := by
    simp [kept, Rules.run, r.apply_eq_add, Journal.add, Journal.start, Journal.finish, events]
  have dropped : (r.apply e (.start none)).2.dropped = told.length := by
    simp [r.apply_eq_add, Journal.add, Journal.start, count]
  refine ⟨told, traced, tells, traces, ?_, ?_, quiet, ?_, ?_, dropped, ?_⟩
  · rw [notices]
    exact r.run_log (some log) e
  · intro x _
    rfl
  · exact (r.run_tree none e).trans (r.run_tree (some log) e).symm
  · exact r.run_log none e
  · have finished : lost.events = (r.apply e (.start none)).2.finish.events := rfl
    have emitted : (r.apply e (.start none)).2.events = kept.events := by
      simp [quiet, r.apply_eq_add, Journal.add, Journal.start, events]
    rw [finished, Journal.finish, dropped]
    split
    · rw [Journal.emit, emitted]
    · rw [emitted, List.append_nil]

end QueryCoercion
