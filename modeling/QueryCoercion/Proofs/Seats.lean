import QueryCoercion.Proofs.Policy

/-!
Where the fields of a tree stand. A seat is a field with the coercion directly around it,
and the seats of a tree follow each other like its fields. Coercing a tree gives each
field the seat that the rules ask for and leaves the other seats as they are.
-/
namespace QueryCoercion

structure Seat where
  field : Field
  around : Option Coercion

namespace Expr

def seats : Expr → List Seat :=
  gather (fun e => (Coercion.shape? e).map fun shape => [⟨shape.2, some shape.1⟩])
    fun f => [⟨f, none⟩]

@[simp] theorem seats_field (f : Field) : seats (.field f) = [⟨f, none⟩] :=
  gather_field _ _ f

@[simp] theorem seats_constant (value : Constant) (span : Option Span) :
    seats (.constant value span) = [] := by
  rw [seats, gather]
  rfl

theorem seats_around {e : Expr} {c : Coercion} {f : Field} (around : Coercion.Around c f e) :
    e.seats = [⟨f, some c⟩] := by
  rw [seats, gather_node _ _ around.field?, Coercion.shape?_eq_some_iff.mpr around]
  rfl

theorem seats_bare {e : Expr} (inner : e.field? = none) (bare : ∀ c f, ¬ Coercion.Around c f e) :
    e.seats = e.children.flatMap seats := by
  have shapeless : Coercion.shape? e = none := by
    rw [Option.eq_none_iff_forall_ne_some]
    rintro ⟨c, f⟩ shaped
    exact bare c f (Coercion.shape?_eq_some_iff.mp shaped)
  rw [seats, gather_node _ _ inner, shapeless]
  rfl

theorem around_or_bare (e : Expr) :
    (∃ c f, Coercion.Around c f e) ∨ ∀ c f, ¬ Coercion.Around c f e := by
  by_cases shaped : ∃ c f, Coercion.Around c f e
  · exact .inl shaped
  · exact .inr fun c f around => shaped ⟨c, f, around⟩

theorem map_field_seats (e : Expr) : e.seats.map Seat.field = e.leaves := by
  induction e using byNodes with
  | field f => simp [leaves]
  | node e inner ih =>
    rcases around_or_bare e with ⟨c, f, around⟩ | bare
    · simp [seats_around around, around.leaves]
    · rw [seats_bare inner bare, leaves_node inner, List.map_flatMap]
      exact List.flatMap_congr ih

theorem length_seats (e : Expr) : e.seats.length = e.leaves.length := by
  rw [← map_field_seats, List.length_map]

theorem flatMap_seats_around {e : Expr} {c : Coercion} {f : Field}
    (around : Coercion.Around c f e) (g : Expr → Expr)
    (constants : ∀ value span, g (.constant value span) = .constant value span) :
    e.children.flatMap (fun x => (g x).seats) = (g (.field f)).seats := by
  obtain ⟨rest, first, others⟩ := around.children
  have none : rest.flatMap (fun x => (g x).seats) = [] := by
    rw [List.flatMap_eq_nil_iff]
    intro x member
    obtain ⟨value, span, rfl⟩ := others x member
    rw [constants, seats_constant]
  rw [first, List.flatMap_cons, none, List.append_nil]

/-- A node stands within a tree, with so many fields of the tree to the left of it. -/
inductive Within (node : Expr) : Nat → Expr → Prop where
  | here : Within node 0 node
  | under {e c : Expr} {before after : List Expr} {n : Nat}
      (split : e.children = before ++ c :: after) (deeper : Within node n c) :
      Within node ((before.flatMap leaves).length + n) e

theorem Within.eq_of_childless {node e : Expr} {i : Nat} (within : Within node i e)
    (childless : e.children = []) : node = e := by
  cases within with
  | here => rfl
  | under split deeper => simp [childless] at split

theorem getElem?_flatMap_split {α β : Type} {g : α → List β} {xs : List α} {i : Nat} {b : β}
    (found : (xs.flatMap g)[i]? = some b) :
    ∃ before x after n, xs = before ++ x :: after ∧ i = (before.flatMap g).length + n ∧
      (g x)[n]? = some b := by
  induction xs generalizing i with
  | nil => simp at found
  | cons x rest ih =>
    rw [List.flatMap_cons] at found
    by_cases early : i < (g x).length
    · rw [List.getElem?_append_left early] at found
      exact ⟨[], x, rest, i, rfl, by simp, found⟩
    · rw [List.getElem?_append_right (Nat.le_of_not_lt early)] at found
      obtain ⟨before, y, after, n, rfl, place, there⟩ := ih found
      refine ⟨x :: before, y, after, n, rfl, ?_, there⟩
      rw [List.flatMap_cons, List.length_append]
      omega

theorem getElem?_flatMap_at {α β : Type} {g : α → List β} {before after : List α} {x : α} {n : Nat}
    {b : β} (found : (g x)[n]? = some b) :
    ((before ++ x :: after).flatMap g)[(before.flatMap g).length + n]? = some b := by
  obtain ⟨short, -⟩ := List.getElem?_eq_some_iff.mp found
  rw [List.flatMap_append, List.flatMap_cons, List.getElem?_append_right (Nat.le_add_right _ _),
    Nat.add_sub_cancel_left, List.getElem?_append_left short, found]

theorem getElem?_leaves_iff {e : Expr} {i : Nat} {f : Field} :
    e.leaves[i]? = some f ↔ Within (.field f) i e := by
  constructor
  · intro leaf
    induction e using byNodes generalizing i with
    | field g =>
      rw [leaves, List.getElem?_singleton] at leaf
      split at leaf
      · rename_i first
        cases leaf
        exact first ▸ .here
      · cases leaf
    | node e inner ih =>
      rw [leaves_node inner] at leaf
      obtain ⟨before, x, after, n, split, rfl, there⟩ := getElem?_flatMap_split leaf
      exact .under split (ih x (by simp [split]) there)
  · intro within
    induction within with
    | here => rw [leaves]; rfl
    | @under e x before after n split deeper ih =>
      have inner : e.field? = none := field?_of_mem_children (c := x) (by simp [split])
      rw [leaves_node inner, split]
      exact getElem?_flatMap_at ih

theorem mem_leaves_iff {e : Expr} {f : Field} :
    f ∈ e.leaves ↔ ∃ i, Within (.field f) i e := by
  simp only [List.mem_iff_getElem?, getElem?_leaves_iff]

theorem length_flatMap_seats (es : List Expr) :
    (es.flatMap seats).length = (es.flatMap leaves).length := by
  simp only [List.length_flatMap, length_seats]

theorem within_of_seat {e : Expr} {i : Nat} {f : Field} {c : Coercion}
    (seat : e.seats[i]? = some ⟨f, some c⟩) : ∃ node, Within node i e ∧ Coercion.Around c f node := by
  induction e using byNodes generalizing i with
  | field g =>
    rw [seats_field, List.getElem?_singleton] at seat
    split at seat <;> cases seat
  | node e inner ih =>
    rcases around_or_bare e with ⟨d, g, around⟩ | bare
    · rw [seats_around around, List.getElem?_singleton] at seat
      split at seat
      · rename_i first
        cases seat
        exact ⟨e, first ▸ .here, around⟩
      · cases seat
    · rw [seats_bare inner bare] at seat
      obtain ⟨before, x, after, n, split, rfl, there⟩ := getElem?_flatMap_split seat
      obtain ⟨node, deeper, around⟩ := ih x (by simp [split]) there
      rw [length_flatMap_seats]
      exact ⟨node, .under split deeper, around⟩

theorem seat_of_within {node e : Expr} {i : Nat} {f : Field} {c : Coercion}
    (within : Within node i e) (around : Coercion.Around c f node) :
    e.seats[i]? = some ⟨f, some c⟩ := by
  induction within with
  | here => rw [seats_around around]; rfl
  | @under e x before after n split deeper ih =>
    have inner : e.field? = none := field?_of_mem_children (c := x) (by simp [split])
    rcases around_or_bare e with ⟨d, g, outer⟩ | bare
    · -- under a coercion there is only its field and a constant, and no coercion around them
      rcases outer.mem_children (x := x) (by simp [split]) with rfl | ⟨value, span, rfl⟩
      · rw [seats_field, List.getElem?_singleton] at ih
        split at ih <;> cases ih
      · simp at ih
    · rw [seats_bare inner bare, split, ← length_flatMap_seats]
      exact getElem?_flatMap_at ih

/-- A coercion stands around a field in the tree just when its seat has it. -/
theorem within_around_iff {e : Expr} {i : Nat} {f : Field} {c : Coercion} :
    (∃ node, Within node i e ∧ Coercion.Around c f node) ↔ e.seats[i]? = some ⟨f, some c⟩ := by
  constructor
  · rintro ⟨node, within, around⟩
    exact seat_of_within within around
  · exact within_of_seat

end Expr

namespace Rules

/-- The seat that a field has after it has been coerced. -/
def settle (r : Rules) (s : Seat) : Seat :=
  match r.coercion? s.field with
  | some c => ⟨s.field, some c⟩
  | none => s

theorem settle_field (r : Rules) (s : Seat) : (r.settle s).field = s.field := by
  unfold settle
  split <;> rfl

theorem seats_coerce (r : Rules) (f : Field) : (r.coerce f).seats = [r.settle ⟨f, none⟩] := by
  cases given : r.coercion? f with
  | none => simp [coerce_of_none given, settle, given]
  | some c => simp [coerce_of_some given, Expr.seats_around (.wrap c f), settle, given]

theorem seats_rewrite (r : Rules) (e : Expr) : (r.rewrite e).seats = e.seats.map r.settle := by
  induction e using Expr.byNodes with
  | field f => rw [rewrite_field, seats_coerce, Expr.seats_field, List.map_singleton]
  | node e inner ih =>
    rcases r.rewrite_cases inner with done | ⟨c, f, around, given, same⟩ | ⟨-, rebuilt, bare, other⟩
    · obtain ⟨c, f, around, given⟩ := isCoerced_iff.mp done
      simp [rewrite_coerced done, Expr.seats_around around, settle, given]
    · simp [same, Expr.seats_around around, settle, given]
    · have inner' := Expr.inner_mapChildren r.rewrite inner
      rw [rebuilt, Expr.seats_bare inner' bare, Expr.children_mapChildren, List.flatMap_map]
      rcases Expr.around_or_bare e with ⟨c, f, around⟩ | unshaped
      · -- another coercion goes between the one that is there and its field
        obtain ⟨d, given, -⟩ := other c f around
        rw [Expr.flatMap_seats_around around r.rewrite fun _ _ => by rw [rewrite, Expr.walk],
          rewrite_field, seats_coerce, Expr.seats_around around]
        simp [settle, given]
      · rw [Expr.seats_bare inner unshaped, List.map_flatMap]
        exact List.flatMap_congr ih

theorem seat_of_leaf {e : Expr} {i : Nat} {f : Field} (leaf : e.leaves[i]? = some f) :
    ∃ around, e.seats[i]? = some ⟨f, around⟩ := by
  rw [← Expr.map_field_seats, List.getElem?_map, Option.map_eq_some_iff] at leaf
  obtain ⟨seat, there, rfl⟩ := leaf
  exact ⟨seat.around, there⟩

theorem within_rewrite_of_some {r : Rules} {e : Expr} {i : Nat} {f : Field} {c : Coercion}
    (leaf : e.leaves[i]? = some f) (given : r.coercion? f = some c) :
    ∃ node, Expr.Within node i (r.rewrite e) ∧ Coercion.Around c f node := by
  obtain ⟨around, seat⟩ := seat_of_leaf leaf
  apply Expr.within_of_seat
  rw [seats_rewrite, List.getElem?_map, seat]
  simp [settle, given]

theorem within_rewrite_of_none {r : Rules} {e node : Expr} {i : Nat} {f : Field} {c : Coercion}
    (given : r.coercion? f = none) (within : Expr.Within node i (r.rewrite e))
    (around : Coercion.Around c f node) :
    ∃ before, Expr.Within before i e ∧ Coercion.Around c f before := by
  have after := Expr.seat_of_within within around
  rw [seats_rewrite, List.getElem?_map, Option.map_eq_some_iff] at after
  obtain ⟨seat, there, settled⟩ := after
  apply Expr.within_of_seat
  have alone : r.coercion? seat.field = none := by
    rw [← settle_field r seat, settled]
    exact given
  have still : r.settle seat = seat := by simp [settle, alone]
  rw [there, ← still, settled]

end Rules

end QueryCoercion
