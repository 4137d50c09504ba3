import Mathlib.Data.List.Chain
import QueryCoercion.Proofs.NormalForm

/-!
Passes in one timezone after another. The first pass puts each date and time column into a
conversion; a pass in another timezone than the one before it puts one more conversion
directly around the column, within all the others, and changes nothing else. So the
conversions nest, with the last timezone innermost, and the first pass can be read off the
result.
-/
namespace QueryCoercion

namespace Expr

/-- A field in nested conversions and in nothing else, the first timezone outermost. -/
inductive Nested (f : Field) : List String → Expr → Prop where
  | field : Nested f [] (.field f)
  | call {zones : List String} {inner : Expr} (zone : String) (span there : Option Span)
      (deeper : Nested f zones inner) :
      Nested f (zone :: zones)
        (.call "toTimeZone" [inner, .constant (.string zone) there] span)

/-- The date and time column that stands in exactly these nested conversions. -/
def nested? : List String → Expr → Option Field
  | [], .field f => if f.isDateTime then some f else none
  | zone :: zones, .call name [inner, .constant (.string text) _] _ =>
    if name = "toTimeZone" ∧ text = zone then nested? zones inner else none
  | _, _ => none

/-- In a conversion to the first timezone around exactly the other conversions of a date
and time column, the column in their place. -/
def flattened? (zone : String) (zones : List String) : Expr → Option Expr
  | .call name [inner, .constant (.string text) there] span =>
    if name = "toTimeZone" ∧ text = zone then
      (nested? zones inner).map fun f =>
        .call name [.field f, .constant (.string text) there] span
    else none
  | _ => none

/-- Leaves of nested conversions only the outermost ones. -/
def flatten (zone : String) (zones : List String) : Expr → Expr :=
  exchange (flattened? zone zones)

def nest : List String → Field → Expr
  | [], f => .field f
  | zone :: zones, f => .call "toTimeZone" [nest zones f, .constant (.string zone) none] none

/-- Puts conversions around each date and time column, within all that is around it. -/
def deepen (zones : List String) : Expr → Expr :=
  replaceLeaves fun f => if f.isDateTime then nest zones f else .field f

variable {f g : Field} {zones others : List String} {e node : Expr}

theorem nested_nest (zones : List String) (f : Field) : Nested f zones (nest zones f) := by
  induction zones with
  | nil => exact .field
  | cons zone zones ih => exact .call zone none none ih

theorem Nested.unique (here : Nested f zones e) (there : Nested g others e) :
    zones = others ∧ f = g := by
  induction here generalizing others with
  | field =>
    cases there with
    | field => exact ⟨rfl, rfl⟩
  | call zone span there deeper ih =>
    cases there with
    | call _ _ _ below =>
      obtain ⟨rest, same⟩ := ih below
      exact ⟨congrArg (zone :: ·) rest, same⟩

theorem nested?_eq_some_iff :
    nested? zones e = some f ↔ Nested f zones e ∧ f.isDateTime = true := by
  constructor
  · intro found
    fun_induction nested? zones e with
    | case1 g dated =>
      cases found
      exact ⟨.field, dated⟩
    | case3 zone zones name inner text there span named ih =>
      obtain ⟨rfl, rfl⟩ := named
      obtain ⟨deeper, dated⟩ := ih found
      exact ⟨.call text span there deeper, dated⟩
    | case2 => cases found
    | case4 => cases found
    | case5 => cases found
  · rintro ⟨nested, dated⟩
    induction nested with
    | field => simp [nested?, dated]
    | call zone span there deeper ih => simpa [nested?] using ih

theorem deepen_field (dated : f.isDateTime = true) : deepen zones (.field f) = nest zones f := by
  simp [deepen, dated]

theorem deepen_plain (plain : f.isDateTime = false) : deepen zones (.field f) = .field f := by
  simp [deepen, plain]

theorem deepen_node (zones : List String) (inner : e.field? = none) :
    deepen zones e = e.mapChildren (deepen zones) :=
  replaceLeaves_node _ inner

theorem deepen_constant (zones : List String) (value : Constant) (span : Option Span) :
    deepen zones (.constant value span) = .constant value span := by
  rw [deepen, replaceLeaves]

theorem deepen_nest (dated : f.isDateTime = true) (zones more : List String) :
    deepen more (nest zones f) = nest (zones ++ more) f := by
  induction zones with
  | nil => exact deepen_field dated
  | cons zone zones ih =>
    rw [nest, deepen_node more rfl]
    simp only [mapChildren, List.map_cons, List.map_nil, ih, deepen_constant, List.cons_append,
      nest]

theorem deepen_deepen (zones more : List String) (e : Expr) :
    deepen more (deepen zones e) = deepen (zones ++ more) e := by
  unfold deepen
  rw [replaceLeaves_replaceLeaves]
  congr 1
  funext f
  by_cases dated : f.isDateTime = true
  · simpa [dated, deepen] using deepen_nest dated zones more
  · simp [dated]

theorem deepen_eq_self (still : ∀ f ∈ e.leaves, f.isDateTime = true → nest zones f = .field f) :
    deepen zones e = e := by
  rw [deepen, replaceLeaves_eq_walk]
  apply walk_eq_self
  intro f leaf
  by_cases dated : f.isDateTime = true
  · rw [if_pos dated, still f leaf dated]
  · rw [if_neg dated]

theorem leaves_nest (zones : List String) (f : Field) : (nest zones f).leaves = [f] := by
  induction zones with
  | nil => simp [nest, leaves]
  | cons zone zones ih => simp [nest, leaves, leavesAll, ih]

theorem leaves_deepen (zones : List String) (e : Expr) : (deepen zones e).leaves = e.leaves := by
  rw [deepen, replaceLeaves_eq_walk]
  apply leaves_walk
  intro f
  split
  · exact leaves_nest zones f
  · rw [leaves]

theorem Within.deepen {i : Nat} (within : Within node i e) (zones : List String) :
    Within (deepen zones node) i (Expr.deepen zones e) := by
  induction within with
  | here => exact .here
  | @under e x before after n split deeper ih =>
    have inner : e.field? = none := field?_of_mem_children (c := x) (by simp [split])
    have apart : (Expr.deepen zones e).children = before.map (Expr.deepen zones) ++
        Expr.deepen zones x :: after.map (Expr.deepen zones) := by
      rw [deepen_node zones inner, children_mapChildren, split, List.map_append, List.map_cons]
    have counted : (before.map (Expr.deepen zones)).flatMap leaves = before.flatMap leaves := by
      rw [List.flatMap_map]
      exact List.flatMap_congr fun c _ => leaves_deepen zones c
    have under := Within.under apart ih
    rwa [counted] at under

theorem eq_constant_of_deepen {value : Constant} {span : Option Span}
    (came : deepen zones e = .constant value span) : e = .constant value span := by
  cases e with
  | field f =>
    have single := leaves_deepen zones (.field f)
    rw [came, leaves, leaves] at single
    cases single
  | constant other there => rwa [deepen_constant] at came
  | call name args there => rw [deepen, replaceLeaves] at came; cases came
  | binary left op right there => rw [deepen, replaceLeaves] at came; cases came
  | group kind items => rw [deepen, replaceLeaves] at came; cases came
  | negation inner => rw [deepen, replaceLeaves] at came; cases came
  | aliased name inner there => rw [deepen, replaceLeaves] at came; cases came

theorem call_of_deepen {name : String} {made : Expr} {value : Constant} {there span : Option Span}
    (inner : e.field? = none)
    (came : deepen zones e = .call name [made, .constant value there] span) :
    ∃ before, e = .call name [before, .constant value there] span ∧ deepen zones before = made := by
  rw [deepen_node zones inner] at came
  cases e with
  | call other args span =>
    simp only [mapChildren, call.injEq] at came
    obtain ⟨rfl, mapped, rfl⟩ := came
    obtain ⟨before, rest, rfl, first, second⟩ := List.map_eq_cons_iff.mp mapped
    obtain ⟨last, none, rfl, constant, ended⟩ := List.map_eq_cons_iff.mp second
    cases List.map_eq_nil_iff.mp ended
    rw [eq_constant_of_deepen constant]
    exact ⟨before, rfl, first⟩
  | field f => cases inner
  | _ => cases came

/-- The conversions around a column of a deepened tree are those before it was deepened and
then those that were put in. -/
theorem Nested.of_deepen (dated : f.isDateTime = true) (nested : Nested f others (deepen zones e)) :
    ∃ outer, others = outer ++ zones ∧ Nested f outer e := by
  induction e using byNodes generalizing others with
  | field g =>
    by_cases stamped : g.isDateTime = true
    · rw [deepen_field stamped] at nested
      obtain ⟨same, rfl⟩ := nested.unique (nested_nest zones g)
      exact ⟨[], same, .field⟩
    · rw [deepen_plain (Bool.eq_false_iff.mpr stamped)] at nested
      cases nested
      exact absurd dated stamped
  | node e inner ih =>
    generalize came : deepen zones e = x at nested
    cases nested with
    | field =>
      rw [deepen_node zones inner] at came
      have impossible := inner_mapChildren (deepen zones) inner
      rw [came] at impossible
      cases impossible
    | call zone span there deeper =>
      obtain ⟨before, rfl, rfl⟩ := call_of_deepen inner came
      obtain ⟨outer, rfl, around⟩ := ih before (by simp [children]) deeper
      exact ⟨zone :: outer, rfl, .call zone span there around⟩

theorem eq_of_flattened? {zone : String} {x : Expr} (inner : e.field? = none)
    (found : flattened? zone zones (deepen zones e) = some x) : x = e := by
  unfold flattened? at found
  split at found
  · rename_i name made text there span came
    split at found
    · obtain ⟨f, given, rfl⟩ := Option.map_eq_some_iff.mp found
      obtain ⟨before, rfl, rfl⟩ := call_of_deepen inner came
      obtain ⟨nested, dated⟩ := nested?_eq_some_iff.mp given
      obtain ⟨outer, same, around⟩ := nested.of_deepen dated
      -- as many conversions as were put in, so that there were none before
      cases List.self_eq_append_left.mp same
      cases around
      rfl
    · cases found
  · cases found

theorem flatten_deepen_node {zone : String} (inner : e.field? = none)
    (below : ∀ c ∈ e.children, flatten zone zones (deepen zones c) = c) :
    flatten zone zones (deepen zones e) = e := by
  have inner' : (deepen zones e).field? = none := by
    rw [deepen_node zones inner, field?_mapChildren, inner]
  rw [flatten, exchange_node _ inner']
  cases found : flattened? zone zones (deepen zones e) with
  | some x => exact eq_of_flattened? inner found
  | none =>
    rw [Option.getD_none, deepen_node zones inner, mapChildren_mapChildren]
    exact mapChildren_id below

theorem flatten_constant (zone : String) (zones : List String) (value : Constant)
    (span : Option Span) : flatten zone zones (.constant value span) = .constant value span := by
  rw [flatten, exchange]
  rfl

theorem flatten_deepen {zone : String} {t : Typing} (settled : Rules.Settled ⟨zone, t⟩ e) :
    flatten zone zones (deepen zones e) = e := by
  induction settled with
  | @alone f silent =>
    rw [deepen_plain (Rules.isDateTime_of_silent silent), flatten, exchange_field]
  | node inner below ih => exact flatten_deepen_node inner ih
  | @wrapped c f e around given =>
    by_cases dated : f.isDateTime = true
    · rw [Rules.coercion?_of_isDateTime _ dated] at given
      cases given
      cases around with
      | toTimeZone _ _ span there =>
        have nested := nested?_eq_some_iff.mpr ⟨nested_nest zones f, dated⟩
        simp [deepen, replaceLeaves, replaceLeavesAll, dated, flatten, exchange, flattened?, nested]
    · apply flatten_deepen_node around.field?
      intro x member
      rcases around.mem_children member with rfl | ⟨value, span, rfl⟩
      · rw [deepen_plain (Bool.eq_false_iff.mpr dated), flatten, exchange_field]
      · rw [deepen_constant, flatten_constant]

end Expr

namespace Rules

variable {t : Typing} {zone other : String} {e : Expr}

theorem coercion?_elsewhere {f : Field} (plain : f.isDateTime = false) :
    coercion? ⟨other, t⟩ f = coercion? ⟨zone, t⟩ f := by
  simp only [coercion?, plain, Bool.false_eq_true, if_false, read?]

/-- A pass in another timezone than the one before puts one more conversion around each date
and time column. -/
theorem Settled.rewrite_elsewhere (settled : Settled ⟨zone, t⟩ e) (apart : zone ≠ other) :
    rewrite ⟨other, t⟩ e = e.deepen [other] := by
  induction settled with
  | @alone f silent =>
    have plain := isDateTime_of_silent silent
    rw [← coercion?_elsewhere plain] at silent
    rw [rewrite_field, coerce_of_none silent, Expr.deepen_plain plain]
  | @node e inner below ih =>
    have fresh : isCoerced ⟨other, t⟩ e = false := by
      rw [Bool.eq_false_iff, ne_eq, isCoerced_iff]
      rintro ⟨c, f, around, given⟩
      obtain ⟨rest, first, -⟩ := around.children
      have silent := (below (.field f) (by simp [first])).silent
      rw [← coercion?_elsewhere (isDateTime_of_silent silent), given] at silent
      cases silent
    rw [rewrite_node inner fresh, Expr.deepen_node _ inner]
    exact Expr.mapChildren_congr ih
  | @wrapped c f e around given =>
    by_cases dated : f.isDateTime = true
    · rw [coercion?_of_isDateTime _ dated] at given
      cases given
      have asked := coercion?_of_isDateTime ⟨other, t⟩ dated
      have fresh : isCoerced ⟨other, t⟩ e = false := by
        rw [isCoerced_of_around around, asked]
        simpa using apart.symm
      rw [rewrite_node around.field? fresh, Expr.deepen_node _ around.field?]
      apply Expr.mapChildren_congr
      intro x member
      rcases around.mem_children member with rfl | ⟨value, span, rfl⟩
      · rw [rewrite_field, coerce_of_some asked, Expr.deepen_field dated]
        rfl
      · rw [Expr.deepen_constant, rewrite, Expr.walk]
    · have plain : f.isDateTime = false := Bool.eq_false_iff.mpr dated
      rw [← coercion?_elsewhere plain] at given
      rw [rewrite_coerced (isCoerced_iff.mpr ⟨c, f, around, given⟩), Expr.deepen_eq_self]
      intro g leaf stamped
      rw [around.leaves, List.mem_singleton] at leaf
      exact absurd (leaf ▸ stamped) dated

end Rules

namespace Typing

/-- The tree after one pass after another. -/
def passes (t : Typing) (e : Expr) (zones : List String) : Expr :=
  zones.foldl (fun e zone => Rules.rewrite ⟨zone, t⟩ e) e

theorem getLast?_runs (t : Typing) (log : Option (List Notice)) (e : Expr) (zone : String)
    (zones : List String) : ∃ last, (t.runs log e (zone :: zones)).getLast? = some last ∧
      last.tree = t.passes e (zone :: zones) := by
  induction zones generalizing log e zone with
  | nil => exact ⟨_, rfl, Rules.run_tree _ _ _⟩
  | cons next zones ih =>
    obtain ⟨last, ends, tree⟩ :=
      ih (Rules.run ⟨zone, t⟩ log e).log (Rules.run ⟨zone, t⟩ log e).tree next
    refine ⟨last, ?_, ?_⟩
    · rw [runs, List.getLast?_cons, ends]
      rfl
    · rw [tree, Rules.run_tree]
      rfl

/-- The run of passes: each one deepens what the passes before have left. -/
theorem passes_of_settled {t : Typing} {zone : String} {e : Expr} {zones : List String}
    (settled : Rules.Settled ⟨zone, t⟩ e) (changing : List.IsChain (· ≠ ·) (zone :: zones)) :
    t.passes e zones = e.deepen zones := by
  induction zones generalizing zone e with
  | nil => exact (Expr.deepen_eq_self fun f _ _ => rfl).symm
  | cons next zones ih =>
    obtain ⟨apart, rest⟩ := List.isChain_cons_cons.mp changing
    calc
      t.passes e (next :: zones) = t.passes (Rules.rewrite ⟨next, t⟩ e) zones := rfl
      _ = (Rules.rewrite ⟨next, t⟩ e).deepen zones := ih (Rules.settled_rewrite _ e) rest
      _ = (e.deepen [next]).deepen zones := by rw [settled.rewrite_elsewhere apart]
      _ = e.deepen (next :: zones) := Expr.deepen_deepen [next] zones e

end Typing

/-- Passes in timezones of which no two neighbours are the same. In the tree after the last
one each date and time column stands in as many nested conversions as there were passes, the
first timezone outermost. When in each such nest the conversions within the outermost one
are taken out, the tree is that of the first pass. And a pass in the timezone of the
pass before changes nothing. -/
theorem passes_in_changing_timezones (t : Typing) (log : Option (List Notice)) (e : Expr)
    (zone : String) (zones : List String) :
    (List.IsChain (· ≠ ·) (zone :: zones) →
      ∃ last, (t.runs log e (zone :: zones)).getLast? = some last ∧
        last.tree.leaves = e.leaves ∧
        (∀ i f, last.tree.leaves[i]? = some f → f.isDateTime = true →
          ∃ node, Expr.Within node i last.tree ∧ Expr.Nested f (zone :: zones) node) ∧
        last.tree.flatten zone zones = (Rules.run ⟨zone, t⟩ log e).tree) ∧
    ∀ again, (Rules.run ⟨zone, t⟩ again (Rules.run ⟨zone, t⟩ log e).tree).tree =
      (Rules.run ⟨zone, t⟩ log e).tree := by
  have settled := Rules.settled_rewrite ⟨zone, t⟩ e
  constructor
  · intro changing
    obtain ⟨last, ends, tree⟩ := t.getLast?_runs log e zone zones
    have deepened : last.tree = (Rules.rewrite ⟨zone, t⟩ e).deepen zones :=
      tree.trans (Typing.passes_of_settled settled changing)
    have leaves : last.tree.leaves = e.leaves := by
      rw [deepened, Expr.leaves_deepen, Rules.leaves_rewrite]
    refine ⟨last, ends, leaves, ?_, ?_⟩
    · intro i f leaf dated
      rw [leaves] at leaf
      obtain ⟨node, within, around⟩ :=
        Rules.within_rewrite_of_some leaf (Rules.coercion?_of_isDateTime ⟨zone, t⟩ dated)
      refine ⟨node.deepen zones, deepened ▸ within.deepen zones, ?_⟩
      cases around with
      | toTimeZone _ _ span there =>
        rw [Expr.deepen_node zones rfl]
        simp only [Expr.mapChildren, List.map_cons, List.map_nil, Expr.deepen_field dated,
          Expr.deepen_constant]
        exact .call zone span there (Expr.nested_nest zones f)
    · rw [deepened, Expr.flatten_deepen settled, Rules.run_tree]
  · intro again
    rw [Rules.run_tree, Rules.run_tree, settled.rewrite_eq]

namespace Sample

/-- Two timestamps, of which the author has converted one. -/
def window : Expr :=
  .binary (.call "toTimeZone" [.field timestamp, .constant (.string "UTC") none] (some ⟨0, 28⟩))
    (.comparison .lt) (.field timestamp) none

end Sample

theorem window_there_and_back :
    let zones := ["UTC", "Asia/Tokyo", "UTC"]
    List.IsChain (· ≠ ·) zones ∧
    ∃ last, (Typing.empty.runs none Sample.window zones).getLast? = some last ∧
      last.tree.leaves = [Sample.timestamp, Sample.timestamp] ∧
      (∃ node, Expr.Within node 0 last.tree ∧ Expr.Nested Sample.timestamp zones node) ∧
      (∃ node, Expr.Within node 1 last.tree ∧ Expr.Nested Sample.timestamp zones node) ∧
      last.tree.flatten "UTC" ["Asia/Tokyo", "UTC"] =
        (Rules.run ⟨"UTC", .empty⟩ none Sample.window).tree := by
  intro zones
  have changing : List.IsChain (· ≠ ·) zones := by decide
  obtain ⟨last, ends, leaves, nested, flat⟩ :=
    (passes_in_changing_timezones .empty none Sample.window "UTC" ["Asia/Tokyo", "UTC"]).1 changing
  have leaf (i : Nat) : last.tree.leaves[i]? = [Sample.timestamp, Sample.timestamp][i]? := by
    rw [leaves]
    rfl
  exact ⟨changing, last, ends, leaves, nested 0 _ (leaf 0) (by decide),
    nested 1 _ (leaf 1) (by decide), flat⟩

end QueryCoercion
