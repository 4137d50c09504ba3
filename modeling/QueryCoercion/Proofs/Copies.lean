import QueryCoercion.Expr.Visit
import QueryCoercion.Proofs.Notices

namespace QueryCoercion

/-- The field along with the property that it reads. -/
def Field.read? (f : Field) : Option (Field × PropertyRef) :=
  f.property?.map fun property => (f, property)

namespace Visit

def read? : Visit → Option (Field × PropertyRef)
  | .field f => f.read?
  | _ => none

def property? : Visit → Option PropertyRef
  | .property p => some p
  | _ => none

theorem filterMap_read?_ofField (f : Field) : (ofField f).filterMap read? = f.read?.toList := by
  have behind (b : Binding) : (ofBinding b).filterMap read? = [] := by cases b <;> rfl
  cases bound : f.binding with
  | none => simp [ofField, read?, Field.read?, Field.property?, bound]
  | some b => cases known : f.read? <;> simp [ofField, read?, bound, known, behind]

theorem filterMap_property?_ofField (f : Field) :
    (ofField f).filterMap property? = (f.read?.map Prod.snd).toList := by
  have first : property? (.field f) = none := rfl
  cases bound : f.binding with
  | none => simp [ofField, Field.read?, Field.property?, bound, first]
  | some b =>
    have behind : (ofBinding b).filterMap property? = b.property?.toList := by cases b <;> rfl
    cases known : b.property? <;>
      simp [ofField, Field.read?, Field.property?, bound, first, behind, known]

end Visit

namespace Expr

def read? (e : Expr) : Option (Field × PropertyRef) := e.field?.bind Field.read?

/-- The node that a path leads to, which says at every node how many children to pass over. -/
def at? : Expr → List Nat → Option Expr
  | e, [] => some e
  | e, i :: path => e.children[i]?.bind fun c => at? c path

/-- A node by itself, with nothing left of its children but their number. -/
def frame : Expr → Expr := mapChildren fun _ => .group .tuple []

theorem frame_mapChildren (g : Expr → Expr) (e : Expr) : (e.mapChildren g).frame = e.frame :=
  mapChildren_mapChildren _ g e

theorem filterMap_visits {α : Type} {h : Visit → Option α} (silent : ∀ e, h (.node e) = none)
    {tells : Field → Option α} (told : ∀ f, (Visit.ofField f).filterMap h = (tells f).toList)
    (e : Expr) : e.visits.filterMap h = e.leaves.filterMap tells := by
  have skips : (fun v : Visit => if !v.isNode then h v else none) = h := by
    funext v
    cases v <;> simp [Visit.isNode, silent]
  calc e.visits.filterMap h
      = (e.visits.filter fun v => !v.isNode).filterMap h := by rw [List.filterMap_filter, skips]
    _ = e.leaves.flatMap fun f => (Visit.ofField f).filterMap h := by
      rw [filter_visits, List.filterMap_flatMap]
    _ = e.leaves.filterMap tells := by simp only [told, List.filterMap_eq_flatMap_toList]

/-- What stands in the copy for a field. -/
def swap (g : Field → PropertyRef → Expr) (f : Field) : Expr :=
  match f.read? with
  | some x => g x.1 x.2
  | none => .field f

/-- The copy does not depend on the notes, and the notes are taken as if the reads stood in a
list and not in a tree. -/
theorem copy_eq {σ : Type} (g : Field → PropertyRef → Expr) (note : Field → PropertyRef → σ → σ)
    (e : Expr) (s : σ) :
    e.copy (fun f p s => (g f p, note f p s)) s =
      (e.replaceLeaves (swap g),
        (e.leaves.filterMap Field.read?).foldl (fun s x => note x.1 x.2 s) s) := by
  let noteField (f : Field) (s : σ) : σ :=
    match f.read? with
    | some x => note x.1 x.2 s
    | none => s
  have hooked : Copier.ofHook (fun f p s => (g f p, note f p s)) =
      ⟨fun _ => false, fun f s => (swap g f, noteField f s)⟩ := by
    rw [Copier.ofHook, Copier.mk.injEq]
    refine ⟨rfl, ?_⟩
    funext f s
    cases bound : f.property? <;> simp [swap, noteField, Field.read?, bound]
  have notes : e.leaves.foldl (fun s f => noteField f s) s =
      (e.leaves.filterMap Field.read?).foldl (fun s x => note x.1 x.2 s) s := by
    rw [List.foldl_filterMap]
    congr
    funext s f
    cases known : f.read? <;> simp [noteField, known]
  rw [copy, hooked, copyBy_eq _ _ fun _ => rfl, ← leaves_eq_outside, notes,
    replaceLeaves_eq_walk]

theorem replaceReads_eq (g : Field → PropertyRef → Expr) (e : Expr) :
    e.replaceReads g = e.replaceLeaves (swap g) := by
  rw [replaceReads, copy_eq g fun _ _ s => s]

theorem swap_field (f : Field) : swap (fun f _ => .field f) f = .field f := by
  cases bound : f.property? <;> simp [swap, Field.read?, bound]

theorem replaceReads_field (e : Expr) : e.replaceReads (fun f _ => .field f) = e := by
  rw [replaceReads_eq, replaceLeaves_eq_walk]
  exact walk_eq_self fun f _ => swap_field f

theorem at?_replaceLeaves (leaf : Field → Expr) {e node : Expr} {path : List Nat}
    (there : e.at? path = some node) :
    (e.replaceLeaves leaf).at? path = some (node.replaceLeaves leaf) := by
  induction path generalizing e with
  | nil =>
    cases there
    rfl
  | cons i path ih =>
    obtain ⟨c, child, deeper⟩ := Option.bind_eq_some_iff.mp there
    have inner : e.field? = none := field?_of_mem_children (List.mem_of_getElem? child)
    have copied : (e.replaceLeaves leaf).children[i]? = some (c.replaceLeaves leaf) := by
      rw [replaceLeaves_node leaf inner, children_mapChildren, List.getElem?_map, child]
      rfl
    rw [at?, copied]
    exact ih deeper

theorem replaceLeaves_swap_of_read (g : Field → PropertyRef → Expr) {node : Expr} {f : Field}
    {p : PropertyRef} (known : node.read? = some (f, p)) :
    node.replaceLeaves (swap g) = g f p := by
  obtain ⟨h, bound, given⟩ := Option.bind_eq_some_iff.mp known
  cases node with
  | field k =>
    cases bound
    rw [replaceLeaves_field, swap, given]
  | _ => cases bound

theorem frame_replaceLeaves_swap (g : Field → PropertyRef → Expr) {node : Expr}
    (other : node.read? = none) : (node.replaceLeaves (swap g)).frame = node.frame := by
  cases bound : node.field? with
  | none => rw [replaceLeaves_node _ bound, frame_mapChildren]
  | some f =>
    cases node with
    | field k =>
      have unread : k.read? = none := other
      rw [replaceLeaves_field, swap, unread]
    | _ => cases bound

/-- The field at a place of the tree reads the property. -/
structure ReadAt (e : Expr) (i : Nat) (x : Field × PropertyRef) : Prop where
  within : Within (.field x.1) i e
  bound : x.1.property? = some x.2

theorem readAt_iff {e : Expr} {i : Nat} {x : Field × PropertyRef} :
    e.ReadAt i x ↔ ∃ f, e.leaves[i]? = some f ∧ f.read? = some x := by
  constructor
  · rintro ⟨within, bound⟩
    exact ⟨x.1, getElem?_leaves_iff.mpr within, by rw [Field.read?, bound]; rfl⟩
  · rintro ⟨f, leaf, known⟩
    obtain ⟨p, bound, rfl⟩ := Option.map_eq_some_iff.mp known
    exact ⟨getElem?_leaves_iff.mp leaf, bound⟩

theorem exists_reads (e : Expr) :
    ∃ reads, Enumerates reads e.ReadAt ∧ reads.map Prod.snd = e.leaves.filterMap Field.read? := by
  obtain ⟨reads, listed, values⟩ := exists_enumeration Field.read? e.leaves
  refine ⟨reads, ⟨listed.ordered, ?_⟩, values⟩
  intro i x
  rw [listed.mem_iff, readAt_iff]

end Expr

/-- A hook that notes what it is asked about is asked about the property reads of the tree,
from left to right and each once, which are those that the read-only walk meets. Where a path
leads to such a read in the tree, it leads to what the hook gives for it in the copy; where it
leads to anything else, it leads to the same in the copy, with as many children. And a hook
that gives the fields back gives the tree back. -/
theorem copy_asks_about_reads_visited {σ : Type} (g : Field → PropertyRef → Expr)
    (note : Field → PropertyRef → σ → σ) (e : Expr) (s : σ) :
    let copied := e.copy (fun f p s => (g f p, note f p s)) s
    (∃ reads, Enumerates reads e.ReadAt ∧
      e.visits.filterMap Visit.read? = reads.map Prod.snd ∧
      e.visits.filterMap Visit.property? = reads.map (fun x => x.2.2) ∧
      copied.2 = reads.foldl (fun s x => note x.2.1 x.2.2 s) s) ∧
    copied.1 = e.replaceReads g ∧
    (∀ path node, e.at? path = some node →
      (∀ f p, node.read? = some (f, p) → copied.1.at? path = some (g f p)) ∧
      (node.read? = none →
        ∃ other, copied.1.at? path = some other ∧ other.frame = node.frame)) ∧
    e.replaceReads (fun f _ => .field f) = e := by
  intro copied
  have whole : copied = (e.replaceLeaves (Expr.swap g),
      (e.leaves.filterMap Field.read?).foldl (fun s x => note x.1 x.2 s) s) :=
    Expr.copy_eq g note e s
  refine ⟨?_, ?_, ?_, e.replaceReads_field⟩
  · obtain ⟨reads, listed, values⟩ := e.exists_reads
    refine ⟨reads, listed, ?_, ?_, ?_⟩
    · rw [values]
      exact Expr.filterMap_visits (fun _ => rfl) Visit.filterMap_read?_ofField e
    · have properties : reads.map (fun x => x.2.2) = (reads.map Prod.snd).map Prod.snd := by
        rw [List.map_map]
        rfl
      rw [properties, values, List.map_filterMap]
      exact Expr.filterMap_visits (fun _ => rfl) Visit.filterMap_property?_ofField e
    · rw [whole, ← values, List.foldl_map]
  · rw [whole, Expr.replaceReads_eq]
  · intro path node there
    have moved : copied.1.at? path = some (node.replaceLeaves (Expr.swap g)) := by
      rw [whole]
      exact Expr.at?_replaceLeaves (Expr.swap g) there
    refine ⟨?_, ?_⟩
    · intro f p known
      rw [moved, Expr.replaceLeaves_swap_of_read g known]
    · intro other
      exact ⟨_, moved, Expr.frame_replaceLeaves_swap g other⟩

namespace Sample

def plan : Field := read events "properties" "plan"

def signups : Expr :=
  .group .disjunction
    [.binary (.field ⟨["event"], some (.column ⟨"event", events⟩), none⟩) (.comparison .eq)
      (.constant (.string "signup") none) none,
      .aliased "p" (.call "lower" [.field plan] none) none]

end Sample

/-- The plan stands in capitals in the copy, the call around it is the same call, and the hook
has been asked about the plan alone. -/
theorem copy_of_signups :
    let copied := Sample.signups.copy
      (fun f p paths => (.call "upper" [.field f] none, paths ++ [p.path])) []
    Sample.signups.at? [1, 0, 0] = some (.field Sample.plan) ∧
    copied.1.at? [1, 0, 0] = some (.call "upper" [.field Sample.plan] none) ∧
    (∃ other, copied.1.at? [1, 0] = some other ∧
      other.frame = .call "lower" [.group .tuple []] none) ∧
    copied.2 = [["plan"]] := by
  obtain ⟨-, -, places, -⟩ := copy_asks_about_reads_visited
    (fun f _ => .call "upper" [.field f] none) (fun _ p paths => paths ++ [p.path])
    Sample.signups []
  have plan : Sample.signups.at? [1, 0, 0] = some (.field Sample.plan) := rfl
  exact ⟨plan, (places _ _ plan).1 _ _ rfl, (places [1, 0] _ rfl).2 rfl, rfl⟩

end QueryCoercion
