import Mathlib.Data.List.Basic
import QueryCoercion.Expr.Visit

/-!
Trees seen one level at a time: the children of a node, and the same node with each
child replaced. A walk keeps some nodes whole and replaces the fields elsewhere; a
stripped tree has some nodes replaced by a field of theirs. Each recursion over trees
has one equation for a field and one for all other nodes, and proofs go by the same
two cases. A copying walk is such a walk along with a fold over the fields it passes.
-/
namespace QueryCoercion

def Visit.isNode : Visit → Bool
  | .node _ => true
  | _ => false

namespace Expr

def children : Expr → List Expr
  | .field _ => []
  | .constant _ _ => []
  | .call _ args _ => args
  | .binary left _ right _ => [left, right]
  | .group _ items => items
  | .negation inner => [inner]
  | .aliased _ inner _ => [inner]

def mapChildren (g : Expr → Expr) : Expr → Expr
  | .field f => .field f
  | .constant value span => .constant value span
  | .call name args span => .call name (args.map g) span
  | .binary left op right span => .binary (g left) op (g right) span
  | .group kind items => .group kind (items.map g)
  | .negation inner => .negation (g inner)
  | .aliased name inner span => .aliased name (g inner) span

/-- What holds of every field, and of a node when it holds of its children, holds of
every tree. -/
@[elab_as_elim]
theorem byNodes {motive : Expr → Prop} (field : ∀ f, motive (.field f))
    (node : ∀ e, e.field? = none → (∀ c ∈ e.children, motive c) → motive e) (e : Expr) :
    motive e := by
  have one (e c : Expr) (holds : motive e) (member : c ∈ [e]) : motive c :=
    List.mem_singleton.mp member ▸ holds
  have cons (e : Expr) (rest : List Expr) (first : motive e) (others : ∀ c ∈ rest, motive c) :
      ∀ c ∈ e :: rest, motive c := by
    intro c member
    rcases List.mem_cons.mp member with rfl | member
    · exact first
    · exact others c member
  -- the list of arguments gets the motive of all its members
  refine @Expr.rec motive (fun es => ∀ c ∈ es, motive c) field ?_ ?_ ?_ ?_ ?_ ?_ ?_ cons e
  · exact fun value span => node _ rfl (by simp [children])
  · exact fun name args span ih => node _ rfl ih
  · exact fun left op right span first second =>
      node _ rfl (cons left [right] first fun c => one right c second)
  · exact fun kind items ih => node _ rfl ih
  · exact fun inner ih => node _ rfl fun c => one inner c ih
  · exact fun name inner span ih => node _ rfl fun c => one inner c ih
  · simp

@[simp] theorem children_mapChildren (g : Expr → Expr) (e : Expr) :
    (e.mapChildren g).children = e.children.map g := by
  cases e <;> rfl

@[simp] theorem field?_mapChildren (g : Expr → Expr) (e : Expr) :
    (e.mapChildren g).field? = e.field? := by
  cases e <;> rfl

theorem inner_mapChildren (g : Expr → Expr) {e : Expr} (inner : e.field? = none) :
    (e.mapChildren g).field? = none := by
  rw [field?_mapChildren, inner]

theorem mapChildren_congr {g h : Expr → Expr} {e : Expr} (same : ∀ c ∈ e.children, g c = h c) :
    e.mapChildren g = e.mapChildren h := by
  cases e <;> simp_all [mapChildren, children]

theorem mapChildren_id {g : Expr → Expr} {e : Expr} (same : ∀ c ∈ e.children, g c = c) :
    e.mapChildren g = e := by
  have h : e.mapChildren g = e.mapChildren id := mapChildren_congr same
  rw [h]
  cases e <;> simp [mapChildren]

theorem mapChildren_mapChildren (g h : Expr → Expr) (e : Expr) :
    (e.mapChildren h).mapChildren g = e.mapChildren (g ∘ h) := by
  cases e <;> simp [mapChildren]

theorem leaves_node {e : Expr} (inner : e.field? = none) :
    e.leaves = e.children.flatMap leaves := by
  cases e <;> simp_all [leaves, children, leavesAll_eq_flatMap, field?]

theorem field?_of_mem_children {e c : Expr} (member : c ∈ e.children) : e.field? = none := by
  cases e <;> simp_all [children, field?]

theorem mem_leaves_node {e c : Expr} (member : c ∈ e.children) {f : Field} (leaf : f ∈ c.leaves) :
    f ∈ e.leaves := by
  rw [leaves_node (field?_of_mem_children member)]
  exact List.mem_flatMap.mpr ⟨c, member, leaf⟩

mutual

/-- Copies the nodes that are kept and replaces the fields outside of them. -/
def walk (kept : Expr → Bool) (leaf : Field → Expr) : Expr → Expr
  | .field f => leaf f
  | .constant value span => .constant value span
  | .call name args span =>
    if kept (.call name args span) then .call name args span
    else .call name (walkAll kept leaf args) span
  | .binary left op right span =>
    if kept (.binary left op right span) then .binary left op right span
    else .binary (walk kept leaf left) op (walk kept leaf right) span
  | .group kind items =>
    if kept (.group kind items) then .group kind items
    else .group kind (walkAll kept leaf items)
  | .negation inner =>
    if kept (.negation inner) then .negation inner else .negation (walk kept leaf inner)
  | .aliased name inner span =>
    if kept (.aliased name inner span) then .aliased name inner span
    else .aliased name (walk kept leaf inner) span

def walkAll (kept : Expr → Bool) (leaf : Field → Expr) : List Expr → List Expr
  | [] => []
  | e :: rest => walk kept leaf e :: walkAll kept leaf rest

end

mutual

/-- Lists what is found in a tree from left to right: at a field what there is for it, and
at a node that has an answer of its own this answer in place of what is below. -/
def gather {α : Type} (stop? : Expr → Option (List α)) (leaf : Field → List α) : Expr → List α
  | .field f => leaf f
  | .constant value span => (stop? (.constant value span)).getD []
  | .call name args span => (stop? (.call name args span)).getD (gatherAll stop? leaf args)
  | .binary left op right span =>
    (stop? (.binary left op right span)).getD (gather stop? leaf left ++ gather stop? leaf right)
  | .group kind items => (stop? (.group kind items)).getD (gatherAll stop? leaf items)
  | .negation inner => (stop? (.negation inner)).getD (gather stop? leaf inner)
  | .aliased name inner span =>
    (stop? (.aliased name inner span)).getD (gather stop? leaf inner)

def gatherAll {α : Type} (stop? : Expr → Option (List α)) (leaf : Field → List α) :
    List Expr → List α
  | [] => []
  | e :: rest => gather stop? leaf e ++ gatherAll stop? leaf rest

end

/-- The fields outside of the nodes that are kept. -/
def outside (kept : Expr → Bool) : Expr → List Field :=
  gather (fun e => if kept e then some [] else none) fun f => [f]

mutual

/-- Puts a field in the place of each node that has one to give, from the top down. -/
def strip (inner? : Expr → Option Field) : Expr → Expr
  | .field f => .field f
  | .constant value span =>
    match inner? (.constant value span) with
    | some f => .field f
    | none => .constant value span
  | .call name args span =>
    match inner? (.call name args span) with
    | some f => .field f
    | none => .call name (stripAll inner? args) span
  | .binary left op right span =>
    match inner? (.binary left op right span) with
    | some f => .field f
    | none => .binary (strip inner? left) op (strip inner? right) span
  | .group kind items =>
    match inner? (.group kind items) with
    | some f => .field f
    | none => .group kind (stripAll inner? items)
  | .negation inner =>
    match inner? (.negation inner) with
    | some f => .field f
    | none => .negation (strip inner? inner)
  | .aliased name inner span =>
    match inner? (.aliased name inner span) with
    | some f => .field f
    | none => .aliased name (strip inner? inner) span

def stripAll (inner? : Expr → Option Field) : List Expr → List Expr
  | [] => []
  | e :: rest => strip inner? e :: stripAll inner? rest

end

mutual

/-- Puts another expression in the place of each node that has one to give, from the top
down. -/
def exchange (other? : Expr → Option Expr) : Expr → Expr
  | .field f => .field f
  | .constant value span => (other? (.constant value span)).getD (.constant value span)
  | .call name args span =>
    (other? (.call name args span)).getD (.call name (exchangeAll other? args) span)
  | .binary left op right span =>
    (other? (.binary left op right span)).getD
      (.binary (exchange other? left) op (exchange other? right) span)
  | .group kind items => (other? (.group kind items)).getD (.group kind (exchangeAll other? items))
  | .negation inner => (other? (.negation inner)).getD (.negation (exchange other? inner))
  | .aliased name inner span =>
    (other? (.aliased name inner span)).getD (.aliased name (exchange other? inner) span)

def exchangeAll (other? : Expr → Option Expr) : List Expr → List Expr
  | [] => []
  | e :: rest => exchange other? e :: exchangeAll other? rest

end

theorem walkAll_eq_map (kept : Expr → Bool) (leaf : Field → Expr) (es : List Expr) :
    walkAll kept leaf es = es.map (walk kept leaf) := by
  induction es with
  | nil => rfl
  | cons e rest ih => simp [walkAll, ih]

theorem gatherAll_eq_flatMap {α : Type} (stop? : Expr → Option (List α)) (leaf : Field → List α)
    (es : List Expr) : gatherAll stop? leaf es = es.flatMap (gather stop? leaf) := by
  induction es with
  | nil => rfl
  | cons e rest ih => simp [gatherAll, ih]

theorem stripAll_eq_map (inner? : Expr → Option Field) (es : List Expr) :
    stripAll inner? es = es.map (strip inner?) := by
  induction es with
  | nil => rfl
  | cons e rest ih => simp [stripAll, ih]

theorem exchangeAll_eq_map (other? : Expr → Option Expr) (es : List Expr) :
    exchangeAll other? es = es.map (exchange other?) := by
  induction es with
  | nil => rfl
  | cons e rest ih => simp [exchangeAll, ih]

section

variable (kept : Expr → Bool) (leaf : Field → Expr) (inner? : Expr → Option Field)

@[simp] theorem walk_field (f : Field) : walk kept leaf (.field f) = leaf f := by
  simp only [walk]

@[simp] theorem gather_field {α : Type} (stop? : Expr → Option (List α)) (found : Field → List α)
    (f : Field) : gather stop? found (.field f) = found f := by
  simp only [gather]

@[simp] theorem outside_field (f : Field) : outside kept (.field f) = [f] :=
  gather_field _ _ f

@[simp] theorem strip_field (f : Field) : strip inner? (.field f) = .field f := by
  simp only [strip]

theorem walk_node {e : Expr} (inner : e.field? = none) :
    walk kept leaf e = if kept e then e else e.mapChildren (walk kept leaf) := by
  cases e <;> simp_all [walk, mapChildren, field?, walkAll_eq_map]

theorem gather_node {α : Type} (stop? : Expr → Option (List α)) (found : Field → List α) {e : Expr}
    (inner : e.field? = none) :
    gather stop? found e = (stop? e).getD (e.children.flatMap (gather stop? found)) := by
  cases e <;> simp_all [gather, children, field?, gatherAll_eq_flatMap]

theorem outside_node {e : Expr} (inner : e.field? = none) :
    outside kept e = if kept e then [] else e.children.flatMap (outside kept) := by
  rw [outside, gather_node _ _ inner]
  split <;> rfl

theorem strip_silent {e : Expr} (inner : e.field? = none) (silent : inner? e = none) :
    strip inner? e = e.mapChildren (strip inner?) := by
  cases e <;> simp_all [strip, mapChildren, field?, stripAll_eq_map]

theorem strip_given {e : Expr} {f : Field} (inner : e.field? = none) (given : inner? e = some f) :
    strip inner? e = .field f := by
  cases e <;> simp_all [strip, field?]

@[simp] theorem exchange_field (other? : Expr → Option Expr) (f : Field) :
    exchange other? (.field f) = .field f := by
  simp only [exchange]

theorem exchange_node (other? : Expr → Option Expr) {e : Expr} (inner : e.field? = none) :
    exchange other? e = (other? e).getD (e.mapChildren (exchange other?)) := by
  cases e <;> simp_all [exchange, mapChildren, field?, exchangeAll_eq_map]

@[simp] theorem replaceLeaves_field (f : Field) : replaceLeaves leaf (.field f) = leaf f := by
  simp only [replaceLeaves]

theorem replaceLeaves_node {e : Expr} (inner : e.field? = none) :
    replaceLeaves leaf e = e.mapChildren (replaceLeaves leaf) := by
  cases e <;> simp_all [replaceLeaves, mapChildren, field?, replaceLeavesAll_eq_map]

theorem replaceLeaves_eq_walk (e : Expr) :
    replaceLeaves leaf e = walk (fun _ => false) leaf e := by
  induction e using byNodes with
  | field f => simp
  | node e inner ih =>
    rw [replaceLeaves_node leaf inner, walk_node _ leaf inner]
    exact mapChildren_congr ih

theorem replaceLeaves_replaceLeaves (outer : Field → Expr) (e : Expr) :
    replaceLeaves outer (replaceLeaves leaf e) =
      replaceLeaves (fun f => replaceLeaves outer (leaf f)) e := by
  induction e using byNodes with
  | field f => simp
  | node e inner ih =>
    rw [replaceLeaves_node leaf inner, replaceLeaves_node _ inner,
      replaceLeaves_node _ (inner_mapChildren _ inner), mapChildren_mapChildren]
    exact mapChildren_congr ih

end

/-- Two walks agree on a tree when they agree on its fields and keep the same nodes
among those whose fields are all fields of the tree. -/
theorem walk_congr {kept kept' : Expr → Bool} {leaf leaf' : Field → Expr} {e : Expr}
    (fields : ∀ f ∈ e.leaves, leaf f = leaf' f)
    (nodes : ∀ n : Expr, (∀ f ∈ n.leaves, f ∈ e.leaves) → kept n = kept' n) :
    walk kept leaf e = walk kept' leaf' e := by
  induction e using byNodes with
  | field f => simpa [leaves] using fields
  | node e inner ih =>
    rw [walk_node kept leaf inner, walk_node kept' leaf' inner, nodes e fun f => id]
    have below : e.mapChildren (walk kept leaf) = e.mapChildren (walk kept' leaf') := by
      apply mapChildren_congr
      intro c member
      apply ih c member
      · exact fun f leaf => fields f (mem_leaves_node member leaf)
      · exact fun n among => nodes n fun f leaf => mem_leaves_node member (among f leaf)
    rw [below]

theorem outside_congr {kept kept' : Expr → Bool} {e : Expr}
    (nodes : ∀ n : Expr, (∀ f ∈ n.leaves, f ∈ e.leaves) → kept n = kept' n) :
    outside kept e = outside kept' e := by
  induction e using byNodes with
  | field f => rw [outside_field, outside_field]
  | node e inner ih =>
    rw [outside_node kept inner, outside_node kept' inner, nodes e fun f => id]
    have below : e.children.flatMap (outside kept) = e.children.flatMap (outside kept') := by
      apply List.flatMap_congr
      intro c member
      exact ih c member fun n among => nodes n fun f leaf => mem_leaves_node member (among f leaf)
    rw [below]

theorem mem_leaves_of_outside {kept : Expr → Bool} {e : Expr} {f : Field}
    (member : f ∈ outside kept e) : f ∈ e.leaves := by
  induction e using byNodes with
  | field g => simpa [leaves] using member
  | node e inner ih =>
    rw [outside_node kept inner] at member
    split at member
    · simp at member
    · obtain ⟨c, child, below⟩ := List.mem_flatMap.mp member
      exact mem_leaves_node child (ih c child below)

theorem walk_eq_self_of_outside {kept : Expr → Bool} {leaf : Field → Expr} {e : Expr}
    (fields : ∀ f ∈ outside kept e, leaf f = .field f) : walk kept leaf e = e := by
  induction e using byNodes with
  | field f => simpa using fields
  | node e inner ih =>
    rw [walk_node kept leaf inner]
    split
    · rfl
    · rename_i fresh
      apply mapChildren_id
      intro c member
      apply ih c member
      intro f below
      apply fields f
      rw [outside_node kept inner, if_neg fresh]
      exact List.mem_flatMap.mpr ⟨c, member, below⟩

theorem walk_eq_self {kept : Expr → Bool} {leaf : Field → Expr} {e : Expr}
    (fields : ∀ f ∈ e.leaves, leaf f = .field f) : walk kept leaf e = e :=
  walk_eq_self_of_outside fun f member => fields f (mem_leaves_of_outside member)

theorem leaves_walk {kept : Expr → Bool} {leaf : Field → Expr}
    (single : ∀ f, (leaf f).leaves = [f]) (e : Expr) : (walk kept leaf e).leaves = e.leaves := by
  induction e using byNodes with
  | field f => rw [walk_field, single, leaves]
  | node e inner ih =>
    rw [walk_node kept leaf inner]
    split
    · rfl
    · rw [leaves_node (inner_mapChildren _ inner), leaves_node inner, children_mapChildren,
        List.flatMap_map]
      exact List.flatMap_congr ih

theorem leaves_eq_outside (e : Expr) : e.leaves = outside (fun _ => false) e := by
  induction e using byNodes with
  | field f => rw [outside_field, leaves]
  | node e inner ih =>
    rw [leaves_node inner, outside_node _ inner]
    exact List.flatMap_congr ih

section

variable {σ : Type} {kept : Expr → Bool} (leaf : Field → Expr) (note : Field → σ → σ)

theorem copyAllBy_eq (es : List Expr) (s : σ)
    (each : ∀ e ∈ es, ∀ s, e.copyBy ⟨kept, fun f s => (leaf f, note f s)⟩ s =
      (walk kept leaf e, (outside kept e).foldl (fun s f => note f s) s)) :
    copyAllBy ⟨kept, fun f s => (leaf f, note f s)⟩ es s =
      (es.map (walk kept leaf), (es.flatMap (outside kept)).foldl (fun s f => note f s) s) := by
  induction es generalizing s with
  | nil => rfl
  | cons e rest ih =>
    have others := ih ((outside kept e).foldl (fun s f => note f s) s)
      fun e member => each e (List.mem_cons_of_mem _ member)
    simp only [copyAllBy, each e List.mem_cons_self, others, List.map_cons, List.flatMap_cons,
      List.foldl_append]

/-- The copy does not depend on the notes, and the notes are taken as if the fields outside of
kept nodes stood in a list and not in a tree. -/
theorem copyBy_eq (fields : ∀ f, kept (.field f) = false) (e : Expr) (s : σ) :
    e.copyBy ⟨kept, fun f s => (leaf f, note f s)⟩ s =
      (walk kept leaf e, (outside kept e).foldl (fun s f => note f s) s) := by
  -- for every state, since a child goes on from what the children before it have left
  induction e using byNodes generalizing s with
  | field f => simp [copyBy, fields]
  | node e inner ih =>
    rw [walk_node kept leaf inner, outside_node kept inner]
    cases e <;> cases whole : kept _ <;>
      simp_all [copyBy, copyAllBy_eq, mapChildren, children, field?]

end

theorem visitsAll_eq_flatMap (es : List Expr) : visitsAll es = es.flatMap visits := by
  induction es with
  | nil => rfl
  | cons e rest ih => simp [visitsAll, ih]

theorem visits_node {e : Expr} (inner : e.field? = none) :
    e.visits = .node e :: e.children.flatMap visits := by
  cases e <;> simp_all [visits, children, field?, visitsAll_eq_flatMap]

/-- All that a walk meets beside the nodes it meets at the fields, from left to right. -/
theorem filter_visits (e : Expr) :
    e.visits.filter (fun v => !v.isNode) = e.leaves.flatMap Visit.ofField := by
  induction e using byNodes with
  | field f =>
    have met : (Visit.ofField f).filter (fun v => !v.isNode) = Visit.ofField f := by
      rcases f with ⟨chain, _ | ⟨column | property⟩, span⟩ <;> rfl
    rw [visits, leaves, List.filter_cons_of_neg (by simp [Visit.isNode]), met,
      List.flatMap_singleton]
  | node e inner ih =>
    rw [visits_node inner, leaves_node inner, List.filter_cons_of_neg (by simp [Visit.isNode]),
      List.filter_flatMap, List.flatMap_assoc]
    exact List.flatMap_congr ih

theorem foldl_visits {σ : Type} {h : σ → Visit → σ} (silent : ∀ s e, h s (.node e) = s)
    (e : Expr) (s : σ) :
    e.visits.foldl h s = e.leaves.foldl (fun s f => (Visit.ofField f).foldl h s) s := by
  have skips : (fun s (v : Visit) => if !v.isNode then h s v else s) = h := by
    funext s v
    cases v <;> simp [Visit.isNode, silent]
  rw [← List.foldl_flatMap, ← filter_visits, List.foldl_filter, skips]

end Expr

end QueryCoercion
