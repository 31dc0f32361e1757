import SqlTrees.Proofs.Tree.Cleared
import SqlTrees.Proofs.Walk

/-! # The tour of a tree

A traversal by the standard rules is a run along a list.

* `Leg`, `Tree.tour`: what a traversal comes by, from left to right: it enters a node, comes by the
  nodes below it, leaves it. A node of a kind without a rule is entered and then stops the
  traversal.
* `Pass.follow`: a pass along a list of legs, up to the first failure.
* `Pass.standardRule_leaf`, `Pass.standardRule_unruled`, `Pass.standardRule_composite`: the
  standard rule, treatment by treatment.
* `Pass.Direct`: no dispatcher and no entry point is replaced, so every node is visited.
* `Pass.Standard`: nothing is replaced but the hooks.
* `Tree.visit_eq_follow`: visiting a tree is following its tour and then handing back the cleared
  tree, whatever the hooks do.
-/

namespace SqlTrees
set_option autoImplicit false

/-! ## Tours -/

/-- What a traversal comes by. -/
inductive Leg
  /-- A node, before anything below it. -/
  | enter (k : Kind)
  /-- The same node, after everything below it. -/
  | leave (k : Kind)
  /-- A node that no standard rule rebuilds. -/
  | fail (k : Kind)
deriving DecidableEq, Repr

mutual

/-- Each node is entered, then the nodes below it in the order of the signature, then it is left. An
included tree is one node with the tree that it includes. -/
def Tree.tour : {c : Category} → Tree c → List Leg
  | _, .node k _ fields =>
    if k ∈ Kind.unruled then [.enter k, .fail k] else [.enter k] ++ fields.tour ++ [.leave k]
  | _, .inclusion _ t => t.tour

def Record.tour : {s : Signature} → Record Tree s → List Leg
  | _, .nil => []
  | _, .cons f r => f.tour ++ r.tour

def Field.tour : {τ : FieldType} → Field Tree τ → List Leg
  | _, .atom _ => []
  | _, .child t => t.tour
  | _, .none => []
  | _, .some f => f.tour
  | _, .nil => []
  | _, .cons f fs => f.tour ++ fs.tour

end

example : ((Kind.functionCall.signature.filter fun f => !f.2.childless).map Prod.fst) =
    ["arguments", "order_by", "window", "filter"] := by decide

theorem Field.tour_of_childless : {τ : FieldType} → (f : Field Tree τ) →
    τ.childless = true → f.tour = []
  | _, .atom _, _ => by rw [Field.tour]
  | _, .none, _ => by rw [Field.tour]
  | _, .some f, h => by rw [Field.tour, f.tour_of_childless h]
  | _, .nil, _ => by rw [Field.tour]
  | _, .cons f fs, h => by
    rw [Field.tour, f.tour_of_childless h, fs.tour_of_childless h, List.append_nil]

theorem Record.tour_of_childless : {s : Signature} → (r : Record Tree s) →
    Signature.childless s = true → r.tour = []
  | _, .nil, _ => by rw [Record.tour]
  | _, .cons f r, h => by
    obtain ⟨hf, hr⟩ := Signature.childless_cons h
    rw [Record.tour, f.tour_of_childless hf, r.tour_of_childless hr, List.append_nil]

/-! ## Following a list of legs -/

namespace Pass
variable {σ ε : Type} (P : Pass σ ε)

/-- What a pass does on one leg. -/
def take : Leg → Walk σ ε Unit
  | .enter k => do
    P.preVisit k
    Walk.report (.rebuildingNode k)
  | .leave k => P.postVisit k
  | .fail k => do
    Walk.report (.unsupported k)
    throw (P.unsupported ⟨k⟩)

/-- One leg after the other. The first that fails is the last that is taken, and everything stays as
it left it. -/
def follow : List Leg → Walk σ ε Unit
  | [] => fun p => (.ok (), p)
  | leg :: legs => fun p =>
    match P.take leg p with
    | (.ok _, q) => follow legs q
    | (.error e, q) => (.error e, q)

theorem follow_nil : P.follow [] = pure () := rfl

theorem follow_cons (leg : Leg) (legs : List Leg) :
    P.follow (leg :: legs) = (do P.take leg; P.follow legs) := by
  funext p
  simp only [follow, Walk.bind_apply]
  rcases P.take leg p with ⟨e | _, q⟩ <;> rfl

theorem follow_append (xs ys : List Leg) :
    P.follow (xs ++ ys) = (do P.follow xs; P.follow ys) := by
  induction xs with
  | nil => rw [List.nil_append, follow_nil, pure_bind]
  | cons leg xs ih => rw [List.cons_append, follow_cons, ih, follow_cons, bind_assoc]

/-! ## The standard rule -/

variable {k : Kind}

theorem standardRule_leaf (h : k ∈ Kind.leaves) (fields : Record (Child σ ε) k.signature) :
    P.standardRule k fields = pure (.ofFields k fields.before) := by
  rw [standardRule, (Kind.treatment_eq_leaf_iff k).mpr h]

theorem standardRule_unruled (h : k ∈ Kind.unruled) (fields : Record (Child σ ε) k.signature) :
    P.standardRule k fields = (do
      Walk.report (.unsupported k)
      throw (P.unsupported ⟨k⟩)) := by
  rw [standardRule, (Kind.treatment_eq_unsupported_iff k).mpr h]

theorem standardRule_composite (hl : k ∉ Kind.leaves) (hu : k ∉ Kind.unruled)
    (fields : Record (Child σ ε) k.signature) :
    P.standardRule k fields = (do return .ofFields k (← fields.rebuilt).unlocated) := by
  rw [standardRule, Kind.treatment_eq_composite hl hu]

end Pass

/-! ## Passes with the standard dispatchers -/

/-- A pass replaces no dispatcher and no entry point. -/
structure Pass.Direct {σ ε : Type} (P : Pass σ ε) : Prop where
  dispatch : ∀ c, P.dispatch? c = none
  process : P.process? = none
  rebuild : P.rebuild? = none

namespace Pass.Direct
variable {σ ε : Type} {P : Pass σ ε} (h : P.Direct)
include h

theorem dispatch_eq {c : Category} (t : Tree c) (visit : Walk σ ε (Tree c)) :
    P.dispatch t visit = visit := by
  rw [Pass.dispatch, h.dispatch]

/-- Rebuilding reports the tree and then visits it. -/
theorem rebuild_start (n : Node) (context : σ) :
    (P.rebuild n).start context =
      match n.tree.visit P ⟨context, #[.rebuildingTree n.kind]⟩ with
      | (.ok t, p) => (.ok { n with tree := t }, p)
      | (.error e, p) => (.error e, p) := by
  rw [Walk.start, Pass.rebuild, h.rebuild]
  simp only [Pass.process, h.process, h.dispatch_eq, Walk.bind_apply, Walk.report_apply]
  rw [List.push_toArray, List.nil_append]
  rcases n.tree.visit P ⟨context, #[.rebuildingTree n.kind]⟩ with ⟨e | t, p⟩ <;> rfl

end Pass.Direct

/-! ## Passes with the standard rules -/

/-- A pass replaces nothing but the hooks. -/
structure Pass.Standard {σ ε : Type} (P : Pass σ ε) : Prop where
  rule : ∀ k, P.rule? k = none
  dispatch : ∀ c, P.dispatch? c = none
  process : P.process? = none
  rebuild : P.rebuild? = none

namespace Pass.Standard
variable {σ ε : Type} {P : Pass σ ε} (h : P.Standard)
include h

theorem direct : P.Direct :=
  ⟨h.dispatch, h.process, h.rebuild⟩

theorem rule_eq (k : Kind) : P.rule k = P.standardRule k := by
  rw [Pass.rule, h.rule, Option.getD_none]

end Pass.Standard

section Visit
variable {σ ε : Type} {P : Pass σ ε}

/-- A visit to a node, given what rebuilding its children comes to. -/
theorem Pass.visited_eq_follow (k : Kind) (fields : Record Tree k.signature)
    (ih : (fields.attach P).rebuilt = (do P.follow fields.tour; return fields.cleared)) :
    P.visited k (P.standardRule k (fields.attach P)) =
      (do P.follow (Tree.ofFields k fields).tour; return (Tree.ofFields k fields).cleared) := by
  rw [Pass.visited, Tree.tour, Tree.cleared]
  by_cases hu : k ∈ Kind.unruled
  · rw [P.standardRule_unruled hu, if_pos hu]
    simp only [follow_cons, follow_nil, take, bind_assoc, pure_bind]
    rfl
  · by_cases hl : k ∈ Kind.leaves
    · have hc := Kind.childless_of_mem_leaves hl
      rw [P.standardRule_leaf hl, if_neg hu, if_pos hl, fields.tour_of_childless hc,
        fields.cleared_of_childless hc, Record.before_attach]
      simp only [List.append_nil, List.cons_append, List.nil_append, follow_cons, follow_nil, take,
        bind_assoc, pure_bind]
    · rw [P.standardRule_composite hl hu, ih, if_neg hu, if_neg hl]
      simp only [follow_append, follow_cons, follow_nil, take, bind_assoc, pure_bind]

mutual

/-- Visiting a tree is following its tour and handing back the cleared tree. -/
theorem Tree.visit_eq_follow (h : P.Standard) : {c : Category} → (t : Tree c) →
    t.visit P = (do P.follow t.tour; return t.cleared)
  | _, .node k rfl fields => by
    have ih := fields.rebuilt_eq_follow h
    rw [← Pass.visited_eq_follow k fields ih, ← h.rule_eq]
    rfl
  | _, .inclusion i t => by
    have ih := t.visit_eq_follow h
    rw [Tree.visit, h.direct.dispatch_eq, ite_self, ih, Tree.tour, Tree.cleared, bind_assoc]
    simp only [pure_bind]

theorem Record.rebuilt_eq_follow (h : P.Standard) : {s : Signature} → (r : Record Tree s) →
    (r.attach P).rebuilt = (do P.follow r.tour; return r.cleared)
  | _, .nil => rfl
  | _, .cons f r => by
    have ihf := f.traverse_eq_follow h
    have ih := r.rebuilt_eq_follow h
    rw [Record.rebuilt] at ih ⊢
    rw [Record.attach, Record.traverse, ihf, ih, Record.tour, Record.cleared, P.follow_append]
    simp only [bind_assoc, pure_bind]

theorem Field.traverse_eq_follow (h : P.Standard) : {τ : FieldType} → (f : Field Tree τ) →
    (f.attach P).traverse Child.rebuilt = (do P.follow f.tour; return f.cleared)
  | _, .atom _ => rfl
  | _, .child t => by
    have ih := t.visit_eq_follow h
    rw [Field.attach, Field.traverse, h.direct.dispatch_eq, ih, Field.tour, Field.cleared,
      bind_assoc]
    simp only [pure_bind]
  | _, .none => rfl
  | _, .some f => by
    have ih := f.traverse_eq_follow h
    rw [Field.attach, Field.traverse, ih, Field.tour, Field.cleared, bind_assoc]
    simp only [pure_bind]
  | _, .nil => rfl
  | _, .cons f fs => by
    have ihf := f.traverse_eq_follow h
    have ih := fs.traverse_eq_follow h
    rw [Field.attach, Field.traverse, ihf, ih, Field.tour, Field.cleared, P.follow_append]
    simp only [bind_assoc, pure_bind]

end
end Visit

/-! ## Rebuilding -/

section Rebuild
variable {σ ε : Type}

theorem Pass.Standard.rebuild_start {P : Pass σ ε} (h : P.Standard) (n : Node) (context : σ) :
    (P.rebuild n).start context =
      match P.follow n.tree.tour ⟨context, #[.rebuildingTree n.kind]⟩ with
      | (.ok _, p) => (.ok n.cleared, p)
      | (.error e, p) => (.error e, p) := by
  rw [h.direct.rebuild_start, n.tree.visit_eq_follow h, Walk.bind_apply]
  rcases P.follow n.tree.tour ⟨context, #[.rebuildingTree n.kind]⟩ with ⟨e | _, p⟩ <;> rfl

/-- For every pair of hooks, the standard rules rebuild a tree as the hooks run along its tour: the
failure, the context and the events are those of the run, and a run to the end gives the cleared
tree. -/
theorem rebuild_eq_run_along_tour (unsupported : UnsupportedKind → ε)
    (preVisit postVisit : Kind → Walk σ ε Unit) (n : Node) (context : σ) :
    let P : Pass σ ε := { unsupported, preVisit, postVisit }
    (P.rebuild n).start context =
      match P.follow n.tree.tour ⟨context, #[.rebuildingTree n.kind]⟩ with
      | (.ok _, p) => (.ok n.cleared, p)
      | (.error e, p) => (.error e, p) :=
  Pass.Standard.rebuild_start ⟨fun _ => rfl, fun _ => rfl, rfl, rfl⟩ n context

end Rebuild
end SqlTrees
