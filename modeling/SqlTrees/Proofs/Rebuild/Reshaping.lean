import Mathlib.Data.List.TakeWhile
import SqlTrees.Proofs.Rebuild.Fusion
import SqlTrees.Proofs.Rebuild.Identity
import SqlTrees.Proofs.Tree.Reshaped

/-! # Passes that change what the standard rules make

A pass whose rules do what the standard rules do and then change the fields of the node.

* `Walk.ComesBy`: how a walk ends that comes by nodes of given kinds, one after the other: it stops
  at the first without a rule, and on the way it changes the context kind by kind.
* `Pass.Reshapes`: the passes in question, with the change and what they do to the context.
* `Tree.visit_comesBy`: such a pass gives the cleared tree with the change made in it.
* `Pass.Reshapes.result_eq`: so it succeeds and fails with the identity pass, and its result is that
  of the identity pass with the change made in it.
* `Pass.identity_reshaped`, `Pass.Reshapes.result_reshaped`: what a further run makes of a result.
-/

namespace SqlTrees
set_option autoImplicit false

section
variable {σ α β : Type} {step : σ → Kind → σ}

/-! ## Coming by nodes of given kinds -/

/-- The walk comes by nodes of these kinds, and if they all have a rule, to a result. -/
def Walk.ComesBy (step : σ → Kind → σ) (w : Walk σ UnsupportedKind α) (ks : List Kind)
    (result : α) : Prop :=
  ∀ p, ∃ events, w p =
    (match ks.find? (· ∈ Kind.unruled) with
      | none => .ok result
      | some k => .error ⟨k⟩,
    ⟨(ks.takeWhile (· ∉ Kind.unruled)).foldl step p.context, events⟩)

theorem Kind.takeWhile_append_of_stop {ks : List Kind} {k : Kind}
    (h : ks.find? (· ∈ Kind.unruled) = some k) (ls : List Kind) :
    (ks ++ ls).takeWhile (· ∉ Kind.unruled) = ks.takeWhile (· ∉ Kind.unruled) := by
  obtain ⟨hk, before, after, rfl, hb⟩ := List.find?_eq_some_iff_append.1 h
  have ruled : ∀ l ∈ before, decide (l ∉ Kind.unruled) = true := by simpa using hb
  have stop : ¬ decide (k ∉ Kind.unruled) = true := by simpa using hk
  rw [List.append_assoc, List.cons_append, List.takeWhile_append_of_pos ruled,
    List.takeWhile_append_of_pos ruled, List.takeWhile_cons, List.takeWhile_cons, if_neg stop,
    if_neg stop]

namespace Walk.ComesBy
variable {w : Walk σ UnsupportedKind α} {ks ls : List Kind} {a : α} {b : β}

theorem bind (h : w.ComesBy step ks a) {f : α → Walk σ UnsupportedKind β}
    (hf : (f a).ComesBy step ls b) : (w >>= f).ComesBy step (ks ++ ls) b := by
  intro p
  obtain ⟨events, hw⟩ := h p
  rw [Walk.bind_apply, hw, List.find?_append]
  cases hk : ks.find? (· ∈ Kind.unruled) with
  | none =>
    have ruled : ∀ k ∈ ks, decide (k ∉ Kind.unruled) = true := by simpa using hk
    have taken : ks.takeWhile (· ∉ Kind.unruled) = ks := List.takeWhile_eq_self_iff.2 ruled
    obtain ⟨events, hq⟩ := hf ⟨ks.foldl step p.context, events⟩
    refine ⟨events, ?_⟩
    rw [List.takeWhile_append_of_pos ruled, List.foldl_append, taken]
    exact hq
  | some k =>
    -- stopped on the way, so that `f` is not reached
    refine ⟨events, ?_⟩
    rw [Kind.takeWhile_append_of_stop hk]
    rfl

theorem pure (a : α) : (Pure.pure a : Walk σ UnsupportedKind α).ComesBy step [] a :=
  fun p => ⟨p.events, rfl⟩

theorem map (h : w.ComesBy step ks a) (f : α → β) : (do return f (← w)).ComesBy step ks (f a) := by
  have mapped : (do return f (← w)).ComesBy step (ks ++ []) (f a) := h.bind (.pure (f a))
  rwa [List.append_nil] at mapped

theorem report (e : Event) : (Walk.report e : Walk σ UnsupportedKind Unit).ComesBy step [] () :=
  fun p => ⟨p.events.push e, rfl⟩

theorem update {k : Kind} (hk : k ∉ Kind.unruled) :
    (Walk.update (step · k) : Walk σ UnsupportedKind Unit).ComesBy step [k] () := by
  intro p
  rw [List.find?_cons_of_neg (by simpa using hk), List.takeWhile_cons_of_pos (by simpa using hk)]
  exact ⟨p.events, rfl⟩

/-- A node without a rule. -/
theorem stop {k : Kind} (hk : k ∈ Kind.unruled) (ks : List Kind) (a : α) :
    Walk.ComesBy step
      (do
        Walk.report (.unsupported k)
        throw ⟨k⟩)
      (k :: ks) a := by
  intro p
  rw [List.find?_cons_of_pos (by simpa using hk), List.takeWhile_cons_of_neg (by simpa using hk)]
  exact ⟨p.events.push (.unsupported k), rfl⟩

/-- A node that leaves the context as it is. -/
theorem past (h : w.ComesBy step ks a) {k : Kind} (hk : k ∉ Kind.unruled)
    (still : ∀ context, step context k = context) : w.ComesBy step (k :: ks) a := by
  intro p
  rw [List.find?_cons_of_neg (by simpa using hk), List.takeWhile_cons_of_pos (by simpa using hk),
    List.foldl_cons, still]
  exact h p

end Walk.ComesBy

/-- A pass whose visit of a tree comes by all its nodes succeeds and fails with the identity pass. -/
theorem Pass.Direct.start_of_comesBy {P : Pass σ UnsupportedKind} (h : P.Direct) {n : Node}
    {t : Tree n.category} (visit : (n.tree.visit P).ComesBy step n.tree.kinds t) (context : σ) :
    ∃ events, (P.rebuild n).start context =
      ((identity.result () n).map fun _ => { n with tree := t },
        ⟨(n.tree.kinds.takeWhile (· ∉ Kind.unruled)).foldl step context, events⟩) := by
  obtain ⟨events, visit⟩ := visit ⟨context, #[.rebuildingTree n.kind]⟩
  refine ⟨events, ?_⟩
  rw [h.rebuild_start, visit, result, identity_result]
  cases n.tree.kinds.find? (· ∈ Kind.unruled) with
  | none => rfl
  | some k => rfl

/-! ## The passes in question -/

/-- The pass has no hooks, replaces no dispatcher, and has a rule of its own for one kind of
composite node only. Once the nodes below have been rebuilt, this rule comes to what the standard
rule makes of them, changed. -/
structure Pass.Reshapes (P : Pass σ UnsupportedKind) (k : Kind) (g : Reshape)
    (step : σ → Kind → σ) : Prop where
  direct : P.Direct
  unsupported : P.unsupported = id
  preVisit : ∀ l, P.preVisit l = pure ()
  postVisit : ∀ l, P.postVisit l = pure ()
  standard : ∀ l, l ≠ k → P.rule? l = none
  only : g.ChangesOnly k
  still : ∀ l, l ≠ k → ∀ context, step context l = context
  inner : k ∉ Kind.leaves
  own : ∀ fields : Record Tree k.signature,
    (fields.attach P).rebuilt.ComesBy step fields.kinds (fields.cleared.reshaped g) →
    (P.rule k (fields.attach P)).ComesBy step (k :: fields.kinds)
      (.ofFields k (g k (fields.cleared.reshaped g).unlocated))

/-! ## Visits -/

namespace Pass.Reshapes
variable {P : Pass σ UnsupportedKind} {k : Kind} {g : Reshape} (h : P.Reshapes k g step)
include h

theorem rule_comesBy_of_ne {l : Kind} (hk : l ≠ k) (fields : Record Tree l.signature)
    (ih : (fields.attach P).rebuilt.ComesBy step fields.kinds (fields.cleared.reshaped g)) :
    (P.rule l (fields.attach P)).ComesBy step (l :: fields.kinds)
      ((Tree.ofFields l fields).cleared.reshaped g) := by
  have still := h.still l hk
  rw [Pass.rule, h.standard l hk, Option.getD_none, Tree.cleared, Tree.reshaped, h.only l hk]
  by_cases hu : l ∈ Kind.unruled
  · rw [P.standardRule_unruled hu, h.unsupported]
    exact .stop hu _ _
  · by_cases hl : l ∈ Kind.leaves
    · have hc := Kind.childless_of_mem_leaves hl
      rw [P.standardRule_leaf hl, if_pos hl, fields.cleared_of_childless hc,
        fields.reshaped_of_childless hc, Record.before_attach, fields.kinds_of_childless hc]
      exact (Walk.ComesBy.pure _).past hu still
    · rw [P.standardRule_composite hl hu, if_neg hl, Record.reshaped_unlocated]
      exact (ih.map fun r => Tree.ofFields l r.unlocated).past hu still

theorem visited_comesBy (l : Kind) (fields : Record Tree l.signature)
    (ih : (fields.attach P).rebuilt.ComesBy step fields.kinds (fields.cleared.reshaped g)) :
    (P.visited l (P.rule l (fields.attach P))).ComesBy step (Tree.ofFields l fields).kinds
      ((Tree.ofFields l fields).cleared.reshaped g) := by
  have rule : (P.rule l (fields.attach P)).ComesBy step (l :: fields.kinds)
      ((Tree.ofFields l fields).cleared.reshaped g) := by
    by_cases hk : l = k
    · subst hk
      rw [Tree.cleared, if_neg h.inner, Tree.reshaped, Record.reshaped_unlocated]
      exact h.own fields ih
    · exact h.rule_comesBy_of_ne hk fields ih
  rw [Pass.visited, h.preVisit, h.postVisit, Tree.kinds]
  simp only [pure_bind, bind_pure]
  exact (Walk.ComesBy.report _).bind rule

end Pass.Reshapes

section
variable {P : Pass σ UnsupportedKind} {k : Kind} {g : Reshape}

mutual

theorem Tree.visit_comesBy (h : P.Reshapes k g step) : {c : Category} → (t : Tree c) →
    (t.visit P).ComesBy step t.kinds (t.cleared.reshaped g)
  | _, .node k rfl fields => h.visited_comesBy k fields (fields.rebuilt_comesBy h)
  | _, .inclusion i t => by
    have ih := t.visit_comesBy h
    rw [Tree.visit, h.direct.dispatch_eq, ite_self, Tree.kinds, Tree.cleared, Tree.reshaped]
    exact ih.map _

theorem Record.rebuilt_comesBy (h : P.Reshapes k g step) : {s : Signature} → (r : Record Tree s) →
    (r.attach P).rebuilt.ComesBy step r.kinds (r.cleared.reshaped g)
  | _, .nil => .pure _
  | _, .cons f r => by
    have ih := r.rebuilt_comesBy h
    rw [Record.attach, Record.rebuilt, Record.traverse, Record.kinds, Record.cleared,
      Record.reshaped]
    exact (f.traverse_comesBy h).bind (ih.map _)

theorem Field.traverse_comesBy (h : P.Reshapes k g step) : {τ : FieldType} → (f : Field Tree τ) →
    ((f.attach P).traverse Child.rebuilt).ComesBy step f.kinds (f.cleared.reshaped g)
  | _, .atom _ => .pure _
  | _, .child t => by
    have ih := t.visit_comesBy h
    rw [Field.attach, Field.traverse, h.direct.dispatch_eq, Field.kinds, Field.cleared,
      Field.reshaped]
    exact ih.map _
  | _, .none => .pure _
  | _, .some f => by
    have ih := f.traverse_comesBy h
    rw [Field.attach, Field.traverse, Field.kinds, Field.cleared, Field.reshaped]
    exact ih.map _
  | _, .nil => .pure _
  | _, .cons f fs => by
    have ih := fs.traverse_comesBy h
    rw [Field.attach, Field.traverse, Field.kinds, Field.cleared, Field.reshaped]
    exact (f.traverse_comesBy h).bind (ih.map _)

end

/-! ## Rebuilding -/

namespace Pass.Reshapes
variable (h : P.Reshapes k g step) (context : σ)
include h

/-- The pass succeeds where the identity pass does and fails as it does. -/
theorem result_eq (n : Node) :
    P.result context n = (identity.result () n).map (Node.reshaped g) := by
  obtain ⟨events, start⟩ := h.direct.start_of_comesBy (n.tree.visit_comesBy h) context
  rw [result, start, result, identity_result]
  cases n.tree.kinds.find? (· ∈ Kind.unruled) with
  | none => rfl
  | some k => rfl

theorem context_eq (n : Node) :
    ((P.rebuild n).start context).2.context =
      (n.tree.kinds.takeWhile (· ∉ Kind.unruled)).foldl step context := by
  obtain ⟨events, start⟩ := h.direct.start_of_comesBy (n.tree.visit_comesBy h) context
  rw [start]

/-- A second change, of a tree that the identity pass hands back as it stands once changed. -/
theorem result_reshaped {first whole : Reshape} (hc : first.Composes g whole) {i : Node}
    (stays : identity.result () (i.reshaped first) = .ok (i.reshaped first)) :
    P.result context (i.reshaped first) = .ok (i.reshaped whole) := by
  rw [h.result_eq, stays]
  exact congrArg Except.ok (i.reshaped_reshaped hc)

end Pass.Reshapes

/-- A pass that only goes on from a result of the identity pass has one on ruled trees only. -/
theorem Pass.ruled_of_identity_map {α : Type} {f : Node → α} {n : Node} {a : α}
    (h : (identity.result () n).map f = .ok a) :
    (∀ k ∈ n.tree.kinds, k ∉ Kind.unruled) ∧ f n.cleared = a := by
  cases hi : identity.result () n with
  | error e =>
    rw [hi] at h
    cases h
  | ok i =>
    obtain ⟨ruled, rfl⟩ := (identity_eq_ok_iff n i).1 hi
    rw [hi] at h
    exact ⟨ruled, Except.ok.inj h⟩

/-- What the identity pass has made of a tree, changed without a look at locations, it hands back
as it stands, if all that the change brings in has a rule. -/
theorem Pass.identity_reshaped {k : Kind} {g : Reshape} (only : g.ChangesOnly k)
    (blind : g.IgnoresLocations) {new : List Kind}
    (own : ∀ fields, (g k fields).kinds = new ++ fields.kinds)
    (ruled : ∀ l ∈ new, l ∉ Kind.unruled) {n i : Node} (hi : identity.result () n = .ok i) :
    identity.result () (i.reshaped g) = .ok (i.reshaped g) := by
  obtain ⟨before, rfl⟩ := (identity_eq_ok_iff n i).1 hi
  refine (identity_eq_ok_iff _ _).2 ⟨?_, ?_⟩
  · have kinds : n.cleared.tree.kinds = n.tree.kinds := n.tree.kinds_cleared
    rw [only.kinds_reshaped own, kinds, List.forall_mem_flatMap]
    intro l hl
    split
    · next same => exact List.forall_mem_cons.2 ⟨same ▸ before l hl, ruled⟩
    · exact List.forall_mem_singleton.2 (before l hl)
  · rw [n.cleared.cleared_reshaped blind, n.cleared_cleared]

end
end
end SqlTrees
