import SqlTrees.Proofs.Tree.Replaced

/-! # Replacing nodes by nodes of their kind

* `Replacement.Relabels`: the replacements in question. They never fail, and they replace only nodes
  without children and with a standard rule.
* `Tree.kinds_substituted`: no such replacement changes the kinds of the nodes.
* `Tree.substituted_substituted`: replacing twice is replacing once, if it is so at every node.
-/

namespace SqlTrees
set_option autoImplicit false

theorem Record.kinds_of_childless {s : Signature} (r : Record Tree s)
    (h : Signature.childless s = true) : r.kinds = [] := by
  rw [← r.map_kind_nodes, r.nodes_of_childless h, List.map_nil]

section
variable {ε : Type} {new? first second whole : Replacement ε}

/-! ## The kinds of the nodes -/

structure Replacement.Relabels (new? : Replacement ε) : Prop where
  childless : new?.Childless
  ruled : ∀ k f, new? k = some f → k ∉ Kind.unruled
  same : ∀ k f, new? k = some f → ∀ fields, ∃ others, f fields = .ok (.ofFields k others)

theorem Replacement.Relabels.single (h : new?.Relabels) : new?.Single where
  childless := h.childless
  single k f hn fields t ht := by
    obtain ⟨others, ho⟩ := h.same k f hn fields
    obtain rfl : t = .ofFields k others := Except.ok.inj (ht.symm.trans ho)
    rw [Tree.nodes, others.nodes_of_childless (h.childless k f hn), Tree.top]

theorem Replacement.Relabels.kind_replaced (h : new?.Relabels) (x : Occurrence) :
    (x.replaced new?).kind = x.kind := by
  obtain ⟨k, fields⟩ := x
  rw [Occurrence.replaced]
  cases hn : new? k with
  | some f =>
    obtain ⟨others, ho⟩ := h.same k f hn fields
    rw [put_of_some hn ho, Tree.top]
  | none => rw [put_of_none hn, Tree.top]

theorem Tree.kinds_substituted (h : new?.Relabels) {c : Category} (t : Tree c) :
    (t.substituted new?).kinds = t.kinds := by
  have kept : Occurrence.kind ∘ Occurrence.replaced new? = Occurrence.kind :=
    funext h.kind_replaced
  rw [← Tree.map_kind_nodes, t.nodes_substituted h.single, List.map_map, kept, t.map_kind_nodes]

/-! ## Replacing twice -/

theorem Field.substituted_unlocated : {τ : FieldType} → (f : Field Tree τ) →
    f.unlocated.substituted new? = (f.substituted new?).unlocated
  | .atom a, .atom v => by cases a <;> rfl
  | .child _, .child _ => rfl
  | .option _, .none => rfl
  | .option _, .some _ => rfl
  | .list _, .nil => rfl
  | .list _, .cons _ _ => rfl

theorem Record.substituted_unlocated {s : Signature} (r : Record Tree s) :
    r.unlocated.substituted new? = (r.substituted new?).unlocated := by
  induction r with
  | nil => rfl
  | cons f r ih =>
    rw [Record.unlocated, Record.substituted, f.substituted_unlocated, ih]
    rfl

/-- At every node, what the second replacement makes of what the first one put there is what a third
one puts there at once. -/
def Replacement.Composes (first second whole : Replacement ε) : Prop :=
  ∀ k (fields : Record Tree k.signature),
    (first.put k fields (fields.substituted first)).substituted second =
      whole.put k fields ((fields.substituted first).substituted second)

/-- A node that nobody replaces loses its location in the first run already. -/
theorem Replacement.composes_of_none {k : Kind} (hf : first k = none) (hs : second k = none)
    (hw : whole k = none) (fields below : Record Tree k.signature) :
    (first.put k fields below).substituted second =
      whole.put k fields (below.substituted second) := by
  rw [put_of_none hf, put_of_none hw, Tree.substituted_node, put_of_none hs]
  by_cases hl : k ∈ Kind.leaves
  · simp only [if_pos hl]
  · simp only [if_neg hl]
    rw [Record.substituted_unlocated, Record.unlocated_unlocated]

mutual

theorem Tree.substituted_substituted (h : first.Composes second whole) : {c : Category} →
    (t : Tree c) → (t.substituted first).substituted second = t.substituted whole
  | _, .node k rfl fields => by
    have ih := fields.substituted_substituted h
    rw [Tree.substituted_node, h k fields, ih, Tree.substituted_node]
  | _, .inclusion i t => by
    rw [Tree.substituted, Tree.substituted, t.substituted_substituted h, Tree.substituted]

theorem Record.substituted_substituted (h : first.Composes second whole) : {s : Signature} →
    (r : Record Tree s) → (r.substituted first).substituted second = r.substituted whole
  | _, .nil => rfl
  | _, .cons f r => by
    rw [Record.substituted, Record.substituted, f.substituted_substituted h,
      r.substituted_substituted h, Record.substituted]

theorem Field.substituted_substituted (h : first.Composes second whole) : {τ : FieldType} →
    (f : Field Tree τ) → (f.substituted first).substituted second = f.substituted whole
  | _, .atom _ => rfl
  | _, .child t => by
    rw [Field.substituted, Field.substituted, t.substituted_substituted h, Field.substituted]
  | _, .none => rfl
  | _, .some f => by
    rw [Field.substituted, Field.substituted, f.substituted_substituted h, Field.substituted]
  | _, .nil => rfl
  | _, .cons f fs => by
    rw [Field.substituted, Field.substituted, f.substituted_substituted h,
      fs.substituted_substituted h, Field.substituted]

end

theorem Node.substituted_substituted (h : first.Composes second whole) (n : Node) :
    (n.substituted first).substituted second = n.substituted whole := by
  rw [substituted, substituted, n.tree.substituted_substituted h, substituted]

end
end SqlTrees
