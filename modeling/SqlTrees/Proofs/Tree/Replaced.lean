import SqlTrees.Proofs.Tree.Substituted

/-! # The nodes of a tree with some of them replaced

* `Tree.substituted_congr`: two replacements that put the same in the place of every node of a tree
  come to the same tree.
* `Replacement.Single`: nodes without room for a child are replaced by single nodes.
* `Tree.nodes_substituted`: then the nodes of the new tree are those in the places of the old ones,
  one for one and in the same order.
* `Tree.nodes_cleared`: so it is with the nodes of a cleared tree.
-/

namespace SqlTrees
set_option autoImplicit false

section
variable {ε : Type} {new? first second : Replacement ε}

/-! ## Replacements that agree on a tree -/

/-- The two put the same in the place of a node, whatever becomes of the nodes below it. -/
def Replacement.AgreeAt (first second : Replacement ε) (x : Occurrence) : Prop :=
  ∀ below, first.put x.kind x.fields below = second.put x.kind x.fields below

mutual

theorem Tree.substituted_congr : {c : Category} → (t : Tree c) →
    (∀ x ∈ t.nodes, first.AgreeAt second x) → t.substituted first = t.substituted second
  | _, .node k rfl fields, h => by
    rw [Tree.nodes, List.forall_mem_cons] at h
    have ih := fields.substituted_congr h.2
    have here := h.1 (fields.substituted second)
    rw [Tree.substituted_node, Tree.substituted_node, ih]
    exact here
  | _, .inclusion i t, h => by
    rw [Tree.nodes] at h
    rw [Tree.substituted, Tree.substituted, t.substituted_congr h]

theorem Record.substituted_congr : {s : Signature} → (r : Record Tree s) →
    (∀ x ∈ r.nodes, first.AgreeAt second x) → r.substituted first = r.substituted second
  | _, .nil, _ => by rw [Record.substituted, Record.substituted]
  | _, .cons f r, h => by
    rw [Record.nodes, List.forall_mem_append] at h
    rw [Record.substituted, Record.substituted, f.substituted_congr h.1, r.substituted_congr h.2]

theorem Field.substituted_congr : {τ : FieldType} → (f : Field Tree τ) →
    (∀ x ∈ f.nodes, first.AgreeAt second x) → f.substituted first = f.substituted second
  | _, .atom _, _ => by rw [Field.substituted, Field.substituted]
  | _, .child t, h => by
    rw [Field.nodes] at h
    rw [Field.substituted, Field.substituted, t.substituted_congr h]
  | _, .none, _ => by rw [Field.substituted, Field.substituted]
  | _, .some f, h => by
    rw [Field.nodes] at h
    rw [Field.substituted, Field.substituted, f.substituted_congr h]
  | _, .nil, _ => by rw [Field.substituted, Field.substituted]
  | _, .cons f fs, h => by
    rw [Field.nodes, List.forall_mem_append] at h
    rw [Field.substituted, Field.substituted, f.substituted_congr h.1, fs.substituted_congr h.2]

end

/-- What the two make of a node of their kind is all that counts. -/
theorem Replacement.only_agreeAt {k : Kind}
    {f g : Record Tree k.signature → Except ε (Tree k.category)} {x : Occurrence}
    (h : ∀ fields, x = ⟨k, fields⟩ → f fields = g fields) : (only k f).AgreeAt (only k g) x := by
  obtain ⟨l, fields⟩ := x
  intro below
  by_cases hk : l = k
  · subst hk
    have same := h fields rfl
    simp only [put, only_self, same]
  · rw [put_of_none (only_of_ne hk), put_of_none (only_of_ne hk)]

theorem Node.substituted_congr (n : Node) (h : ∀ x ∈ n.tree.nodes, first.AgreeAt second x) :
    n.substituted first = n.substituted second := by
  rw [substituted, substituted, n.tree.substituted_congr h]

/-! ## Single nodes in the place of single nodes -/

/-- The node at the top of a tree. -/
def Tree.top : {c : Category} → Tree c → Occurrence
  | _, .node k _ fields => ⟨k, fields⟩
  | _, .inclusion _ t => t.top

/-- The node in the place of a node, once the nodes below it have been replaced. -/
def Occurrence.replaced (new? : Replacement ε) (x : Occurrence) : Occurrence :=
  (new?.put x.kind x.fields (x.fields.substituted new?)).top

/-- Only nodes without room for a child are replaced, each by one node. -/
structure Replacement.Single (new? : Replacement ε) : Prop where
  childless : new?.Childless
  single : ∀ k f, new? k = some f → ∀ fields t, f fields = .ok t → t.nodes = [t.top]

theorem Replacement.Single.nodes_put (h : new?.Single) (k : Kind)
    (fields below : Record Tree k.signature) :
    (new?.put k fields below).nodes = (new?.put k fields below).top :: below.nodes := by
  cases hn : new? k with
  | some f =>
    have hc : Signature.childless k.signature = true := h.childless k f hn
    rw [below.nodes_of_childless hc]
    cases hf : f fields with
    | ok t =>
      rw [put_of_some hn hf]
      exact h.single k f hn fields t hf
    | error e =>
      simp only [put, hn, hf]
      rw [Tree.nodes, fields.nodes_of_childless hc, Tree.top]
  | none =>
    rw [put_of_none hn, Tree.nodes, Tree.top]
    split
    · rfl
    · rw [Record.nodes_unlocated]

mutual

theorem Tree.nodes_substituted (h : new?.Single) : {c : Category} → (t : Tree c) →
    (t.substituted new?).nodes = t.nodes.map (Occurrence.replaced new?)
  | _, .node k rfl fields => by
    have ih := fields.nodes_substituted h
    rw [Tree.substituted_node, h.nodes_put, ih, Tree.nodes, List.map_cons]
    rfl
  | _, .inclusion i t => by
    rw [Tree.substituted, Tree.nodes, t.nodes_substituted h, Tree.nodes]

theorem Record.nodes_substituted (h : new?.Single) : {s : Signature} → (r : Record Tree s) →
    (r.substituted new?).nodes = r.nodes.map (Occurrence.replaced new?)
  | _, .nil => rfl
  | _, .cons f r => by
    rw [Record.substituted, Record.nodes, f.nodes_substituted h, r.nodes_substituted h,
      Record.nodes, List.map_append]

theorem Field.nodes_substituted (h : new?.Single) : {τ : FieldType} → (f : Field Tree τ) →
    (f.substituted new?).nodes = f.nodes.map (Occurrence.replaced new?)
  | _, .atom _ => rfl
  | _, .child t => by rw [Field.substituted, Field.nodes, t.nodes_substituted h, Field.nodes]
  | _, .none => rfl
  | _, .some f => by rw [Field.substituted, Field.nodes, f.nodes_substituted h, Field.nodes]
  | _, .nil => rfl
  | _, .cons f fs => by
    rw [Field.substituted, Field.nodes, f.nodes_substituted h, fs.nodes_substituted h, Field.nodes,
      List.map_append]

end

end

/-! ## Cleared trees -/

/-- The node without the locations of composite nodes, itself included. -/
def Occurrence.cleared (x : Occurrence) : Occurrence :=
  ⟨x.kind, if x.kind ∈ Kind.leaves then x.fields.cleared else x.fields.cleared.unlocated⟩

theorem Tree.nodes_cleared {c : Category} (t : Tree c) :
    t.cleared.nodes = t.nodes.map Occurrence.cleared := by
  -- clearing is replacing nothing
  have nothing : Replacement.Single (fun _ => none : Replacement Empty) := ⟨nofun, nofun⟩
  have same : Occurrence.replaced (fun _ => none : Replacement Empty) = Occurrence.cleared := by
    funext x
    rw [Occurrence.replaced, Replacement.put_of_none rfl, x.fields.substituted_eq_cleared (by simp)]
    rfl
  rw [← same, ← t.nodes_substituted nothing, t.substituted_eq_cleared (by simp)]

end SqlTrees
