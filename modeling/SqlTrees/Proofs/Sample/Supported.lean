import SqlTrees.Proofs.Format.Census
import SqlTrees.Proofs.Format.RoundTrip
import SqlTrees.Proofs.Rebuild.Identity
import SqlTrees.Proofs.Sample.Drawn

/-! # Drawn trees are rebuilt, counted and read back

* `Supported`: what the passes and the format do with a tree of the supported fragment.
* `Tree.Fits.supported`: a tree that fits is in it.
* `Gen.tree_always`, `Gen.unsupportedStatement_always`: where whole trees are drawn from.
* `drawn_trees_supported`: so every tree drawn is in the fragment, and every statement drawn to be
  outside of it fails at its root.
-/

namespace SqlTrees
set_option autoImplicit false

/-- The identity pass rebuilds the tree, the counting pass counts as many visits as there are nodes
in the written tree and comes no deeper than the bound, and the written tree reads as itself. -/
structure Supported (bound : Nat) (n : Node) : Prop where
  rebuilt : ∃ m, ((Pass.identity.rebuild n).start ()).1 = .ok m ∧ m.alike n = true
  counted : let run := (Pass.visitCounter.rebuild n).start {}
    (∃ m, run.1 = .ok m) ∧ run.2.context.total = n.writtenCount ∧
      run.2.context.maxDepth ≤ bound
  readBack : Node.ofJson? n.toJson = some n ∧
    Tree.ofJson? n.category n.tree.toJson = some n.tree

theorem Tree.Fits.ruled {c : Category} {h : Nat} {t : Tree c} (ht : t.Fits h) :
    ∀ k ∈ t.kinds, k ∉ Kind.unruled := by
  rw [← t.map_kind_nodes, List.forall_mem_map]
  exact fun x hx => (ht.proper x hx).1

theorem Tree.Fits.unblocked {c : Category} {h : Nat} {t : Tree c} (ht : t.Fits h) :
    t.blocked? = none := by
  rw [← Option.map_eq_none_iff (f := Blocked.kind), t.map_kind_blocked?, List.find?_eq_none]
  exact fun k hk => by simpa using ht.ruled k hk

/-- Join criteria that stand alone are the one case where the two counts differ. -/
theorem Tree.Fits.supported {h : Nat} {n : Node} (hn : n.tree.Fits h)
    (marked : n.category ≠ .joinCriteria) : Supported h n where
  rebuilt := ⟨n.cleared, (Pass.identity_eq_ok_iff n _).2 ⟨hn.ruled, rfl⟩, n.alike_cleared⟩
  counted := by
    have total := Pass.visitCounter_total n
    have tally := Pass.visitCounter_start n {}
    have written := n.writtenCount_eq
    rw [hn.unblocked] at total tally
    rw [if_neg marked, Nat.add_zero] at written
    refine ⟨⟨_, total.1⟩, total.2.trans written.symm, ?_⟩
    rw [tally.2]
    have height := hn.height
    simp only [Tally.after, List.length_nil]
    omega
  readBack := by
    rw [Node.ofJson?_toJson, Tree.ofJson?_toJson, n.finite_eq, hn.finite]
    exact ⟨rfl, rfl⟩

namespace Gen

theorem tree_always (size : Nat) :
    (tree size).Always fun n =>
      n.tree.Fits (4 * min size 4 + 8) ∧ n.category ≠ .joinCriteria := by
  have hg := Generators.atDepth_within (min size 4)
  refine .any fun n => ?_
  split
  · exact .bind (hg.expression.within (by omega)) fun t ht => .pure ⟨ht, nofun⟩
  · exact .bind (hg.relation.within (by omega)) fun t ht => .pure ⟨ht, nofun⟩
  · exact .bind (hg.query.within (by omega)) fun t ht => .pure ⟨ht, nofun⟩
  · exact .bind (hg.statement.within (by omega)) fun t ht => .pure ⟨ht, nofun⟩

/-- A node without a rule, and not a query that stands for a statement. -/
theorem unsupportedStatement_always :
    unsupportedStatement.Always fun t =>
      ∃ k isA fields, t = .node k isA fields ∧ k ∈ Kind.unruled := by
  refine .any fun place => .any fun n => ?_
  split
  · exact .any fun name => .any fun query => .pure ⟨_, _, _, rfl, by decide⟩
  · exact .any fun name => .any fun parameters => .pure ⟨_, _, _, rfl, by decide⟩
  · exact .any fun name => .pure ⟨_, _, _, rfl, by decide⟩
  · exact .any fun table => .any fun grantee => .any fun withGrantOption =>
      .pure ⟨_, _, _, rfl, by decide⟩
  · exact .any fun grantOptionFor => .any fun table => .any fun grantee =>
      .pure ⟨_, _, _, rfl, by decide⟩
  · exact .any fun name => .any fun ifNotExists => .any fun properties =>
      .pure ⟨_, _, _, rfl, by decide⟩
  · exact .any fun name => .any fun ifExists => .any fun cascade => .pure ⟨_, _, _, rfl, by decide⟩
  · exact .any fun name => .any fun ifExists => .pure ⟨_, _, _, rfl, by decide⟩
  · exact .any fun name => .any fun ifExists => .pure ⟨_, _, _, rfl, by decide⟩
  · exact .any fun source => .any fun target => .pure ⟨_, _, _, rfl, by decide⟩
  · exact .any fun catalog => .any fun schema => .pure ⟨_, _, _, rfl, by decide⟩
  · exact .any fun schema => .any fun pattern => .pure ⟨_, _, _, rfl, by decide⟩
  · exact .any fun catalog => .any fun pattern => .pure ⟨_, _, _, rfl, by decide⟩
  · exact .any fun pattern => .pure ⟨_, _, _, rfl, by decide⟩
  · exact .pure ⟨_, _, _, rfl, by decide⟩
  · exact .pure ⟨_, _, _, rfl, by decide⟩
  · exact .any fun name => .pure ⟨_, _, _, rfl, by decide⟩
  · exact .pure ⟨_, _, _, rfl, by decide⟩
  · exact .pure ⟨_, _, _, rfl, by decide⟩

end Gen

/-- At a node without a rule the identity pass has visited that node only. -/
theorem Pass.identity_start_of_unruled {c : Category} {k : Kind} {isA : k.category = c}
    {fields : Record Tree k.signature} (hk : k ∈ Kind.unruled) (isFamily : c.isFamily = true) :
    (identity.rebuild ⟨.node k isA fields, isFamily⟩).start () =
      (.error ⟨k⟩, ⟨(), #[.rebuildingTree k, .rebuildingNode k, .unsupported k]⟩) := by
  have tour : (Tree.node k isA fields).tour = [.enter k, .fail k] := by
    rw [Tree.tour, if_pos hk]
  rw [identity_standard.rebuild_start]
  simp only [tour]
  rfl

/-- Whatever the tape, a tree drawn at a depth is rebuilt as an equal tree, its visits are its nodes
and at most `4 * depth + 8` of them are open at once, and it is read back from what it is written
as. A statement drawn to have no rule fails with its own kind, after the visit of its root. -/
theorem drawn_trees_supported (tape : Tape) :
    (∀ depth, let g := Generators.atDepth depth
      Supported (4 * depth + 8) { tree := (g.expression tape).1 } ∧
      Supported (4 * depth + 8) { tree := (g.relation tape).1 } ∧
      Supported (4 * depth + 8) { tree := (g.query tape).1 } ∧
      Supported (4 * depth + 8) { tree := (g.statement tape).1 }) ∧
    (∀ size, Supported (4 * min size 4 + 8) (Gen.tree size tape).1) ∧
    let statement := (Gen.unsupportedStatement tape).1
    (Pass.identity.rebuild { tree := statement }).start () =
      (.error ⟨statement.kind⟩, ⟨(), #[.rebuildingTree statement.kind,
        .rebuildingNode statement.kind, .unsupported statement.kind]⟩) := by
  refine ⟨fun depth => ?_, fun size => ?_, ?_⟩
  · have hg := Generators.atDepth_within depth
    exact ⟨((hg.expression tape).mono (by omega)).supported nofun,
      ((hg.relation tape).mono (by omega)).supported nofun,
      ((hg.query tape).mono (by omega)).supported nofun,
      (hg.statement tape).supported nofun⟩
  · obtain ⟨fits, marked⟩ := Gen.tree_always size tape
    exact fits.supported marked
  · obtain ⟨k, isA, fields, ht, hk⟩ := Gen.unsupportedStatement_always tape
    simp only [ht]
    exact Pass.identity_start_of_unruled hk rfl

end SqlTrees
