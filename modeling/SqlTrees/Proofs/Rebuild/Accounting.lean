import SqlTrees.Passes.Tally
import SqlTrees.Proofs.Rebuild.Identity
import SqlTrees.Proofs.Tree.Extent

/-! # Accounting for visits

* `Tally.follow`: what a tour does to a tally.
* `Tally.after`: a tally with the visits to a finished tree added to it.
* `Tree.follow_tour`: the tour of a tree with rules for all its nodes adds the tree and leaves the
  stack of open nodes as it was.
* `Tree.follow_tour_of_blocked`: any other tour ends with the path to the first node without a rule
  open, and only the nodes finished before it counted as completed.
* `visit_accounting`: the same of the counting pass.
-/

namespace SqlTrees
set_option autoImplicit false

/-! ## Counts -/

namespace Counts

/-- One more visit for each kind in a list. -/
def add (c : Counts) (ks : List Kind) : Counts := fun k => c k + ks.count k

theorem add_append (c : Counts) (ks ls : List Kind) : c.add (ks ++ ls) = (c.add ks).add ls := by
  funext k
  rw [add, add, add, List.count_append, Nat.add_assoc]

theorem bump_eq_add (c : Counts) (k : Kind) : c.bump k = c.add [k] := by
  funext l
  rw [bump, add, List.count_singleton]
  by_cases h : l = k
  · subst h
    simp
  · rw [if_neg h, if_neg (by simpa using fun hk => h hk.symm), Nat.add_zero]

theorem add_add_comm (c : Counts) (ks ls : List Kind) : (c.add ks).add ls = (c.add ls).add ks := by
  funext k
  simp only [add]
  omega

end Counts

/-! ## Tallies along a tour -/

namespace Tally

/-- What the hooks do to a tally on a list of legs, up to the first that fails. -/
def follow (T : Tally) : List Leg → Tally
  | [] => T
  | .enter k :: legs => (T.enter k).follow legs
  | .leave k :: legs => (T.leave k).follow legs
  | .fail _ :: _ => T

theorem follow_enter (T : Tally) (k : Kind) (legs : List Leg) :
    T.follow (.enter k :: legs) = (T.enter k).follow legs := rfl

theorem follow_leave (T : Tally) (k : Kind) (legs : List Leg) :
    T.follow (.leave k :: legs) = (T.leave k).follow legs := rfl

/-- The tally with finished visits to the nodes of a tree of this height added. -/
def after (T : Tally) (ks : List Kind) (height : Nat) : Tally :=
  { T with
    pre := T.pre.add ks
    post := T.post.add ks
    maxDepth := max T.maxDepth (T.openNodes.length + height) }

/-- As many nodes as are open have been open at once. -/
def Deep (T : Tally) : Prop :=
  T.openNodes.length ≤ T.maxDepth

theorem deep_enter (T : Tally) (k : Kind) : (T.enter k).Deep := by
  rw [Deep, enter]
  exact Nat.le_max_right ..

theorem Deep.after {T : Tally} (h : T.Deep) (ks : List Kind) (height : Nat) :
    (T.after ks height).Deep :=
  Nat.le_trans h (Nat.le_max_left ..)

theorem after_nil {T : Tally} (h : T.Deep) : T.after [] 0 = T := by
  rw [Tally.after, Nat.add_zero, Nat.max_eq_left h]
  rfl

theorem after_after (T : Tally) (ks ls : List Kind) (a b : Nat) :
    (T.after ks a).after ls b = T.after (ks ++ ls) (max a b) := by
  simp only [Tally.after, Counts.add_append, Tally.mk.injEq, true_and, and_true]
  omega

/-- A node is entered, the nodes below it are visited, and it is left. -/
theorem leave_after_enter (T : Tally) (k : Kind) (ks : List Kind) (height : Nat) :
    ((T.enter k).after ks height).leave k = T.after (k :: ks) (height + 1) := by
  have hpre : (T.pre.bump k).add ks = T.pre.add (k :: ks) := by
    rw [Counts.bump_eq_add, ← Counts.add_append, List.singleton_append]
  have hpost : (T.post.add ks).bump k = T.post.add (k :: ks) := by
    rw [Counts.bump_eq_add, Counts.add_add_comm, ← Counts.add_append, List.singleton_append]
  simp only [Tally.after, enter, leave, hpre, hpost, List.length_cons, List.tail_cons,
    List.head?_cons, decide_true, Bool.and_true, Tally.mk.injEq, true_and, and_true]
  omega

/-- How a tally is left when a traversal is stopped: the path to the stopping node is open and the
finished nodes are counted as completed. -/
structure StoppedAt (T U : Tally) (b : Blocked) (finished : List Kind) : Prop where
  openNodes : U.openNodes = b.path.reverse ++ T.openNodes
  post : U.post = T.post.add finished
  paired : U.paired = T.paired

theorem stoppedAt_enter (T : Tally) (k : Kind) : T.StoppedAt (T.enter k) ⟨[], k⟩ [] :=
  ⟨rfl, rfl, rfl⟩

theorem StoppedAt.under {T U : Tally} {k : Kind} {b : Blocked} {finished : List Kind}
    (h : (T.enter k).StoppedAt U b finished) : T.StoppedAt U (b.under k) finished where
  openNodes := by
    rw [h.openNodes, Blocked.path_under, enter, List.reverse_cons, List.append_assoc,
      List.singleton_append]
  post := h.post
  paired := h.paired

theorem StoppedAt.of_after {T U : Tally} {b : Blocked} {ks finished : List Kind} {height : Nat}
    (h : (T.after ks height).StoppedAt U b finished) : T.StoppedAt U b (ks ++ finished) where
  openNodes := h.openNodes
  post := by
    rw [h.post, Counts.add_append]
    rfl
  paired := h.paired

end Tally

/-! ## The tour of a tree whose kinds all have rules -/

theorem Record.blocked?_cons {name : String} {τ : FieldType} {s : Signature} {f : Field Tree τ}
    {r : Record Tree s} (h : (Record.cons f r : Record Tree ((name, τ) :: s)).blocked? = none) :
    f.blocked? = none ∧ r.blocked? = none := by
  simpa only [Record.blocked?, Option.or_eq_none_iff] using h

theorem Field.blocked?_cons {τ : FieldType} {f : Field Tree τ} {fs : Field Tree (.list τ)}
    (h : (Field.cons f fs).blocked? = Option.none) :
    f.blocked? = Option.none ∧ fs.blocked? = Option.none := by
  simpa only [Field.blocked?, Option.or_eq_none_iff] using h

mutual

theorem Tree.follow_tour : {c : Category} → (t : Tree c) → t.blocked? = none →
    (legs : List Leg) → (T : Tally) →
    T.follow (t.tour ++ legs) = (T.after t.kinds t.height).follow legs
  | _, .node k _ fields, h, legs, T => by
    rw [Tree.blocked?] at h
    by_cases hu : k ∈ Kind.unruled
    · rw [if_pos hu] at h
      cases h
    · rw [if_neg hu, Option.map_eq_none_iff] at h
      have ih := fields.follow_tour h (.leave k :: legs) (T.enter k) (T.deep_enter k)
      rw [Tree.tour, if_neg hu, Tree.kinds, Tree.height, ← T.leave_after_enter]
      simp only [List.append_assoc, List.cons_append, List.nil_append]
      rw [Tally.follow_enter, ih, Tally.follow_leave]
  | _, .inclusion _ t, h, legs, T => by
    rw [Tree.blocked?] at h
    rw [Tree.tour, Tree.kinds, Tree.height, t.follow_tour h]

theorem Record.follow_tour : {s : Signature} → (r : Record Tree s) → r.blocked? = none →
    (legs : List Leg) → (T : Tally) → T.Deep →
    T.follow (r.tour ++ legs) = (T.after r.kinds r.height).follow legs
  | _, .nil, _, _, T, hT => by
    rw [Record.kinds, Record.height, T.after_nil hT]
    rfl
  | _, .cons f r, h, legs, T, hT => by
    obtain ⟨hf, hr⟩ := Record.blocked?_cons h
    rw [Record.tour, Record.kinds, Record.height, ← T.after_after, List.append_assoc,
      f.follow_tour hf _ T hT, r.follow_tour hr _ _ (hT.after _ _)]

theorem Field.follow_tour : {τ : FieldType} → (f : Field Tree τ) → f.blocked? = none →
    (legs : List Leg) → (T : Tally) → T.Deep →
    T.follow (f.tour ++ legs) = (T.after f.kinds f.height).follow legs
  | _, .atom _, _, _, T, hT => by
    rw [Field.kinds, Field.height, T.after_nil hT]
    rfl
  | _, .child t, h, legs, T, _ => by
    rw [Field.blocked?] at h
    rw [Field.tour, Field.kinds, Field.height, t.follow_tour h]
  | _, .none, _, _, T, hT => by
    rw [Field.kinds, Field.height, T.after_nil hT]
    rfl
  | _, .some f, h, legs, T, hT => by
    rw [Field.blocked?] at h
    rw [Field.tour, Field.kinds, Field.height, f.follow_tour h legs T hT]
  | _, .nil, _, _, T, hT => by
    rw [Field.kinds, Field.height, T.after_nil hT]
    rfl
  | _, .cons f fs, h, legs, T, hT => by
    obtain ⟨hf, hfs⟩ := Field.blocked?_cons h
    rw [Field.tour, Field.kinds, Field.height, ← T.after_after, List.append_assoc,
      f.follow_tour hf _ T hT, fs.follow_tour hfs _ _ (hT.after _ _)]

end

/-! ## The tour of a tree with a node that has no rule -/

mutual

theorem Tree.follow_tour_of_blocked : {c : Category} → (t : Tree c) → {b : Blocked} →
    t.blocked? = some b → (legs : List Leg) → (T : Tally) →
    T.StoppedAt (T.follow (t.tour ++ legs)) b t.completed
  | _, .node k _ fields, b, h, legs, T => by
    rw [Tree.blocked?] at h
    rw [Tree.tour, Tree.completed]
    by_cases hu : k ∈ Kind.unruled
    · rw [if_pos hu] at h ⊢
      cases h
      rw [if_pos hu]
      exact T.stoppedAt_enter k
    · rw [if_neg hu] at h ⊢
      obtain ⟨b', hb, rfl⟩ := Option.map_eq_some_iff.mp h
      have ih := fields.follow_tour_of_blocked hb (.leave k :: legs) (T.enter k) (T.deep_enter k)
      rw [if_neg hu, hb]
      simp only [List.append_assoc, List.cons_append, List.nil_append]
      rw [Tally.follow_enter]
      exact ih.under
  | _, .inclusion _ t, b, h, legs, T => by
    rw [Tree.blocked?] at h
    rw [Tree.tour, Tree.completed]
    exact t.follow_tour_of_blocked h legs T

theorem Record.follow_tour_of_blocked : {s : Signature} → (r : Record Tree s) → {b : Blocked} →
    r.blocked? = some b → (legs : List Leg) → (T : Tally) → T.Deep →
    T.StoppedAt (T.follow (r.tour ++ legs)) b r.completed
  | _, .nil, _, h, _, _, _ => by cases h
  | _, .cons f r, b, h, legs, T, hT => by
    rw [Record.blocked?] at h
    rw [Record.tour, Record.completed, List.append_assoc]
    cases hf : f.blocked? with
    | some b' =>
      rw [hf, Option.some_or] at h
      cases h
      exact f.follow_tour_of_blocked hf _ T hT
    | none =>
      rw [hf, Option.none_or] at h
      rw [f.follow_tour hf _ T hT]
      exact (r.follow_tour_of_blocked h legs _ (hT.after _ _)).of_after

theorem Field.follow_tour_of_blocked : {τ : FieldType} → (f : Field Tree τ) → {b : Blocked} →
    f.blocked? = some b → (legs : List Leg) → (T : Tally) → T.Deep →
    T.StoppedAt (T.follow (f.tour ++ legs)) b f.completed
  | _, .atom _, _, h, _, _, _ => by cases h
  | _, .child t, b, h, legs, T, _ => by
    rw [Field.blocked?] at h
    rw [Field.tour, Field.completed]
    exact t.follow_tour_of_blocked h legs T
  | _, .none, _, h, _, _, _ => by cases h
  | _, .some f, b, h, legs, T, hT => by
    rw [Field.blocked?] at h
    rw [Field.tour, Field.completed]
    exact f.follow_tour_of_blocked h legs T hT
  | _, .nil, _, h, _, _, _ => by cases h
  | _, .cons f fs, b, h, legs, T, hT => by
    rw [Field.blocked?] at h
    rw [Field.tour, Field.completed, List.append_assoc]
    cases hf : f.blocked? with
    | some b' =>
      rw [hf, Option.some_or] at h
      cases h
      exact f.follow_tour_of_blocked hf _ T hT
    | none =>
      rw [hf, Option.none_or] at h
      rw [f.follow_tour hf _ T hT]
      exact (fs.follow_tour_of_blocked h legs _ (hT.after _ _)).of_after

end

/-! ## The counting pass -/

theorem Pass.visitCounter_standard : visitCounter.Standard :=
  ⟨fun _ => rfl, fun _ => rfl, rfl, rfl⟩

theorem Pass.visitCounter_follow (legs : List Leg) (p : Progress Tally) :
    let run := visitCounter.follow legs p
    run.2.context = p.context.follow legs ∧
      run.1 =
        match legs.findSome? Leg.failed? with
        | none => .ok ()
        | some k => .error ⟨k⟩ := by
  induction legs generalizing p with
  | nil => exact ⟨rfl, rfl⟩
  | cons leg legs ih =>
    cases leg with
    | enter k => exact ih _
    | leave k => exact ih _
    | fail k => exact ⟨rfl, rfl⟩

/-- What the counting pass leaves behind, by the first node without a rule. -/
theorem Pass.visitCounter_start (n : Node) (T : Tally) :
    let run := (visitCounter.rebuild n).start T
    match n.tree.blocked? with
    | none => run.1 = .ok n.cleared ∧ run.2.context = T.after n.tree.kinds n.tree.height
    | some b => run.1 = .error ⟨b.kind⟩ ∧ T.StoppedAt run.2.context b n.tree.completed := by
  have hf := visitCounter_follow n.tree.tour ⟨T, #[.rebuildingTree n.kind]⟩
  rw [Tree.findSome?_failed_tour, ← Tree.map_kind_blocked?] at hf
  rw [visitCounter_standard.rebuild_start]
  rcases hr : visitCounter.follow n.tree.tour ⟨T, #[.rebuildingTree n.kind]⟩ with ⟨e | _, p⟩
  · rw [hr] at hf
    cases hb : n.tree.blocked? with
    | none =>
      rw [hb] at hf
      cases hf.2
    | some b =>
      rw [hb] at hf
      have hs := n.tree.follow_tour_of_blocked hb [] T
      rw [List.append_nil] at hs
      obtain rfl : e = ⟨b.kind⟩ := Except.error.inj hf.2
      refine ⟨rfl, ?_⟩
      simp only at hf ⊢
      rw [hf.1]
      exact hs
  · rw [hr] at hf
    cases hb : n.tree.blocked? with
    | none =>
      have hs := n.tree.follow_tour hb [] T
      rw [List.append_nil] at hs
      refine ⟨rfl, ?_⟩
      simp only at hf ⊢
      rw [hf.1]
      exact hs
    | some b =>
      rw [hb] at hf
      cases hf.2

theorem Tree.blocked?_cleared {c : Category} (t : Tree c) (h : t.blocked? = none) :
    t.cleared.blocked? = none := by
  rw [← Option.map_eq_none_iff (f := Blocked.kind), map_kind_blocked?] at h ⊢
  rw [t.kinds_cleared, h]

/-- The counting pass, from any tally. The visits always pair up. A traversal that succeeds counts
every node once as begun and once as completed, leaves the open nodes as they were and the largest
depth raised by the height of the tree; the tree that it hands back is counted the same. A traversal
that fails does so at the first node without a rule and leaves the path to that node open, innermost
first; only the nodes finished before it are counted as completed. -/
theorem visit_accounting (n : Node) (T : Tally) :
    let run := (Pass.visitCounter.rebuild n).start T
    let U := run.2.context
    U.paired = T.paired ∧
    (∀ m, run.1 = .ok m →
      (∀ k, U.pre k = T.pre k + n.tree.kinds.count k ∧
        U.post k = T.post k + n.tree.kinds.count k) ∧
      U.openNodes = T.openNodes ∧
      U.maxDepth = max T.maxDepth (T.openNodes.length + n.tree.height) ∧
      ∀ S : Tally,
        let again := (Pass.visitCounter.rebuild m).start S
        (∃ l, again.1 = .ok l) ∧
        ∀ k, again.2.context.pre k = S.pre k + n.tree.kinds.count k ∧
          again.2.context.post k = S.post k + n.tree.kinds.count k) ∧
    ∀ e, run.1 = .error e →
      ∃ b, n.tree.blocked? = some b ∧ e = ⟨b.kind⟩ ∧
        U.openNodes = b.path.reverse ++ T.openNodes ∧
        ∀ k, U.post k = T.post k + n.tree.completed.count k := by
  intro run U
  have hrun := Pass.visitCounter_start n T
  cases hb : n.tree.blocked? with
  | none =>
    rw [hb] at hrun
    obtain ⟨hok, hctx⟩ := hrun
    have hU : U = T.after n.tree.kinds n.tree.height := hctx
    refine ⟨by rw [hU]; rfl, ?_, ?_⟩
    · intro m hm
      obtain rfl : n.cleared = m := Except.ok.inj (hok.symm.trans hm)
      rw [hU]
      refine ⟨fun k => ⟨rfl, rfl⟩, rfl, rfl, ?_⟩
      intro S again
      have hagain := Pass.visitCounter_start n.cleared S
      have hc : n.cleared.tree.blocked? = none := n.tree.blocked?_cleared hb
      have hk : n.cleared.tree.kinds = n.tree.kinds := n.tree.kinds_cleared
      rw [hc, hk] at hagain
      refine ⟨⟨_, hagain.1⟩, ?_⟩
      intro k
      rw [hagain.2]
      exact ⟨rfl, rfl⟩
    · intro e he
      cases hok.symm.trans he
  | some b =>
    rw [hb] at hrun
    obtain ⟨herr, hstop⟩ := hrun
    refine ⟨hstop.paired, ?_, ?_⟩
    · intro m hm
      cases herr.symm.trans hm
    · intro e he
      obtain rfl : (⟨b.kind⟩ : UnsupportedKind) = e := Except.error.inj (herr.symm.trans he)
      refine ⟨b, rfl, rfl, hstop.openNodes, ?_⟩
      intro k
      rw [hstop.post]
      rfl

end SqlTrees
