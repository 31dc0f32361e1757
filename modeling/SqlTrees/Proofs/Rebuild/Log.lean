import SqlTrees.Passes.Recording
import SqlTrees.Proofs.Rebuild.Accounting
import SqlTrees.Proofs.Tree.Situated

/-! # What a traversal reports

* `Leg.log`: what a pass whose hooks report nothing reports along a list of legs.
* `Tree.log_tour`: along the tour of a tree these are the nodes visited, and the node that stopped
  the traversal once more.
* `Leg.closings`: what the counting pass reports besides.
* `Tree.closings_tour`: along the tour of a tree these are the finished nodes, each with the number
  of nodes above it.
* `log_is_faithful`: the reports of whole traversals.
-/

namespace SqlTrees
set_option autoImplicit false

/-! ## Reports along a list of legs -/

/-- Whether an event reports the end of a visit, which only a counting pass does. -/
def Event.isClosing : Event → Bool
  | .closed _ _ => true
  | _ => false

namespace Leg

/-- The kind of the node that a leg enters. -/
def entered? : Leg → Option Kind
  | .enter k => some k
  | _ => none

/-- What is reported along a list of legs, up to the first that fails, if the hooks report
nothing. -/
def log : List Leg → List Event
  | [] => []
  | .enter k :: legs => .rebuildingNode k :: log legs
  | .leave _ :: legs => log legs
  | .fail k :: _ => [.unsupported k]

/-- What the hooks of the counting pass report, from as many open nodes. -/
def closings : Nat → List Leg → List Event
  | _, [] => []
  | depth, .enter _ :: legs => closings (depth + 1) legs
  | depth, .leave k :: legs => .closed k (depth - 1) :: closings (depth - 1) legs
  | _, .fail _ :: _ => []

end Leg

namespace Pass

/-- The hooks report nothing. -/
structure Quiet {σ ε : Type} (P : Pass σ ε) : Prop where
  preVisit : ∀ k p, (P.preVisit k p).2.events = p.events
  postVisit : ∀ k p, (P.postVisit k p).2.events = p.events

/-- A pass with quiet hooks reports the nodes that it enters. -/
theorem Quiet.events_follow {σ ε : Type} {P : Pass σ ε} (h : P.Quiet) {legs : List Leg}
    {p q : Progress σ} (run : P.follow legs p = (.ok (), q)) :
    q.events.toList =
      p.events.toList ++ (legs.filterMap Leg.entered?).map .rebuildingNode := by
  induction legs generalizing p with
  | nil =>
    cases run
    simp
  | cons leg legs ih =>
    rw [follow_cons, Walk.bind_apply] at run
    cases leg with
    | enter k =>
      have quiet := h.preVisit k p
      rw [take, Walk.bind_apply] at run
      rcases hp : P.preVisit k p with ⟨e | _, p'⟩
      · rw [hp] at run
        cases run
      · rw [hp] at run quiet
        rw [ih run, ← quiet]
        simp [Leg.entered?]
    | leave k =>
      have quiet := h.postVisit k p
      rw [take] at run
      rcases hp : P.postVisit k p with ⟨e | _, p'⟩
      · rw [hp] at run
        cases run
      · rw [hp] at run quiet
        rw [ih run, ← quiet]
        rfl
    | fail k => cases run

theorem identity_events (legs : List Leg) (p : Progress Unit) :
    (identity.follow legs p).2.events.toList = p.events.toList ++ Leg.log legs := by
  induction legs generalizing p with
  | nil => exact (List.append_nil _).symm
  | cons leg legs ih =>
    cases leg with
    | enter k =>
      change (identity.follow legs { p with events := p.events.push _ }).2.events.toList = _
      rw [ih, Array.toList_push, List.append_assoc]
      rfl
    | leave k => exact ih _
    | fail k => exact Array.toList_push

/-- The counting pass reports the same, and its closings in between. -/
theorem visitCounter_events (legs : List Leg) (p : Progress Tally) :
    ∃ events, (visitCounter.follow legs p).2.events.toList = p.events.toList ++ events ∧
      events.filter (!·.isClosing) = Leg.log legs ∧
      events.filter Event.isClosing = Leg.closings p.context.openNodes.length legs := by
  induction legs generalizing p with
  | nil => exact ⟨[], (List.append_nil _).symm, rfl, rfl⟩
  | cons leg legs ih =>
    cases leg with
    | enter k =>
      obtain ⟨events, run, log, closings⟩ :=
        ih { context := p.context.enter k, events := p.events.push (.rebuildingNode k) }
      refine ⟨.rebuildingNode k :: events, ?_, congrArg _ log, closings⟩
      rw [Array.toList_push, List.append_assoc] at run
      exact run
    | leave k =>
      -- the depth is printed after the node is taken off, so it does not count the node itself
      have left : (p.context.leave k).openNodes.length = p.context.openNodes.length - 1 :=
        List.length_tail
      obtain ⟨events, run, log, closings⟩ :=
        ih { context := p.context.leave k,
             events := p.events.push (.closed k (p.context.leave k).openNodes.length) }
      rw [left] at closings
      refine ⟨.closed k (p.context.leave k).openNodes.length :: events, ?_, log, ?_⟩
      · rw [Array.toList_push, List.append_assoc] at run
        exact run
      · rw [Leg.closings, left, ← closings]
        rfl
    | fail k => exact ⟨[.unsupported k], Array.toList_push, rfl, rfl⟩

end Pass

/-! ## Nodes visited -/

/-- The kinds of the nodes that a traversal by the standard rules visits, in the order of
`Tree.kinds`: all up to the first without a rule, and that one too. -/
def Tree.visitedKinds {c : Category} (t : Tree c) : List Kind :=
  t.kinds.takeWhile (· ∉ Kind.unruled) ++ (t.kinds.find? (· ∈ Kind.unruled)).toList

/-- What is reported of nodes of these kinds, one after the other: the first without a rule stops
the traversal, and if there is none, `later` is reported after them. -/
def logOfKinds : List Kind → List Event → List Event
  | [], later => later
  | k :: ks, later =>
    .rebuildingNode k :: if k ∈ Kind.unruled then [.unsupported k] else logOfKinds ks later

theorem logOfKinds_append (ks ls : List Kind) (later : List Event) :
    logOfKinds (ks ++ ls) later = logOfKinds ks (logOfKinds ls later) := by
  induction ks with
  | nil => rfl
  | cons k ks ih => rw [List.cons_append, logOfKinds, ih, logOfKinds]

theorem logOfKinds_eq (ks : List Kind) :
    logOfKinds ks [] =
      (ks.takeWhile (· ∉ Kind.unruled) ++ (ks.find? (· ∈ Kind.unruled)).toList).map
          .rebuildingNode ++
        (ks.find? (· ∈ Kind.unruled)).toList.map .unsupported := by
  induction ks with
  | nil => rfl
  | cons k ks ih =>
    by_cases hu : k ∈ Kind.unruled
    · simp [logOfKinds, hu]
    · simp [logOfKinds, hu, ih]

mutual

theorem Tree.log_tour : {c : Category} → (t : Tree c) → (legs : List Leg) →
    Leg.log (t.tour ++ legs) = logOfKinds t.kinds (Leg.log legs)
  | _, .node k _ fields, legs => by
    rw [Tree.tour, Tree.kinds, logOfKinds]
    by_cases hu : k ∈ Kind.unruled
    · rw [if_pos hu, if_pos hu]
      rfl
    · rw [if_neg hu, if_neg hu, List.append_assoc, List.append_assoc, List.singleton_append,
        Leg.log, fields.log_tour]
      rfl
  | _, .inclusion _ t, legs => by rw [Tree.tour, Tree.kinds, t.log_tour]

theorem Record.log_tour : {s : Signature} → (r : Record Tree s) → (legs : List Leg) →
    Leg.log (r.tour ++ legs) = logOfKinds r.kinds (Leg.log legs)
  | _, .nil, _ => rfl
  | _, .cons f r, legs => by
    rw [Record.tour, Record.kinds, List.append_assoc, f.log_tour, r.log_tour, logOfKinds_append]

theorem Field.log_tour : {τ : FieldType} → (f : Field Tree τ) → (legs : List Leg) →
    Leg.log (f.tour ++ legs) = logOfKinds f.kinds (Leg.log legs)
  | _, .atom _, _ => rfl
  | _, .child t, legs => by rw [Field.tour, Field.kinds, t.log_tour]
  | _, .none, _ => rfl
  | _, .some f, legs => by rw [Field.tour, Field.kinds, f.log_tour]
  | _, .nil, _ => rfl
  | _, .cons f fs, legs => by
    rw [Field.tour, Field.kinds, List.append_assoc, f.log_tour, fs.log_tour, logOfKinds_append]

end

/-! ## Nodes finished -/

/-- The report that a node is finished, with as many nodes open around the tree. -/
def Situated.closing (depth : Nat) (x : Situated) : Event :=
  .closed x.node.kind (depth + x.above.length)

theorem Situated.map_closing_under (depth : Nat) (k : Kind) (xs : List Situated) :
    (xs.map (.under k)).map (closing depth) = xs.map (closing (depth + 1)) := by
  rw [List.map_map]
  apply List.map_congr_left
  intro x _
  simp only [Function.comp_apply, closing, under, List.length_cons, Event.closed.injEq, true_and]
  omega

mutual

theorem Tree.closings_tour : {c : Category} → (t : Tree c) → (depth : Nat) → (legs : List Leg) →
    Leg.closings depth (t.tour ++ legs) =
      t.finished.map (Situated.closing depth) ++
        (if t.blocked?.isNone then Leg.closings depth legs else [])
  | _, .node k _ fields, depth, legs => by
    rw [Tree.tour, Tree.finished, Tree.blocked?]
    by_cases hu : k ∈ Kind.unruled
    · rw [if_pos hu, if_pos hu, if_pos hu]
      rfl
    · -- the node is open while its fields are walked, hence one deeper, and closes after them
      rw [if_neg hu, if_neg hu, if_neg hu, List.append_assoc, List.append_assoc,
        List.singleton_append, Leg.closings, fields.closings_tour]
      cases hb : fields.blocked? with
      | none =>
        rw [List.map_append, Situated.map_closing_under, List.append_assoc]
        rfl
      | some b =>
        rw [Situated.map_closing_under]
        rfl
  | _, .inclusion _ t, depth, legs => by
    rw [Tree.tour, Tree.finished, Tree.blocked?, t.closings_tour]

theorem Record.closings_tour : {s : Signature} → (r : Record Tree s) → (depth : Nat) →
    (legs : List Leg) →
    Leg.closings depth (r.tour ++ legs) =
      r.finished.map (Situated.closing depth) ++
        (if r.blocked?.isNone then Leg.closings depth legs else [])
  | _, .nil, _, _ => rfl
  | _, .cons f r, depth, legs => by
    rw [Record.tour, Record.finished, Record.blocked?, List.append_assoc, f.closings_tour,
      r.closings_tour]
    cases f.blocked? with
    | none => simp
    | some b => simp

theorem Field.closings_tour : {τ : FieldType} → (f : Field Tree τ) → (depth : Nat) →
    (legs : List Leg) →
    Leg.closings depth (f.tour ++ legs) =
      f.finished.map (Situated.closing depth) ++
        (if f.blocked?.isNone then Leg.closings depth legs else [])
  | _, .atom _, _, _ => rfl
  | _, .child t, depth, legs => by
    rw [Field.tour, Field.finished, Field.blocked?, t.closings_tour]
  | _, .none, _, _ => rfl
  | _, .some f, depth, legs => by
    rw [Field.tour, Field.finished, Field.blocked?, f.closings_tour]
  | _, .nil, _, _ => rfl
  | _, .cons f fs, depth, legs => by
    rw [Field.tour, Field.finished, Field.blocked?, List.append_assoc, f.closings_tour,
      fs.closings_tour]
    cases f.blocked? with
    | none => simp
    | some b => simp

end

/-! ## Whole traversals -/

namespace Pass

/-- The identity pass reports the tree, the nodes visited, and the kind that it fails on. -/
theorem identity_log (n : Node) :
    ((identity.rebuild n).start ()).2.events.toList =
      .rebuildingTree n.kind :: logOfKinds n.tree.kinds [] := by
  have run := identity_events n.tree.tour ⟨(), #[.rebuildingTree n.kind]⟩
  have log := n.tree.log_tour []
  rw [List.append_nil] at log
  rw [log] at run
  rw [identity_standard.rebuild_start]
  rcases hr : identity.follow n.tree.tour ⟨(), #[.rebuildingTree n.kind]⟩ with ⟨e | _, p⟩ <;>
  · rw [hr] at run
    exact run

theorem visitCounter_log (n : Node) :
    let events := ((visitCounter.rebuild n).start {}).2.events.toList
    events.filter (!·.isClosing) = .rebuildingTree n.kind :: logOfKinds n.tree.kinds [] ∧
      events.filter Event.isClosing = n.tree.finished.map (Situated.closing 0) := by
  obtain ⟨events, run, log, closings⟩ :=
    visitCounter_events n.tree.tour ⟨{}, #[.rebuildingTree n.kind]⟩
  have tour := n.tree.log_tour []
  have closed := n.tree.closings_tour 0 []
  rw [List.append_nil] at tour closed
  rw [tour] at log
  rw [List.length_nil, closed, Leg.closings, ite_self, List.append_nil] at closings
  rw [visitCounter_standard.rebuild_start]
  rcases hr : visitCounter.follow n.tree.tour ⟨{}, #[.rebuildingTree n.kind]⟩ with ⟨e | _, p⟩ <;>
  · rw [hr] at run
    simp only at run ⊢
    rw [run]
    exact ⟨congrArg _ log, closings⟩

/-- Where the hook before a node fails, the visit of the node fails with it and reports nothing. -/
theorem Direct.visit_of_preVisit {σ ε : Type} {P : Pass σ ε} (h : P.Direct) {e : ε}
    {p q : Progress σ} : {c : Category} → (t : Tree c) →
    P.preVisit t.kind p = (.error e, q) → t.visit P p = (.error e, q)
  | _, .node k rfl fields, hook => by
    have hook : P.preVisit k p = (.error e, q) := hook
    rw [Tree.visit_node, visited, Walk.bind_apply, hook]
  | _, .inclusion i t, hook => by
    rw [Tree.visit, h.dispatch_eq, ite_self, Walk.bind_apply, h.visit_of_preVisit t hook]

end Pass

/-- What is reported of a traversal.

The identity pass reports the tree, then each node that it visits, in the order of `Tree.kinds`. If
it fails, there is one more report, of the kind that it fails with, which is that of the last node
visited; if it succeeds, there is none.

The counting pass reports the same, and in between the finished nodes, each after the nodes below
it, with the number of nodes above it.

A node whose hook fails is not reported: not by its own visit, whatever the rules of the pass are,
and not in a whole traversal by the standard rules. -/
theorem log_is_faithful :
    (∀ n : Node,
      let run := (Pass.identity.rebuild n).start ()
      run.2.events.toList =
        .rebuildingTree n.kind :: n.tree.visitedKinds.map .rebuildingNode ++
          (match run.1 with
            | .ok _ => []
            | .error e => [.unsupported e.kind]) ∧
      ∀ e, run.1 = .error e → n.tree.visitedKinds.getLast? = some e.kind) ∧
    (∀ n : Node,
      let counted := ((Pass.visitCounter.rebuild n).start {}).2.events.toList
      counted.filter (!·.isClosing) = ((Pass.identity.rebuild n).start ()).2.events.toList ∧
      counted.filter Event.isClosing =
        n.tree.finished.map fun x => .closed x.node.kind x.above.length) ∧
    ∀ {σ ε : Type} (P : Pass σ ε) (e : ε) (p q : Progress σ),
      (∀ {c : Category} (t : Tree c), P.Direct → P.preVisit t.kind p = (.error e, q) →
        t.visit P p = (.error e, q)) ∧
      ∀ (n : Node) (context : σ) (before after : List Leg) (k : Kind), P.Standard → P.Quiet →
        n.tree.tour = before ++ .enter k :: after →
        P.follow before ⟨context, #[.rebuildingTree n.kind]⟩ = (.ok (), p) →
        P.preVisit k p = (.error e, q) →
        (P.rebuild n).start context = (.error e, q) ∧
          q.events.toList =
            .rebuildingTree n.kind :: (before.filterMap Leg.entered?).map .rebuildingNode := by
  refine ⟨?_, ?_, ?_⟩
  · intro n run
    have log := Pass.identity_log n
    have result := Pass.identity_result n
    rw [logOfKinds_eq] at log
    simp only [run]
    rw [log, result, Tree.visitedKinds]
    cases n.tree.kinds.find? (· ∈ Kind.unruled) with
    | none => simp
    | some k =>
      refine ⟨rfl, ?_⟩
      intro e he
      cases he
      simp
  · intro n counted
    obtain ⟨log, closings⟩ := Pass.visitCounter_log n
    refine ⟨log.trans (Pass.identity_log n).symm, closings.trans ?_⟩
    apply List.map_congr_left
    intro x _
    rw [Situated.closing, Nat.zero_add]
  · intro σ ε P e p q
    refine ⟨fun t h hook => h.visit_of_preVisit t hook, ?_⟩
    intro n context before after k standard quiet tour run hook
    have stopped : P.follow n.tree.tour ⟨context, #[.rebuildingTree n.kind]⟩ = (.error e, q) := by
      rw [tour, Pass.follow_append, Walk.bind_apply, run]
      simp only [Pass.follow_cons, Pass.take, Walk.bind_apply, hook]
    have reported := quiet.preVisit k p
    rw [hook] at reported
    refine ⟨by rw [standard.rebuild_start, stopped], ?_⟩
    rw [reported, quiet.events_follow run]
    rfl

theorem FailingHook.check_progress (failing : Option FailingHook) (phase : Phase) (v : Visit)
    (k : Kind) (p : Progress Recording) : (check failing phase v k p).2 = p := by
  unfold check
  split
  · rfl
  · split
    · simp only [Walk.bind_apply, Walk.context_apply]
      split <;> rfl
    · rfl

theorem Pass.trace_quiet (failing : Option FailingHook) : (trace failing).Quiet where
  preVisit k p := by
    change ((Recording.visit (.enter k) >>= fun _ => _) p).2.events = _
    rw [Recording.visit, Walk.bind_apply, Walk.update_apply]
    simp only [FailingHook.check_progress]
  postVisit k p := by
    change ((Recording.visit (.leave k) >>= fun _ => _) p).2.events = _
    rw [Recording.visit, Walk.bind_apply, Walk.update_apply]
    simp only [FailingHook.check_progress]

/-- Tracing `[1, 2, 3]` with a hook that fails at the second literal: the row and the first literal
are reported, and the second literal is not. -/
theorem log_of_second_literal :
    let P := Pass.trace (some ⟨.pre, .longLiteral, 2⟩)
    let n : Node := ⟨Expression.row [.longLiteral 1, .longLiteral 2, .longLiteral 3], rfl⟩
    P.Standard ∧ P.Quiet ∧
    ∃ p q, (Expression.longLiteral 2).visit P p = (.error (.hook .pre .longLiteral 2), q) ∧
      (P.rebuild n).start {} = (.error (.hook .pre .longLiteral 2), q) ∧
      q.events.toList =
        [.rebuildingTree .row, .rebuildingNode .row, .rebuildingNode .longLiteral] := by
  intro P n
  have standard : P.Standard := ⟨fun _ => rfl, fun _ => rfl, rfl, rfl⟩
  have quiet : P.Quiet := Pass.trace_quiet _
  obtain ⟨visit, whole⟩ := log_is_faithful.2.2 P (.hook .pre .longLiteral 2)
    (P.follow [.enter .row, .enter .longLiteral, .leave .longLiteral]
      ⟨{}, #[.rebuildingTree .row]⟩).2 _
  obtain ⟨run, log⟩ := whole n {} [.enter .row, .enter .longLiteral, .leave .longLiteral] _
    .longLiteral standard quiet rfl rfl rfl
  exact ⟨standard, quiet, _, _, visit _ standard.direct rfl, run, log⟩

end SqlTrees
