import SqlTrees.Passes.Substitute
import SqlTrees.Proofs.Rebuild.Nodewise

/-! # The first failure of a traversal

A pass without hooks whose own rules all fail is stopped by the first node, in the order of
`Tree.nodes`, that has such a rule or no rule at all.

* `Walk.Fails`: a walk that fails wherever it starts; nothing after it matters.
* `Pass.OnlyFails`: the passes in question; they go node by node, and replace none.
* `Pass.forM_meet_of_stopsAt`: a run over nodes ends at the first that stops the pass.
* `rebuild_stops_at_first`: the traversal ends as the rule of the first such node ends.
-/

namespace SqlTrees
set_option autoImplicit false

/-! ## Walks that always fail -/

section
variable {σ ε α β : Type}

/-- The walk fails, wherever it starts. -/
def Walk.Fails (w : Walk σ ε α) : Prop :=
  ∀ p, ∃ e q, w p = (.error e, q)

theorem Walk.Fails.bind_eq {w : Walk σ ε α} (h : w.Fails) (f g : α → Walk σ ε β) :
    w >>= f = w >>= g := by
  funext p
  obtain ⟨e, q, hw⟩ := h p
  rw [Walk.bind_apply, Walk.bind_apply, hw]

end

/-! ## Passes that can only fail -/

section
variable {σ ε : Type}

/-- The pass has no hooks and replaces no dispatcher, and each of its own rules always fails. -/
structure Pass.OnlyFails (P : Pass σ ε) : Prop where
  preVisit : ∀ k, P.preVisit k = pure ()
  postVisit : ∀ k, P.postVisit k = pure ()
  dispatch : ∀ c, P.dispatch? c = none
  process : P.process? = none
  rebuild : P.rebuild? = none
  rule : ∀ k rule, P.rule? k = some rule → ∀ fields, (rule fields).Fails

namespace Pass.OnlyFails
variable {P : Pass σ ε} (h : P.OnlyFails)
include h

theorem direct : P.Direct :=
  ⟨h.dispatch, h.process, h.rebuild⟩

theorem rule_fails {k : Kind} (hk : P.stopsAt k = true)
    (fields : Record (Child σ ε) k.signature) : (P.rule k fields).Fails := by
  cases hr : P.rule? k with
  | some rule =>
    rw [Pass.rule, hr]
    exact h.rule k rule hr fields
  | none =>
    have hu : k ∈ Kind.unruled := by simpa [Pass.stopsAt, hr] using hk
    rw [Pass.rule, hr, Option.getD_none, P.standardRule_unruled hu]
    intro p
    exact ⟨_, _, rfl⟩

/-- A rule that fails might as well go on to the nodes below and put anything there. -/
theorem nodewise : P.Nodewise fun _ => none where
  direct := h.direct
  preVisit := h.preVisit
  postVisit := h.postVisit
  kept _ _ := rfl
  rule k hk fields := by
    calc P.rule k (fields.attach P) = P.rule k (fields.attach P) >>= pure := (bind_pure _).symm
      _ = _ := (h.rule_fails hk (fields.attach P)).bind_eq _ _

end Pass.OnlyFails

/-! ## Where a run over nodes ends -/

variable {P : Pass σ ε}

theorem Pass.meet_of_stopsAt {x : Occurrence} (hx : P.stopsAt x.kind = true) {p q : Progress σ}
    {e : ε} (hr : P.rule x.kind (x.fields.attach P) (p.reported [x]) = (.error e, q)) :
    P.meet x p = (.error e, q) := by
  rw [p.reported_singleton] at hr
  rw [Pass.meet, Walk.bind_apply, Walk.report_apply, if_pos hx]
  simp only [Walk.bind_apply, hr]

/-- The nodes after the one that stops the pass do not matter. -/
theorem Pass.forM_meet_of_stopsAt {before after : List Occurrence} {x : Occurrence}
    (hb : ∀ y ∈ before, P.stopsAt y.kind = false) (hx : P.stopsAt x.kind = true)
    {p q : Progress σ} {e : ε}
    (hr : P.rule x.kind (x.fields.attach P) (p.reported (before ++ [x])) = (.error e, q)) :
    forM (before ++ x :: after) P.meet p = (.error e, q) := by
  rw [p.reported_append] at hr
  rw [List.forM_append, Walk.bind_apply, Pass.forM_meet_of_not_stopsAt hb]
  simp only
  rw [List.forM_cons, Walk.bind_apply, Pass.meet_of_stopsAt hx hr]

/-! ## Rebuilding -/

theorem Pass.OnlyFails.rebuild_start (h : P.OnlyFails) (n : Node) (context : σ) :
    (P.rebuild n).start context =
      match forM n.tree.nodes P.meet (Progress.atRoot context n) with
      | (.ok _, p) => (.ok n.cleared, p)
      | (.error e, p) => (.error e, p) := by
  have start := h.nodewise.rebuild_start n context
  rw [n.substituted_eq_cleared fun _ _ => rfl] at start
  exact start

theorem Pass.OnlyFails.start_of_not_stopsAt (h : P.OnlyFails) {n : Node}
    (hn : ∀ x ∈ n.tree.nodes, P.stopsAt x.kind = false) (context : σ) :
    (P.rebuild n).start context =
      (.ok n.cleared, (Progress.atRoot context n).reported n.tree.nodes) := by
  rw [h.rebuild_start, Pass.forM_meet_of_not_stopsAt hn]

theorem Pass.OnlyFails.start_of_stopsAt (h : P.OnlyFails) {n : Node}
    {before after : List Occurrence} {x : Occurrence} (hn : n.tree.nodes = before ++ x :: after)
    (hb : ∀ y ∈ before, P.stopsAt y.kind = false) (hx : P.stopsAt x.kind = true) (context : σ) :
    ∃ e q, P.rule x.kind (x.fields.attach P)
        ((Progress.atRoot context n).reported (before ++ [x])) = (.error e, q) ∧
      (P.rebuild n).start context = (.error e, q) := by
  obtain ⟨e, q, hr⟩ := h.rule_fails hx (x.fields.attach P)
    ((Progress.atRoot context n).reported (before ++ [x]))
  refine ⟨e, q, hr, ?_⟩
  rw [h.rebuild_start, hn, Pass.forM_meet_of_stopsAt hb hx hr]

/-- The traversal fails exactly if there is a node that stops the pass. -/
theorem Pass.OnlyFails.start_eq_error_iff (h : P.OnlyFails) (n : Node) (context : σ) :
    (∃ e, ((P.rebuild n).start context).1 = .error e) ↔
      ∃ x ∈ n.tree.nodes, P.stopsAt x.kind = true := by
  constructor
  · rintro ⟨e, he⟩
    apply Classical.byContradiction
    intro hn
    have hall : ∀ x ∈ n.tree.nodes, P.stopsAt x.kind = false := by simpa using hn
    rw [h.start_of_not_stopsAt hall] at he
    cases he
  · intro hn
    have hf : (n.tree.nodes.find? fun x => P.stopsAt x.kind).isSome := by
      rw [List.find?_isSome]
      exact hn
    obtain ⟨x, hx⟩ := Option.isSome_iff_exists.mp hf
    obtain ⟨hs, before, after, hsplit, hb⟩ := List.find?_eq_some_iff_append.mp hx
    obtain ⟨e, q, -, hr⟩ := h.start_of_stopsAt hsplit (by simpa using hb) hs context
    exact ⟨e, by rw [hr]⟩

end

/-! ## Failing on integer literals -/

/-- The value of an integer literal. -/
def Occurrence.long? : Occurrence → Option Int64
  | ⟨.longLiteral, .cons (.atom value) _⟩ => some value
  | _ => none

namespace Pass

theorem failOnLiteral_rule?_of_ne {k : Kind} (hk : k ≠ .longLiteral) :
    failOnLiteral.rule? k = none := by
  cases k <;> first | rfl | exact absurd rfl hk

theorem failOnLiteral_stopsAt (k : Kind) :
    failOnLiteral.stopsAt k = decide (k = .longLiteral ∨ k ∈ Kind.unruled) := by
  by_cases hk : k = .longLiteral
  · subst hk
    rfl
  · rw [stopsAt, failOnLiteral_rule?_of_ne hk]
    simp [hk]

theorem failOnLiteral_onlyFails : failOnLiteral.OnlyFails where
  preVisit _ := rfl
  postVisit _ := rfl
  dispatch _ := rfl
  process := rfl
  rebuild := rfl
  rule k rule hr fields p := by
    by_cases hk : k = .longLiteral
    · subst hk
      cases hr
      match fields with
      | .cons (.atom _) _ => exact ⟨_, _, rfl⟩
    · rw [failOnLiteral_rule?_of_ne hk] at hr
      cases hr

/-- The rule that stops the pass fails on its node's kind and notes the value of a literal. -/
theorem failOnLiteral_rule {x : Occurrence} (hx : failOnLiteral.stopsAt x.kind = true)
    (p : Progress (List Int64)) :
    let run := failOnLiteral.rule x.kind (x.fields.attach failOnLiteral) p
    run.1 = .error ⟨x.kind⟩ ∧ run.2.context = p.context ++ x.long?.toList := by
  obtain ⟨k, fields⟩ := x
  by_cases hk : k = .longLiteral
  · subst hk
    match fields with
    | .cons (.atom _) _ => exact ⟨rfl, rfl⟩
  · have hu : k ∈ Kind.unruled := by simpa [failOnLiteral_stopsAt, hk] using hx
    have hl : Occurrence.long? ⟨k, fields⟩ = none := by
      cases k <;> first | rfl | exact absurd rfl hk
    simp only
    rw [rule, failOnLiteral_rule?_of_ne hk, Option.getD_none, standardRule_unruled _ hu, hl,
      Option.toList_none, List.append_nil]
    exact ⟨rfl, rfl⟩

/-- The pass notes the value of the first integer literal, unless a node without a rule is first. -/
theorem failOnLiteral_start (n : Node) (context : List Int64) :
    let run := (failOnLiteral.rebuild n).start context
    match n.tree.nodes.find? fun x => x.kind = .longLiteral ∨ x.kind ∈ Kind.unruled with
    | none => run.1 = .ok n.cleared ∧ run.2.context = context
    | some x => run.1 = .error ⟨x.kind⟩ ∧ run.2.context = context ++ x.long?.toList := by
  have h := failOnLiteral_onlyFails
  have hs : (fun x : Occurrence => decide (x.kind = .longLiteral ∨ x.kind ∈ Kind.unruled)) =
      fun x => failOnLiteral.stopsAt x.kind := by
    funext x
    rw [failOnLiteral_stopsAt]
  rw [hs]
  cases hf : n.tree.nodes.find? fun x => failOnLiteral.stopsAt x.kind with
  | none =>
    have hn : ∀ x ∈ n.tree.nodes, failOnLiteral.stopsAt x.kind = false := by simpa using hf
    rw [h.start_of_not_stopsAt hn]
    exact ⟨rfl, rfl⟩
  | some x =>
    obtain ⟨hx, before, after, hn, hb⟩ := List.find?_eq_some_iff_append.mp hf
    obtain ⟨e, q, hr, hrun⟩ := h.start_of_stopsAt hn (by simpa using hb) hx context
    have hrule := failOnLiteral_rule hx ((Progress.atRoot context n).reported (before ++ [x]))
    rw [hr] at hrule
    obtain rfl : e = ⟨x.kind⟩ := Except.error.inj hrule.1
    rw [hrun]
    exact ⟨rfl, hrule.2⟩

end Pass

/-- A traversal by a pass that can only fail does so exactly if the tree has a node that stops it,
and then ends as the rule of the first of these nodes ends: with that rule's failure, in the context
that the traversal started from but for what that rule did to it, and with no other rule run. The
pass that fails on integer literals is one of them. -/
theorem rebuild_stops_at_first :
    (∀ {σ ε : Type} (P : Pass σ ε), P.OnlyFails → ∀ (n : Node) (context : σ),
      ((∃ e, ((P.rebuild n).start context).1 = .error e) ↔
        ∃ x ∈ n.tree.nodes, P.stopsAt x.kind = true) ∧
      ∀ before x after, n.tree.nodes = before ++ x :: after →
        (∀ y ∈ before, P.stopsAt y.kind = false) → P.stopsAt x.kind = true →
        ∃ e q, P.rule x.kind (x.fields.attach P)
            ((Progress.atRoot context n).reported (before ++ [x])) = (.error e, q) ∧
          (P.rebuild n).start context = (.error e, q)) ∧
    ∀ (n : Node) (context : List Int64),
      let run := (Pass.failOnLiteral.rebuild n).start context
      match n.tree.nodes.find? fun x => x.kind = .longLiteral ∨ x.kind ∈ Kind.unruled with
      | none => run.1 = .ok n.cleared ∧ run.2.context = context
      | some x => run.1 = .error ⟨x.kind⟩ ∧ run.2.context = context ++ x.long?.toList := by
  refine ⟨?_, Pass.failOnLiteral_start⟩
  intro σ ε P h n context
  refine ⟨h.start_eq_error_iff n context, ?_⟩
  intro before x after hn hb hx
  exact h.start_of_stopsAt hn hb hx context

/-- In a row of three literals the first is noted and the others are never reached. -/
theorem failOnLiteral_on_row :
    Pass.failOnLiteral.OnlyFails ∧
    ∃ e q, (Pass.failOnLiteral.rebuild
        ⟨Expression.row [.longLiteral 1, .longLiteral 2, .longLiteral 3], rfl⟩).start [] =
      (.error e, q) ∧ q.context = [1] ∧ q.events.size = 3 := by
  refine ⟨Pass.failOnLiteral_onlyFails, ?_⟩
  obtain ⟨e, q, hr, hrun⟩ := (rebuild_stops_at_first.1 Pass.failOnLiteral
    Pass.failOnLiteral_onlyFails
    ⟨Expression.row [.longLiteral 1, .longLiteral 2, .longLiteral 3], rfl⟩ []).2
    [⟨.row, _⟩] ⟨.longLiteral, .cons (.atom 1) (.cons (.atom none) .nil)⟩ _ rfl
    (by decide) (by decide)
  refine ⟨e, q, hrun, ?_⟩
  cases hr
  exact ⟨rfl, rfl⟩

end SqlTrees
