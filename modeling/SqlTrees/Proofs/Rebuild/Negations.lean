import Mathlib.Logic.Function.Iterate
import SqlTrees.Passes.Restructure
import SqlTrees.Proofs.Rebuild.Reshaping

/-! # Negating ON conditions

* `Reshape.negating`: every ON condition goes under a number of NOTs.
* `Reshape.unnegating`: the topmost NOT of every ON condition goes.
* `Pass.resultOfRuns`: what a pass comes to that runs several times.
* `negation_exact`: every run of the pass puts one NOT on each ON condition and changes nothing else.
-/

namespace SqlTrees
set_option autoImplicit false

/-! ## Expressions under a number of NOTs -/

namespace Expression

/-- The expression under a number of NOTs, none of them with a location. -/
def negated (times : Nat) (e : Expression) : Expression :=
  (fun e => Expression.not e)^[times] e

theorem negated_succ (times : Nat) (e : Expression) :
    negated (times + 1) e = Expression.not (negated times e) :=
  Function.iterate_succ_apply' _ times e

theorem negated_negated (a b : Nat) (e : Expression) :
    negated b (negated a e) = negated (a + b) e := by
  rw [Nat.add_comm a b]
  exact (Function.iterate_add_apply _ b a e).symm

theorem reshaped_negated {g : Reshape} (hg : ∀ fields, g .not fields = fields) (times : Nat)
    (e : Expression) : (negated times e).reshaped g = negated times (e.reshaped g) := by
  induction times with
  | zero => rfl
  | succ times ih =>
    rw [negated_succ, negated_succ, ← ih, Expression.not, Tree.reshaped, hg]
    rfl

theorem cleared_negated (times : Nat) (e : Expression) :
    (negated times e).cleared = negated times e.cleared := by
  induction times with
  | zero => rfl
  | succ times ih =>
    rw [negated_succ, negated_succ, ← ih]
    rfl

theorem kinds_negated (times : Nat) (e : Expression) :
    (negated times e).kinds = List.replicate times .not ++ e.kinds := by
  induction times with
  | zero => rfl
  | succ times ih =>
    rw [negated_succ, List.replicate_succ, List.cons_append, ← ih]
    change .not :: ((negated times e).kinds ++ []) = _
    rw [List.append_nil]

end Expression

/-! ## The change -/

namespace Reshape

/-- Every ON condition goes under a number of NOTs. -/
def negating (times : Nat) : Reshape
  | .joinOn, .cons (.child condition) rest => .cons (.child (Expression.negated times condition)) rest
  | _, fields => fields

/-- Every ON condition that is a NOT is replaced by its operand. -/
def unnegating : Reshape
  | .joinOn, .cons (.child condition) rest =>
    .cons (.child ((Expression.negated? condition).getD condition)) rest
  | _, fields => fields

theorem negating_changesOnly (times : Nat) : (negating times).ChangesOnly .joinOn := by
  intro k hk fields
  cases k <;> first | rfl | exact absurd rfl hk

theorem unnegating_changesOnly : unnegating.ChangesOnly .joinOn := by
  intro k hk fields
  cases k <;> first | rfl | exact absurd rfl hk

theorem negating_composes (a b : Nat) :
    (negating a).Composes (negating b) (negating (a + b)) := by
  refine (negating_changesOnly a).composes (negating_changesOnly b) (negating_changesOnly _) ?_
  intro fields
  match fields with
  | .cons (.child condition) .nil =>
    change Record.cons (.child (Expression.negated b
      ((Expression.negated a condition).reshaped (negating b)))) .nil = _
    rw [Expression.reshaped_negated (fun _ => rfl), Expression.negated_negated]
    rfl

/-- What one NOT is put on is found under it. -/
theorem negating_composes_unnegating :
    (negating 1).Composes unnegating fun _ fields => fields := by
  refine (negating_changesOnly 1).composes unnegating_changesOnly (fun _ _ _ => rfl) ?_
  intro fields
  match fields with
  | .cons (.child condition) .nil => rfl

theorem negating_ignoresLocations (times : Nat) : (negating times).IgnoresLocations := by
  refine (negating_changesOnly times).ignoresLocations ?_
  intro fields
  match fields with
  | .cons (.child condition) .nil =>
    refine ⟨?_, rfl⟩
    change Record.cons (.child (Expression.negated times condition).cleared) .nil = _
    rw [Expression.cleared_negated]
    rfl

theorem kinds_negating (times : Nat) (fields : Record Tree Kind.joinOn.signature) :
    (negating times .joinOn fields).kinds = List.replicate times .not ++ fields.kinds := by
  match fields with
  | .cons (.child condition) .nil =>
    change (Expression.negated times condition).kinds ++ [] = _ ++ (condition.kinds ++ [])
    rw [Expression.kinds_negated, List.append_nil, List.append_nil]

end Reshape

namespace Node

/-- The node with every ON condition under a number of NOTs. -/
def negatedOn (times : Nat) (n : Node) : Node :=
  n.reshaped (.negating times)

theorem unnegating_negatedOn (n : Node) : (n.negatedOn 1).reshaped .unnegating = n := by
  rw [negatedOn, n.reshaped_reshaped Reshape.negating_composes_unnegating]
  exact n.reshaped_eq_self fun _ _ _ => rfl

theorem negatedOn_eq_self (n : Node) (h : .joinOn ∉ n.tree.kinds) (times : Nat) :
    n.negatedOn times = n :=
  (Reshape.negating_changesOnly times).reshaped_eq_self n h

theorem kinds_negatedOn (times : Nat) (n : Node) :
    (n.negatedOn times).tree.kinds = n.tree.kinds.flatMap fun k =>
      if k = .joinOn then .joinOn :: List.replicate times .not else [k] :=
  (Reshape.negating_changesOnly times).kinds_reshaped (Reshape.kinds_negating times) n

end Node

/-! ## The pass -/

/-- What a pass comes to that runs a number of times, each time on the result of the time before and
from the same context. -/
def Pass.resultOfRuns {σ ε : Type} (P : Pass σ ε) (context : σ) : Nat → Node → Except ε Node
  | 0, n => .ok n
  | times + 1, n => P.resultOfRuns context times n >>= P.result context

namespace Pass

theorem negateOnConditions_reshapes :
    negateOnConditions.Reshapes .joinOn (.negating 1) fun context _ => context where
  direct := ⟨fun _ => rfl, rfl, rfl⟩
  unsupported := rfl
  preVisit _ := rfl
  postVisit _ := rfl
  standard k hk := by cases k <;> first | rfl | exact absurd rfl hk
  only := Reshape.negating_changesOnly 1
  still _ _ _ := rfl
  inner := by decide
  own fields ih := by
    match fields, ih with
    | .cons (.child condition) .nil, ih =>
      have visit := ih.map fun | .cons (.child condition) _ => condition
      simp only [Record.attach, Record.rebuilt, Record.traverse, Field.attach, Field.traverse,
        bind_assoc, pure_bind, bind_pure] at visit ⊢
      exact (visit.map fun condition => JoinCriteria.onCondition (.not condition)).past
        (by decide) fun _ => rfl

/-- On a result of the identity pass, negated or not, a run puts one more NOT on each condition. -/
theorem negateOnConditions_negatedOn {n i : Node} (hi : identity.result () n = .ok i)
    (times : Nat) :
    negateOnConditions.result () (i.negatedOn times) = .ok (i.negatedOn (times + 1)) := by
  have ruled : ∀ k ∈ List.replicate times Kind.not, k ∉ Kind.unruled := by
    intro k hk
    rw [List.eq_of_mem_replicate hk]
    decide
  have stays := identity_reshaped (Reshape.negating_changesOnly times)
    (Reshape.negating_ignoresLocations times) (Reshape.kinds_negating times) ruled hi
  exact negateOnConditions_reshapes.result_reshaped () (Reshape.negating_composes times 1) stays

theorem negateOnConditions_runs (n : Node) (times : Nat) :
    negateOnConditions.resultOfRuns () (times + 1) n =
      (identity.result () n).map (Node.negatedOn (times + 1)) := by
  induction times with
  | zero => exact negateOnConditions_reshapes.result_eq () n
  | succ times ih =>
    rw [resultOfRuns, ih]
    cases hi : identity.result () n with
    | error e => rfl
    | ok i => exact negateOnConditions_negatedOn hi (times + 1)

end Pass

/-- The pass succeeds and fails with the identity pass. Each run puts one NOT on top of every ON
condition of the identity's tree: after any number of runs that many NOTs follow every ON, in the
order of the kinds, and nothing else is new. After one run, the tree without the top NOT of its ON
conditions is the identity's again; where there is no ON, it is so as it stands. -/
theorem negation_exact (n : Node) :
    Pass.negateOnConditions.result () n = (Pass.identity.result () n).map (Node.negatedOn 1) ∧
    (∀ times, Pass.negateOnConditions.resultOfRuns () (times + 1) n =
      (Pass.identity.result () n).map (Node.negatedOn (times + 1))) ∧
    ∀ i, Pass.identity.result () n = .ok i →
      (i.negatedOn 1).reshaped .unnegating = i ∧
      (.joinOn ∉ n.tree.kinds → Pass.negateOnConditions.result () n = .ok i) ∧
      ∀ times, (i.negatedOn times).tree.kinds = n.tree.kinds.flatMap fun k =>
        if k = .joinOn then .joinOn :: List.replicate times .not else [k] := by
  have once := Pass.negateOnConditions_reshapes.result_eq () n
  refine ⟨once, Pass.negateOnConditions_runs n, ?_⟩
  intro i hi
  have kinds : i.tree.kinds = n.tree.kinds := by
    rw [((Pass.identity_eq_ok_iff n i).1 hi).2]
    exact n.tree.kinds_cleared
  refine ⟨i.unnegating_negatedOn, ?_, ?_⟩
  · intro none
    rw [once, hi]
    exact congrArg Except.ok (i.negatedOn_eq_self (kinds ▸ none) 1)
  · intro times
    rw [i.kinds_negatedOn, kinds]

/-- The condition of a join that holds another join with a condition of its own, two runs on. -/
theorem nested_conditions_negated :
    let join (condition : Expression) : Relation :=
      .join .inner (.table ⟨["a"]⟩) (.table ⟨["b"]⟩) (some (.onCondition condition))
    let nested (negate : Expression → Expression) : Node :=
      ⟨join (negate (.subquery (.mk (join (negate (.booleanLiteral true)))))), rfl⟩
    Pass.identity.result () (nested id) = .ok (nested id) ∧
      Pass.negateOnConditions.resultOfRuns () 2 (nested id) =
        .ok (nested fun condition => .not (.not condition)) ∧
      (nested fun condition => .not condition).reshaped .unnegating = nested id := by
  intro join nested
  have hi : Pass.identity.result () (nested id) = .ok (nested id) :=
    (Pass.identity_eq_ok_iff _ _).2 ⟨by decide, rfl⟩
  obtain ⟨-, runs, exact⟩ := negation_exact (nested id)
  refine ⟨hi, ?_, (exact _ hi).1⟩
  rw [runs 1, hi]
  rfl

end SqlTrees
