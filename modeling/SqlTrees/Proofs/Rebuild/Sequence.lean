import Mathlib.Data.List.SplitLengths
import SqlTrees.Rebuild.Pass
import SqlTrees.Rebuild.Sequence
import SqlTrees.Tree.Clause

/-! # Actions over lists

* `seq_append`, `seq_seq`, `toList_map_opt`: how an action over a list is made of actions over its
  parts. The action over a list of lists is the one over all their elements; what comes of it is cut
  where the inner lists ended, and an empty one stays.
* `Field.traverse_ofList`, `Field.traverse_ofChild?`: a rule that rebuilds its children in order
  does so by `seq` and `opt`.
* `SucceedsOn`: an action with a state succeeds on every element of a list, each time in the state
  that it has come to by then.
* `SucceedsOn.run`, `SucceedsOn.run_until`: what comes of that, and of an element behind the list
  that it fails on.
* `recorded`: the action, with a record of what it is performed on.
-/

namespace SqlTrees
set_option autoImplicit false

/-! ## Parts of a list -/

section Parts
variable {m : Type → Type} [Monad m] [LawfulMonad m] {α β γ : Type} (f : α → m β)

theorem seq_eq_mapM (xs : List α) : seq f xs = xs.mapM f := by
  induction xs with
  | nil => rfl
  | cons x xs ih => rw [seq, ih, List.mapM_cons]

theorem seq_append (as bs : List α) :
    seq f (as ++ bs) = do
      let ys ← seq f as
      let zs ← seq f bs
      return ys ++ zs := by
  rw [seq_eq_mapM, List.mapM_append, seq_eq_mapM, seq_eq_mapM]

/-- There are as many results as elements, so it does not matter what would be done with others. -/
theorem seq_bind_congr {xs : List α} {g h : List β → m γ}
    (same : ∀ ys, ys.length = xs.length → g ys = h ys) : seq f xs >>= g = seq f xs >>= h := by
  induction xs generalizing g h with
  | nil => rw [seq, pure_bind, pure_bind, same [] rfl]
  | cons x xs ih =>
    have rest : ∀ y, (seq f xs >>= fun ys => g (y :: ys)) = seq f xs >>= fun ys => h (y :: ys) :=
      fun y => ih fun ys length => same (y :: ys) (congrArg Nat.succ length)
    simp only [seq, bind_assoc, pure_bind, rest]

theorem seq_seq (xss : List (List α)) :
    seq (seq f) xss = (xss.map List.length).splitLengths <$> seq f xss.flatten := by
  induction xss with
  | nil => simp [seq]
  | cons xs xss ih =>
    rw [seq, ih, List.flatten_cons, seq_append, map_bind]
    refine seq_bind_congr f ?_
    intro ys length
    simp [← length]

theorem toList_map_opt (x : Option α) : Option.toList <$> opt f x = seq f x.toList := by
  cases x <;> simp [opt, seq]

end Parts

/-! ## Fields of a node -/

namespace Field
variable {X Y : Category → Type} {m : Type → Type} [Monad m] [LawfulMonad m] {τ : FieldType}
  {c : Category} (f : {c : Category} → X c → m (Y c))

theorem traverse_ofList {α β : Type} {item : α → Field X τ} {rebuiltItem : β → Field Y τ}
    {g : α → m β} (each : ∀ x, (item x).traverse f = rebuiltItem <$> g x) (xs : List α) :
    (ofList (xs.map item)).traverse f = (fun ys => ofList (ys.map rebuiltItem)) <$> seq g xs := by
  induction xs with
  | nil => simp [ofList, traverse, seq]
  | cons x xs ih => simp [ofList, traverse, seq, each, ih]

theorem traverse_ofChildren (xs : List (X c)) :
    (ofChildren xs).traverse f = ofChildren <$> seq f xs :=
  traverse_ofList f (fun x => by simp [traverse]) xs

theorem traverse_ofLists (xss : List (List (X c))) :
    (ofList (xss.map ofChildren)).traverse f =
      (fun yss => ofList (yss.map ofChildren)) <$> seq (seq f) xss :=
  traverse_ofList @f (traverse_ofChildren @f) xss

theorem traverse_ofChild? (x : Option (X c)) :
    (ofChild? x).traverse f = ofChild? <$> opt f x := by
  cases x <;> simp [ofChild?, ofOption, traverse, opt]

end Field

/-- Grouping sets are rebuilt set after set, and each of them expression after expression. -/
theorem Pass.standardRule_groupingSets {σ ε : Type} (P : Pass σ ε)
    (sets : List (List (Child σ ε .expression))) (location : Location) :
    P.standardRule .groupingSets
        (.cons (.ofList (sets.map .ofChildren)) (.cons (.atom location) .nil)) =
      (GroupingElement.groupingSets ·) <$> seq (seq Child.rebuilt) sets := by
  have rebuilt := Field.traverse_ofLists (X := Child σ ε) (Y := Tree) Child.rebuilt sets
  change (do
    let fields ← Record.rebuilt _
    return Tree.ofFields .groupingSets fields.unlocated) = _
  simp only [Record.rebuilt, Record.traverse, rebuilt, Field.traverse]
  simp
  rfl

/-! ## Actions with a state -/

/-- A step that changes a state and may fail. Failing leaves the state as it is by then. -/
abbrev Action (σ ε α : Type) := ExceptT ε (StateM σ) α

section Runs
variable {σ ε α β : Type} {f : α → Action σ ε β} {x : α} {y : β} {e : ε} {s t : σ}
  {xs before : List α} {ys : List β}

/-- The state that an action comes to on the elements of a list. -/
def stateAfter (f : α → Action σ ε β) (s : σ) (xs : List α) : σ :=
  xs.foldl (fun s x => (f x s).2) s

/-- An action succeeds on each element of a list, in the state that it has come to on those before,
with the given results. -/
structure SucceedsOn (f : α → Action σ ε β) (s : σ) (xs : List α) (ys : List β) : Prop where
  length : ys.length = xs.length
  result : ∀ i x y, xs[i]? = some x → ys[i]? = some y →
    (f x (stateAfter f s (xs.take i))).1 = .ok y

/-- The action, with a record of the elements that it is performed on. -/
def recorded (f : α → Action σ ε β) (x : α) : Action (σ × List α) ε β := fun s =>
  ((f x s.1).1, ((f x s.1).2, s.2 ++ [x]))

theorem succeedsOn_nil : SucceedsOn f s [] [] where
  length := rfl
  result _ _ _ h := by simp at h

theorem succeedsOn_cons_iff :
    SucceedsOn f s (x :: xs) (y :: ys) ↔ (f x s).1 = .ok y ∧ SucceedsOn f (f x s).2 xs ys := by
  constructor
  · intro h
    exact ⟨h.result 0 x y rfl rfl, Nat.succ.inj h.length, fun i => h.result (i + 1)⟩
  · rintro ⟨first, rest⟩
    refine ⟨congrArg Nat.succ rest.length, ?_⟩
    intro i a b ha hb
    cases i with
    | zero =>
      cases ha
      cases hb
      exact first
    | succ i => exact rest.result i a b ha hb

theorem seq_cons_of_ok (first : (f x s).1 = .ok y) (xs : List α) :
    seq f (x :: xs) s = ((seq f xs (f x s).2).1.map (y :: ·), (seq f xs (f x s).2).2) := by
  rcases here : f x s with ⟨result, t⟩
  obtain rfl : result = .ok y := by rw [← first, here]
  simp only [seq, bind, ExceptT.bind, ExceptT.mk, StateT.bind, here, ExceptT.bindCont]
  rcases seq f xs t with ⟨e | ys, u⟩ <;> rfl

theorem seq_cons_of_error (first : (f x s).1 = .error e) (xs : List α) :
    seq f (x :: xs) s = (.error e, (f x s).2) := by
  rcases here : f x s with ⟨result, t⟩
  obtain rfl : result = .error e := by rw [← first, here]
  simp only [seq, bind, ExceptT.bind, ExceptT.mk, StateT.bind, here]
  rfl

/-! ### Up to the first failure -/

theorem SucceedsOn.run (h : SucceedsOn f s xs ys) : seq f xs s = (.ok ys, stateAfter f s xs) := by
  induction xs generalizing s ys with
  | nil =>
    rw [List.eq_nil_of_length_eq_zero h.length]
    rfl
  | cons x xs ih =>
    obtain ⟨y, ys, rfl⟩ := List.exists_cons_of_length_eq_add_one h.length
    obtain ⟨first, rest⟩ := succeedsOn_cons_iff.1 h
    rw [seq_cons_of_ok first, ih rest]
    rfl

theorem SucceedsOn.run_until (h : SucceedsOn f s before ys)
    (last : (f x (stateAfter f s before)).1 = .error e) (after : List α) :
    seq f (before ++ x :: after) s = (.error e, stateAfter f s (before ++ [x])) := by
  induction before generalizing s ys with
  | nil => exact seq_cons_of_error last after
  | cons a before ih =>
    obtain ⟨y, ys, rfl⟩ := List.exists_cons_of_length_eq_add_one h.length
    obtain ⟨first, rest⟩ := succeedsOn_cons_iff.1 h
    rw [List.cons_append, seq_cons_of_ok first, ih rest last]
    rfl

theorem succeedsOn_or_fails (f : α → Action σ ε β) (xs : List α) (s : σ) :
    (∃ ys, SucceedsOn f s xs ys) ∨
      ∃ before x after e, xs = before ++ x :: after ∧ (∃ ys, SucceedsOn f s before ys) ∧
        (f x (stateAfter f s before)).1 = .error e := by
  induction xs generalizing s with
  | nil => exact .inl ⟨[], succeedsOn_nil⟩
  | cons x xs ih =>
    cases first : (f x s).1 with
    | error e => exact .inr ⟨[], x, xs, e, rfl, ⟨[], succeedsOn_nil⟩, first⟩
    | ok y =>
      rcases ih (f x s).2 with ⟨ys, rest⟩ | ⟨before, z, after, e, rfl, ⟨ys, rest⟩, last⟩
      · exact .inl ⟨y :: ys, succeedsOn_cons_iff.2 ⟨first, rest⟩⟩
      · exact .inr ⟨x :: before, z, after, e, rfl,
          ⟨y :: ys, succeedsOn_cons_iff.2 ⟨first, rest⟩⟩, last⟩

/-! ### What the action is performed on -/

theorem stateAfter_recorded (f : α → Action σ ε β) (s : σ) (log xs : List α) :
    stateAfter (recorded f) (s, log) xs = (stateAfter f s xs, log ++ xs) := by
  induction xs generalizing s log with
  | nil => rw [List.append_nil]; rfl
  | cons x xs ih =>
    have later := ih (f x s).2 (log ++ [x])
    rw [List.append_assoc] at later
    exact later

theorem SucceedsOn.recorded (h : SucceedsOn f s xs ys) (log : List α) :
    SucceedsOn (recorded f) (s, log) xs ys where
  length := h.length
  result i x y hx hy := by
    rw [stateAfter_recorded]
    exact h.result i x y hx hy

end Runs

/-- An action with a state goes through a list from the front. It succeeds on every element, each
time in the state that those before have left, and has been performed on each of them once and in
order; or it is performed on the elements up to the first one that it fails on in that state, and
fails in the same way. A list is gone through like its two parts one after the other, a list of
lists like the list of all their elements, and an option like a list of at most one; since an action
with a record is an action too, that includes what it is performed on. The rules of a pass go
through children in this way, and through those of grouping sets in two levels. -/
theorem seq_and_opt_thread_state :
    (∀ {σ ε α β : Type} (f : α → Action σ ε β) (xs : List α) (s : σ) (log : List α),
      (∃ ys, SucceedsOn f s xs ys ∧ seq f xs s = (.ok ys, stateAfter f s xs) ∧
        seq (recorded f) xs (s, log) = (.ok ys, (stateAfter f s xs, log ++ xs))) ∨
      ∃ before x after e, xs = before ++ x :: after ∧ (∃ ys, SucceedsOn f s before ys) ∧
        (f x (stateAfter f s before)).1 = .error e ∧
        seq f xs s = (.error e, stateAfter f s (before ++ [x])) ∧
        seq (recorded f) xs (s, log) =
          (.error e, (stateAfter f s (before ++ [x]), log ++ (before ++ [x])))) ∧
    (∀ {σ ε α β : Type} (f : α → Action σ ε β),
      (∀ as bs, seq f (as ++ bs) = do
        let ys ← seq f as
        let zs ← seq f bs
        return ys ++ zs) ∧
      (∀ xss, seq (seq f) xss = (xss.map List.length).splitLengths <$> seq f xss.flatten) ∧
      ∀ x, Option.toList <$> opt f x = seq f x.toList) ∧
    ∀ {σ ε : Type} {c : Category},
      (∀ xs : List (Child σ ε c), (Field.ofChildren xs).traverse Child.rebuilt =
        Field.ofChildren <$> seq Child.rebuilt xs) ∧
      (∀ x : Option (Child σ ε c), (Field.ofChild? x).traverse Child.rebuilt =
        Field.ofChild? <$> opt Child.rebuilt x) ∧
      ∀ (P : Pass σ ε) (sets : List (List (Child σ ε .expression))) (location : Location),
        P.standardRule .groupingSets
            (.cons (.ofList (sets.map .ofChildren)) (.cons (.atom location) .nil)) =
          (GroupingElement.groupingSets ·) <$> seq (seq Child.rebuilt) sets := by
  refine ⟨?_, ?_, ?_⟩
  · intro σ ε α β f xs s log
    rcases succeedsOn_or_fails f xs s with ⟨ys, all⟩ |
      ⟨before, x, after, e, rfl, ⟨ys, part⟩, last⟩
    · refine .inl ⟨ys, all, all.run, ?_⟩
      rw [(all.recorded log).run, stateAfter_recorded]
    · refine .inr ⟨before, x, after, e, rfl, ⟨ys, part⟩, last, part.run_until last after, ?_⟩
      have noted : (recorded f x (stateAfter (recorded f) (s, log) before)).1 = .error e := by
        rw [stateAfter_recorded]
        exact last
      rw [(part.recorded log).run_until noted, stateAfter_recorded]
  · exact fun f => ⟨seq_append f, seq_seq f, toList_map_opt f⟩
  · intro σ ε c
    exact ⟨Field.traverse_ofChildren (X := Child σ ε) (Y := Tree) Child.rebuilt,
      Field.traverse_ofChild? (X := Child σ ε) (Y := Tree) Child.rebuilt,
      Pass.standardRule_groupingSets⟩

end SqlTrees
