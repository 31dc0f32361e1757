import SqlTrees.Passes.Scoped
import SqlTrees.Proofs.Rebuild.Tour
import SqlTrees.Proofs.Tree.Extent
import SqlTrees.Tree.Clause
import SqlTrees.Tree.Relation

/-! # Counting select lists and noting them

Two passes shift the integers inside select lists: one counts, by its hooks, the select lists around
a node; the other hands the items of a select list a context of their own.

* `Ends`, `InStep`: the count and the note end a walk alike, however the count stood at its start.
* `InStep.select`: a select list keeps the two in step, whether it succeeds or fails.
* `Tree.visit_inStep`: so does the visit of every tree.
* `counted_scope_agrees_with_noted_scope`: the two passes rebuild a tree alike.
-/

namespace SqlTrees
set_option autoImplicit false

/-! ## Walks in step -/

section
variable {α β : Type}

/-- How two walks end that started in a context of `depth` select lists: the one that counts them,
and the one that notes whether there are any. Both run to the end, or both are stopped by the node
without a rule that is `stop?`, with the select lists around that node still counted. -/
inductive Ends (depth : Nat) : Option Blocked →
    Except UnsupportedKind α × Progress Nat → Except UnsupportedKind α × Progress Bool → Prop
  | done (a : α) (events : Array Event) :
      Ends depth none (.ok a, ⟨depth, events⟩) (.ok a, ⟨decide (0 < depth), events⟩)
  | stopped (b : Blocked) (events : Array Event) :
      Ends depth (some b) (.error ⟨b.kind⟩, ⟨depth + b.path.count .select, events⟩)
        (.error ⟨b.kind⟩, ⟨decide (0 < depth), events⟩)

/-- Two walks that end alike wherever they start. -/
def InStep (stop? : Option Blocked) (v : Walk Nat UnsupportedKind α)
    (w : Walk Bool UnsupportedKind α) : Prop :=
  ∀ depth events, Ends depth stop? (v ⟨depth, events⟩) (w ⟨decide (0 < depth), events⟩)

namespace InStep

theorem pure (a : α) : InStep none (pure a) (pure a) :=
  fun _ events => .done a events

theorem bind {x y : Option Blocked} {v : Walk Nat UnsupportedKind α}
    {w : Walk Bool UnsupportedKind α} {f : α → Walk Nat UnsupportedKind β}
    {g : α → Walk Bool UnsupportedKind β} (h : InStep x v w) (hfg : ∀ a, InStep y (f a) (g a)) :
    InStep (x.or y) (v >>= f) (w >>= g) := by
  intro depth events
  have first := h depth events
  rw [Walk.bind_apply, Walk.bind_apply]
  generalize v ⟨depth, events⟩ = p at first
  generalize w ⟨decide (0 < depth), events⟩ = q at first
  cases first with
  | done a events => exact hfg a depth events
  | stopped b events => exact .stopped b events

theorem map {x : Option Blocked} {v : Walk Nat UnsupportedKind α}
    {w : Walk Bool UnsupportedKind α} (h : InStep x v w) (f : α → β) :
    InStep x (do return f (← v)) (do return f (← w)) := by
  have := h.bind fun a => pure (f a)
  rwa [Option.or_none] at this

theorem report (e : Event) : InStep none (Walk.report e) (Walk.report e) :=
  fun _ events => .done () (events.push e)

theorem fail {k : Kind} (hk : k ≠ .select) :
    InStep (α := α) (some ⟨[], k⟩) (do Walk.report (.unsupported k); throw ⟨k⟩)
      (do Walk.report (.unsupported k); throw ⟨k⟩) := by
  intro depth events
  have none : [k].count .select = 0 := List.count_eq_zero.2 (by simpa using Ne.symm hk)
  have stopped : Ends (α := α) depth _ _ _ := .stopped ⟨[], k⟩ (events.push (.unsupported k))
  rw [Blocked.path, List.nil_append, none] at stopped
  exact stopped

/-- Any other node than a select list leaves the count as it is. -/
theorem under {x : Option Blocked} {v : Walk Nat UnsupportedKind α}
    {w : Walk Bool UnsupportedKind α} (h : InStep x v w) {k : Kind} (hk : k ≠ .select) :
    InStep (x.map (.under k)) v w := by
  intro depth events
  have first := h depth events
  generalize v ⟨depth, events⟩ = p at first
  generalize w ⟨decide (0 < depth), events⟩ = q at first
  cases first with
  | done a events => exact .done a events
  | stopped b events =>
    have same : b.path.count .select = (b.under k).path.count .select := by
      rw [b.path_under, List.count_cons_of_ne hk]
    rw [same]
    exact .stopped (b.under k) events

/-- A select list raises the count for what is below it and lowers it again if that succeeds. The
note in a context of its own says the same at every point. -/
theorem select {x : Option Blocked} {v : Walk Nat UnsupportedKind α}
    {w : Walk Bool UnsupportedKind α} (h : InStep x v w) (f : α → β) :
    InStep (x.map (.under .select))
      (do
        Walk.update (· + 1)
        Walk.report (.rebuildingNode .select)
        let result ← (do return f (← v))
        Walk.update (· - 1)
        return result)
      (do
        Walk.report (.rebuildingNode .select)
        return f (← Walk.within true w)) := by
  intro depth events
  have first := h (depth + 1) (events.push (.rebuildingNode .select))
  rw [decide_eq_true (Nat.succ_pos depth)] at first
  simp only [Walk.bind_apply, Walk.update_apply, Walk.report_apply, Walk.within_apply]
  generalize v ⟨depth + 1, events.push (.rebuildingNode .select)⟩ = p at first
  generalize w ⟨true, events.push (.rebuildingNode .select)⟩ = q at first
  cases first with
  | done a events => exact .done (f a) events
  | stopped b events =>
    -- the hook behind the select list did not run
    have deeper : depth + 1 + b.path.count .select =
        depth + (b.under .select).path.count .select := by
      rw [b.path_under, List.count_cons_self]
      omega
    rw [deeper]
    exact .stopped (b.under .select) events

end InStep
end

/-! ## The two passes -/

namespace Pass

theorem shiftSelectedIntegers_direct (amount : Int64) : (shiftSelectedIntegers amount).Direct :=
  ⟨fun _ => rfl, rfl, rfl⟩

theorem shiftSelectedByContext_direct (amount : Int64) : (shiftSelectedByContext amount).Direct :=
  ⟨fun _ => rfl, rfl, rfl⟩

section Nodes
variable (amount : Int64)

/-- Away from select lists both passes report the node and run its rule. -/
theorem visited_inStep {k : Kind} (hk : k ≠ .select) {x : Option Blocked} {α : Type}
    {v : Walk Nat UnsupportedKind α} {w : Walk Bool UnsupportedKind α} (h : InStep x v w) :
    InStep x ((shiftSelectedIntegers amount).visited k v)
      ((shiftSelectedByContext amount).visited k w) := by
  have step : InStep x (do Walk.report (.rebuildingNode k); v)
      (do Walk.report (.rebuildingNode k); w) := (InStep.report _).bind fun _ => h
  simpa [visited, shiftSelectedIntegers, shiftSelectedByContext, hk] using step

theorem select_inStep {x : Option Blocked}
    {f : Record (Child Nat UnsupportedKind) Kind.select.signature}
    {g : Record (Child Bool UnsupportedKind) Kind.select.signature}
    (h : InStep x f.rebuilt g.rebuilt) :
    InStep (x.map (.under .select))
      ((shiftSelectedIntegers amount).visited .select
        ((shiftSelectedIntegers amount).rule .select f))
      ((shiftSelectedByContext amount).visited .select
        ((shiftSelectedByContext amount).rule .select g)) := by
  have step := h.select fun r => Tree.ofFields .select r.unlocated
  have noted : (shiftSelectedByContext amount).visited .select
      ((shiftSelectedByContext amount).rule .select g) = (do
        Walk.report (.rebuildingNode .select)
        return .ofFields .select (← Walk.within true g.rebuilt).unlocated) := by
    simp only [visited, shiftSelectedByContext, rule, Option.getD_some, pure_bind, bind_pure]
  rw [noted]
  exact step

/-- Both passes shift a literal with a select list around it, and keep any other. -/
theorem longLiteral_inStep (f : Record Tree Kind.longLiteral.signature) :
    InStep (Tree.ofFields .longLiteral f).blocked?
      ((shiftSelectedIntegers amount).rule .longLiteral (f.attach (shiftSelectedIntegers amount)))
      ((shiftSelectedByContext amount).rule .longLiteral
        (f.attach (shiftSelectedByContext amount))) := by
  match f with
  | .cons (.atom v) (.cons (.atom l) .nil) =>
    intro depth events
    cases depth with
    | zero => exact .done _ events
    | succ depth => exact .done _ events

theorem shiftSelectedIntegers_rule {k : Kind} (hk : k ≠ .longLiteral) :
    (shiftSelectedIntegers amount).rule k = (shiftSelectedIntegers amount).standardRule k := by
  cases k <;> first | rfl | exact absurd rfl hk

theorem shiftSelectedByContext_rule {k : Kind} (hs : k ≠ .select) (hk : k ≠ .longLiteral) :
    (shiftSelectedByContext amount).rule k = (shiftSelectedByContext amount).standardRule k := by
  cases k <;> first | rfl | exact absurd rfl hk | exact absurd rfl hs

/-- The standard rule of both passes, for a node that is no select list. -/
theorem standardRule_inStep {k : Kind} (hk : k ≠ .select) (fields : Record Tree k.signature)
    (ih : InStep fields.blocked? (fields.attach (shiftSelectedIntegers amount)).rebuilt
      (fields.attach (shiftSelectedByContext amount)).rebuilt) :
    InStep (Tree.ofFields k fields).blocked?
      ((shiftSelectedIntegers amount).standardRule k (fields.attach (shiftSelectedIntegers amount)))
      ((shiftSelectedByContext amount).standardRule k
        (fields.attach (shiftSelectedByContext amount))) := by
  rw [Tree.blocked?]
  by_cases hu : k ∈ Kind.unruled
  · rw [standardRule_unruled _ hu, standardRule_unruled _ hu, if_pos hu]
    exact InStep.fail hk
  · rw [if_neg hu]
    by_cases hl : k ∈ Kind.leaves
    · rw [standardRule_leaf _ hl, standardRule_leaf _ hl, Record.before_attach,
        Record.before_attach, fields.blocked?_of_childless (Kind.childless_of_mem_leaves hl)]
      exact InStep.pure _
    · rw [standardRule_composite _ hl hu, standardRule_composite _ hl hu]
      exact (ih.map fun r => Tree.ofFields k r.unlocated).under hk

theorem visited_node_inStep {k : Kind} (fields : Record Tree k.signature)
    (ih : InStep fields.blocked? (fields.attach (shiftSelectedIntegers amount)).rebuilt
      (fields.attach (shiftSelectedByContext amount)).rebuilt) :
    InStep (Tree.ofFields k fields).blocked?
      ((Tree.ofFields k fields).visit (shiftSelectedIntegers amount))
      ((Tree.ofFields k fields).visit (shiftSelectedByContext amount)) := by
  rw [Tree.visit_node, Tree.visit_node]
  -- only select lists have hooks, and only they and integer literals have rules of their own
  by_cases hs : k = .select
  · subst hs
    exact select_inStep amount ih
  · apply visited_inStep amount hs
    by_cases hl : k = .longLiteral
    · subst hl
      exact longLiteral_inStep amount fields
    · rw [shiftSelectedIntegers_rule amount hl, shiftSelectedByContext_rule amount hs hl]
      exact standardRule_inStep amount hs fields ih

end Nodes
end Pass

/-! ## Whole trees -/

section Visit
variable (amount : Int64)

mutual

theorem Tree.visit_inStep : {c : Category} → (t : Tree c) →
    InStep t.blocked? (t.visit (Pass.shiftSelectedIntegers amount))
      (t.visit (Pass.shiftSelectedByContext amount))
  | _, .node _ rfl fields => Pass.visited_node_inStep amount fields fields.rebuilt_inStep
  | _, .inclusion i t => by
    have ih := t.visit_inStep
    rw [Tree.visit, Tree.visit, (Pass.shiftSelectedIntegers_direct amount).dispatch_eq,
      (Pass.shiftSelectedByContext_direct amount).dispatch_eq, ite_self, ite_self, Tree.blocked?]
    exact ih.map (Tree.inclusion i)

theorem Record.rebuilt_inStep : {s : Signature} → (r : Record Tree s) →
    InStep r.blocked? (r.attach (Pass.shiftSelectedIntegers amount)).rebuilt
      (r.attach (Pass.shiftSelectedByContext amount)).rebuilt
  | _, .nil => InStep.pure _
  | _, .cons f r => by
    have ihf := f.traverse_inStep
    have ih := r.rebuilt_inStep
    rw [Record.rebuilt, Record.rebuilt] at ih ⊢
    rw [Record.attach, Record.attach, Record.traverse, Record.traverse, Record.blocked?]
    exact ihf.bind fun g => ih.map (Record.cons g)

theorem Field.traverse_inStep : {τ : FieldType} → (f : Field Tree τ) →
    InStep f.blocked? ((f.attach (Pass.shiftSelectedIntegers amount)).traverse Child.rebuilt)
      ((f.attach (Pass.shiftSelectedByContext amount)).traverse Child.rebuilt)
  | _, .atom _ => InStep.pure _
  | _, .child t => by
    have ih := t.visit_inStep
    rw [Field.attach, Field.attach, Field.traverse, Field.traverse,
      (Pass.shiftSelectedIntegers_direct amount).dispatch_eq,
      (Pass.shiftSelectedByContext_direct amount).dispatch_eq, Field.blocked?]
    exact ih.map Field.child
  | _, .none => InStep.pure _
  | _, .some f => by
    have ih := f.traverse_inStep
    rw [Field.attach, Field.attach, Field.traverse, Field.traverse, Field.blocked?]
    exact ih.map Field.some
  | _, .nil => InStep.pure _
  | _, .cons f fs => by
    have ihf := f.traverse_inStep
    have ih := fs.traverse_inStep
    rw [Field.attach, Field.attach, Field.traverse, Field.traverse, Field.blocked?]
    exact ihf.bind fun g => ih.map (Field.cons g)

end
end Visit

theorem Pass.rebuild_inStep (amount : Int64) (n : Node) (depth : Nat) :
    Ends depth n.tree.blocked? (((shiftSelectedIntegers amount).rebuild n).start depth)
      (((shiftSelectedByContext amount).rebuild n).start (decide (0 < depth))) := by
  have visit := n.tree.visit_inStep amount depth #[.rebuildingTree n.kind]
  rw [(shiftSelectedIntegers_direct amount).rebuild_start,
    (shiftSelectedByContext_direct amount).rebuild_start]
  generalize n.tree.visit (shiftSelectedIntegers amount)
    ⟨depth, #[.rebuildingTree n.kind]⟩ = p at visit
  generalize n.tree.visit (shiftSelectedByContext amount)
    ⟨decide (0 < depth), #[.rebuildingTree n.kind]⟩ = q at visit
  generalize n.tree.blocked? = stop? at visit
  cases visit with
  | done t events => exact .done _ events
  | stopped b events => exact .stopped b events

/-- Shifting by a count of select lists and shifting by a note of them, begun in contexts that
agree, rebuild a tree alike: with the same tree or the same failure, and with the same events. The
note is afterwards what it was. The count is restored by a success; a failure is that of the first
node without a rule, and leaves the select lists around that node counted. -/
theorem counted_scope_agrees_with_noted_scope (amount : Int64) (n : Node) (depth : Nat) (b : Bool)
    (hb : b = true ↔ 0 < depth) :
    let counted := ((Pass.shiftSelectedIntegers amount).rebuild n).start depth
    let noted := ((Pass.shiftSelectedByContext amount).rebuild n).start b
    counted.1 = noted.1 ∧ counted.2.events = noted.2.events ∧ noted.2.context = b ∧
    (∀ m, counted.1 = .ok m → counted.2.context = depth) ∧
    ∀ e, counted.1 = .error e → ∃ x, n.tree.blocked? = some x ∧ e = ⟨x.kind⟩ ∧
      counted.2.context = depth + x.path.count .select := by
  obtain rfl : b = decide (0 < depth) := by
    cases b <;> simpa using hb
  have ends := Pass.rebuild_inStep amount n depth
  generalize ((Pass.shiftSelectedIntegers amount).rebuild n).start depth = p at ends ⊢
  generalize ((Pass.shiftSelectedByContext amount).rebuild n).start (decide (0 < depth)) = q
    at ends ⊢
  generalize n.tree.blocked? = stop? at ends ⊢
  cases ends with
  | done m events =>
    refine ⟨rfl, rfl, rfl, fun _ _ => rfl, ?_⟩
    intro e he
    cases he
  | stopped x events =>
    refine ⟨rfl, rfl, rfl, ?_, ?_⟩
    · intro m hm
      cases hm
    · intro e he
      cases he
      exact ⟨x, rfl, rfl, rfl⟩

set_option maxRecDepth 4000 in
/-- A parameter in a select list in a select list stops both passes, and two more select lists stay
counted. -/
theorem scopes_of_nested_selects :
    let select (e : Expression) := Select.mk [SelectItem.singleColumn e]
    let inner := Query.mk (Relation.querySpecification (select (Expression.parameter 0)))
    let n : Node := ⟨select (Expression.subquery inner), rfl⟩
    let counted := ((Pass.shiftSelectedIntegers 100).rebuild n).start 3
    let noted := ((Pass.shiftSelectedByContext 100).rebuild n).start true
    (true = true ↔ 0 < 3) ∧ counted.1 = .error ⟨.parameter⟩ ∧ noted.1 = .error ⟨.parameter⟩ ∧
      counted.2.context = 5 ∧ noted.2.context = true := by
  intro select inner n counted noted
  have hb : true = true ↔ 0 < 3 := by decide
  obtain ⟨same, -, note, -, failed⟩ := counted_scope_agrees_with_noted_scope 100 n 3 true hb
  obtain ⟨x, hx, -, count⟩ := failed ⟨.parameter⟩ rfl
  cases hx
  exact ⟨hb, rfl, same ▸ rfl, count, note⟩

end SqlTrees
