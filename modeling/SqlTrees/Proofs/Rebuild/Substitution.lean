import SqlTrees.Passes.Substitute
import SqlTrees.Proofs.Rebuild.Nodewise

/-! # Replacing leaves and tables

* `Pass.substituting`: the pass that replaces the nodes of some kinds, and leaves the others to the
  standard rules.
* `Replacement.failure?`: how a node stops such a pass.
* `Pass.forM_meet_substituting`: a run over nodes ends at the first that does.
* `Pass.eq_substituting_only`: a pass with one rule that computes from the fields of its node.
* `leaf_override_is_substitution`: with a rule of its own for one kind of leaf, or for tables, a pass
  substitutes and does nothing else.
-/

namespace SqlTrees
set_option autoImplicit false

section
variable {σ ε α : Type}

/-- The walk that takes no step. -/
def Walk.ofExcept (r : Except ε α) : Walk σ ε α := fun p => (r, p)

/-- Replaces nodes by what is computed from their fields. -/
def Pass.substituting (unsupported : UnsupportedKind → ε) (new? : Replacement ε) : Pass σ ε where
  unsupported
  rule? k := (new? k).map fun f fields => Walk.ofExcept (f fields.before)

/-- The failure of a node that cannot be replaced, or that is neither replaced nor rebuilt. -/
def Replacement.failure? (new? : Replacement ε) (unsupported : UnsupportedKind → ε)
    (x : Occurrence) : Option ε :=
  match new? x.kind with
  | some f =>
    match f x.fields with
    | .ok _ => none
    | .error e => some e
  | none => if x.kind ∈ Kind.unruled then some (unsupported ⟨x.kind⟩) else none

/-! ## Replacing node by node -/

namespace Pass
variable {unsupported : UnsupportedKind → ε} {new? : Replacement ε} {k : Kind}

theorem substituting_rule_of_some {f : Record Tree k.signature → Except ε (Tree k.category)}
    (h : new? k = some f) (fields : Record Tree k.signature) :
    (substituting unsupported new? : Pass σ ε).rule k
      (fields.attach (substituting unsupported new?)) = Walk.ofExcept (f fields) := by
  have own : (substituting unsupported new? : Pass σ ε).rule? k =
      some fun fields => Walk.ofExcept (f fields.before) := by
    simp only [substituting, h, Option.map_some]
  rw [rule, own, Option.getD_some, Record.before_attach]

theorem substituting_rule_of_none (h : new? k = none) :
    (substituting unsupported new? : Pass σ ε).rule k =
      (substituting unsupported new?).standardRule k := by
  have own : (substituting unsupported new? : Pass σ ε).rule? k = none := by
    simp only [substituting, h, Option.map_none]
  rw [rule, own, Option.getD_none]

theorem substituting_stopsAt :
    (substituting unsupported new? : Pass σ ε).stopsAt k =
      ((new? k).isSome || decide (k ∈ Kind.unruled)) := by
  rw [stopsAt, substituting, Option.isSome_map]

theorem substituting_nodewise (hc : new?.Childless) :
    (substituting unsupported new? : Pass σ ε).Nodewise new? where
  direct := ⟨fun _ => rfl, rfl, rfl⟩
  preVisit _ := rfl
  postVisit _ := rfl
  kept k hk := by
    rw [substituting_stopsAt, Bool.or_eq_false_iff] at hk
    simpa using hk.1
  rule k hk fields := by
    cases hn : new? k with
    | some f =>
      rw [substituting_rule_of_some hn, fields.nodes_of_childless (hc k f hn)]
      cases hf : f fields with
      | error e => rfl
      | ok t =>
        rw [Tree.substituted_node, Replacement.put_of_some hn hf]
        rfl
    | none =>
      -- without a rule of anybody's, the standard rule fails wherever it starts
      have hu : k ∈ Kind.unruled := by simpa [substituting_stopsAt, hn] using hk
      rw [substituting_rule_of_none hn, standardRule_unruled _ hu]
      rfl

/-! ## Where a run over nodes ends -/

variable (unsupported new?)

theorem meet_substituting (x : Occurrence) (p : Progress σ) :
    match new?.failure? unsupported x with
    | none => (substituting unsupported new?).meet x p = (.ok (), p.reported [x])
    | some e => ∃ q, (substituting unsupported new?).meet x p = (.error e, q) ∧
        q.context = p.context := by
  rw [p.reported_singleton, meet, substituting_stopsAt]
  cases hn : new? x.kind with
  | some f =>
    rw [Option.isSome_some, Bool.true_or, if_pos rfl, substituting_rule_of_some hn]
    cases hf : f x.fields with
    | error e =>
      simp only [Replacement.failure?, hn, hf]
      exact ⟨_, rfl, rfl⟩
    | ok t =>
      simp only [Replacement.failure?, hn, hf]
      rfl
  | none =>
    rw [Option.isSome_none, Bool.false_or, substituting_rule_of_none hn]
    by_cases hu : x.kind ∈ Kind.unruled
    · rw [if_pos (decide_eq_true hu), standardRule_unruled _ hu]
      simp only [Replacement.failure?, hn, if_pos hu]
      exact ⟨_, rfl, rfl⟩
    · simp only [Replacement.failure?, hn, if_neg hu, decide_eq_false hu]
      rfl

/-- A run reports the nodes as far as it gets, and leaves the context as it was. -/
theorem forM_meet_substituting (xs : List Occurrence) (p : Progress σ) :
    match xs.findSome? (new?.failure? unsupported) with
    | none => forM xs (substituting unsupported new?).meet p = (.ok (), p.reported xs)
    | some e => ∃ q, forM xs (substituting unsupported new?).meet p = (.error e, q) ∧
        q.context = p.context := by
  induction xs generalizing p with
  | nil =>
    rw [p.reported_nil]
    rfl
  | cons x xs ih =>
    have met := meet_substituting unsupported new? x p
    rw [List.findSome?_cons, List.forM_cons, Walk.bind_apply]
    cases hx : new?.failure? unsupported x with
    | some e =>
      rw [hx] at met
      obtain ⟨q, met, context⟩ := met
      rw [met]
      exact ⟨q, rfl, context⟩
    | none =>
      rw [hx] at met
      rw [met, p.reported_cons x xs]
      exact ih (p.reported [x])

variable {new?}

theorem substituting_start (hc : new?.Childless) (n : Node) (context : σ) :
    let run := ((substituting unsupported new?).rebuild n).start context
    run.2.context = context ∧
    match n.tree.nodes.findSome? (new?.failure? unsupported) with
    | none => run = (.ok (n.substituted new?), (Progress.atRoot context n).reported n.tree.nodes)
    | some e => run.1 = .error e := by
  have ends := forM_meet_substituting unsupported new? n.tree.nodes (Progress.atRoot context n)
  rw [(substituting_nodewise hc).rebuild_start]
  cases hf : n.tree.nodes.findSome? (new?.failure? unsupported) with
  | none =>
    rw [hf] at ends
    rw [ends]
    exact ⟨rfl, rfl⟩
  | some e =>
    rw [hf] at ends
    obtain ⟨q, ends, context⟩ := ends
    rw [ends]
    exact ⟨context, rfl⟩

end Pass

/-! ## Replacing the nodes of one kind -/

/-- The kinds of expression leaves, with and without a standard rule, and of tables. -/
def Kind.replaceable : List Kind :=
  leaves ++ [.parameter, .fieldReference, .table]

theorem Kind.childless_of_replaceable :
    ∀ k ∈ replaceable, Signature.childless k.signature = true := by
  decide

namespace Replacement
variable {k : Kind} {f : Record Tree k.signature → Except ε (Tree k.category)}
  (unsupported : UnsupportedKind → ε)

theorem failure?_only_self_eq_none_iff (fields : Record Tree k.signature) :
    (only k f).failure? unsupported ⟨k, fields⟩ = none ↔ ∃ t, f fields = .ok t := by
  cases h : f fields <;> simp [failure?, only_self, h]

theorem failure?_only_of_ne_eq_none_iff {x : Occurrence} (hx : x.kind ≠ k) :
    (only k f).failure? unsupported x = none ↔ x.kind ∉ Kind.unruled := by
  rw [failure?, only_of_ne hx]
  simp

theorem forall_failure?_only_eq_none_iff (xs : List Occurrence) :
    (∀ x ∈ xs, (only k f).failure? unsupported x = none) ↔
      (∀ fields, ⟨k, fields⟩ ∈ xs → ∃ t, f fields = .ok t) ∧
        ∀ x ∈ xs, x.kind ≠ k → x.kind ∉ Kind.unruled := by
  constructor
  · intro h
    refine ⟨fun fields hx => ?_, fun x hx hk => ?_⟩
    · exact (failure?_only_self_eq_none_iff unsupported fields).mp (h _ hx)
    · exact (failure?_only_of_ne_eq_none_iff unsupported hk).mp (h x hx)
  · rintro ⟨own, others⟩ ⟨l, fields⟩ hx
    by_cases hk : l = k
    · subst hk
      exact (failure?_only_self_eq_none_iff unsupported fields).mpr (own fields hx)
    · exact (failure?_only_of_ne_eq_none_iff unsupported hk).mpr (others _ hx hk)

end Replacement

namespace Pass

/-- A literal with another value and no location. -/
def mappedInteger (f : Int64 → Int64) : Record Tree Kind.longLiteral.signature → Expression
  | .cons (.atom value) _ => Expression.longLiteral (f value)

/-- A table with another name and no location. -/
def mappedTable (f : QualifiedName → QualifiedName) : Record Tree Kind.table.signature → Relation
  | .cons (.atom name) _ => Relation.table (f name)

/-- The literal for a parameter, if there is a value at its position. -/
def boundParameter (values : List Int64) :
    Record Tree Kind.parameter.signature → Except BindError Expression
  | .cons (.atom position) _ =>
    match values[position.toNat]? with
    | some value => .ok (Expression.longLiteral value)
    | none => .error (.unbound position)

/-- A pass without hooks that has one rule of its own, and that rule computes from the fields. -/
theorem eq_substituting_only {unsupported : UnsupportedKind → ε}
    {rule? : (k : Kind) → Option (Rule σ ε k)} {k : Kind}
    {f : Record Tree k.signature → Except ε (Tree k.category)}
    {rule : Rule σ ε k} (own : rule? k = some rule)
    (computes : ∀ fields, rule fields = Walk.ofExcept (f fields.before))
    (others : ∀ l ≠ k, rule? l = none) :
    { unsupported, rule? : Pass σ ε } = substituting unsupported (.only k f) := by
  rw [substituting]
  congr 1
  funext l
  by_cases h : l = k
  · subst h
    rw [own, Replacement.only_self, Option.map_some, funext computes]
  · rw [others l h, Replacement.only_of_ne h, Option.map_none]

theorem mapIntegers_eq_substituting (f : Int64 → Int64) :
    mapIntegers f = substituting id (.only .longLiteral (.ok ∘ mappedInteger f)) := by
  refine eq_substituting_only rfl ?_ ?_
  · intro fields
    match fields with
    | .cons (.atom _) _ => rfl
  · intro l hl
    cases l <;> first | rfl | exact absurd rfl hl

theorem mapTables_eq_substituting (f : QualifiedName → QualifiedName) :
    mapTables f = substituting id (.only .table (.ok ∘ mappedTable f)) := by
  refine eq_substituting_only rfl ?_ ?_
  · intro fields
    match fields with
    | .cons (.atom _) _ => rfl
  · intro l hl
    cases l <;> first | rfl | exact absurd rfl hl

theorem bindParameters_eq_substituting (values : List Int64) :
    bindParameters values =
      substituting .unsupported (.only .parameter (boundParameter values)) := by
  refine eq_substituting_only rfl ?_ ?_
  · intro fields
    match fields with
    | .cons (.atom position) _ =>
      simp only [Record.before, Record.map, Field.map, boundParameter]
      cases values[position.toNat]? <;> rfl
  · intro l hl
    cases l <;> first | rfl | exact absurd rfl hl

end Pass
end

/-! ## Rebuilding -/

/-- A pass without hooks, with one rule of its own for a kind of expression leaf or for tables, and
that rule a function of the node: it succeeds exactly if the function succeeds on every node of the
kind and every other node has a rule. The result is then the tree with these nodes replaced, the
locations of its composite nodes dropped, and nothing else changed; all nodes have been visited, in
the order of `Tree.nodes`. Otherwise it fails with the failure of the first node, in that order,
that has one. Shifting integers, appending to the names of tables, putting these in lower case after
any version of Unicode, and binding parameters are such passes. -/
theorem leaf_override_is_substitution :
    (∀ {σ ε : Type} (unsupported : UnsupportedKind → ε) (k : Kind),
        k ∈ Kind.replaceable → ∀ (f : Record Tree k.signature → Except ε (Tree k.category))
        (n : Node) (context : σ),
      let run := ((Pass.substituting unsupported (.only k f)).rebuild n).start context
      ((∃ m, run.1 = .ok m) ↔
        (∀ fields, ⟨k, fields⟩ ∈ n.tree.nodes → ∃ t, f fields = .ok t) ∧
          ∀ x ∈ n.tree.nodes, x.kind ≠ k → x.kind ∉ Kind.unruled) ∧
      run.2.context = context ∧
      match n.tree.nodes.findSome? ((Replacement.only k f).failure? unsupported) with
      | none => run = (.ok (n.substituted (.only k f)),
          (Progress.atRoot context n).reported n.tree.nodes)
      | some e => run.1 = .error e) ∧
    (∀ amount, Pass.shiftIntegers amount =
      .substituting id (.only .longLiteral (.ok ∘ Pass.mappedInteger (· + amount)))) ∧
    Pass.versionTables = .substituting id (.only .table (.ok ∘ Pass.mappedTable fun name =>
      .parse (name.text ++ "_v2"))) ∧
    (∀ unicode, Pass.lowercaseTables unicode =
      .substituting id (.only .table (.ok ∘ Pass.mappedTable fun name =>
        ⟨name.parts.map unicode.lowercase⟩))) ∧
    ∀ values, Pass.bindParameters values =
      .substituting .unsupported (.only .parameter (Pass.boundParameter values)) := by
  refine ⟨?_, fun _ => Pass.mapIntegers_eq_substituting _, Pass.mapTables_eq_substituting _,
    fun _ => Pass.mapTables_eq_substituting _, Pass.bindParameters_eq_substituting⟩
  intro σ ε unsupported k hk f n context run
  have hc := Replacement.only_childless (f := f) (Kind.childless_of_replaceable k hk)
  obtain ⟨kept, ends⟩ := Pass.substituting_start unsupported hc n context
  refine ⟨?_, kept, ends⟩
  rw [← Replacement.forall_failure?_only_eq_none_iff unsupported, ← List.findSome?_eq_none_iff]
  cases hf : n.tree.nodes.findSome? ((Replacement.only k f).failure? unsupported) with
  | none =>
    rw [hf] at ends
    exact ⟨fun _ => rfl, fun _ => ⟨_, congrArg Prod.fst ends⟩⟩
  | some e =>
    rw [hf] at ends
    have failed : run.1 = .error e := ends
    constructor
    · rintro ⟨m, hm⟩
      rw [failed] at hm
      cases hm
    · intro h
      cases h

/-- Of the two parameters in `NOT (?1) = ?0`, the first is bound to the second value, and the other,
once it asks for a third, fails the pass. -/
theorem bindParameters_of_comparison :
    let compared (position : UInt64) : Node :=
      ⟨Expression.comparison .equal (Expression.not (.parameter 1)) (.parameter position), rfl⟩
    let bound : Expression :=
      Expression.comparison .equal (Expression.not (.longLiteral 7)) (.longLiteral 5)
    let run (position : UInt64) :=
      ((Pass.bindParameters [5, 7]).rebuild (compared position)).start ()
    Kind.parameter ∈ Kind.replaceable ∧ (run 0).1 = .ok ⟨bound, rfl⟩ ∧
      (run 2).1 = .error (.unbound 2) := by
  intro compared bound run
  have replaceable : Kind.parameter ∈ Kind.replaceable := by decide
  obtain ⟨substitution, -, -, -, binds⟩ := leaf_override_is_substitution
  obtain ⟨-, -, success⟩ := substitution (σ := Unit) .unsupported .parameter replaceable
    (Pass.boundParameter [5, 7]) (compared 0) ()
  obtain ⟨-, -, failure⟩ := substitution (σ := Unit) .unsupported .parameter replaceable
    (Pass.boundParameter [5, 7]) (compared 2) ()
  rw [← binds] at success failure
  exact ⟨replaceable, congrArg Prod.fst success, failure⟩

end SqlTrees
