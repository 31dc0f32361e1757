import SqlTrees.Proofs.Rebuild.Fusion
import SqlTrees.Proofs.Rebuild.Identity
import SqlTrees.Tree.Statement

/-! # Binding parameters

* `Occurrence.unbound?`: how a node stops the binding of values to positions.
* `Replacement.binding`: the literals in the place of the parameters.
* `Pass.bindParameters_result`: the pass ends at the first node that stops it, and puts the literals
  in place if there is none.
* `binding_complete_and_monotone`: after it there is no parameter left and nothing that the identity
  pass would fail on or change, and more values change nothing.
-/

namespace SqlTrees
set_option autoImplicit false

/-! ## Parameters and their positions -/

namespace Occurrence
variable {values : List Int64} {x : Occurrence} {position : UInt64} {location : Location}

/-- The parameter at a position. -/
@[match_pattern]
def parameter (position : UInt64) (location : Location) : Occurrence :=
  ⟨.parameter, .cons (.atom position) <| .cons (.atom location) .nil⟩

theorem eq_parameter_or_ne (x : Occurrence) :
    (∃ position location, x = parameter position location) ∨ x.kind ≠ .parameter := by
  by_cases hk : x.kind = .parameter
  · obtain ⟨k, fields⟩ := x
    subst hk
    match fields with
    | .cons (.atom position) (.cons (.atom location) .nil) => exact .inl ⟨position, location, rfl⟩
  · exact .inr hk

/-- The position that a parameter asks for. -/
def position? : Occurrence → Option UInt64
  | parameter position _ => some position
  | _ => none

/-- How a node stops the binding of values to positions: a parameter by a position without a value,
any other node by its kind. -/
def unbound? (values : List Int64) (x : Occurrence) : Option BindError :=
  match x.position? with
  | some position => if position.toNat < values.length then none else some (.unbound position)
  | none => if x.kind ∈ Kind.unruled then some (.unsupported ⟨x.kind⟩) else none

theorem position?_of_ne (hx : x.kind ≠ .parameter) : x.position? = none := by
  obtain ⟨k, fields⟩ := x
  cases k <;> first | rfl | exact absurd rfl hx

theorem unbound?_parameter :
    (parameter position location).unbound? values =
      if position.toNat < values.length then none else some (.unbound position) := rfl

theorem unbound?_of_ne (hx : x.kind ≠ .parameter) :
    x.unbound? values =
      if x.kind ∈ Kind.unruled then some (.unsupported ⟨x.kind⟩) else none := by
  rw [unbound?, position?_of_ne hx]

theorem unbound?_parameter_eq_none_iff :
    (parameter position location).unbound? values = none ↔ position.toNat < values.length := by
  rw [unbound?_parameter]
  split <;> simp_all

theorem unbound?_eq_none_iff :
    x.unbound? values = none ↔
      (∀ position, x.position? = some position → position.toNat < values.length) ∧
        (x.kind ≠ .parameter → x.kind ∉ Kind.unruled) := by
  rcases x.eq_parameter_or_ne with ⟨position, location, rfl⟩ | hx
  · rw [unbound?_parameter_eq_none_iff]
    constructor
    · intro inRange
      refine ⟨?_, fun other => absurd rfl other⟩
      rintro _ ⟨⟩
      exact inRange
    · exact fun bound => bound.1 position rfl
  · simp [unbound?_of_ne hx, position?_of_ne hx, hx]

end Occurrence

/-! ## Literals in the place of parameters -/

theorem Pass.boundParameter_of_lt {values : List Int64} {position : UInt64}
    (inRange : position.toNat < values.length) (rest : Record Tree [("location", _)]) :
    boundParameter values (.cons (.atom position) rest) =
      .ok (Expression.longLiteral values[position.toNat]) := by
  simp [boundParameter, inRange]

namespace Replacement
variable {values : List Int64} {x : Occurrence}

/-- For each parameter the literal at its position. -/
abbrev binding (values : List Int64) : Replacement BindError :=
  only .parameter (Pass.boundParameter values)

/-- The same with zero at the positions without a value, so that nothing fails. -/
abbrev filling (values : List Int64) : Replacement BindError :=
  only .parameter fun
    | .cons (.atom position) _ => .ok (Expression.longLiteral (values.getD position.toNat 0))

theorem binding_of_ne {k : Kind} (hk : k ≠ .parameter) : binding values k = none :=
  only_of_ne hk

theorem failure?_binding (values : List Int64) :
    (binding values).failure? .unsupported = Occurrence.unbound? values := by
  funext x
  rcases x.eq_parameter_or_ne with ⟨position, location, rfl⟩ | hx
  · rw [Occurrence.unbound?_parameter]
    by_cases inRange : position.toNat < values.length
    · rw [if_pos inRange]
      exact (failure?_only_self_eq_none_iff _ _).2 ⟨_, Pass.boundParameter_of_lt inRange _⟩
    · rw [if_neg inRange]
      simp [failure?, only_self, Occurrence.parameter, Pass.boundParameter, inRange]
  · rw [Occurrence.unbound?_of_ne hx, failure?, binding_of_ne hx]

theorem binding_single : (binding values).Single where
  childless := only_childless rfl
  single k f hf fields t ht := by
    by_cases hk : k = .parameter
    · subst hk
      cases only_self.symm.trans hf
      match fields with
      | .cons (.atom position) _ =>
        by_cases inRange : position.toNat < values.length
        · rw [Pass.boundParameter_of_lt inRange] at ht
          cases ht
          rfl
        · simp [Pass.boundParameter, inRange] at ht
    · rw [binding_of_ne hk] at hf
      cases hf

theorem binding_agreeAt_append (more : List Int64) (hx : x.unbound? values = none) :
    (binding values).AgreeAt (binding (values ++ more)) x := by
  refine only_agreeAt fun fields same => ?_
  match fields with
  | .cons (.atom position) (.cons (.atom location) .nil) =>
    subst same
    have inRange := Occurrence.unbound?_parameter_eq_none_iff.1 hx
    have longer : position.toNat < (values ++ more).length := by
      rw [List.length_append]
      omega
    rw [Pass.boundParameter_of_lt inRange, Pass.boundParameter_of_lt longer,
      List.getElem_append_left inRange]

theorem binding_agreeAt_filling (hx : x.unbound? values = none) :
    (binding values).AgreeAt (filling values) x := by
  refine only_agreeAt fun fields same => ?_
  match fields with
  | .cons (.atom position) (.cons (.atom location) .nil) =>
    subst same
    have inRange := Occurrence.unbound?_parameter_eq_none_iff.1 hx
    rw [Pass.boundParameter_of_lt inRange]
    simp [inRange]

/-- There is nothing to clear after the literals have been put in place. -/
theorem filling_composes : (filling values).Composes (fun _ => none) (filling values) := by
  intro k fields
  by_cases hk : k = .parameter
  · subst hk
    match fields with
    | .cons (.atom position) (.cons (.atom location) .nil) => rfl
  · exact composes_of_none (only_of_ne hk) rfl (only_of_ne hk) _ _

theorem kind_replaced_binding (hx : x.unbound? values = none) :
    (x.replaced (binding values)).kind =
      if x.kind = .parameter then .longLiteral else x.kind := by
  rw [Occurrence.replaced]
  rcases x.eq_parameter_or_ne with ⟨position, location, rfl⟩ | hk
  · have inRange := Occurrence.unbound?_parameter_eq_none_iff.1 hx
    rw [Occurrence.parameter, put_of_some only_self (Pass.boundParameter_of_lt inRange _)]
    rfl
  · rw [put_of_none (binding_of_ne hk), if_neg hk]
    rfl

end Replacement

/-! ## The pass -/

namespace Pass

theorem bindParameters_result (values : List Int64) (n : Node) :
    (bindParameters values).result () n =
      match n.tree.nodes.findSome? (Occurrence.unbound? values) with
      | none => .ok (n.substituted (.binding values))
      | some e => .error e := by
  have childless : (Replacement.binding values).Childless := Replacement.binding_single.childless
  rw [bindParameters_eq_substituting, result_of_childless childless, Replacement.failure?_binding]
  cases n.tree.nodes.findSome? (Occurrence.unbound? values) <;> rfl

variable {values : List Int64} {n m : Node}

theorem bindParameters_eq_ok_iff :
    (bindParameters values).result () n = .ok m ↔
      (∀ x ∈ n.tree.nodes, x.unbound? values = none) ∧ m = n.substituted (.binding values) := by
  rw [bindParameters_result, ← List.findSome?_eq_none_iff]
  cases n.tree.nodes.findSome? (Occurrence.unbound? values) with
  | none => simp [eq_comm]
  | some e => simp

/-- The kinds of the result, as those of the tree with a literal for each parameter. -/
theorem kinds_bindParameters (hm : (bindParameters values).result () n = .ok m) :
    m.tree.kinds = n.tree.kinds.map fun k => if k = .parameter then .longLiteral else k := by
  obtain ⟨bound, rfl⟩ := bindParameters_eq_ok_iff.1 hm
  have single : (Replacement.binding values).Single := Replacement.binding_single
  have nodes := n.tree.nodes_substituted single
  rw [← Tree.map_kind_nodes, ← Tree.map_kind_nodes, List.map_map, Node.substituted, nodes,
    List.map_map]
  exact List.map_congr_left fun x hx => Replacement.kind_replaced_binding (bound x hx)

theorem cleared_of_bindParameters (hm : (bindParameters values).result () n = .ok m) :
    m.cleared = m := by
  obtain ⟨bound, rfl⟩ := bindParameters_eq_ok_iff.1 hm
  -- binding itself composes with nothing at a parameter that it fails on
  have composes : (Replacement.filling values).Composes _ _ := Replacement.filling_composes
  have settled := n.substituted_substituted composes
  rw [n.substituted_congr fun x hx => Replacement.binding_agreeAt_filling (bound x hx)]
  rwa [Node.substituted_eq_cleared _ fun _ _ => rfl] at settled

end Pass

/-- The pass succeeds exactly if there is a value at the position of every parameter and every other
node has a rule. Its result is the tree with each parameter replaced by the literal for it and the
locations of composite nodes dropped, without a parameter and as the identity pass leaves it; and
with more values it is the same. Otherwise the pass fails on the first node, in the order of
`Tree.nodes`, that stops it. -/
theorem binding_complete_and_monotone (values : List Int64) (n : Node) :
    ((∃ m, (Pass.bindParameters values).result () n = .ok m) ↔
      (∀ x ∈ n.tree.nodes, ∀ position, x.position? = some position →
        position.toNat < values.length) ∧
      ∀ k ∈ n.tree.kinds, k ≠ .parameter → k ∉ Kind.unruled) ∧
    (∀ e, (Pass.bindParameters values).result () n = .error e ↔
      n.tree.nodes.findSome? (Occurrence.unbound? values) = some e) ∧
    ∀ m, (Pass.bindParameters values).result () n = .ok m →
      m = n.substituted (.binding values) ∧
      .parameter ∉ m.tree.kinds ∧
      Pass.identity.result () m = .ok m ∧
      ∀ more, (Pass.bindParameters (values ++ more)).result () n = .ok m := by
  refine ⟨?success, ?failure, ?bound⟩
  case success =>
    rw [← n.tree.map_kind_nodes, List.forall_mem_map]
    simp only [Pass.bindParameters_eq_ok_iff, exists_and_left, exists_eq, and_true,
      Occurrence.unbound?_eq_none_iff, forall_and]
  case failure =>
    intro e
    rw [Pass.bindParameters_result]
    cases n.tree.nodes.findSome? (Occurrence.unbound? values) <;> simp
  case bound =>
    intro m hm
    obtain ⟨bound, placed⟩ := Pass.bindParameters_eq_ok_iff.1 hm
    have kinds := Pass.kinds_bindParameters hm
    have ruled : ∀ k ∈ m.tree.kinds, k ∉ Kind.unruled := by
      rw [kinds, ← n.tree.map_kind_nodes, List.map_map, List.forall_mem_map]
      intro x hx
      have own := (Occurrence.unbound?_eq_none_iff.1 (bound x hx)).2
      rw [Function.comp_apply]
      split
      · decide
      · next other => exact own other
    refine ⟨placed, fun hp => ruled _ hp (by decide), ?_, fun more => ?_⟩
    · exact (Pass.identity_eq_ok_iff m m).2 ⟨ruled, (Pass.cleared_of_bindParameters hm).symm⟩
    · refine Pass.bindParameters_eq_ok_iff.2 ⟨fun x hx => ?_, ?_⟩
      · obtain ⟨inRange, own⟩ := Occurrence.unbound?_eq_none_iff.1 (bound x hx)
        refine Occurrence.unbound?_eq_none_iff.2 ⟨fun position hp => ?_, own⟩
        have := inRange position hp
        rw [List.length_append]
        omega
      · rw [placed]
        exact n.substituted_congr fun x hx =>
          Replacement.binding_agreeAt_append more (bound x hx)

/-- The parameters of a row are bound, wherever they were parsed. Under `PREPARE` none is reached, and
it is the statement that the pass fails on. -/
theorem parameters_of_row_bound :
    let row (items : List Expression) : Node := ⟨Expression.row items, rfl⟩
    let n := row [.parameter 1 (some ⟨1, 2⟩), .not (.parameter 0)]
    let m := row [.longLiteral 7, .not (.longLiteral 5)]
    let prepared : Node :=
      ⟨Statement.prepare (.plain "p") (.setSession ⟨["s"]⟩ (.parameter 9)), rfl⟩
    (Pass.bindParameters [5, 7]).result () n = .ok m ∧ Pass.identity.result () m = .ok m ∧
      (Pass.bindParameters [5, 7, 9]).result () n = .ok m ∧
      (Pass.bindParameters [5, 7]).result () prepared = .error (.unsupported ⟨.prepare⟩) := by
  intro row n m prepared
  obtain ⟨-, -, bound⟩ := binding_complete_and_monotone [5, 7] n
  have hm : (Pass.bindParameters [5, 7]).result () n = .ok m := rfl
  obtain ⟨-, -, kept, more⟩ := bound m hm
  obtain ⟨-, failure, -⟩ := binding_complete_and_monotone [5, 7] prepared
  exact ⟨hm, kept, more [9], (failure _).2 rfl⟩

end SqlTrees
