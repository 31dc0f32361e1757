import SqlTrees.Passes.Restructure
import SqlTrees.Proofs.Tree.Reshaped
import SqlTrees.Proofs.Tree.Situated

/-! # Trees with renamed qualifiers

* `Occurrence.qualifiedBy`: the column references whose qualifier is an identifier of a given name.
* `Reshape.requalifying`: the qualifier `t` of every column reference becomes `u`.
* `Reshape.requalifying_composes`: done twice, that is done once.
* `Tree.qualifiedBy_requalified`: afterwards no reference is qualified by `t`.
* `Tree.filter_bareNames_requalified`: identifiers that qualify nothing, and tables, are where they
  were.
-/

namespace SqlTrees
set_option autoImplicit false

/-! ## Identifiers -/

namespace Expression

theorem eq_identifier_of_kind {e : Expression} (h : e.kind = .identifier) :
    ∃ value delimited location, e = identifier value delimited location := by
  match e with
  | .node k isA fields =>
    obtain rfl : k = .identifier := h
    match fields with
    | .cons (.atom value) (.cons (.atom delimited) (.cons (.atom location) .nil)) =>
      exact ⟨value, delimited, location, rfl⟩

theorem isIdentifier_of_kind_ne {e : Expression} (h : e.kind ≠ .identifier) (name : String) :
    isIdentifier name e = false := by
  match e with
  | .node k isA fields => cases k <;> first | rfl | exact absurd rfl h

theorem kind_of_isIdentifier {e : Expression} {name : String} (h : isIdentifier name e = true) :
    e.kind = .identifier := by
  by_cases hk : e.kind = .identifier
  · exact hk
  · rw [isIdentifier_of_kind_ne hk] at h
    cases h

theorem isIdentifier_cleared (name : String) (e : Expression) :
    isIdentifier name e.cleared = isIdentifier name e := by
  by_cases hk : e.kind = .identifier
  · obtain ⟨value, delimited, location, rfl⟩ := eq_identifier_of_kind hk
    rfl
  · rw [isIdentifier_of_kind_ne hk, isIdentifier_of_kind_ne]
    rwa [Tree.kind_cleared]

end Expression

/-- Whether a node is a column reference that an identifier of this name qualifies. -/
def Occurrence.qualifiedBy (name : String) : Occurrence → Bool
  | ⟨.dereference, .cons (.child base) _⟩ => Expression.isIdentifier name base
  | _ => false

theorem Occurrence.qualifiedBy_of_ne {x : Occurrence} (hx : x.kind ≠ .dereference)
    (name : String) : x.qualifiedBy name = false := by
  obtain ⟨k, fields⟩ := x
  cases k <;> first | rfl | exact absurd rfl hx

theorem Occurrence.kind_of_qualifiedBy {x : Occurrence} {name : String}
    (h : x.qualifiedBy name = true) : x.kind = .dereference := by
  by_cases hx : x.kind = .dereference
  · exact hx
  · rw [qualifiedBy_of_ne hx] at h
    cases h

/-! ## The change -/

/-- The qualifier that stands for a qualifier. -/
def Expression.requalifier (base : Expression) : Expression :=
  if isIdentifier "t" base then identifier "u" else base

/-- The qualifier `t` of a column reference becomes `u`, undelimited and without a location. -/
def Reshape.requalifying : Reshape
  | .dereference, .cons (.child base) rest => .cons (.child (Expression.requalifier base)) rest
  | _, fields => fields

/-- The node with `u` for the qualifier `t` in all its column references. -/
def Node.requalified (n : Node) : Node :=
  n.reshaped .requalifying

theorem Reshape.requalifying_changesOnly : requalifying.ChangesOnly .dereference := by
  intro k hk fields
  cases k <;> first | rfl | exact absurd rfl hk

namespace Expression

theorem requalifier_of_isIdentifier {base : Expression} (h : isIdentifier "t" base = true) :
    requalifier base = identifier "u" := if_pos h

theorem requalifier_of_not_isIdentifier {base : Expression} (h : isIdentifier "t" base = false) :
    requalifier base = base := if_neg (by simp [h])

theorem isIdentifier_requalifier (base : Expression) :
    isIdentifier "t" (requalifier base) = false := by
  cases h : isIdentifier "t" base with
  | true =>
    rw [requalifier_of_isIdentifier h]
    rfl
  | false => rw [requalifier_of_not_isIdentifier h, h]

theorem kinds_requalifier (base : Expression) : (requalifier base).kinds = base.kinds := by
  cases h : isIdentifier "t" base with
  | true =>
    obtain ⟨value, delimited, location, rfl⟩ := eq_identifier_of_kind (kind_of_isIdentifier h)
    rw [requalifier_of_isIdentifier h]
    rfl
  | false => rw [requalifier_of_not_isIdentifier h]

theorem cleared_requalifier (base : Expression) :
    (requalifier base).cleared = requalifier base.cleared := by
  have same := isIdentifier_cleared "t" base
  cases h : isIdentifier "t" base with
  | true =>
    rw [requalifier_of_isIdentifier h, requalifier_of_isIdentifier (same.trans h)]
    rfl
  | false => rw [requalifier_of_not_isIdentifier h, requalifier_of_not_isIdentifier (same.trans h)]

end Expression

namespace Reshape

theorem requalifying_ignoresLocations : requalifying.IgnoresLocations := by
  refine requalifying_changesOnly.ignoresLocations ?_
  intro fields
  match fields with
  | .cons (.child base) rest =>
    refine ⟨?_, rfl⟩
    change Record.cons (.child (Expression.requalifier base).cleared) rest.cleared = _
    rw [Expression.cleared_requalifier]
    rfl

theorem kinds_requalifying (fields : Record Tree Kind.dereference.signature) :
    (requalifying .dereference fields).kinds = fields.kinds := by
  match fields with
  | .cons (.child base) rest =>
    change (Expression.requalifier base).kinds ++ rest.kinds = base.kinds ++ rest.kinds
    rw [Expression.kinds_requalifier]

end Reshape

namespace Expression

theorem isIdentifier_requalified (name : String) (e : Expression) :
    isIdentifier name (e.reshaped .requalifying) = isIdentifier name e := by
  by_cases hk : e.kind = .identifier
  · obtain ⟨value, delimited, location, rfl⟩ := eq_identifier_of_kind hk
    rfl
  · rw [isIdentifier_of_kind_ne hk, isIdentifier_of_kind_ne]
    rwa [Tree.kind_reshaped]

theorem requalifier_requalified (base : Expression) :
    requalifier ((requalifier base).reshaped .requalifying) =
      requalifier (base.reshaped .requalifying) := by
  have same := isIdentifier_requalified "t" base
  cases h : isIdentifier "t" base with
  | true =>
    rw [requalifier_of_isIdentifier h, requalifier_of_isIdentifier (same.trans h)]
    rfl
  | false => rw [requalifier_of_not_isIdentifier h]

end Expression

theorem Reshape.requalifying_composes : requalifying.Composes requalifying requalifying := by
  have only := requalifying_changesOnly
  refine only.composes only only ?_
  intro fields
  match fields with
  | .cons (.child base) rest =>
    change Record.cons (.child (Expression.requalifier
      ((Expression.requalifier base).reshaped requalifying))) (rest.reshaped requalifying) = _
    rw [Expression.requalifier_requalified]
    rfl

/-! ## No reference to `t` is left -/

theorem Reshape.qualifiedBy_requalifying {k : Kind} {fields : Record Tree k.signature}
    (below : ∀ x ∈ fields.nodes, x.qualifiedBy "t" = false) :
    Occurrence.qualifiedBy "t" ⟨k, requalifying k fields⟩ = false ∧
      ∀ x ∈ (requalifying k fields).nodes, x.qualifiedBy "t" = false := by
  by_cases hk : k = .dereference
  · subst hk
    match fields with
    | .cons (.child base) rest =>
      refine ⟨Expression.isIdentifier_requalifier base, ?_⟩
      rw [Record.nodes, List.forall_mem_append] at below
      change ∀ x ∈ (Expression.requalifier base).nodes ++ rest.nodes, x.qualifiedBy "t" = false
      refine List.forall_mem_append.2 ⟨?_, below.2⟩
      cases h : Expression.isIdentifier "t" base with
      | true =>
        rw [Expression.requalifier_of_isIdentifier h]
        exact List.forall_mem_singleton.2 rfl
      | false =>
        rw [Expression.requalifier_of_not_isIdentifier h]
        exact below.1
  · rw [requalifying_changesOnly k hk]
    exact ⟨Occurrence.qualifiedBy_of_ne hk "t", below⟩

mutual

theorem Tree.qualifiedBy_requalified : {c : Category} → (t : Tree c) →
    ∀ x ∈ (t.reshaped .requalifying).nodes, x.qualifiedBy "t" = false
  | _, .node k _ fields => by
    rw [Tree.reshaped, Tree.nodes]
    exact List.forall_mem_cons.2 (Reshape.qualifiedBy_requalifying fields.qualifiedBy_requalified)
  | _, .inclusion _ t => by
    rw [Tree.reshaped, Tree.nodes]
    exact t.qualifiedBy_requalified

theorem Record.qualifiedBy_requalified : {s : Signature} → (r : Record Tree s) →
    ∀ x ∈ (r.reshaped .requalifying).nodes, x.qualifiedBy "t" = false
  | _, .nil => List.forall_mem_nil _
  | _, .cons f r => by
    rw [Record.reshaped, Record.nodes]
    exact List.forall_mem_append.2 ⟨f.qualifiedBy_requalified, r.qualifiedBy_requalified⟩

theorem Field.qualifiedBy_requalified : {τ : FieldType} → (f : Field Tree τ) →
    ∀ x ∈ (f.reshaped .requalifying).nodes, x.qualifiedBy "t" = false
  | _, .atom _ => List.forall_mem_nil _
  | _, .child t => by
    rw [Field.reshaped, Field.nodes]
    exact t.qualifiedBy_requalified
  | _, .none => List.forall_mem_nil _
  | _, .some f => by
    rw [Field.reshaped, Field.nodes]
    exact f.qualifiedBy_requalified
  | _, .nil => List.forall_mem_nil _
  | _, .cons f fs => by
    rw [Field.reshaped, Field.nodes]
    exact List.forall_mem_append.2 ⟨f.qualifiedBy_requalified, fs.qualifiedBy_requalified⟩

end

/-! ## Other identifiers and tables stay -/

namespace Situated

/-- A table, or an identifier that is not the base of a dereference. -/
def isBareName (x : Situated) : Bool :=
  x.node.kind = .table || (x.node.kind = .identifier && x.above.getLast? ≠ some .dereference)

theorem isBareName_under (k : Kind) {x : Situated}
    (h : k ≠ .dereference ∨ x.above ≠ [] ∨ x.node.kind ≠ .identifier) :
    (x.under k).isBareName = x.isBareName := by
  obtain ⟨above, node⟩ := x
  change isBareName ⟨k :: above, node⟩ = _
  cases above with
  | nil =>
    rcases h with hk | hx | hx
    · simp [isBareName, hk]
    · exact absurd rfl hx
    · simp [isBareName, show node.kind ≠ .identifier from hx]
  | cons l above => simp only [isBareName, List.getLast?_cons_cons]

/-- Bare names stay bare below a node that is not a dereference, and below a dereference unless
they are its base. -/
theorem filter_isBareName_under (k : Kind) {xs : List Situated}
    (h : ∀ x ∈ xs, k ≠ .dereference ∨ x.above ≠ [] ∨ x.node.kind ≠ .identifier) :
    (xs.map (.under k)).filter isBareName = (xs.filter isBareName).map (.under k) := by
  rw [List.filter_map]
  congr 1
  exact List.filter_congr fun x hx => isBareName_under k (h x hx)

end Situated

/-- Only the root stands below nothing. -/
theorem Tree.above_situated : {c : Category} → (t : Tree c) →
    ∀ x ∈ t.situated, x.above ≠ [] ∨ x.node.kind = t.kind
  | _, .node k _ fields => by
    rw [Tree.situated]
    refine List.forall_mem_cons.2 ⟨.inr rfl, List.forall_mem_map.2 fun y _ => .inl ?_⟩
    exact List.cons_ne_nil _ _
  | _, .inclusion _ t => t.above_situated

theorem Expression.filter_isBareName_requalifier (base : Expression)
    (ih : (base.reshaped .requalifying).situated.filter Situated.isBareName =
      base.situated.filter Situated.isBareName) :
    ((requalifier (base.reshaped .requalifying)).situated.map (.under .dereference)).filter
        Situated.isBareName =
      (base.situated.map (.under .dereference)).filter Situated.isBareName := by
  by_cases hk : base.kind = .identifier
  · -- as the base of a dereference, neither `t` nor the `u` for it is a bare name
    obtain ⟨value, delimited, location, rfl⟩ := eq_identifier_of_kind hk
    cases h : isIdentifier "t" (identifier value delimited location) with
    | true =>
      rw [requalifier_of_isIdentifier ((isIdentifier_requalified "t" _).trans h)]
      rfl
    | false =>
      rw [requalifier_of_not_isIdentifier ((isIdentifier_requalified "t" _).trans h)]
      rfl
  · have hr : (base.reshaped .requalifying).kind ≠ .identifier := by rwa [Tree.kind_reshaped]
    have inside {e : Expression} (he : e.kind ≠ .identifier) : ∀ x ∈ e.situated,
        Kind.dereference ≠ .dereference ∨ x.above ≠ [] ∨ x.node.kind ≠ .identifier := by
      intro x hx
      rcases e.above_situated x hx with deep | root
      · exact .inr (.inl deep)
      · exact .inr (.inr (root ▸ he))
    rw [requalifier_of_not_isIdentifier (isIdentifier_of_kind_ne hr "t"),
      Situated.filter_isBareName_under _ (inside hr), Situated.filter_isBareName_under _ (inside hk),
      ih]

theorem Reshape.filter_isBareName_requalifying (k : Kind) (fields : Record Tree k.signature)
    (ih : (fields.reshaped requalifying).situated.filter Situated.isBareName =
      fields.situated.filter Situated.isBareName) :
    ((⟨[], k, requalifying k (fields.reshaped requalifying)⟩ : Situated) ::
        (requalifying k (fields.reshaped requalifying)).situated.map (.under k)).filter
        Situated.isBareName =
      ((⟨[], k, fields⟩ : Situated) :: fields.situated.map (.under k)).filter
        Situated.isBareName := by
  by_cases hk : k = .dereference
  · subst hk
    match fields, ih with
    | .cons (.child base) (.cons (.atom field) (.cons (.atom location) .nil)), ih =>
      have below (e : Expression) : (Record.cons (.child e) (.cons (.atom field)
          (.cons (.atom location) .nil)) : Record Tree Kind.dereference.signature).situated =
          e.situated := by
        simp [Record.situated, Field.situated]
      have ih : (base.reshaped requalifying).situated.filter Situated.isBareName =
          base.situated.filter Situated.isBareName := by
        rw [← below, ← below base]
        exact ih
      rw [List.filter_cons_of_neg (by simp [Situated.isBareName]),
        List.filter_cons_of_neg (by simp [Situated.isBareName]), below]
      change ((Record.cons (.child (Expression.requalifier (base.reshaped requalifying)))
        (.cons (.atom field) (.cons (.atom location) .nil)) :
          Record Tree Kind.dereference.signature).situated.map _).filter _ = _
      rw [below, Expression.filter_isBareName_requalifier base ih]
  · have other {xs : List Situated} : ∀ x ∈ xs,
        k ≠ .dereference ∨ x.above ≠ [] ∨ x.node.kind ≠ .identifier := fun _ _ => .inl hk
    rw [requalifying_changesOnly k hk, List.filter_cons, List.filter_cons,
      Situated.filter_isBareName_under k other, Situated.filter_isBareName_under k other, ih]
    by_cases bare : k = .table ∨ k = .identifier
    · have childless : Signature.childless k.signature = true := by
        rcases bare with rfl | rfl <;> decide
      rw [fields.reshaped_of_childless childless]
    · have plain (fields : Record Tree k.signature) :
          ¬ (⟨[], k, fields⟩ : Situated).isBareName = true := by
        simpa [Situated.isBareName] using bare
      rw [if_neg (plain _), if_neg (plain _)]

mutual

theorem Tree.filter_bareNames_requalified : {c : Category} → (t : Tree c) →
    (t.reshaped .requalifying).situated.filter Situated.isBareName =
      t.situated.filter Situated.isBareName
  | _, .node k _ fields => by
    rw [Tree.reshaped, Tree.situated, Tree.situated]
    exact Reshape.filter_isBareName_requalifying k fields fields.filter_bareNames_requalified
  | _, .inclusion _ t => by
    rw [Tree.reshaped, Tree.situated, t.filter_bareNames_requalified, Tree.situated]

theorem Record.filter_bareNames_requalified : {s : Signature} → (r : Record Tree s) →
    (r.reshaped .requalifying).situated.filter Situated.isBareName =
      r.situated.filter Situated.isBareName
  | _, .nil => rfl
  | _, .cons f r => by
    rw [Record.reshaped, Record.situated, Record.situated, List.filter_append, List.filter_append,
      f.filter_bareNames_requalified, r.filter_bareNames_requalified]

theorem Field.filter_bareNames_requalified : {τ : FieldType} → (f : Field Tree τ) →
    (f.reshaped .requalifying).situated.filter Situated.isBareName =
      f.situated.filter Situated.isBareName
  | _, .atom _ => rfl
  | _, .child t => by
    rw [Field.reshaped, Field.situated, t.filter_bareNames_requalified, Field.situated]
  | _, .none => rfl
  | _, .some f => by
    rw [Field.reshaped, Field.situated, f.filter_bareNames_requalified, Field.situated]
  | _, .nil => rfl
  | _, .cons f fs => by
    rw [Field.reshaped, Field.situated, Field.situated, List.filter_append, List.filter_append,
      f.filter_bareNames_requalified, fs.filter_bareNames_requalified]

end

end SqlTrees
