import SqlTrees.Grammar.Kind

/-! # How the kinds are treated

Which kinds the standard rules copy and which they reject, as lists of their own:

* `Kind.leaves`: the twelve kinds that are copied with their location.
* `Kind.unruled`: the twenty-one kinds that no standard rule rebuilds.
* `Kind.treatment_eq_leaf_iff`, `Kind.treatment_eq_unsupported_iff`: the table of treatments says
  the same.
* `Kind.childless_of_mem_leaves`: a leaf has no field that could hold a child.
-/

namespace SqlTrees
set_option autoImplicit false

/-! ## Leaves and kinds without a rule -/

namespace Kind

/-- Identifiers, literals and readings of the clock. -/
def leaves : List Kind :=
  [.identifier, .longLiteral, .doubleLiteral, .decimalLiteral, .stringLiteral, .booleanLiteral,
    .nullLiteral, .genericLiteral, .timeLiteral, .timestampLiteral, .intervalLiteral, .currentTime]

/-- Parameters, field references and the administrative statements. -/
def unruled : List Kind :=
  [.parameter, .fieldReference, .prepare, .execute, .deallocate, .grant, .revoke, .createSchema,
    .dropSchema, .dropTable, .dropView, .renameTable, .useSchema, .showTables, .showSchemas,
    .showCatalogs, .showSession, .showFunctions, .resetSession, .commit, .rollback]

theorem treatment_eq_leaf_iff (k : Kind) : k.treatment = .leaf ↔ k ∈ leaves := by
  cases k <;> decide

theorem treatment_eq_unsupported_iff (k : Kind) : k.treatment = .unsupported ↔ k ∈ unruled := by
  cases k <;> decide

theorem treatment_eq_composite {k : Kind} (hl : k ∉ leaves) (hu : k ∉ unruled) :
    k.treatment = .composite := by
  rw [← treatment_eq_leaf_iff] at hl
  rw [← treatment_eq_unsupported_iff] at hu
  cases h : k.treatment with
  | leaf => exact absurd h hl
  | composite => rfl
  | unsupported => exact absurd h hu

end Kind

/-! ## Fields without children -/

/-- Whether a field of this type holds no child, whatever its content. -/
def FieldType.childless : FieldType → Bool
  | .atom _ => true
  | .child _ => false
  | .option τ | .list τ => τ.childless

/-- Whether no field of a signature can hold a child. -/
def Signature.childless (s : Signature) : Bool :=
  s.all fun field => field.2.childless

theorem Signature.childless_cons {name : String} {τ : FieldType} {s : Signature}
    (h : Signature.childless ((name, τ) :: s) = true) :
    τ.childless = true ∧ Signature.childless s = true := by
  simpa only [childless, List.all_cons, Bool.and_eq_true] using h

theorem Kind.childless_of_mem_leaves {k : Kind} (h : k ∈ leaves) :
    Signature.childless k.signature = true := by
  revert h
  cases k <;> decide

end SqlTrees
