import SqlTrees.Proofs.Grammar.Legible

/-! # Members that mark a node

A node can be recognised in a written tree by a member `location` of its own, and a join criteria,
which has none, by the member `criteria` that holds it. What the tables of kinds must satisfy for
that:

* `Kind.named_layout`, `Kind.location_mem`: every node but a join criteria is an object with its
  location among the members.
* `Signature.marksCriteria`: join criteria are children in an optional field of that name only, and
  no other field has the name; `Kind.marksCriteria_signature`: so it is for every kind.
* `Kind.tag_unmarked`, `Inclusion.tag_unmarked`, `Category.name_unmarked`: what a node is wrapped in
  has neither name.
-/

namespace SqlTrees
set_option autoImplicit false

/-- The names of the members that mark a node in a written tree. -/
def marks : List String := ["location", "criteria"]

/-- Whether the field has no join criteria for a child. -/
def FieldType.criteriaFree : FieldType → Bool
  | .atom _ => true
  | .child c => c ≠ .joinCriteria
  | .option τ | .list τ => τ.criteriaFree

/-- Whether join criteria are children in the field of their name only, and there is at most one. -/
def Signature.marksCriteria (s : Signature) : Bool :=
  s.all fun field =>
    if field.1 = "criteria" then field.2 = .option (.child .joinCriteria)
    else field.2.criteriaFree

theorem Signature.marksCriteria_cons {name : String} {τ : FieldType} {s : Signature}
    (h : Signature.marksCriteria ((name, τ) :: s) = true) :
    (if name = "criteria" then τ = .option (.child .joinCriteria) else τ.criteriaFree = true) ∧
      Signature.marksCriteria s = true := by
  rw [marksCriteria, List.all_cons, Bool.and_eq_true] at h
  refine ⟨?_, h.2⟩
  by_cases hn : name = "criteria"
  · simpa [hn] using h.1
  · simpa [hn] using h.1

namespace Kind

theorem marksCriteria_signature (k : Kind) : Signature.marksCriteria k.signature = true := by
  have h : all.all (fun k => Signature.marksCriteria k.signature) = true := by decide +kernel
  exact List.all_eq_true.1 h k (mem_all k)

/-- Only join criteria are written without the names of their fields. -/
theorem named_layout (k : Kind) : k.layout.named = decide (k.category ≠ .joinCriteria) := by
  cases k <;> rfl

/-- Every node but a join criteria has a location. -/
theorem location_mem (k : Kind) (h : k.category ≠ .joinCriteria) :
    "location" ∈ k.signature.map Prod.fst := by
  revert h
  cases k <;> decide

theorem criteriaFree_signature {k : Kind} (h : k.category = .joinCriteria) :
    (k.signature.all fun field => field.2.criteriaFree) = true := by
  revert h
  cases k <;> decide

theorem tag_unmarked {k : Kind} {tag : String} (h : k.layout.tag? = some tag) : tag ∉ marks := by
  have hall : all.all (fun k => k.layout.tag?.all fun tag => tag ∉ marks) = true := by
    decide +kernel
  have hk := List.all_eq_true.1 hall k (mem_all k)
  rw [h] at hk
  simpa using hk

end Kind

theorem Inclusion.tag_unmarked {a b : Category} (i : Inclusion a b) : i.tag ∉ marks := by
  cases i <;> decide

theorem Category.name_unmarked (c : Category) : c.name ∉ marks := by
  cases c <;> decide

end SqlTrees
