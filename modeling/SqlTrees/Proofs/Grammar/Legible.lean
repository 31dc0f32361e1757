import SqlTrees.Format.Read

/-! # Written forms that can be told apart

What the tables of kinds must satisfy for a written tree to be read back:

* `FieldType.solid`: no content of the field is written as null.
* `FieldType.legible`: wherever a field is optional, what it may hold is solid.
* `Signature.legible`: fields of different names, all legible; `Kind.legible_signature`: every kind
  has such a signature.
* `Layout.fits`: the layout writes enough of the signature; `Kind.fits_signature`: every kind's does.
* `Layout.named`: the layout writes the names of the fields too.
* `Kind.found`, `Inclusion.found`: a kind is the only one in its category that is written bare, or
  the only one with its tag, and no inclusion has that tag.
-/

namespace SqlTrees
set_option autoImplicit false

/-! ## Fields -/

/-- Whether every content of the field is written as something other than null. -/
def FieldType.solid : FieldType → Bool
  | .atom .location | .atom .double | .option _ => false
  | _ => true

/-- Whether an absent option can be told from a present one everywhere in the field. -/
def FieldType.legible : FieldType → Bool
  | .atom _ | .child _ => true
  | .option τ => τ.solid && τ.legible
  | .list τ => τ.legible

/-- Whether the fields have different names and are legible. -/
def Signature.legible : Signature → Bool
  | [] => true
  | (name, τ) :: s => τ.legible && !(s.map Prod.fst).contains name && Signature.legible s

theorem Signature.legible_cons {name : String} {τ : FieldType} {s : Signature}
    (h : Signature.legible ((name, τ) :: s) = true) :
    τ.legible = true ∧ name ∉ s.map Prod.fst ∧ Signature.legible s = true := by
  simpa [Signature.legible, and_assoc] using h

theorem Kind.legible_signature (k : Kind) : Signature.legible k.signature = true := by
  have h : all.all (fun k => Signature.legible k.signature) = true := by decide +kernel
  exact List.all_eq_true.1 h k (mem_all k)

/-- Whether a layout can hold the fields of a signature without their names: a payload holds one, a
word holds none. -/
def Layout.fits : Layout → Signature → Bool
  | .bare, _ | .tagged _, _ | .payload _, [_] | .unit _, [] => true
  | _, _ => false

theorem Kind.fits_signature (k : Kind) : k.layout.fits k.signature = true := by
  cases k <;> rfl

/-- Whether the fields are written under their names, as the members of an object. -/
def Layout.named : Layout → Bool
  | .bare | .tagged _ => true
  | .payload _ | .unit _ => false

/-! ## Kinds and inclusions -/

/-- Whether the reader's search of a category finds the kind again. -/
def Kind.found (k : Kind) : Bool :=
  match k.layout.tag? with
  | none => k.category.bareKind? = some k
  | some tag =>
    k.category.bareKind?.isNone && (Inclusion.ofTag? k.category tag).isNone &&
      k.category.taggedKind? tag = some k

theorem Kind.found_eq_true (k : Kind) : k.found = true := by
  have h : all.all found = true := by decide +kernel
  exact List.all_eq_true.1 h k (mem_all k)

theorem Kind.bareKind?_of_bare {k : Kind} (h : k.layout = .bare) :
    k.category.bareKind? = some k := by
  simpa [found, h, Layout.tag?] using k.found_eq_true

theorem Kind.search_of_tag {k : Kind} {tag : String} (h : k.layout.tag? = some tag) :
    k.category.bareKind? = none ∧ Inclusion.ofTag? k.category tag = none ∧
      k.category.taggedKind? tag = some k := by
  simpa [found, h, and_assoc] using k.found_eq_true

theorem Inclusion.search {a b : Category} (i : Inclusion a b) :
    b.bareKind? = none ∧ Inclusion.ofTag? b i.tag = some ⟨a, i⟩ := by
  cases i <;> exact ⟨by decide +kernel, rfl⟩

end SqlTrees
