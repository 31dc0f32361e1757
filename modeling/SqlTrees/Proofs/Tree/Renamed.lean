import SqlTrees.Proofs.Tree.Normal
import SqlTrees.Proofs.Tree.Reshaped

/-! # Trees with new names for their tables

* `Reshape.newNames`: new names for tables and for the tables that `SHOW COLUMNS` asks about.
* `Node.shownNames`: the names that `SHOW COLUMNS` asks about.
* `Node.alike_renamed_iff`: two changes of names that agree on tables come to like trees exactly if
  they agree on these names.
-/

namespace SqlTrees
set_option autoImplicit false

/-- The name of the table whose columns a node shows. -/
def Occurrence.shown? : Occurrence → Option QualifiedName
  | ⟨.showColumns, .cons (.atom name) _⟩ => some name
  | _ => none

theorem Occurrence.shown?_of_ne {x : Occurrence} (hx : x.kind ≠ .showColumns) :
    x.shown? = none := by
  obtain ⟨k, fields⟩ := x
  cases k <;> first | rfl | exact absurd rfl hx

/-! ## Changes of names -/

/-- New names for tables, and for the tables whose columns are shown. -/
def Reshape.newNames (tables shown : QualifiedName → QualifiedName) : Reshape
  | .table, .cons (.atom name) rest => .cons (.atom (tables name)) rest
  | .showColumns, .cons (.atom name) rest => .cons (.atom (shown name)) rest
  | _, fields => fields

/-- The node with new names for tables, and for the tables whose columns are shown. -/
def Node.renamed (tables shown : QualifiedName → QualifiedName) (n : Node) : Node :=
  n.reshaped (.newNames tables shown)

section
variable {tables shown shown' : QualifiedName → QualifiedName} {k : Kind}

theorem Reshape.newNames_of_ne (ht : k ≠ .table) (hs : k ≠ .showColumns)
    (fields : Record Tree k.signature) : newNames tables shown k fields = fields := by
  cases k <;> first | rfl | exact absurd rfl ht | exact absurd rfl hs

theorem Reshape.alike_newNames_iff (fields : Record Tree k.signature)
    (ih : (fields.reshaped (newNames tables shown)).alike
        (fields.reshaped (newNames tables shown')) = true ↔
      ∀ x ∈ fields.nodes, ∀ name, x.shown? = some name → shown name = shown' name) :
    (newNames tables shown k (fields.reshaped (newNames tables shown))).alike
        (newNames tables shown' k (fields.reshaped (newNames tables shown'))) = true ↔
      ∀ x ∈ (⟨k, fields⟩ : Occurrence) :: fields.nodes, ∀ name, x.shown? = some name →
        shown name = shown' name := by
  rw [List.forall_mem_cons]
  by_cases hs : k = .showColumns
  · subst hs
    match fields with
    | .cons (.atom name) (.cons (.atom location) .nil) =>
      change (decide (shown name = shown' name) && _) = true ↔ _
      rw [Bool.and_eq_true, decide_eq_true_iff]
      constructor
      · rintro ⟨same, -⟩
        refine ⟨?_, List.forall_mem_nil _⟩
        rintro _ ⟨⟩
        exact same
      · rintro ⟨same, -⟩
        exact ⟨same name rfl, rfl⟩
  · rw [Occurrence.shown?_of_ne hs]
    by_cases ht : k = .table
    · subst ht
      match fields with
      | .cons (.atom name) (.cons (.atom location) .nil) =>
        refine iff_of_true ((Record.alike_iff _ _).2 rfl) ⟨?_, List.forall_mem_nil _⟩
        exact nofun
    · rw [newNames_of_ne ht hs, newNames_of_ne ht hs, ih]
      exact (and_iff_right nofun).symm

mutual

theorem Tree.alike_renamed_iff : {c : Category} → (t : Tree c) →
    ((t.reshaped (.newNames tables shown)).alike (t.reshaped (.newNames tables shown')) = true ↔
      ∀ x ∈ t.nodes, ∀ name, x.shown? = some name → shown name = shown' name)
  | _, .node k _ fields => by
    rw [Tree.reshaped, Tree.reshaped, Tree.alike_node, Tree.nodes]
    exact Reshape.alike_newNames_iff fields fields.alike_renamed_iff
  | _, .inclusion _ t => by
    rw [Tree.reshaped, Tree.reshaped, Tree.alike_inclusion, t.alike_renamed_iff, Tree.nodes]

theorem Record.alike_renamed_iff : {s : Signature} → (r : Record Tree s) →
    ((r.reshaped (.newNames tables shown)).alike (r.reshaped (.newNames tables shown')) = true ↔
      ∀ x ∈ r.nodes, ∀ name, x.shown? = some name → shown name = shown' name)
  | _, .nil => iff_of_true rfl (List.forall_mem_nil _)
  | _, .cons f r => by
    rw [Record.reshaped, Record.reshaped, Record.alike_cons, Bool.and_eq_true,
      f.alike_renamed_iff, r.alike_renamed_iff, Record.nodes, List.forall_mem_append]

theorem Field.alike_renamed_iff : {τ : FieldType} → (f : Field Tree τ) →
    ((f.reshaped (.newNames tables shown)).alike (f.reshaped (.newNames tables shown')) = true ↔
      ∀ x ∈ f.nodes, ∀ name, x.shown? = some name → shown name = shown' name)
  | .atom a, .atom v => by
    refine iff_of_true ?_ (List.forall_mem_nil _)
    rw [Field.reshaped, Field.reshaped, Field.alike_atom, a.alike_refl]
  | _, .child t => by
    rw [Field.reshaped, Field.reshaped, Field.alike_child, t.alike_renamed_iff, Field.nodes]
  | _, .none => iff_of_true rfl (List.forall_mem_nil _)
  | _, .some f => by
    rw [Field.reshaped, Field.reshaped, Field.alike_some, f.alike_renamed_iff, Field.nodes]
  | _, .nil => iff_of_true rfl (List.forall_mem_nil _)
  | _, .cons f fs => by
    rw [Field.reshaped, Field.reshaped, Field.alike_cons, Bool.and_eq_true,
      f.alike_renamed_iff, fs.alike_renamed_iff, Field.nodes, List.forall_mem_append]

end

end

namespace Node

/-- The names of the tables whose columns are shown anywhere in a node. -/
def shownNames (n : Node) : List QualifiedName :=
  n.tree.nodes.filterMap Occurrence.shown?

theorem alike_renamed_iff (n : Node) (tables shown shown' : QualifiedName → QualifiedName) :
    (n.renamed tables shown).alike (n.renamed tables shown') = true ↔
      ∀ name ∈ n.shownNames, shown name = shown' name := by
  rw [renamed, renamed, reshaped, reshaped, alike_mk, n.tree.alike_renamed_iff]
  constructor
  · intro h name hname
    obtain ⟨x, hx, shows⟩ := List.mem_filterMap.1 hname
    exact h x hx name shows
  · intro h x hx name shows
    exact h name (List.mem_filterMap.2 ⟨x, hx, shows⟩)

end Node

end SqlTrees
