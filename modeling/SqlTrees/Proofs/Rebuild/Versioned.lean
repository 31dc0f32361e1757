import SqlTrees.Proofs.Name.Dotted
import SqlTrees.Proofs.Rebuild.Fusion
import SqlTrees.Proofs.Rebuild.Identity

/-! # Versions of dotted names

* `QualifiedName.versioned`: the name with `_v2` at the end of its text.
* `QualifiedName.length_versioned_iff`, `QualifiedName.versioned_extends_iff`: an undotted name has
  `_v2` at the end of its last part then; any other name has another number of parts.
* `Pass.mapTables_tableNames`: what a pass on the tables does to the list of their names.
* `dotted_names_round_trip`: names and their texts, and what the pass that versions tables makes of
  that.
-/

namespace SqlTrees
set_option autoImplicit false

/-! ## The name with `_v2` at the end of its text -/

namespace QualifiedName
variable {front : List String} {last : String}

def versioned (q : QualifiedName) : QualifiedName :=
  .parse (q.text ++ "_v2")

theorem versioned_concat (front : List String) (last : String) :
    versioned ⟨front ++ [last]⟩ = .parse (text ⟨front ++ [last ++ "_v2"]⟩) := by
  rw [versioned, text_append]

theorem undotted_version_iff :
    Undotted ⟨front ++ [last ++ "_v2"]⟩ ↔ Undotted ⟨front ++ [last]⟩ :=
  undotted_append_iff (by decide)

/-- The name without a part has one afterwards. -/
theorem versioned_nil : versioned ⟨[]⟩ = ⟨["_v2"]⟩ := by
  cbv

theorem length_versioned_iff (q : QualifiedName) :
    q.versioned.parts.length = q.parts.length ↔ q.Undotted := by
  obtain ⟨parts⟩ := q
  rcases List.eq_nil_or_concat' parts with rfl | ⟨front, last, rfl⟩
  · rw [versioned_nil]
    simp [Undotted]
  · have counted := length_parse_text_iff ⟨front ++ [last ++ "_v2"]⟩ (by simp)
    rw [versioned_concat, ← undotted_version_iff, ← counted]
    simp

/-- Whether versioning a name does nothing but extend its last part. -/
theorem versioned_extends_iff (q : QualifiedName) :
    (∃ front last, q.parts = front ++ [last] ∧
      q.versioned.parts = front ++ [last ++ "_v2"]) ↔ q.Undotted := by
  constructor
  · rintro ⟨front, last, before, after⟩
    rw [← length_versioned_iff, before, after]
    simp
  · intro h
    obtain ⟨parts⟩ := q
    obtain ⟨front, last, rfl⟩ := (List.eq_nil_or_concat' parts).resolve_left h.1
    refine ⟨front, last, rfl, ?_⟩
    rw [versioned_concat, parse_text_of_undotted (undotted_version_iff.2 h)]

end QualifiedName

/-! ## The names of the tables -/

/-- The name of a table. -/
def Occurrence.tableName? : Occurrence → Option QualifiedName
  | ⟨.table, .cons (.atom name) _⟩ => some name
  | _ => none

/-- The names of the tables of a tree, a node before the nodes below it. -/
def Node.tableNames (n : Node) : List QualifiedName :=
  n.tree.nodes.filterMap Occurrence.tableName?

theorem Occurrence.tableName?_of_ne {x : Occurrence} (hx : x.kind ≠ .table) :
    x.tableName? = none := by
  obtain ⟨k, fields⟩ := x
  cases k <;> first | rfl | exact absurd rfl hx

section
variable {h : QualifiedName → QualifiedName}

/-- New names for the tables. -/
abbrev Replacement.mappingTables (h : QualifiedName → QualifiedName) : Replacement UnsupportedKind :=
  mapping none (some h)

theorem Replacement.mappingTables_relabels : (mappingTables h).Relabels :=
  mapping_relabels

theorem Occurrence.tableName?_replaced (x : Occurrence) :
    (x.replaced (.mappingTables h)).tableName? = x.tableName?.map h := by
  by_cases hx : x.kind = .table
  · obtain ⟨k, fields⟩ := x
    subst hx
    match fields with
    | .cons (.atom name) (.cons (.atom location) .nil) => rfl
  · have kind : (x.replaced (.mappingTables h)).kind = x.kind :=
      Replacement.mappingTables_relabels.kind_replaced x
    rw [tableName?_of_ne hx, tableName?_of_ne (kind ▸ hx)]
    rfl

theorem Node.tableNames_substituted (n : Node) :
    (n.substituted (.mappingTables h)).tableNames = n.tableNames.map h := by
  have single : (Replacement.mappingTables h).Single := Replacement.mappingTables_relabels.single
  have nodes := n.tree.nodes_substituted single
  rw [tableNames, substituted, nodes, tableNames, List.filterMap_map, List.map_filterMap]
  exact List.filterMap_congr fun x _ => x.tableName?_replaced

/-- The pass fails where the identity pass does; else each table has the new name for its name. -/
theorem Pass.mapTables_tableNames (n : Node) :
    ((mapTables h).result () n).map Node.tableNames =
      (identity.result () n).map fun _ => n.tableNames.map h := by
  have relabels : (Replacement.mappingTables h).Relabels := Replacement.mappingTables_relabels
  have same : identity.result () n = _ := identity_result n
  rw [mapTables_eq_mapping, result_substituting relabels, same]
  cases n.tree.kinds.find? (· ∈ Kind.unruled) with
  | none => exact congrArg Except.ok n.tableNames_substituted
  | some k => rfl

end

/-- A text cut at its dots has one part more than it has dots, ends in the part after its last dot,
and is the text of the name that it is cut into. A name is what its text is cut into exactly if it is
undotted. So the pass that versions tables, which goes by the text of their names, extends the last
part of an undotted name and nothing else; each other name it leaves with another number of parts. -/
theorem dotted_names_round_trip :
    (∀ s, (QualifiedName.parse s).text = s ∧
      (QualifiedName.parse s).parts.length = s.toList.count '.' + 1 ∧
      '.' ∉ (QualifiedName.parse s).suffix.toList ∧
      ((QualifiedName.parse s).suffix = s ∨
        ∃ before, s = before ++ "." ++ (QualifiedName.parse s).suffix)) ∧
    (∀ q : QualifiedName, .parse q.text = q ↔ q.Undotted) ∧
    (∀ n, (Pass.versionTables.result () n).map Node.tableNames =
      (Pass.identity.result () n).map fun _ => n.tableNames.map .versioned) ∧
    ∀ q : QualifiedName,
      ((∃ front last, q.parts = front ++ [last] ∧
        q.versioned.parts = front ++ [last ++ "_v2"]) ↔ q.Undotted) ∧
      (q.versioned.parts.length ≠ q.parts.length ↔ ¬ q.Undotted) :=
  ⟨fun s => ⟨QualifiedName.text_parse s, QualifiedName.length_parts_parse s,
      QualifiedName.suffix_parse s⟩,
    QualifiedName.parse_text_iff, Pass.mapTables_tableNames,
    fun q => ⟨q.versioned_extends_iff, not_congr q.length_versioned_iff⟩⟩

end SqlTrees
