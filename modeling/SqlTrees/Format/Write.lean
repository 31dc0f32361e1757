import SqlTrees.Format.Scalar
import SqlTrees.Tree

/-! # Trees as JSON

A node is written as its kind's layout says: the bare record of its fields, or the record or only
field under a tag, or a word. An included tree stands under the tag of the inclusion. Every field is
written, absent ones as null.
-/

namespace SqlTrees
set_option autoImplicit false

/-- The written form of a node, given those of its fields. -/
def Layout.wrap : Layout → List (String × Json) → Json
  | .bare, members => .obj members
  | .tagged tag, members => .obj [(tag, .obj members)]
  | .payload tag, [(_, content)] => .obj [(tag, content)]
  | .payload tag, members => .obj [(tag, .obj members)]
  | .unit tag, _ => .str tag

mutual

def Tree.toJson : {c : Category} → Tree c → Json
  | _, .node k _ fields => k.layout.wrap fields.toMembers
  | _, .inclusion i t => .obj [(i.tag, t.toJson)]

/-- The members of an object over a record. -/
def Record.toMembers : {s : Signature} → Record Tree s → List (String × Json)
  | _, .nil => []
  | (name, _) :: _, .cons content rest => (name, content.toJson) :: rest.toMembers

def Field.toJson : {τ : FieldType} → Field Tree τ → Json
  | .atom a, .atom v => a.encode v
  | _, .child t => t.toJson
  | _, .none => .null
  | _, .some f => f.toJson
  | _, .nil => .arr []
  | _, .cons f fs => .arr (f.toJson :: fs.toItems)

/-- The items of an array over a repeated field; no other field has items. -/
def Field.toItems : {τ : FieldType} → Field Tree τ → List Json
  | _, .cons f fs => f.toJson :: fs.toItems
  | _, _ => []

end

/-- A node stands under the name of its family. -/
def Node.toJson (n : Node) : Json :=
  .obj [(n.category.name, n.tree.toJson)]

end SqlTrees
