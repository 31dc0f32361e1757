import SqlTrees.Tree

/-! # Structural equality

Two trees are alike when they agree in everything but their locations, with doubles compared by
`Double.alike`. The comparison is between trees of any two categories; trees of different
categories differ in some kind or inclusion.
-/

namespace SqlTrees
set_option autoImplicit false

/-- Equality of atoms; a location never tells two trees apart. -/
def Atom.alike : (a : Atom) → a.Carrier → a.Carrier → Bool
  | .location, _, _ => true
  | .double, d, e => d.alike e
  | _, v, w => v = w

mutual

def Tree.alike : {a b : Category} → Tree a → Tree b → Bool
  | _, _, .node k _ fields, .node l _ others => k = l && fields.alike others
  | _, _, .inclusion i t, .inclusion j u => i.tag = j.tag && t.alike u
  | _, _, _, _ => false

def Record.alike : {r s : Signature} → Record Tree r → Record Tree s → Bool
  | _, _, .nil, .nil => true
  | _, _, .cons f r, .cons g s => f.alike g && r.alike s
  | _, _, _, _ => false

def Field.alike : {τ υ : FieldType} → Field Tree τ → Field Tree υ → Bool
  | .atom a, .atom b, .atom v, .atom w => if h : a = b then a.alike v (h ▸ w) else false
  | _, _, .child t, .child u => t.alike u
  | _, _, .none, .none => true
  | _, _, .some f, .some g => f.alike g
  | _, _, .nil, .nil => true
  | _, _, .cons f fs, .cons g gs => f.alike g && fs.alike gs
  | _, _, _, _ => false

end

/-- Structural equality of nodes: the same family and like trees. -/
def Node.alike (n m : Node) : Bool :=
  n.category = m.category && n.tree.alike m.tree

end SqlTrees
