import Mathlib.Logic.Function.Basic
import SqlTrees.Proofs.Tree.Alike

/-! # Normal forms under structural equality

* `Double.normal_eq_iff`: one NaN stands for all of them, and every other double for itself.
* `Tree.normal`: the tree without any location and with one NaN for all.
* `Tree.alike_iff`, `Node.alike_iff`: two trees are alike exactly if their normal forms are the same
  tree.
* `Tree.alike_equivalence`, `Node.alike_equivalence`: structural equality is an equivalence
  relation.

An induction over trees comes in three statements at once, for a tree, a record and a field.
-/

namespace SqlTrees
set_option autoImplicit false

/-! ## Doubles -/

namespace Double

theorem isNaN_canonicalNaN : canonicalNaN.isNaN = true := by decide

theorem normal_eq_iff (d e : Double) :
    d.normal = e.normal ↔ d = e ∨ d.isNaN = true ∧ e.isNaN = true := by
  unfold normal
  by_cases hd : d.isNaN = true <;> by_cases he : e.isNaN = true
  · simp [hd, he]
  · have hne : canonicalNaN ≠ e := by
      rintro rfl
      exact he isNaN_canonicalNaN
    have hde : d ≠ e := by
      rintro rfl
      exact he hd
    simp [hd, he, hne, hde]
  · have hne : d ≠ canonicalNaN := by
      rintro rfl
      exact hd isNaN_canonicalNaN
    have hde : d ≠ e := by
      rintro rfl
      exact hd he
    simp [hd, he, hne, hde]
  · simp [hd, he]

theorem alike_iff (d e : Double) : d.alike e = true ↔ d.normal = e.normal := by
  have bits : d.bits = e.bits ↔ d = e := by
    cases d
    cases e
    simp
  simp only [alike, Bool.or_eq_true, Bool.and_eq_true, beq_iff_eq, bits, normal_eq_iff, or_comm]

/-- Zero and negative zero are told apart. -/
example : (⟨0⟩ : Double).alike ⟨0x8000000000000000⟩ = false := by decide

end Double

/-! ## Trees -/

/-- The value of an atom, less what structural equality does not see. -/
def Atom.normal : (a : Atom) → a.Carrier → a.Carrier
  | .location, _ => none
  | .double, d => d.normal
  | _, v => v

mutual

/-- The tree without any location and with one NaN for all. -/
def Tree.normal : {c : Category} → Tree c → Tree c
  | _, .node k isA fields => .node k isA fields.normal
  | _, .inclusion i t => .inclusion i t.normal

def Record.normal : {s : Signature} → Record Tree s → Record Tree s
  | _, .nil => .nil
  | _, .cons f r => .cons f.normal r.normal

def Field.normal : {τ : FieldType} → Field Tree τ → Field Tree τ
  | .atom a, .atom v => .atom (a.normal v)
  | _, .child t => .child t.normal
  | _, .none => .none
  | _, .some f => .some f.normal
  | _, .nil => .nil
  | _, .cons f fs => .cons f.normal fs.normal

end

/-- The node without any location and with one NaN for all. -/
def Node.normal (n : Node) : Node :=
  { n with tree := n.tree.normal }

/-! ## Alike trees have one normal form -/

theorem Atom.alike_iff (a : Atom) (v w : a.Carrier) :
    a.alike v w = true ↔ a.normal v = a.normal w := by
  cases a with
  | location => exact ⟨fun _ => rfl, fun _ => rfl⟩
  | double => exact Double.alike_iff v w
  | _ => exact decide_eq_true_iff

/-- An inclusion into a category is known by its tag. -/
theorem Inclusion.tag_eq_iff {a b c : Category} (i : Inclusion a c) (j : Inclusion b c) :
    i.tag = j.tag ↔ a = b ∧ HEq i j := by
  cases i <;> cases j <;> simp [Inclusion.tag]

mutual

theorem Tree.alike_iff : {c : Category} → (t u : Tree c) →
    (t.alike u = true ↔ t.normal = u.normal)
  | _, .node k isA f, .node l isB g => by
    rw [Tree.normal, Tree.normal, Tree.node.injEq]
    by_cases h : k = l
    · subst h
      rw [Tree.alike_node, f.alike_iff g]
      simp
    · rw [Tree.alike, decide_eq_false h, Bool.false_and]
      simp [h]
  | _, .inclusion i t, .inclusion j u => by
    rw [Tree.normal, Tree.normal, Tree.inclusion.injEq, Tree.alike, Bool.and_eq_true,
      decide_eq_true_iff, Inclusion.tag_eq_iff]
    constructor
    · rintro ⟨⟨rfl, h⟩, htu⟩
      exact ⟨rfl, h, heq_of_eq ((t.alike_iff u).mp htu)⟩
    · rintro ⟨rfl, h, htu⟩
      exact ⟨⟨rfl, h⟩, (t.alike_iff u).mpr (eq_of_heq htu)⟩
  | _, .node _ _ _, .inclusion _ _ => by simp [Tree.alike, Tree.normal]
  | _, .inclusion _ _, .node _ _ _ => by simp [Tree.alike, Tree.normal]

theorem Record.alike_iff : {s : Signature} → (q r : Record Tree s) →
    (q.alike r = true ↔ q.normal = r.normal)
  | _, .nil, .nil => by simp [Record.alike]
  | _, .cons f q, .cons g r => by
    rw [Record.alike_cons, Bool.and_eq_true, f.alike_iff g, q.alike_iff r, Record.normal,
      Record.normal, Record.cons.injEq]

theorem Field.alike_iff : {τ : FieldType} → (f g : Field Tree τ) →
    (f.alike g = true ↔ f.normal = g.normal)
  | .atom a, .atom v, .atom w => by
    rw [Field.alike_atom, a.alike_iff, Field.normal, Field.normal, Field.atom.injEq]
  | _, .child t, .child u => by
    rw [Field.alike_child, t.alike_iff u, Field.normal, Field.normal, Field.child.injEq]
  | _, .none, .none => iff_of_true rfl rfl
  | _, .some f, .some g => by
    rw [Field.alike_some, f.alike_iff g, Field.normal, Field.normal, Field.some.injEq]
  | _, .none, .some _ => iff_of_false Bool.false_ne_true nofun
  | _, .some _, .none => iff_of_false Bool.false_ne_true nofun
  | _, .nil, .nil => iff_of_true rfl rfl
  | _, .cons f fs, .cons g gs => by
    rw [Field.alike_cons, Bool.and_eq_true, f.alike_iff g, fs.alike_iff gs, Field.normal,
      Field.normal, Field.cons.injEq]
  | _, .nil, .cons _ _ => iff_of_false Bool.false_ne_true nofun
  | _, .cons _ _, .nil => iff_of_false Bool.false_ne_true nofun

end

theorem Node.alike_iff (n m : Node) : n.alike m = true ↔ n.normal = m.normal := by
  obtain ⟨t, hn⟩ := n
  obtain ⟨u, hm⟩ := m
  rw [Node.alike, Bool.and_eq_true, decide_eq_true_iff]
  constructor
  · rintro ⟨rfl, h⟩
    have same : t.normal = u.normal := (t.alike_iff u).mp h
    rw [Node.normal, Node.normal, same]
  · intro h
    have category := congrArg Node.category h
    cases category
    have same : t.normal = u.normal := eq_of_heq (Node.mk.inj h).2
    exact ⟨rfl, (t.alike_iff u).mpr same⟩

namespace Node

theorem alike_mk {c : Category} (t u : Tree c) (h : c.isFamily = true) :
    Node.alike ⟨t, h⟩ ⟨u, h⟩ = t.alike u := by
  rw [alike, decide_eq_true rfl, Bool.true_and]

theorem alike_congr {n n' m m' : Node} (hn : n.alike n' = true) (hm : m.alike m' = true) :
    n.alike m = true ↔ n'.alike m' = true := by
  rw [alike_iff] at hn hm
  rw [alike_iff, alike_iff, hn, hm]

end Node

/-! ## An equivalence -/

theorem Tree.alike_equivalence (c : Category) :
    Equivalence fun t u : Tree c => t.alike u = true := by
  have same : (fun t u : Tree c => t.alike u = true) = InvImage Eq Tree.normal := by
    funext t u
    exact propext (t.alike_iff u)
  rw [same]
  exact InvImage.equivalence Eq Tree.normal eq_equivalence

theorem Node.alike_equivalence : Equivalence fun n m : Node => n.alike m = true := by
  have same : (fun n m : Node => n.alike m = true) = InvImage Eq Node.normal := by
    funext n m
    exact propext (n.alike_iff m)
  rw [same]
  exact InvImage.equivalence Eq Node.normal eq_equivalence

end SqlTrees
