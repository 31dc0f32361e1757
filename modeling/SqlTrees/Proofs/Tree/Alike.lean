import SqlTrees.Rebuild.Pass
import SqlTrees.Tree.Alike

/-! # Structural equality, shape by shape

`Tree.alike` compares trees of any two categories. Here are its equations for two trees of one
shape, `Atom.alike_refl` at the atoms, and `Record.unlocated_alike`: dropping the location of a
record does not change what it is like.
-/

namespace SqlTrees
set_option autoImplicit false

/-! ## Equations -/

theorem Tree.alike_node {c : Category} (k : Kind) (isA : k.category = c)
    (q r : Record Tree k.signature) : (Tree.node k isA q).alike (Tree.node k isA r) = q.alike r := by
  rw [Tree.alike, decide_eq_true rfl, Bool.true_and]

theorem Tree.alike_inclusion {a b : Category} (i : Inclusion a b) (t u : Tree a) :
    (Tree.inclusion i t).alike (Tree.inclusion i u) = t.alike u := by
  rw [Tree.alike, decide_eq_true rfl, Bool.true_and]

theorem Record.alike_cons {name : String} {τ : FieldType} {s : Signature} (f g : Field Tree τ)
    (q r : Record Tree s) :
    (Record.cons f q : Record Tree ((name, τ) :: s)).alike
      (Record.cons g r : Record Tree ((name, τ) :: s)) = (f.alike g && q.alike r) := by
  rw [Record.alike]

theorem Field.alike_atom {a : Atom} (v w : a.Carrier) :
    (Field.atom v : Field Tree (.atom a)).alike (Field.atom w : Field Tree (.atom a)) =
      a.alike v w := by
  change (if h : a = a then a.alike v (h ▸ w) else false) = a.alike v w
  rw [dif_pos rfl]

theorem Field.alike_child {c : Category} (t u : Tree c) :
    (Field.child t : Field Tree (.child c)).alike (Field.child u : Field Tree (.child c)) =
      t.alike u := rfl

theorem Field.alike_some {τ : FieldType} (f g : Field Tree τ) :
    (Field.some f).alike (Field.some g) = f.alike g := rfl

theorem Field.alike_cons {τ : FieldType} (f g : Field Tree τ) (fs gs : Field Tree (.list τ)) :
    (Field.cons f fs).alike (Field.cons g gs) = (f.alike g && fs.alike gs) := rfl

/-! ## Atoms and locations -/

theorem Atom.alike_refl (a : Atom) (v : a.Carrier) : a.alike v v = true := by
  cases a with
  | double => simp only [Atom.alike, Double.alike, BEq.rfl, Bool.or_true]
  | location => rfl
  | _ => exact decide_eq_true rfl

theorem Field.unlocated_alike : {τ : FieldType} → (f g : Field Tree τ) →
    f.alike g = true → f.unlocated.alike g = true
  | .atom a, .atom v, .atom w, h => by
    cases a with
    | location =>
      change (Field.atom Option.none : Field Tree (.atom .location)).alike
        (Field.atom w : Field Tree (.atom .location)) = true
      rw [Field.alike_atom]
      rfl
    | _ => exact h
  | .child _, _, _, h => h
  | .option _, _, _, h => h
  | .list _, _, _, h => h

/-- A location never tells two records apart. -/
theorem Record.unlocated_alike : {s : Signature} → (q r : Record Tree s) →
    q.alike r = true → q.unlocated.alike r = true
  | _, .nil, .nil, h => h
  | _, .cons f q, .cons g r, h => by
    rw [Record.alike_cons, Bool.and_eq_true] at h
    rw [Record.unlocated, Record.alike_cons, f.unlocated_alike g h.1, q.unlocated_alike r h.2,
      Bool.and_self]

end SqlTrees
