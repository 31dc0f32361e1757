import SqlTrees.Proofs.Format.Doubles
import SqlTrees.Proofs.Tree.Extent

/-! # Well-formed trees of bounded height

* `Occurrence.wellFormed`: what every node of a generated tree has besides the types of its fields.
* `Tree.Fits`: a tree of such nodes with standard rules and finite doubles, of bounded height.
* `Tree.fits_node` and the rules for `Record.Fits` and `Field.Fits`: trees that fit are built from
  fields that fit.
-/

namespace SqlTrees
set_option autoImplicit false

/-! ## Well-formed nodes -/

/-- An identifier or a field of an identifier. -/
def Expression.isColumn : Expression → Bool
  | .node .identifier _ _ => true
  | .node .dereference _ (.cons (.child base) _) => base.kind = .identifier
  | _ => false

/-- What the contents of a node's fields have to do with one another. -/
def Kind.consistent : (k : Kind) → Record Tree k.signature → Bool
  | .join, .cons (.atom type) <| .cons _ <| .cons _ <| .cons criteria _ =>
    criteria.toOption.isNone == (type = .cross || type = .implicit)
  | .frameBound, .cons (.atom form) <| .cons value _ =>
    value.toOption.isSome == (form = .preceding || form = .following)
  | .union, .cons relations _ | .intersect, .cons relations _ =>
    relations.toList.length = 2 || relations.toList.length = 3
  | .inPredicate, .cons _ <| .cons (.child list) _ => list.kind = .inList
  | .existsPredicate, .cons (.child inner) _ => inner.kind = .subqueryExpression
  | .quantifiedComparison, .cons _ <| .cons _ <| .cons _ <| .cons (.child inner) _ =>
    inner.kind = .subqueryExpression
  | .delete, .cons (.child relation) _ => relation.kind = .table
  | .groupingOperation, .cons columns _ => columns.children.all Expression.isColumn
  | _, _ => true

/-- A name of one part, of two or of three. -/
def QualifiedName.short (n : QualifiedName) : Bool :=
  1 ≤ n.parts.length && n.parts.length ≤ 3

/-- Whether the names that a field holds itself are short. -/
def Field.named : {τ : FieldType} → Field Tree τ → Bool
  | .atom .name, .atom n => n.short
  | _, .atom _ => true
  | _, .child _ => true
  | _, .none => true
  | _, .some f => f.named
  | _, .nil => true
  | _, .cons f fs => f.named && fs.named

def Record.named : {s : Signature} → Record Tree s → Bool
  | _, .nil => true
  | _, .cons f r => f.named && r.named

def Occurrence.wellFormed (x : Occurrence) : Bool :=
  x.kind.consistent x.fields && x.fields.named

/-! ## Trees that fit -/

/-- Some nodes are well formed and have standard rules; the names and doubles are as they should be,
and a height is within a bound. -/
structure Fit (h : Nat) (nodes : List Occurrence) (named finite : Bool) (height : Nat) : Prop where
  proper : ∀ x ∈ nodes, x.kind ∉ Kind.unruled ∧ x.wellFormed = true
  named : named = true
  finite : finite = true
  height : height ≤ h

theorem fit_nothing {h : Nat} : Fit h [] true true 0 :=
  ⟨List.forall_mem_nil _, rfl, rfl, Nat.zero_le h⟩

theorem Fit.mono {h m : Nat} {nodes : List Occurrence} {named finite : Bool} {height : Nat}
    (hf : Fit h nodes named finite height) (hm : h ≤ m) : Fit m nodes named finite height :=
  { hf with height := Nat.le_trans hf.height hm }

theorem fit_append {h : Nat} {xs ys : List Occurrence} {a b c d : Bool} {m n : Nat} :
    Fit h (xs ++ ys) (a && b) (c && d) (max m n) ↔ Fit h xs a c m ∧ Fit h ys b d n := by
  constructor
  · rintro ⟨proper, named, finite, height⟩
    rw [List.forall_mem_append] at proper
    rw [Bool.and_eq_true] at named finite
    rw [Nat.max_le] at height
    exact ⟨⟨proper.1, named.1, finite.1, height.1⟩, ⟨proper.2, named.2, finite.2, height.2⟩⟩
  · rintro ⟨hx, hy⟩
    refine ⟨List.forall_mem_append.2 ⟨hx.proper, hy.proper⟩, ?_, ?_, ?_⟩
    · rw [hx.named, hy.named, Bool.and_self]
    · rw [hx.finite, hy.finite, Bool.and_self]
    · exact Nat.max_le.2 ⟨hx.height, hy.height⟩

def Tree.Fits {c : Category} (h : Nat) (t : Tree c) : Prop :=
  Fit h t.nodes true t.finite t.height

def Record.Fits {s : Signature} (h : Nat) (r : Record Tree s) : Prop :=
  Fit h r.nodes r.named r.finite r.height

def Field.Fits {τ : FieldType} (h : Nat) (f : Field Tree τ) : Prop :=
  Fit h f.nodes f.named f.finite f.height

section Trees
variable {c : Category} {h m : Nat}

theorem Tree.Fits.mono {t : Tree c} (ht : t.Fits h) (hm : h ≤ m) : t.Fits m :=
  Fit.mono ht hm

theorem Field.Fits.mono {τ : FieldType} {f : Field Tree τ} (hf : f.Fits h) (hm : h ≤ m) :
    f.Fits m :=
  Fit.mono hf hm

theorem Tree.fits_node {k : Kind} {isA : k.category = c} {fields : Record Tree k.signature}
    (ruled : (k.treatment != .unsupported) = true) (consistent : k.consistent fields = true)
    (hf : fields.Fits h) : (Tree.node k isA fields).Fits (h + 1) where
  proper := by
    rw [Tree.nodes]
    refine List.forall_mem_cons.2 ⟨⟨?_, ?_⟩, hf.proper⟩
    · rwa [← Kind.treatment_eq_unsupported_iff, ← ne_eq, ← bne_iff_ne]
    · rw [Occurrence.wellFormed, consistent, hf.named, Bool.and_self]
  named := rfl
  finite := by rw [Tree.finite_node, hf.finite]
  height := Nat.succ_le_succ hf.height

theorem Tree.fits_inclusion {a b : Category} {i : Inclusion a b} {t : Tree a} :
    (Tree.inclusion i t).Fits h ↔ t.Fits h := by
  rw [Tree.Fits, Tree.nodes, Tree.finite_inclusion, Tree.height, Tree.Fits]

end Trees

/-! ## Fields that fit -/

/-- Field types with no child, no name and no double in them. -/
def FieldType.plain : FieldType → Bool
  | .atom .name | .atom .double | .child _ => false
  | .atom _ => true
  | .option τ | .list τ => τ.plain

section Fields
variable {h : Nat}

@[simp]
theorem Record.fits_nil : (Record.nil : Record Tree []).Fits h := fit_nothing

@[simp]
theorem Record.fits_cons {name : String} {τ : FieldType} {s : Signature} {f : Field Tree τ}
    {r : Record Tree s} :
    (Record.cons f r : Record Tree ((name, τ) :: s)).Fits h ↔ f.Fits h ∧ r.Fits h := by
  rw [Record.Fits, Record.nodes, Record.named, Record.finite_cons, Record.height, fit_append]
  rfl

namespace Field

theorem fits_atom {a : Atom} {v : a.Carrier}
    (named : (Field.atom v : Field Tree (.atom a)).named = true) (finite : a.finite v = true) :
    (Field.atom v : Field Tree (.atom a)).Fits h :=
  { fit_nothing with named, finite := by rwa [finite_atom] }

@[simp]
theorem fits_child {c : Category} {t : Tree c} :
    (Field.child t : Field Tree (.child c)).Fits h ↔ t.Fits h := by
  rw [Field.Fits, Field.nodes, Field.height, finite_child, Field.named, Tree.Fits]

@[simp]
theorem fits_none {τ : FieldType} : (Field.none : Field Tree (.option τ)).Fits h := fit_nothing

@[simp]
theorem fits_some {τ : FieldType} {f : Field Tree τ} : (Field.some f).Fits h ↔ f.Fits h := by
  rw [Field.Fits, Field.nodes, Field.height, finite_some, Field.named, Field.Fits]

@[simp]
theorem fits_nil {τ : FieldType} : (Field.nil : Field Tree (.list τ)).Fits h := fit_nothing

@[simp]
theorem fits_cons {τ : FieldType} {f : Field Tree τ} {fs : Field Tree (.list τ)} :
    (Field.cons f fs).Fits h ↔ f.Fits h ∧ fs.Fits h := by
  rw [Field.Fits, Field.nodes, Field.named, finite_cons, Field.height, fit_append]
  rfl

/-- What holds no child, no name and no double always fits. The condition is closed for a field of a
given node, so `simp +decide` discharges it. -/
@[simp]
theorem fits_plain {τ : FieldType} {f : Field Tree τ} (plain : τ.plain = true) : f.Fits h := by
  induction f with
  | @atom a v =>
    refine fits_atom ?_ ?_ <;> cases a <;> first | rfl | cases plain
  | child => cases plain
  | none => exact fits_none
  | some f ih => exact fits_some.2 (ih plain)
  | nil => exact fits_nil
  | cons f fs ihf ihfs => exact fits_cons.2 ⟨ihf plain, ihfs plain⟩

@[simp]
theorem fits_name {n : QualifiedName} (short : n.short = true) :
    (Field.atom n : Field Tree (.atom .name)).Fits h :=
  fits_atom short rfl

@[simp]
theorem fits_double {d : Double} (finite : d.isFinite = true) :
    (Field.atom d : Field Tree (.atom .double)).Fits h :=
  fits_atom rfl finite

theorem fits_ofOption {τ : FieldType} {o : Option (Field Tree τ)} (ho : ∀ f ∈ o, f.Fits h) :
    (ofOption o).Fits h := by
  cases o with
  | none => exact fits_none
  | some f => exact fits_some.2 (ho f rfl)

theorem fits_ofList {τ : FieldType} {fs : List (Field Tree τ)} (hfs : ∀ f ∈ fs, f.Fits h) :
    (ofList fs).Fits h := by
  induction fs with
  | nil => exact fits_nil
  | cons f fs ih =>
    obtain ⟨hf, hfs⟩ := List.forall_mem_cons.1 hfs
    exact fits_cons.2 ⟨hf, ih hfs⟩

theorem fits_name? {o : Option QualifiedName} (ho : ∀ n ∈ o, n.short = true) :
    (ofAtom? o : Field Tree (.option (.atom .name))).Fits h := by
  cases o with
  | none => exact fits_none
  | some n => exact fits_some.2 (fits_name (ho n rfl))

theorem fits_ofChild? {c : Category} {o : Option (Tree c)} (ho : ∀ t ∈ o, t.Fits h) :
    (ofChild? o).Fits h :=
  fits_ofOption (by simpa using ho)

theorem fits_ofChildren {c : Category} {ts : List (Tree c)} (hts : ∀ t ∈ ts, t.Fits h) :
    (ofChildren ts).Fits h :=
  fits_ofList (by simpa using hts)

end Field
end Fields

end SqlTrees
