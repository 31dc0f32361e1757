import SqlTrees.Format.Write
import SqlTrees.Proofs.Format.Scalar
import SqlTrees.Proofs.Grammar.Legible

/-! # The doubles of a tree and where they are written

* `Json.at?`: the value at a path of names and positions.
* `Tree.doubles`: every double of a tree, with the path to it in the written tree.
* `Tree.finite`: whether all of them are finite.
* `Json.Shows`: a value has a double, as it is written, at the double's path.
* `Tree.shows`: the written tree shows every double of the tree.
-/

namespace SqlTrees
set_option autoImplicit false

/-! ## Paths -/

/-- A step from a JSON value into one of its parts. -/
inductive Step
  | member (name : String)
  | item (i : Nat)
deriving DecidableEq, Repr

/-- The part of a value at the end of a path. -/
def Json.at? : Json → List Step → Option Json
  | j, [] => some j
  | .obj members, .member name :: path => (members.lookup name).bind (·.at? path)
  | .arr items, .item i :: path => items[i]?.bind (·.at? path)
  | _, _ :: _ => none

/-- A double, with a path to it. -/
structure Placed where
  path : List Step
  double : Double
deriving DecidableEq, Repr

namespace Placed

/-- The same double, seen from one step further out. -/
def within (s : Step) (x : Placed) : Placed :=
  { x with path := s :: x.path }

/-- The same double in an array with one more item in front. -/
def next : Placed → Placed
  | ⟨.item i :: path, d⟩ => ⟨.item (i + 1) :: path, d⟩
  | x => x

theorem double_within (s : Step) (x : Placed) : (x.within s).double = x.double := rfl

theorem double_next (x : Placed) : x.next.double = x.double := by
  unfold next
  split <;> rfl

end Placed

/-- The path from what a node is written as to a double in one of its fields. -/
def Layout.enclose : Layout → Placed → Placed
  | .tagged tag, x => x.within (.member tag)
  | .payload tag, ⟨_ :: path, d⟩ => ⟨.member tag :: path, d⟩
  | _, x => x

theorem Layout.double_enclose (l : Layout) (x : Placed) : (l.enclose x).double = x.double := by
  unfold enclose
  split <;> rfl

/-! ## Doubles -/

def Atom.doubles : (a : Atom) → a.Carrier → List Placed
  | .double, d => [⟨[], d⟩]
  | _, _ => []

mutual

/-- The doubles of a tree, each with the path to it in the written tree. -/
def Tree.doubles : {c : Category} → Tree c → List Placed
  | _, .node k _ fields => fields.doubles.map k.layout.enclose
  | _, .inclusion i t => t.doubles.map (.within (.member i.tag))

def Record.doubles : {s : Signature} → Record Tree s → List Placed
  | _, .nil => []
  | (name, _) :: _, .cons f r => f.doubles.map (.within (.member name)) ++ r.doubles

def Field.doubles : {τ : FieldType} → Field Tree τ → List Placed
  | .atom a, .atom v => a.doubles v
  | _, .child t => t.doubles
  | _, .none => []
  | _, .some f => f.doubles
  | _, .nil => []
  | _, .cons f fs => f.doubles.map (.within (.item 0)) ++ fs.doubles.map .next

end

def Node.doubles (n : Node) : List Placed :=
  n.tree.doubles.map (.within (.member n.category.name))

/-! ## Finite trees -/

def allFinite (xs : List Placed) : Bool :=
  xs.all fun x => x.double.isFinite

theorem allFinite_append (xs ys : List Placed) :
    allFinite (xs ++ ys) = (allFinite xs && allFinite ys) := List.all_append

theorem allFinite_map {f : Placed → Placed} (hf : ∀ x, (f x).double = x.double)
    (xs : List Placed) : allFinite (xs.map f) = allFinite xs := by
  simp only [allFinite, List.all_map, Function.comp_def, hf]

/-- Whether a tree holds no NaN and no infinity. -/
def Tree.finite {c : Category} (t : Tree c) : Bool :=
  allFinite t.doubles

def Record.finite {s : Signature} (r : Record Tree s) : Bool :=
  allFinite r.doubles

def Field.finite {τ : FieldType} (f : Field Tree τ) : Bool :=
  allFinite f.doubles

def Node.finite (n : Node) : Bool :=
  allFinite n.doubles

theorem Tree.finite_node {c : Category} (k : Kind) (isA : k.category = c)
    (fields : Record Tree k.signature) : (Tree.node k isA fields).finite = fields.finite := by
  rw [Tree.finite, Tree.doubles, allFinite_map k.layout.double_enclose, Record.finite]

theorem Tree.finite_inclusion {a b : Category} (i : Inclusion a b) (t : Tree a) :
    (Tree.inclusion i t).finite = t.finite := by
  rw [Tree.finite, Tree.doubles, allFinite_map (Placed.double_within _), Tree.finite]

theorem Record.finite_cons {name : String} {τ : FieldType} {s : Signature} (f : Field Tree τ)
    (r : Record Tree s) :
    (Record.cons f r : Record Tree ((name, τ) :: s)).finite = (f.finite && r.finite) := by
  rw [Record.finite, Record.doubles, allFinite_append, allFinite_map (Placed.double_within _), Field.finite,
    Record.finite]

theorem Atom.allFinite_doubles (a : Atom) (v : a.Carrier) :
    allFinite (a.doubles v) = a.finite v := by
  cases a with
  | double => exact Bool.and_true _
  | _ => rfl

theorem Field.finite_atom {a : Atom} (v : a.Carrier) :
    (Field.atom v : Field Tree (.atom a)).finite = a.finite v := by
  rw [Field.finite, Field.doubles, a.allFinite_doubles]

theorem Field.finite_child {c : Category} (t : Tree c) :
    (Field.child t : Field Tree (.child c)).finite = t.finite := rfl

theorem Field.finite_some {τ : FieldType} (f : Field Tree τ) : (Field.some f).finite = f.finite :=
  rfl

theorem Field.finite_cons {τ : FieldType} (f : Field Tree τ) (fs : Field Tree (.list τ)) :
    (Field.cons f fs).finite = (f.finite && fs.finite) := by
  rw [Field.finite, Field.doubles, allFinite_append, allFinite_map (Placed.double_within _),
    allFinite_map Placed.double_next, Field.finite, Field.finite]

theorem Node.finite_eq (n : Node) : n.finite = n.tree.finite := by
  rw [Node.finite, Node.doubles, allFinite_map (Placed.double_within _), Tree.finite]

/-! ## Written doubles -/

theorem mem_of_lookup {α : Type} {parts : List (String × α)} {name : String} {a : α}
    (found : parts.lookup name = some a) : (name, a) ∈ parts := by
  obtain ⟨before, after, rfl, -⟩ := List.lookup_eq_some_iff.1 found
  exact List.mem_append_right before List.mem_cons_self

/-- The value has a double, as it is written, at the double's path. -/
def Json.Shows (j : Json) (x : Placed) : Prop :=
  j.at? x.path = some x.double.toJson

namespace Json

theorem shows_member {members : List (String × Json)} {name : String} {j : Json} {x : Placed}
    (found : members.lookup name = some j) (h : j.Shows x) :
    (Json.obj members).Shows (x.within (.member name)) := by
  change (members.lookup name).bind (·.at? x.path) = _
  rw [found]
  exact h

/-- An object shows a double in one of its members. -/
theorem Shows.member_cases {members : List (String × Json)} {x : Placed}
    (h : (Json.obj members).Shows x) :
    ∃ name path j, x = ⟨.member name :: path, x.double⟩ ∧ members.lookup name = some j ∧
      j.Shows ⟨path, x.double⟩ := by
  obtain ⟨path, d⟩ := x
  match path with
  | [] =>
    have written : some (Json.obj members) = some d.toJson := h
    rcases d.toJson_cases with e | e <;> rw [e] at written <;> cases written
  | .item _ :: _ => cases h
  | .member name :: path =>
    have inside : (members.lookup name).bind (·.at? path) = some d.toJson := h
    obtain ⟨j, found, shown⟩ := Option.bind_eq_some_iff.1 inside
    exact ⟨name, path, j, rfl, found, shown⟩

/-- An array shows a double in one of its items. -/
theorem Shows.item_cases {items : List Json} {x : Placed} (h : (Json.arr items).Shows x) :
    ∃ i path j, x = ⟨.item i :: path, x.double⟩ ∧ items[i]? = some j ∧
      j.Shows ⟨path, x.double⟩ := by
  obtain ⟨path, d⟩ := x
  match path with
  | [] =>
    have written : some (Json.arr items) = some d.toJson := h
    rcases d.toJson_cases with e | e <;> rw [e] at written <;> cases written
  | .member _ :: _ => cases h
  | .item i :: path =>
    have inside : items[i]?.bind (·.at? path) = some d.toJson := h
    obtain ⟨j, found, shown⟩ := Option.bind_eq_some_iff.1 inside
    exact ⟨i, path, j, rfl, found, shown⟩

/-- What an array shows, it shows one item further on with another item in front. -/
theorem Shows.next {items : List Json} {x : Placed} (j : Json) (h : (Json.arr items).Shows x) :
    (Json.arr (j :: items)).Shows x.next := by
  obtain ⟨i, path, _, e, -, -⟩ := h.item_cases
  rw [e] at h ⊢
  exact h

/-- What an object shows, it shows with another member in front that has a new name. -/
theorem Shows.cons {members : List (String × Json)} {x : Placed} {name : String}
    (fresh : name ∉ members.map Prod.fst) (j : Json) (h : (Json.obj members).Shows x) :
    (Json.obj ((name, j) :: members)).Shows x := by
  obtain ⟨other, path, k, e, found, shown⟩ := h.member_cases
  have different : other ≠ name := by
    rintro rfl
    exact fresh (List.mem_map_of_mem (mem_of_lookup found))
  rw [e]
  refine shows_member ?_ shown
  rw [List.lookup_cons, beq_false_of_ne different]
  exact found

end Json

theorem Record.map_fst_toMembers : {s : Signature} → (r : Record Tree s) →
    r.toMembers.map Prod.fst = s.map Prod.fst
  | _, .nil => rfl
  | _, .cons _ r => by rw [toMembers, List.map_cons, r.map_fst_toMembers, List.map_cons]

theorem Field.toJson_list {τ : FieldType} (fs : Field Tree (.list τ)) :
    fs.toJson = .arr fs.toItems := by
  cases fs with
  | nil => rfl
  | cons f fs => rw [toJson, toItems]

/-- What the record of a node's fields shows, the node shows. -/
theorem Layout.shows_wrap {l : Layout} {s : Signature} (fits : l.fits s = true)
    (r : Record Tree s) {x : Placed} (h : (Json.obj r.toMembers).Shows x) :
    (l.wrap r.toMembers).Shows (l.enclose x) := by
  match l, r, fits with
  | .bare, _, _ => exact h
  | .tagged _, _, _ => exact Json.shows_member List.lookup_cons_self h
  | .payload _, .cons f .nil, _ =>
    obtain ⟨other, path, j, e, found, shown⟩ := h.member_cases
    have content : j = f.toJson := congrArg Prod.snd (List.mem_singleton.1 (mem_of_lookup found))
    rw [e]
    exact Json.shows_member (x := ⟨path, _⟩) List.lookup_cons_self (content ▸ shown)
  | .unit _, .nil, _ =>
    obtain ⟨_, _, _, -, found, -⟩ := h.member_cases
    cases found

theorem Atom.shows {a : Atom} {v : a.Carrier} {x : Placed} (h : x ∈ a.doubles v) :
    (a.encode v).Shows x := by
  cases a with
  | double =>
    obtain rfl := List.mem_singleton.1 h
    rfl
  | _ => cases h

mutual

theorem Tree.shows : {c : Category} → (t : Tree c) → ∀ x ∈ t.doubles, t.toJson.Shows x
  | _, .node k _ fields, x, h => by
    rw [Tree.doubles] at h
    obtain ⟨y, hy, rfl⟩ := List.mem_map.1 h
    exact Layout.shows_wrap k.fits_signature fields (fields.shows k.legible_signature y hy)
  | _, .inclusion i t, x, h => by
    rw [Tree.doubles] at h
    obtain ⟨y, hy, rfl⟩ := List.mem_map.1 h
    exact Json.shows_member List.lookup_cons_self (t.shows y hy)

theorem Record.shows : {s : Signature} → (r : Record Tree s) → Signature.legible s = true →
    ∀ x ∈ r.doubles, (Json.obj r.toMembers).Shows x
  | _, .nil, _, _, h => by cases h
  | (name, _) :: _, .cons f r, legible, x, h => by
    obtain ⟨-, fresh, rest⟩ := Signature.legible_cons legible
    rw [Record.doubles] at h
    rw [Record.toMembers]
    rcases List.mem_append.1 h with inside | later
    · obtain ⟨y, hy, rfl⟩ := List.mem_map.1 inside
      exact Json.shows_member List.lookup_cons_self (f.shows y hy)
    · exact (r.shows rest x later).cons (r.map_fst_toMembers ▸ fresh) _

theorem Field.shows : {τ : FieldType} → (f : Field Tree τ) → ∀ x ∈ f.doubles, f.toJson.Shows x
  | _, .atom _, _, h => Atom.shows h
  | _, .child t, x, h => t.shows x h
  | _, .none, _, h => by cases h
  | _, .some f, x, h => f.shows x h
  | _, .nil, _, h => by cases h
  | _, .cons f fs, x, h => by
    rw [Field.doubles] at h
    rw [Field.toJson]
    rcases List.mem_append.1 h with inside | later
    · obtain ⟨y, hy, rfl⟩ := List.mem_map.1 inside
      exact f.shows y hy
    · obtain ⟨y, hy, rfl⟩ := List.mem_map.1 later
      exact (fs.toJson_list ▸ fs.shows y hy : (Json.arr fs.toItems).Shows y).next _

end

theorem Node.shows {n : Node} {x : Placed} (h : x ∈ n.doubles) : n.toJson.Shows x := by
  obtain ⟨y, hy, rfl⟩ := List.mem_map.1 h
  exact Json.shows_member List.lookup_cons_self (n.tree.shows y hy)

end SqlTrees
