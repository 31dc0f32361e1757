import SqlTrees.Format.Scalar
import SqlTrees.Tree

/-! # Trees from JSON

A JSON value is read bottom up: each value becomes its `Reading`, which answers what the value is
when a field of some type, or the record of some signature, is wanted in its place. The reading of
an array or object is put together from the readings of its parts, so reading follows the value's
own structure and needs no bound.

A record in an object may hold unknown members and may leave out optional fields and locations; a
structure may also be the array of all its fields.
-/

namespace SqlTrees
set_option autoImplicit false

namespace Category

/-- The kind of a category whose nodes are written bare. -/
def bareKind? (c : Category) : Option Kind :=
  Kind.all.find? fun k => k.category = c ∧ k.layout = .bare

/-- The kind of a category that has a given tag. -/
def taggedKind? (c : Category) (tag : String) : Option Kind :=
  Kind.all.find? fun k => k.category = c ∧ k.layout.tag? = some tag

end Category

/-- What a field is when its member is missing: only options and locations may be. -/
def FieldType.absent? : (τ : FieldType) → Option (Field Tree τ)
  | .option _ => some .none
  | .atom .location => some (.atom none)
  | _ => none

/-- What a JSON value is read as, for everything that may be wanted in its place. -/
structure Reading where
  json : Json
  /-- The value as a field. -/
  field : (τ : FieldType) → Option (Field Tree τ)
  /-- The members of an object as a record. -/
  members : (s : Signature) → Option (Record Tree s)
  /-- The items of an array as a record, one for each field in order. -/
  items : (s : Signature) → Option (Record Tree s)

namespace Reading

/-- A record whose fields are looked up by name. -/
def recordOfMembers (parts : List (String × Reading)) : (s : Signature) → Option (Record Tree s)
  | [] => some .nil
  | (name, τ) :: s => do
    let content ← match parts.lookup name with
      | some r => r.field τ
      | none => τ.absent?
    let rest ← recordOfMembers parts s
    return .cons content rest

/-- A record whose fields are taken in order. -/
def recordOfItems : List Reading → (s : Signature) → Option (Record Tree s)
  | [], [] => some .nil
  | r :: parts, (_, τ) :: s => do
    let content ← r.field τ
    let rest ← recordOfItems parts s
    return .cons content rest
  | _, _ => none

/-- A list of fields. -/
def listOfItems (τ : FieldType) : List Reading → Option (Field Tree (.list τ))
  | [] => some .nil
  | r :: parts => do
    let head ← r.field τ
    let tail ← listOfItems τ parts
    return .cons head tail

/-- The fields of a node from what stands in the node's place, or under its tag. -/
def content (r : Reading) : Layout → (s : Signature) → Option (Record Tree s)
  | .bare, s => (r.members s).or (r.items s)
  | .tagged _, s => r.members s
  | .payload _, [(_, τ)] => (r.field τ).map (.cons · .nil)
  | .payload _, s => r.members s
  | .unit _, [] => match r.json with
    | .null => some .nil
    | _ => none
  | .unit _, _ :: _ => none

/-- A node of kind `k`, from the content that its layout asks for. -/
def node? (r : Reading) (c : Category) (k : Kind) : Option (Tree c) :=
  if h : k.category = c then (r.content k.layout k.signature).map (.node k h) else none

/-- The tree under a tag. -/
def tagged (r : Reading) (c : Category) (tag : String) : Option (Tree c) :=
  match Inclusion.ofTag? c tag with
  | some ⟨a, i⟩ =>
    match r.field (.child a) with
    | some (.child t) => some (.inclusion i t)
    | none => none
  | none => (c.taggedKind? tag).bind (r.node? c)

/-- The field that a value is, given what trees and what lists it is. -/
def fieldOf (j : Json) (tree : (c : Category) → Option (Tree c))
    (list : (τ : FieldType) → Option (Field Tree (.list τ))) :
    (τ : FieldType) → Option (Field Tree τ)
  | .atom a => (a.decode j).map .atom
  | .child c => (tree c).map .child
  | .option τ => match j with
    | .null => some .none
    | _ => (fieldOf j tree list τ).map .some
  | .list τ => list τ

/-- The reading that has nothing to offer. -/
def nothing : Reading where
  json := .null
  field _ := none
  members _ := none
  items _ := none

/-- A text is a word of a category, and no other tree. -/
def wordTree (c : Category) (tag : String) : Option (Tree c) := do
  let k ← c.taggedKind? tag
  match k.layout with
  | .unit _ => nothing.node? c k
  | _ => none

/-- The reading of a value without parts. -/
def ofScalar (j : Json) : Reading where
  json := j
  field := fieldOf j
    (fun c => match j with
      | .str tag => wordTree c tag
      | _ => none)
    (fun _ => none)
  members _ := none
  items _ := none

def ofArray (j : Json) (parts : List Reading) : Reading where
  json := j
  field := fieldOf j
    (fun c => do
      let k ← c.bareKind?
      if h : k.category = c then (recordOfItems parts k.signature).map (.node k h) else none)
    (fun τ => listOfItems τ parts)
  members _ := none
  items := recordOfItems parts

def ofObject (j : Json) (parts : List (String × Reading)) : Reading where
  json := j
  field := fieldOf j
    (fun c => match c.bareKind?, parts with
      | some k, _ =>
        if h : k.category = c then (recordOfMembers parts k.signature).map (.node k h) else none
      | none, [(tag, r)] => r.tagged c tag
      | none, _ => none)
    (fun _ => none)
  members := recordOfMembers parts
  items _ := none

end Reading

mutual

/-- The reading of a value. -/
def Json.reading : Json → Reading
  | .arr items => .ofArray (.arr items) (readings items)
  | .obj members => .ofObject (.obj members) (memberReadings members)
  | j => .ofScalar j

def readings : List Json → List Reading
  | [] => []
  | j :: rest => j.reading :: readings rest

def memberReadings : List (String × Json) → List (String × Reading)
  | [] => []
  | (name, j) :: rest => (name, j.reading) :: memberReadings rest

end

/-- The tree of a category that a JSON value stands for. -/
def Tree.ofJson? (c : Category) (j : Json) : Option (Tree c) :=
  (j.reading.field (.child c)).map Field.subject

/-- The node that a JSON value stands for. -/
def Node.ofJson? : Json → Option Node
  | .obj [(family, content)] => do
    let c ← Tagged.ofTag? Category family
    if h : c.isFamily then (Tree.ofJson? c content).map (⟨·, h⟩) else none
  | _ => none

end SqlTrees
