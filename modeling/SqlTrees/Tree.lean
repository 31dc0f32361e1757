import SqlTrees.Grammar.Kind

/-! # Syntax trees

A tree of a category is a node of one of its kinds, over a record of the fields that the kind's
signature asks for, or a tree of an included category. `Record X s` and `Field X τ` are open in what
stands at a child position, so the same record holds subtrees (`X = Tree`) or whatever a pass keeps
for each child while it rebuilds the node.
-/

namespace SqlTrees
set_option autoImplicit false

/-- The content of one field, with an `X c` wherever a child of category `c` is asked for. -/
inductive Field (X : Category → Type) : FieldType → Type
  | atom {a : Atom} (value : a.Carrier) : Field X (.atom a)
  | child {c : Category} (subject : X c) : Field X (.child c)
  | none {τ : FieldType} : Field X (.option τ)
  | some {τ : FieldType} (content : Field X τ) : Field X (.option τ)
  | nil {τ : FieldType} : Field X (.list τ)
  | cons {τ : FieldType} (head : Field X τ) (tail : Field X (.list τ)) : Field X (.list τ)

/-- The contents of the fields of a signature. -/
inductive Record (X : Category → Type) : Signature → Type
  | nil : Record X []
  | cons {name : String} {τ : FieldType} {s : Signature} (content : Field X τ)
      (rest : Record X s) : Record X ((name, τ) :: s)

/-- Trees of a category. -/
inductive Tree : Category → Type
  | node {c : Category} (k : Kind) (isA : k.category = c) (fields : Record Tree k.signature) :
      Tree c
  | inclusion {a b : Category} (i : Inclusion a b) (t : Tree a) : Tree b

/-- The node of a kind over its fields. -/
abbrev Tree.ofFields (k : Kind) (fields : Record Tree k.signature) : Tree k.category :=
  .node k rfl fields

abbrev Statement := Tree .statement
abbrev Query := Tree .query
abbrev Relation := Tree .relation
abbrev SetOperation := Tree .setOperation
abbrev Expression := Tree .expression
abbrev WithClause := Tree .withClause
abbrev WithQuery := Tree .withQuery
abbrev Select := Tree .select
abbrev SelectItem := Tree .selectItem
abbrev GroupBy := Tree .groupBy
abbrev GroupingElement := Tree .groupingElement
abbrev OrderBy := Tree .orderBy
abbrev SortItem := Tree .sortItem
abbrev Window := Tree .window
abbrev WindowFrame := Tree .windowFrame
abbrev FrameBound := Tree .frameBound
abbrev WhenClause := Tree .whenClause
abbrev JoinCriteria := Tree .joinCriteria
abbrev Property := Tree .property
abbrev TableElement := Tree .tableElement
abbrev ColumnDefinition := Tree .columnDefinition
abbrev LikeClause := Tree .likeClause
abbrev TransactionMode := Tree .transactionMode
abbrev ExplainOption := Tree .explainOption

/-! ## Contents of fields -/

namespace Field
variable {X Y : Category → Type}

/-- The value of an atomic field. -/
def value {a : Atom} : Field X (.atom a) → a.Carrier
  | .atom v => v

/-- What stands at a child position. -/
def subject {c : Category} : Field X (.child c) → X c
  | .child x => x

/-- The content of an optional field. -/
def toOption {τ : FieldType} : Field X (.option τ) → Option (Field X τ)
  | .none => Option.none
  | .some f => Option.some f

/-- The contents of a repeated field; no other field has any. -/
def toList : {τ : FieldType} → Field X τ → List (Field X τ.item)
  | _, .cons f fs => f :: fs.toList
  | _, _ => []

def ofOption {τ : FieldType} : Option (Field X τ) → Field X (.option τ)
  | Option.none => .none
  | Option.some f => .some f

def ofList {τ : FieldType} : List (Field X τ) → Field X (.list τ)
  | [] => .nil
  | f :: fs => .cons f (ofList fs)

/-- The atoms of an optional field. -/
def ofAtom? {a : Atom} (v : Option a.Carrier) : Field X (.option (.atom a)) :=
  ofOption (v.map .atom)

/-- A repeated field of atoms. -/
def ofAtoms {a : Atom} (vs : List a.Carrier) : Field X (.list (.atom a)) :=
  ofList (vs.map .atom)

/-- An optional child. -/
def ofChild? {c : Category} (x : Option (X c)) : Field X (.option (.child c)) :=
  ofOption (x.map .child)

/-- A list of children. -/
def ofChildren {c : Category} (xs : List (X c)) : Field X (.list (.child c)) :=
  ofList (xs.map .child)

/-- The subjects of a list of children. -/
def children {c : Category} (f : Field X (.list (.child c))) : List (X c) :=
  f.toList.map subject

@[simp]
theorem toOption_ofOption {τ : FieldType} (f : Option (Field X τ)) :
    (ofOption f).toOption = f := by
  cases f <;> rfl

@[simp]
theorem toList_ofList {τ : FieldType} (fs : List (Field X τ)) : (ofList fs).toList = fs := by
  induction fs with
  | nil => rfl
  | cons f fs ih => simp [ofList, toList, ih]

@[simp]
theorem children_ofChildren {c : Category} (xs : List (X c)) : (ofChildren xs).children = xs := by
  simp [children, ofChildren, Function.comp_def, subject]

/-- The same content with other things at the child positions. -/
def map (f : {c : Category} → X c → Y c) : {τ : FieldType} → Field X τ → Field Y τ
  | _, .atom v => .atom v
  | _, .child x => .child (f x)
  | _, .none => .none
  | _, .some g => .some (g.map f)
  | _, .nil => .nil
  | _, .cons g gs => .cons (g.map f) (gs.map f)

end Field

/-- The same record with other things at the child positions. -/
def Record.map {X Y : Category → Type} (f : {c : Category} → X c → Y c) :
    {s : Signature} → Record X s → Record Y s
  | _, .nil => .nil
  | _, .cons g r => .cons (g.map f) (r.map f)

/-! ## Kinds of trees -/

/-- The kind of a tree. An included tree has the kind of the tree that it includes. -/
def Tree.kind : {c : Category} → Tree c → Kind
  | _, .node k _ _ => k
  | _, .inclusion _ t => t.kind

/-- A tree of one of the families, as a traversal starts from it. -/
structure Node where
  {category : Category}
  tree : Tree category
  isFamily : category.isFamily = true := by rfl

/-- The kind of a node. -/
def Node.kind (n : Node) : Kind :=
  n.tree.kind

end SqlTrees
