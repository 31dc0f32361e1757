import SqlTrees.Format.Write
import SqlTrees.Format.Read
import SqlTrees.Proofs.Grammar.Legible

/-! # Corrupted documents

The single changes that spoil a written tree:

* `Structured`, `Recorded`: which fields are written as the members of an object, and which of these
  may be listed in an array instead.
* `FieldType.Enumerated`, `FieldType.knows`: which fields are written under a tag or as a word, and
  what the tags and words are.
* `Atom.range?`: the whole numbers that an integer field holds.
* `FieldType.Corrupted`: one spoilt place anywhere in a field or tree.
* `Node.Corrupted`: the same in a whole document.
-/

namespace SqlTrees
set_option autoImplicit false

/-! ## Records -/

/-- What is written as a bare object over the fields of a signature. -/
inductive Structured : FieldType → Signature → Prop
  | ident : Structured (.atom .ident) [("value", .atom .text), ("delimited", .atom .flag)]
  | name : Structured (.atom .name) [("parts", .list (.atom .text))]
  | location : Structured (.atom .location) [("line", .atom .index), ("column", .atom .index)]
  | node {k : Kind} (bare : k.layout = .bare) : Structured (.child k.category) k.signature

/-- What is written as an object over the fields of a signature, bare or under a tag. -/
inductive Recorded : FieldType → Signature → (List (String × Json) → Json) → Prop
  | bare {τ : FieldType} {s : Signature} (h : Structured τ s) : Recorded τ s .obj
  | tagged {k : Kind} {tag : String} (layout : k.layout = .tagged tag) :
      Recorded (.child k.category) k.signature fun members => .obj [(tag, .obj members)]

/-! ## Tags, words and numbers -/

/-- What is written as a word or under a tag. -/
inductive FieldType.Enumerated : FieldType → Prop
  | word (w : WordClass) : Enumerated (.atom (.word w))
  | child {c : Category} (tagged : c.bareKind? = none) : Enumerated (.child c)

/-- Whether a field has a word or a tag of this name. -/
def FieldType.knows : FieldType → String → Bool
  | .atom (.word w), tag => (Tagged.ofTag? w.Word tag).isSome
  | .child c, tag => (Inclusion.ofTag? c tag).isSome || (c.taggedKind? tag).isSome
  | _, _ => false

/-- What is written as a word alone. -/
inductive FieldType.HasWord : FieldType → String → Prop
  | word {w : WordClass} (a : w.Word) : HasWord (.atom (.word w)) (Tagged.tag a)
  | node {k : Kind} {tag : String} (layout : k.layout = .unit tag) : HasWord (.child k.category) tag

/-- The least and the largest number of an integer field. -/
def Atom.range? : Atom → Option (Int × Int)
  | .long => some (Int64.minValue.toInt, Int64.maxValue.toInt)
  | .index => some (0, UInt64.size - 1)
  | .precision => some (0, UInt32.size - 1)
  | _ => none

/-! ## Fields and nodes -/

/-- A field is spoilt in one place. The first five rules say where, the others how. -/
inductive FieldType.Corrupted : FieldType → Json → Json → Prop
  | option {τ : FieldType} {i j : Json} (present : j ≠ .null) (h : Corrupted τ i j) :
      Corrupted (.option τ) i j
  | item {τ : FieldType} {i j : Json} (before after : List Json) (h : Corrupted τ i j) :
      Corrupted (.list τ) (.arr (before ++ i :: after)) (.arr (before ++ j :: after))
  | included {a b : Category} {i j : Json} (inc : Inclusion a b) (h : Corrupted (.child a) i j) :
      Corrupted (.child b) (.obj [(inc.tag, i)]) (.obj [(inc.tag, j)])
  /-- The only field of a node, which stands without its name. -/
  | payload {k : Kind} {tag name : String} {τ : FieldType} {i j : Json}
      (layout : k.layout = .payload tag) (only : k.signature = [(name, τ)]) (h : Corrupted τ i j) :
      Corrupted (.child k.category) (.obj [(tag, i)]) (.obj [(tag, j)])
  /-- A field of a structure or a node, under its name. -/
  | member {τ υ : FieldType} {s : Signature} {write : List (String × Json) → Json} {name : String}
      {i j : Json} (recorded : Recorded τ s write) (field : (name, υ) ∈ s)
      (before after : List (String × Json)) (first : name ∉ before.map Prod.fst)
      (h : Corrupted υ i j) :
      Corrupted τ (write (before ++ (name, i) :: after)) (write (before ++ (name, j) :: after))
  /-- The key of a required field is deleted. -/
  | missing {τ υ : FieldType} {s : Signature} {write : List (String × Json) → Json} {name : String}
      (recorded : Recorded τ s write) (field : (name, υ) ∈ s) (required : υ.absent? = none)
      (i : Json) (before after : List (String × Json))
      (only : name ∉ (before ++ after).map Prod.fst) :
      Corrupted τ (write (before ++ (name, i) :: after)) (write (before ++ after))
  | null {τ : FieldType} (required : τ.absent? = none) (i : Json) : Corrupted τ i .null
  /-- An array that has not as many items as the structure has fields. -/
  | length {τ : FieldType} {s : Signature} (structured : Structured τ s)
      (members : List (String × Json)) {items : List Json} (different : items.length ≠ s.length) :
      Corrupted τ (.obj members) (.arr items)
  /-- An array in place of the record under a tag. -/
  | array {k : Kind} {tag : String} (layout : k.layout = .tagged tag)
      (members : List (String × Json)) (items : List Json) :
      Corrupted (.child k.category) (.obj [(tag, .obj members)]) (.obj [(tag, .arr items)])
  /-- No key, or several. -/
  | keys {τ : FieldType} (enumerated : τ.Enumerated) (i : Json) {members : List (String × Json)}
      (number : members.length ≠ 1) : Corrupted τ i (.obj members)
  | tag {τ : FieldType} (enumerated : τ.Enumerated) (i : Json) {tag : String}
      (unknown : τ.knows tag = false) (content : Json) : Corrupted τ i (.obj [(tag, content)])
  | word {τ : FieldType} (enumerated : τ.Enumerated) (i : Json) {tag : String}
      (unknown : τ.knows tag = false) : Corrupted τ i (.str tag)
  /-- A word is given content. -/
  | content {τ : FieldType} {tag : String} (hasWord : τ.HasWord tag) {content : Json}
      (something : content ≠ .null) : Corrupted τ (.str tag) (.obj [(tag, content)])
  | fraction {a : Atom} (integral : a.range?.isSome = true) (i : Json) (d : Double) :
      Corrupted (.atom a) i (.double d)
  | range {a : Atom} {low high : Int} (integral : a.range? = some (low, high)) (i : Json) {n : Int}
      (outside : n < low ∨ high < n) : Corrupted (.atom a) i (.int n)

/-- A document is spoilt in one place: in the tree, or under no family or several, or under what is
the name of none. -/
inductive Node.Corrupted : Json → Json → Prop
  | tree {c : Category} {i j : Json} (h : (FieldType.child c).Corrupted i j) :
      Corrupted (.obj [(c.name, i)]) (.obj [(c.name, j)])
  | keys (i : Json) {members : List (String × Json)} (number : members.length ≠ 1) :
      Corrupted i (.obj members)
  | family (i : Json) {name : String} (unknown : ∀ c : Category, c.isFamily = true → c.name ≠ name)
      (content : Json) : Corrupted i (.obj [(name, content)])

end SqlTrees
