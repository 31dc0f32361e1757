import SqlTrees.Format.Write
import SqlTrees.Format.Read
import SqlTrees.Proofs.Grammar.Legible

/-! # Other spellings of a written tree

The single changes that turn a spelling of a tree into another spelling of it:

* `Rearranged`: a member that no field has the name of is added to an object, or the members change
  their order.
* `Json.Restructured`, `Atom.Respelled`: a scalar structure becomes the array of its fields, or its
  members are rearranged; a word becomes an object over null.
* `FieldType.Respelled`: one such change anywhere in a field or tree; a node that is written bare
  may become the array of its fields, and a field that may be missing may be left out.
* `Node.Respelled`: the same in a whole document.
-/

namespace SqlTrees
set_option autoImplicit false

/-! ## Members of an object -/

/-- The members of an object are written differently, and say the same about the fields of these
names. -/
inductive Rearranged (names : List String) : List (String × Json) → List (String × Json) → Prop
  /-- A member is added that no field has the name of. -/
  | unknown {name : String} (other : name ∉ names) (value : Json)
      (before after : List (String × Json)) :
      Rearranged names (before ++ after) (before ++ (name, value) :: after)
  /-- The order of the members changes. -/
  | reordered {members others : List (String × Json)} (distinct : (members.map Prod.fst).Nodup)
      (perm : members.Perm others) : Rearranged names members others

/-- The items are the values of the fields of these names, all of them and in this order. -/
def Lists (names : List String) (items : List Json) (members : List (String × Json)) : Prop :=
  (names.map fun name => members.lookup name) = items.map some

/-! ## Scalars -/

/-- A structure whose fields have one spelling each is spelled differently. -/
inductive Json.Restructured (names : List String) : Json → Json → Prop
  | rearranged {members others : List (String × Json)} (h : Rearranged names members others) :
      Restructured names (.obj members) (.obj others)
  | positional {members : List (String × Json)} {items : List Json}
      (h : Lists names items members) : Restructured names (.obj members) (.arr items)

/-- An atom is spelled differently. -/
inductive Atom.Respelled : Atom → Json → Json → Prop
  | ident {j k : Json} (h : Json.Restructured ["value", "delimited"] j k) : Respelled .ident j k
  | name {j k : Json} (h : Json.Restructured ["parts"] j k) : Respelled .name j k
  | location {j k : Json} (h : Json.Restructured ["line", "column"] j k) : Respelled .location j k
  | word (w : WordClass) (tag : String) :
      Respelled (.word w) (.str tag) (.obj [(tag, .null)])

/-! ## Fields and nodes -/

/-- A field is spelled differently, by one change at any depth. The first seven rules say where the
change is made, the others what it is. -/
inductive FieldType.Respelled : FieldType → Json → Json → Prop
  | atom {a : Atom} {i j : Json} (h : a.Respelled i j) : Respelled (.atom a) i j
  | option {τ : FieldType} {i j : Json} (h : Respelled τ i j) : Respelled (.option τ) i j
  | item {τ : FieldType} {i j : Json} (before after : List Json) (h : Respelled τ i j) :
      Respelled (.list τ) (.arr (before ++ i :: after)) (.arr (before ++ j :: after))
  | included {a b : Category} {i j : Json} (inc : Inclusion a b) (h : Respelled (.child a) i j) :
      Respelled (.child b) (.obj [(inc.tag, i)]) (.obj [(inc.tag, j)])
  /-- The only field of a node, which stands without its name. -/
  | payload {k : Kind} {tag name : String} {τ : FieldType} {i j : Json}
      (layout : k.layout = .payload tag) (only : k.signature = [(name, τ)]) (h : Respelled τ i j) :
      Respelled (.child k.category) (.obj [(tag, i)]) (.obj [(tag, j)])
  /-- A field of a node, under its name. -/
  | member {k : Kind} {name : String} {τ : FieldType} {i j : Json} (named : k.layout.named = true)
      (field : (name, τ) ∈ k.signature) (before after : List (String × Json))
      (h : Respelled τ i j) :
      Respelled (.child k.category) (k.layout.wrap (before ++ (name, i) :: after))
        (k.layout.wrap (before ++ (name, j) :: after))
  /-- A field of a node whose fields are listed by position. -/
  | entry {k : Kind} {name : String} {τ : FieldType} {i j : Json} {before : List Json}
      (bare : k.layout = .bare) (field : k.signature[before.length]? = some (name, τ))
      (after : List Json) (h : Respelled τ i j) :
      Respelled (.child k.category) (.arr (before ++ i :: after)) (.arr (before ++ j :: after))
  /-- Members of a node that no field has the name of, and the order of all members. -/
  | rearranged {k : Kind} {members others : List (String × Json)} (named : k.layout.named = true)
      (h : Rearranged (k.signature.map Prod.fst) members others) :
      Respelled (.child k.category) (k.layout.wrap members) (k.layout.wrap others)
  /-- An option or a location that is null is left out. -/
  | omitted {k : Kind} {name : String} {τ : FieldType} (named : k.layout.named = true)
      (field : (name, τ) ∈ k.signature) (optional : τ.absent?.isSome = true)
      (before : List (String × Json)) {after : List (String × Json)}
      (once : name ∉ after.map Prod.fst) :
      Respelled (.child k.category) (k.layout.wrap (before ++ (name, .null) :: after))
        (k.layout.wrap (before ++ after))
  /-- The record of a node that is written bare becomes the array of all its fields. -/
  | positional {k : Kind} {members : List (String × Json)} {items : List Json}
      (bare : k.layout = .bare) (h : Lists (k.signature.map Prod.fst) items members) :
      Respelled (.child k.category) (.obj members) (.arr items)
  | word {k : Kind} {tag : String} (layout : k.layout = .unit tag) :
      Respelled (.child k.category) (.str tag) (.obj [(tag, .null)])

/-- A node is spelled differently, under the name of its family. -/
inductive Node.Respelled : Json → Json → Prop
  | tree {c : Category} {i j : Json} (h : (FieldType.child c).Respelled i j) :
      Respelled (.obj [(c.name, i)]) (.obj [(c.name, j)])

end SqlTrees
