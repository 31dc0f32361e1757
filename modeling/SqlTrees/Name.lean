/-! # Identifiers and dotted names

`Ident.text` writes a delimited identifier between double quotes with every inner quote doubled.
`QualifiedName.parse` cuts at every dot and `QualifiedName.text` joins with dots; quoting plays no
part in either.
-/

namespace SqlTrees
set_option autoImplicit false

/-- A bare name as written in a query: an alias, a column, a field. -/
structure Ident where
  value : String
  /-- Written between double quotes. -/
  delimited : Bool
deriving DecidableEq, Repr

namespace Ident

def plain (value : String) : Ident :=
  ⟨value, false⟩

def quoted (value : String) : Ident :=
  ⟨value, true⟩

/-- Every double quote written twice. -/
def escape : List Char → List Char
  | [] => []
  | c :: rest => if c = '"' then '"' :: '"' :: escape rest else c :: escape rest

def text (i : Ident) : String :=
  if i.delimited then String.ofList ('"' :: escape i.value.toList ++ ['"']) else i.value

end Ident

/-- A dotted name such as `catalog.schema.table`. -/
structure QualifiedName where
  parts : List String
deriving DecidableEq, Repr

namespace QualifiedName

/-- The pieces of a text between its dots; a text without a dot is one piece. -/
def pieces : List Char → List (List Char)
  | [] => [[]]
  | c :: rest =>
    if c = '.' then [] :: pieces rest
    else
      match pieces rest with
      | [] => [[c]]
      | piece :: more => (c :: piece) :: more

def parse (dotted : String) : QualifiedName :=
  ⟨(pieces dotted.toList).map String.ofList⟩

def text (n : QualifiedName) : String :=
  ".".intercalate n.parts

/-- The last part, such as the bare name of a table or function; empty if there is none. -/
def suffix (n : QualifiedName) : String :=
  n.parts.getLast?.getD ""

end QualifiedName

/-- Whether two texts agree when the case of ASCII letters is ignored. -/
def sameIgnoringCase (a b : String) : Bool :=
  a.toList.map Char.toLower == b.toList.map Char.toLower

end SqlTrees
