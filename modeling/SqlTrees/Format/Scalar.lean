import SqlTrees.Grammar.FieldType
import SqlTrees.Json

/-! # Written forms of scalars

Each scalar has one written form, `toJson`, and a reader `ofJson?` that accepts every spelling of
it: a structure may be an object, which may hold unknown members too, or the array of its fields; a
word may be a text or an object whose only key is the word, over null. Numbers never come from
texts, booleans or fractions.
-/

namespace SqlTrees
set_option autoImplicit false

/-! ## Structures -/

def Ident.toJson (i : Ident) : Json :=
  .obj [("value", .str i.value), ("delimited", .bool i.delimited)]

def Ident.ofJson? (j : Json) : Option Ident :=
  match j.fields? ["value", "delimited"] with
  | some [some (.str value), some (.bool delimited)] => some ⟨value, delimited⟩
  | _ => none

/-- A list of texts. -/
def texts? : List Json → Option (List String)
  | [] => some []
  | .str s :: rest => (texts? rest).map (s :: ·)
  | _ :: _ => none

def QualifiedName.toJson (n : QualifiedName) : Json :=
  .obj [("parts", .arr (n.parts.map .str))]

def QualifiedName.ofJson? (j : Json) : Option QualifiedName :=
  match j.fields? ["parts"] with
  | some [some (.arr items)] => (texts? items).map QualifiedName.mk
  | _ => none

/-- An unsigned 64-bit number. -/
def index? (j : Json) : Option UInt64 :=
  (j.natBelow? UInt64.size).map UInt64.ofNat

def Position.toJson (p : Position) : Json :=
  .obj [("line", .int p.line.toNat), ("column", .int p.column.toNat)]

def Position.ofJson? (j : Json) : Option Position :=
  match j.fields? ["line", "column"] with
  | some [some line, some column] => do
    let line ← index? line
    let column ← index? column
    return ⟨line, column⟩
  | _ => none

/-- A missing location is written as null. -/
def Location.toJson : Location → Json
  | none => .null
  | some p => p.toJson

def Location.ofJson? : Json → Option Location
  | .null => some none
  | j => (Position.ofJson? j).map some

/-! ## Numbers and words -/

/-- JSON has no NaN and no infinities; they are written as null. -/
def Double.toJson (d : Double) : Json :=
  if d.isFinite then .double d else .null

/-- Any finite number; a whole number stands for the nearest double, if that is finite. -/
def Double.ofJson? : Json → Option Double
  | .double d => if d.isFinite then some d else none
  | .int n => if (Double.ofInt n).isFinite then some (.ofInt n) else none
  | _ => none

/-- A signed 64-bit number. -/
def long? : Json → Option Int64
  | .int n => if isLong n then some (Int64.ofInt n) else none
  | _ => none

/-- An unsigned 32-bit number. -/
def precision? (j : Json) : Option UInt32 :=
  (j.natBelow? UInt32.size).map UInt32.ofNat

def wordToJson {α : Type} [Tagged α] (a : α) : Json :=
  .str (Tagged.tag a)

/-- The text of a word, in either spelling. -/
def Json.word? : Json → Option String
  | .str s => some s
  | .obj [(s, .null)] => some s
  | _ => none

def wordOfJson? (α : Type) [Tagged α] (j : Json) : Option α :=
  j.word?.bind (Tagged.ofTag? α)

/-! ## Atoms -/

namespace Atom

def encode : (a : Atom) → a.Carrier → Json
  | .text, s => .str s
  | .flag, b => .bool b
  | .long, n => .int n.toInt
  | .index, n => .int n.toNat
  | .precision, n => .int n.toNat
  | .double, d => d.toJson
  | .ident, i => i.toJson
  | .name, n => n.toJson
  | .location, l => l.toJson
  | .word _, w => wordToJson w

def decode : (a : Atom) → Json → Option a.Carrier
  | .text, .str s => some s
  | .text, _ => none
  | .flag, .bool b => some b
  | .flag, _ => none
  | .long, j => long? j
  | .index, j => index? j
  | .precision, j => precision? j
  | .double, j => Double.ofJson? j
  | .ident, j => Ident.ofJson? j
  | .name, j => QualifiedName.ofJson? j
  | .location, j => Location.ofJson? j
  | .word w, j => wordOfJson? w.Word j

end Atom
end SqlTrees
