import SqlTrees.Double
import SqlTrees.Grammar.Category
import SqlTrees.Location
import SqlTrees.Name
import SqlTrees.Vocabulary

/-! # Types of fields

A field of a node holds an atom (a value with no nodes inside), a child of some category, or an
optional or repeated field. A signature lists the fields of a node by name.
-/

namespace SqlTrees
set_option autoImplicit false

/-- The vocabularies that a field may choose a word from. -/
inductive WordClass
  | arithmeticOperator
  | sign
  | comparisonOperator
  | logicalOperator
  | quantifier
  | extractField
  | currentTimeFunction
  | intervalSign
  | intervalField
  | sortOrdering
  | nullOrdering
  | windowFrameType
  | frameBoundType
  | joinType
  | sampleType
  | isolationLevel
  | explainFormat
  | explainType
  | likeOption
deriving DecidableEq, Repr

/-- The words of a class. -/
@[reducible]
def WordClass.Word : WordClass → Type
  | .arithmeticOperator => ArithmeticOperator
  | .sign => Sign
  | .comparisonOperator => ComparisonOperator
  | .logicalOperator => LogicalOperator
  | .quantifier => Quantifier
  | .extractField => ExtractField
  | .currentTimeFunction => CurrentTimeFunction
  | .intervalSign => IntervalSign
  | .intervalField => IntervalField
  | .sortOrdering => SortOrdering
  | .nullOrdering => NullOrdering
  | .windowFrameType => WindowFrameType
  | .frameBoundType => FrameBoundType
  | .joinType => JoinType
  | .sampleType => SampleType
  | .isolationLevel => IsolationLevel
  | .explainFormat => ExplainFormat
  | .explainType => ExplainType
  | .likeOption => LikeOption

instance (w : WordClass) : DecidableEq w.Word := by
  cases w <;> infer_instance

instance (w : WordClass) : Tagged w.Word := by
  cases w <;> infer_instance

/-- The types of values that hold no nodes. -/
inductive Atom
  | text
  | flag
  /-- A signed 64-bit number, the value of an integer literal. -/
  | long
  /-- An unsigned 64-bit number, a position or an index. -/
  | index
  /-- An unsigned 32-bit number, the precision of a clock reading. -/
  | precision
  | double
  | ident
  | name
  | location
  | word (w : WordClass)
deriving DecidableEq, Repr

/-- The values of an atom. -/
@[reducible]
def Atom.Carrier : Atom → Type
  | .text => String
  | .flag => Bool
  | .long => Int64
  | .index => UInt64
  | .precision => UInt32
  | .double => Double
  | .ident => Ident
  | .name => QualifiedName
  | .location => Location
  | .word w => w.Word

instance (a : Atom) : DecidableEq a.Carrier := by
  cases a <;> infer_instance

/-- Whether a whole number is in the range of `Atom.long`. -/
def isLong (n : Int) : Bool :=
  Int64.minValue.toInt ≤ n && n ≤ Int64.maxValue.toInt

/-- What a field of a node may hold. -/
inductive FieldType
  | atom (a : Atom)
  | child (c : Category)
  | option (τ : FieldType)
  | list (τ : FieldType)
deriving DecidableEq, Repr

/-- What a repeated field repeats. -/
@[reducible]
def FieldType.item : FieldType → FieldType
  | .list τ => τ
  | τ => τ

/-- The fields of a node, by name, in the order in which a traversal reaches them. -/
abbrev Signature := List (String × FieldType)

end SqlTrees
