import SqlTrees.Tagged

/-! # Categories of syntax

The sorts of the grammar: every node belongs to one category and every child position asks for one.
An inclusion makes each node of one category a node of another, without a node of its own between
them: a query is a statement, a set operation is a relation, and the elements of a table are column
definitions and LIKE clauses. A family is a category that a traversal can start from.
-/

namespace SqlTrees
set_option autoImplicit false

/-- The sorts of SQL syntax. -/
inductive Category
  | statement
  | query
  | relation
  | setOperation
  | expression
  | withClause
  | withQuery
  | select
  | selectItem
  | groupBy
  | groupingElement
  | orderBy
  | sortItem
  | window
  | windowFrame
  | frameBound
  | whenClause
  | joinCriteria
  | property
  | tableElement
  | columnDefinition
  | likeClause
  | transactionMode
  | explainOption
deriving DecidableEq, Repr

/-- `Inclusion a b` says that every node of category `a` is a node of category `b`. -/
inductive Inclusion : Category → Category → Type
  | queryStatement : Inclusion .query .statement
  | relationSetOperation : Inclusion .setOperation .relation
  | columnElement : Inclusion .columnDefinition .tableElement
  | likeElement : Inclusion .likeClause .tableElement
deriving DecidableEq, Repr

namespace Inclusion

/-- The tag that marks an included node where the larger category is written. -/
def tag {a b : Category} : Inclusion a b → String
  | .queryStatement => "Query"
  | .relationSetOperation => "SetOperation"
  | .columnElement => "Column"
  | .likeElement => "Like"

/-- The inclusion into a category with a given tag. -/
def ofTag? : (b : Category) → String → Option ((a : Category) × Inclusion a b)
  | .statement, "Query" => some ⟨_, .queryStatement⟩
  | .relation, "SetOperation" => some ⟨_, .relationSetOperation⟩
  | .tableElement, "Column" => some ⟨_, .columnElement⟩
  | .tableElement, "Like" => some ⟨_, .likeElement⟩
  | _, _ => none

end Inclusion

namespace Category

/-- Every category. -/
def all : List Category :=
  [.statement, .query, .relation, .setOperation, .expression, .withClause, .withQuery, .select,
    .selectItem, .groupBy, .groupingElement, .orderBy, .sortItem, .window, .windowFrame,
    .frameBound, .whenClause, .joinCriteria, .property, .tableElement, .columnDefinition,
    .likeClause, .transactionMode, .explainOption]

/-- The name of a category in written trees. -/
def name : Category → String
  | .statement => "Statement"
  | .query => "Query"
  | .relation => "Relation"
  | .setOperation => "SetOperation"
  | .expression => "Expression"
  | .withClause => "With"
  | .withQuery => "WithQuery"
  | .select => "Select"
  | .selectItem => "SelectItem"
  | .groupBy => "GroupBy"
  | .groupingElement => "GroupingElement"
  | .orderBy => "OrderBy"
  | .sortItem => "SortItem"
  | .window => "Window"
  | .windowFrame => "WindowFrame"
  | .frameBound => "FrameBound"
  | .whenClause => "WhenClause"
  | .joinCriteria => "JoinCriteria"
  | .property => "Property"
  | .tableElement => "TableElement"
  | .columnDefinition => "ColumnDefinition"
  | .likeClause => "LikeClause"
  | .transactionMode => "TransactionMode"
  | .explainOption => "ExplainOption"

instance : Tagged Category where
  all := all
  tag := name
  find_tag c := by cases c <;> rfl

/-- Whether a category is a family, whose trees stand on their own. The others only occur inside the
category that they are included in, or as the column that a statement adds. -/
def isFamily : Category → Bool
  | .setOperation | .columnDefinition | .likeClause => false
  | _ => true

end Category
end SqlTrees
