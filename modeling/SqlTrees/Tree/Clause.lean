import SqlTrees.Tree

/-! # Clauses

One constructor for each kind of clause, item, property and option.
-/

namespace SqlTrees
set_option autoImplicit false

def WithClause.mk (recursive : Bool) (queries : List WithQuery) (location : Location := none) :
    WithClause :=
  .node .withClause rfl <| .cons (.atom recursive) <| .cons (.ofChildren queries) <|
    .cons (.atom location) .nil

def WithQuery.mk (name : Ident) (query : Query) (columnNames : Option (List Ident) := none)
    (location : Location := none) : WithQuery :=
  .node .withQuery rfl <| .cons (.atom name) <| .cons (.child query) <|
    .cons (.ofOption (columnNames.map .ofAtoms)) <| .cons (.atom location) .nil

def Select.mk (selectItems : List SelectItem) (distinct : Bool := false)
    (location : Location := none) : Select :=
  .node .select rfl <| .cons (.atom distinct) <| .cons (.ofChildren selectItems) <|
    .cons (.atom location) .nil

def SelectItem.singleColumn (expression : Expression) (label : Option Ident := none)
    (location : Location := none) : SelectItem :=
  .node .singleColumn rfl <| .cons (.child expression) <| .cons (.ofAtom? label) <|
    .cons (.atom location) .nil

def SelectItem.allColumns (qualifier : Option QualifiedName := none)
    (location : Location := none) : SelectItem :=
  .node .allColumns rfl <| .cons (.ofAtom? qualifier) <| .cons (.atom location) .nil

def GroupBy.mk (distinct : Bool) (groupingElements : List GroupingElement)
    (location : Location := none) : GroupBy :=
  .node .groupBy rfl <| .cons (.atom distinct) <| .cons (.ofChildren groupingElements) <|
    .cons (.atom location) .nil

def GroupingElement.simple (columns : List Expression) (location : Location := none) :
    GroupingElement :=
  .node .simpleGroupBy rfl <| .cons (.ofChildren columns) <| .cons (.atom location) .nil

def GroupingElement.rollup (columns : List Expression) (location : Location := none) :
    GroupingElement :=
  .node .rollup rfl <| .cons (.ofChildren columns) <| .cons (.atom location) .nil

def GroupingElement.cube (columns : List Expression) (location : Location := none) :
    GroupingElement :=
  .node .cube rfl <| .cons (.ofChildren columns) <| .cons (.atom location) .nil

def GroupingElement.groupingSets (sets : List (List Expression)) (location : Location := none) :
    GroupingElement :=
  .node .groupingSets rfl <| .cons (.ofList (sets.map .ofChildren)) <|
    .cons (.atom location) .nil

def OrderBy.mk (sortItems : List SortItem) (location : Location := none) : OrderBy :=
  .node .orderBy rfl <| .cons (.ofChildren sortItems) <| .cons (.atom location) .nil

def SortItem.mk (sortKey : Expression) (ordering : SortOrdering) (nullOrdering : NullOrdering)
    (location : Location := none) : SortItem :=
  .node .sortItem rfl <| .cons (.child sortKey) <| .cons (.atom ordering) <|
    .cons (.atom nullOrdering) <| .cons (.atom location) .nil

def Window.mk (partitionBy : List Expression) (orderBy : Option OrderBy := none)
    (frame : Option WindowFrame := none) (location : Location := none) : Window :=
  .node .window rfl <| .cons (.ofChildren partitionBy) <| .cons (.ofChild? orderBy) <|
    .cons (.ofChild? frame) <| .cons (.atom location) .nil

def WindowFrame.mk (frameType : WindowFrameType) (start : FrameBound)
    (last : Option FrameBound := none) (location : Location := none) : WindowFrame :=
  .node .windowFrame rfl <| .cons (.atom frameType) <| .cons (.child start) <|
    .cons (.ofChild? last) <| .cons (.atom location) .nil

def FrameBound.mk (boundType : FrameBoundType) (value : Option Expression := none)
    (location : Location := none) : FrameBound :=
  .node .frameBound rfl <| .cons (.atom boundType) <| .cons (.ofChild? value) <|
    .cons (.atom location) .nil

def WhenClause.mk (operand result : Expression) (location : Location := none) : WhenClause :=
  .node .whenClause rfl <| .cons (.child operand) <| .cons (.child result) <|
    .cons (.atom location) .nil

def JoinCriteria.onCondition (condition : Expression) : JoinCriteria :=
  .node .joinOn rfl <| .cons (.child condition) .nil

def JoinCriteria.usingColumns (columns : List Ident) : JoinCriteria :=
  .node .joinUsing rfl <| .cons (.ofAtoms columns) .nil

def JoinCriteria.natural : JoinCriteria :=
  .node .naturalJoin rfl .nil

def Property.mk (name : Ident) (value : Expression) (location : Location := none) : Property :=
  .node .property rfl <| .cons (.atom name) <| .cons (.child value) <|
    .cons (.atom location) .nil

def ColumnDefinition.mk (name : Ident) (typeName : String) (properties : List Property)
    (comment : Option String := none) (location : Location := none) : ColumnDefinition :=
  .node .columnDefinition rfl <| .cons (.atom name) <| .cons (.atom typeName) <|
    .cons (.ofChildren properties) <| .cons (.ofAtom? comment) <| .cons (.atom location) .nil

def LikeClause.mk (table : QualifiedName) (propertiesOption : Option LikeOption := none)
    (location : Location := none) : LikeClause :=
  .node .likeClause rfl <| .cons (.atom table) <| .cons (.ofAtom? propertiesOption) <|
    .cons (.atom location) .nil

def TransactionMode.isolation (level : IsolationLevel) (location : Location := none) :
    TransactionMode :=
  .node .isolation rfl <| .cons (.atom level) <| .cons (.atom location) .nil

def TransactionMode.accessMode (readOnly : Bool) (location : Location := none) :
    TransactionMode :=
  .node .transactionAccessMode rfl <| .cons (.atom readOnly) <| .cons (.atom location) .nil

def ExplainOption.format (format : ExplainFormat) (location : Location := none) : ExplainOption :=
  .node .explainFormat rfl <| .cons (.atom format) <| .cons (.atom location) .nil

def ExplainOption.planType (explainType : ExplainType) (location : Location := none) :
    ExplainOption :=
  .node .explainType rfl <| .cons (.atom explainType) <| .cons (.atom location) .nil

/-- A column definition as an element of a table. -/
@[match_pattern]
def TableElement.column (c : ColumnDefinition) : TableElement :=
  .inclusion .columnElement c

/-- A LIKE clause as an element of a table. -/
@[match_pattern]
def TableElement.like (l : LikeClause) : TableElement :=
  .inclusion .likeElement l

end SqlTrees
