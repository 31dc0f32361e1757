import SqlTrees.Sample.Tape
import SqlTrees.Tree.Clause
import SqlTrees.Tree.Expression
import SqlTrees.Tree.Relation
import SqlTrees.Tree.Statement

/-! # Trees made from choices

Generators of trees in which every kind has a standard rule, and of the statements that have none.
`Generators.atDepth` bounds the nesting: the generators of one depth are made from those of the
depth below, and at depth zero there are literals and tables only.
-/

namespace SqlTrees
set_option autoImplicit false

namespace Gen

/-! ## Names, locations and texts -/

def name : Gen String :=
  pick "a" ["b", "ra", "decl", "obj_id", "flux", "t", "Object", "Source"]

def ident : Gen Ident := do
  let value ← name
  let n ← range 0 4
  return ⟨value, n = 0⟩

def idents : Gen (List Ident) :=
  several 1 3 ident

def qualifiedName : Gen QualifiedName := do
  let parts ← several 1 3 name
  return ⟨parts⟩

/-- Half of all nodes have a position, as if they had been parsed. -/
def location : Gen Location :=
  maybe do
    let line ← range 1 40
    let column ← range 1 120
    return ⟨.ofNat line, .ofNat column⟩

def text : Gen String :=
  pick "" ["x", "2024-01-01", "12:00:00", "1.5", "it''s"]

def limit : Gen (Option String) :=
  maybe do
    let n ← range 1 1000
    return toString n

def typeName : Gen String :=
  pick "BIGINT" ["DOUBLE", "VARCHAR"]

/-! ## Literals -/

/-- `name` or `name.name`, as in a GROUP BY. -/
def columnReference : Gen Expression := do
  let value ← name
  let place ← location
  let column := Expression.identifier value false place
  if ← flag then
    let field ← name
    let place ← location
    return Expression.dereference column (.plain field) place
  else return column

/-- An identifier, a literal, a clock reading or a grouping operation. -/
def literal : Gen Expression := do
  let place ← location
  match ← range 0 12 with
  | 0 =>
    let value ← name
    let delimited ← flag
    return Expression.identifier value delimited place
  | 1 =>
    let n ← range 0 10000
    return Expression.longLiteral (Int64.ofNat n) place
  | 2 =>
    let quarters ← range 0 360
    return Expression.doubleLiteral (.ofDyadic quarters 2) place
  | 3 =>
    let n ← range 0 99
    return Expression.decimalLiteral (toString n ++ ".25") place
  | 4 =>
    let value ← text
    return Expression.stringLiteral value place
  | 5 =>
    let value ← flag
    return Expression.booleanLiteral value place
  | 6 => return Expression.nullLiteral place
  | 7 =>
    let value ← text
    return Expression.genericLiteral "VARCHAR" value place
  | 8 => return Expression.timeLiteral "12:00:00" place
  | 9 => return Expression.timestampLiteral "2024-01-01 12:00:00" place
  | 10 =>
    let n ← range 1 30
    let sign ← pick IntervalSign.positive [.negative]
    let start ← pick IntervalField.year [.day, .hour]
    let last ← maybe (return IntervalField.second)
    return Expression.intervalLiteral (toString n) sign start last place
  | 11 =>
    let function ← pick CurrentTimeFunction.date [.timestamp, .localTime]
    let precision ← maybe do
      let n ← range 0 6
      return UInt32.ofNat n
    return Expression.currentTime function precision place
  | _ =>
    let columns ← several 1 2 columnReference
    return Expression.groupingOperation columns place

def comparisonOperator : Gen ComparisonOperator :=
  pick .equal [.notEqual, .lessThan, .lessThanOrEqual, .greaterThan, .greaterThanOrEqual,
    .isDistinctFrom]

/-! ## Clauses, over the expressions in them -/

section Clauses
variable (expression : Gen Expression)

def whenClause : Gen WhenClause := do
  let operand ← expression
  let result ← expression
  let place ← location
  return WhenClause.mk operand result place

def sortItem : Gen SortItem := do
  let key ← expression
  let ordering ← pick SortOrdering.ascending [.descending]
  let nulls ← pick NullOrdering.first [.last, .undefined]
  let place ← location
  return SortItem.mk key ordering nulls place

def orderBy : Gen OrderBy := do
  let items ← several 1 2 (sortItem expression)
  let place ← location
  return OrderBy.mk items place

/-- Only the forms that count rows have a value. -/
def frameBound : Gen FrameBound := do
  let form ← pick FrameBoundType.unboundedPreceding
    [.preceding, .currentRow, .following, .unboundedFollowing]
  let value ← match form with
    | .preceding | .following => do
      let value ← expression
      pure (some value)
    | _ => pure none
  let place ← location
  return FrameBound.mk form value place

def windowFrame : Gen WindowFrame := do
  let unit ← pick WindowFrameType.range [.rows]
  let start ← frameBound expression
  let last ← maybe (frameBound expression)
  let place ← location
  return WindowFrame.mk unit start last place

def window : Gen Window := do
  let partition ← several 0 2 expression
  let ordering ← maybe (orderBy expression)
  let frame ← maybe (windowFrame expression)
  let place ← location
  return Window.mk partition ordering frame place

def selectItem : Gen SelectItem := do
  if (← range 0 4) = 0 then
    let qualifier ← maybe qualifiedName
    let place ← location
    return SelectItem.allColumns qualifier place
  else
    let column ← expression
    let label ← maybe ident
    let place ← location
    return SelectItem.singleColumn column label place

def groupingElement : Gen GroupingElement := do
  let place ← location
  match ← range 0 3 with
  | 0 =>
    let columns ← several 1 2 expression
    return GroupingElement.simple columns place
  | 1 =>
    let columns ← several 1 2 expression
    return GroupingElement.rollup columns place
  | 2 =>
    let columns ← several 1 2 expression
    return GroupingElement.cube columns place
  | _ =>
    let sets ← several 1 2 (several 0 2 expression)
    return GroupingElement.groupingSets sets place

def groupBy : Gen GroupBy := do
  let distinct ← flag
  let elements ← several 1 2 (groupingElement expression)
  let place ← location
  return GroupBy.mk distinct elements place

def select : Gen Select := do
  let distinct ← flag
  let items ← several 1 3 (selectItem expression)
  let place ← location
  return Select.mk items distinct place

def property : Gen Property := do
  let name ← ident
  let value ← expression
  let place ← location
  return Property.mk name value place

def columnDefinition : Gen ColumnDefinition := do
  let name ← ident
  let type ← typeName
  let properties ← several 0 2 (property expression)
  let comment ← maybe text
  let place ← location
  return ColumnDefinition.mk name type properties comment place

def tableElement : Gen TableElement := do
  if (← range 0 3) = 0 then
    let table ← qualifiedName
    let option ← maybe (pick LikeOption.includingProperties [.excludingProperties])
    let place ← location
    return TableElement.like (LikeClause.mk table option place)
  else
    let column ← columnDefinition expression
    return TableElement.column column

end Clauses

def transactionMode : Gen TransactionMode := do
  if ← flag then
    let level ← pick IsolationLevel.serializable
      [.repeatableRead, .readCommitted, .readUncommitted]
    let place ← location
    return TransactionMode.isolation level place
  else
    let readOnly ← flag
    let place ← location
    return TransactionMode.accessMode readOnly place

def explainOption : Gen ExplainOption := do
  if ← flag then
    let format ← pick ExplainFormat.text [.graphviz, .json]
    let place ← location
    return ExplainOption.format format place
  else
    let type ← pick ExplainType.logical [.distributed, .validate, .io]
    let place ← location
    return ExplainOption.planType type place

/-! ## Relations -/

def table : Gen Relation := do
  let name ← qualifiedName
  let place ← location
  return Relation.table name place

def querySpecification (expression : Gen Expression) (relation : Gen Relation) :
    Gen Relation := do
  let items ← select expression
  let source ← do
    if (← range 0 4) > 0 then
      let source ← relation
      pure (some source)
    else pure none
  let condition ← maybe expression
  let grouping ← rarely 3 (groupBy expression)
  let having ← rarely 3 expression
  let ordering ← rarely 3 (orderBy expression)
  let count ← limit
  let place ← location
  return Relation.querySpecification items source condition grouping having ordering count place

/-- Cross joins and comma joins have no criteria, all others do. -/
def joinCriteria (expression : Gen Expression) : JoinType → Gen (Option JoinCriteria)
  | .cross | .implicit => return none
  | _ => do
    match ← range 0 2 with
    | 0 =>
      let condition ← expression
      return some (JoinCriteria.onCondition condition)
    | 1 =>
      let columns ← idents
      return some (JoinCriteria.usingColumns columns)
    | _ => return some JoinCriteria.natural

end Gen

/-! ## By depth -/

/-- The generators of one depth. -/
structure Generators where
  expression : Gen Expression
  relation : Gen Relation
  query : Gen Query
  statement : Gen Statement

namespace Generators
open Gen

/-- A subquery expression over a query of the depth. -/
def subquery (g : Generators) : Gen Expression := do
  let query ← g.query
  let place ← location
  return Expression.subquery query place

/-- An expression one deeper than `g`. -/
def deeperExpression (g : Generators) : Gen Expression := do
  if (← range 0 3) = 0 then literal
  else
    let place ← location
    match ← range 0 31 with
    | 0 =>
      let base ← g.expression
      let field ← ident
      return Expression.dereference base field place
    | 1 =>
      let op ← pick ArithmeticOperator.add [.subtract, .multiply, .divide, .modulus]
      let left ← g.expression
      let right ← g.expression
      return Expression.arithmeticBinary op left right place
    | 2 =>
      let sign ← pick Sign.plus [.minus]
      let value ← g.expression
      return Expression.arithmeticUnary sign value place
    | 3 =>
      let op ← comparisonOperator
      let left ← g.expression
      let right ← g.expression
      return Expression.comparison op left right place
    | 4 =>
      let op ← pick LogicalOperator.and [.or]
      let left ← g.expression
      let right ← g.expression
      return Expression.logicalBinary op left right place
    | 5 =>
      let value ← g.expression
      return Expression.not value place
    | 6 =>
      let value ← g.expression
      let min ← g.expression
      let max ← g.expression
      return Expression.between value min max place
    | 7 =>
      let value ← g.expression
      let values ← several 1 3 g.expression
      let listPlace ← location
      return Expression.inPredicate value (Expression.inList values listPlace) place
    | 8 =>
      let value ← g.expression
      let pattern ← g.expression
      let escape ← maybe g.expression
      return Expression.like value pattern escape place
    | 9 =>
      let value ← g.expression
      return Expression.isNull value place
    | 10 =>
      let value ← g.expression
      return Expression.isNotNull value place
    | 11 =>
      let subquery ← g.subquery
      return Expression.existsPredicate subquery place
    | 12 =>
      let op ← comparisonOperator
      let quantifier ← pick Quantifier.all [.any, .some]
      let value ← g.expression
      let subquery ← g.subquery
      return Expression.quantifiedComparison op quantifier value subquery place
    | 13 =>
      let query ← g.query
      return Expression.subquery query place
    | 14 =>
      let name ← qualifiedName
      let window ← rarely 3 (window g.expression)
      let filter ← rarely 3 g.expression
      let ordering ← rarely 3 (orderBy g.expression)
      let distinct ← flag
      let arguments ← several 0 3 g.expression
      return Expression.functionCall name arguments distinct ordering window filter place
    | 15 =>
      let expression ← g.expression
      let type ← typeName
      let safe ← flag
      let typeOnly ← flag
      return Expression.cast expression type safe typeOnly place
    | 16 =>
      let expression ← g.expression
      let field ← pick ExtractField.year [.month, .dayOfWeek, .timezoneHour]
      return Expression.extract expression field place
    | 17 =>
      let value ← g.expression
      let zone ← g.expression
      return Expression.atTimeZone value zone place
    | 18 =>
      let values ← several 0 3 g.expression
      return Expression.arrayConstructor values place
    | 19 =>
      let base ← g.expression
      let index ← g.expression
      return Expression.subscript base index place
    | 20 =>
      let operands ← several 1 3 g.expression
      return Expression.coalesce operands place
    | 21 =>
      let first ← g.expression
      let second ← g.expression
      return Expression.nullIf first second place
    | 22 =>
      let condition ← g.expression
      let whenTrue ← g.expression
      let whenFalse ← maybe g.expression
      return Expression.conditional condition whenTrue whenFalse place
    | 23 =>
      let inner ← g.expression
      return Expression.tryExpression inner place
    | 24 =>
      let values ← several 1 2 g.expression
      let function ← g.expression
      return Expression.bind values function place
    | 25 =>
      let arguments ← idents
      let body ← g.expression
      return Expression.lambda arguments body place
    | 26 =>
      let operand ← g.expression
      let clauses ← several 1 2 (whenClause g.expression)
      let default ← maybe g.expression
      return Expression.simpleCase operand clauses default place
    | 27 =>
      let clauses ← several 1 2 (whenClause g.expression)
      let default ← maybe g.expression
      return Expression.searchedCase clauses default place
    | 28 =>
      let items ← several 1 3 g.expression
      return Expression.row items place
    | 29 =>
      let values ← several 1 3 g.expression
      return Expression.inList values place
    | _ => literal

/-- A relation one deeper than `g`. -/
def deeperRelation (g : Generators) : Gen Relation := do
  let place ← location
  match ← range 0 11 with
  | 0 => querySpecification g.expression g.relation
  | 1 =>
    let relations ← several 2 3 g.relation
    let distinct ← flag
    return Relation.setOperation (SetOperation.union relations distinct place)
  | 2 =>
    let relations ← several 2 3 g.relation
    let distinct ← flag
    return Relation.setOperation (SetOperation.intersect relations distinct place)
  | 3 =>
    let left ← g.relation
    let right ← g.relation
    let distinct ← flag
    return Relation.setOperation (SetOperation.except left right distinct place)
  | 4 =>
    let rows ← several 1 3 g.expression
    return Relation.values rows place
  | 5 =>
    let query ← g.query
    return Relation.tableSubquery query place
  | 6 =>
    let relation ← g.relation
    let label ← ident
    let columns ← maybe idents
    return Relation.aliased relation label columns place
  | 7 =>
    let relation ← g.relation
    let method ← pick SampleType.bernoulli [.system]
    let percentage ← g.expression
    return Relation.sampled relation method percentage place
  | 8 =>
    let type ← pick JoinType.cross [.inner, .left, .right, .full, .implicit]
    let criteria ← joinCriteria g.expression type
    let left ← g.relation
    let right ← g.relation
    return Relation.join type left right criteria place
  | 9 =>
    let expressions ← several 1 2 g.expression
    let withOrdinality ← flag
    return Relation.unnest expressions withOrdinality place
  | 10 =>
    let query ← g.query
    return Relation.lateral query place
  | _ => table

/-- A WITH clause over queries of the depth. -/
def withClause (g : Generators) : Gen WithClause := do
  let recursive ← flag
  let queries ← several 1 2 do
    let name ← ident
    let query ← g.query
    let columns ← maybe idents
    let place ← location
    return WithQuery.mk name query columns place
  let place ← location
  return WithClause.mk recursive queries place

/-- A query around the relations of its own depth. -/
def queryOver (withClause : Gen (Option WithClause)) (specification relation : Gen Relation)
    (ordering : Gen (Option OrderBy)) : Gen Query := do
  let clause ← withClause
  let body ← do
    if ← flag then specification else relation
  let ordering ← ordering
  let count ← limit
  let place ← location
  return Query.mk body clause ordering count place

/-- EXPLAIN of a statement. -/
def explain (statement : Gen Statement) (place : Location) : Gen Statement := do
  let statement ← statement
  let analyze ← flag
  let verbose ← flag
  let options ← several 0 2 explainOption
  return Statement.explain statement analyze verbose options place

/-- A statement with a standard rule: one over inner expressions and queries, or a query, or an
EXPLAIN where there is a statement to explain. -/
def statementOver (expression : Gen Expression) (inner query : Gen Query)
    (explained : Option (Gen Statement)) : Gen Statement := do
  let place ← location
  let ofQuery : Gen Statement := do
    let query ← query
    return Statement.query query
  match ← range 0 16 with
  | 0 =>
    let target ← qualifiedName
    let columns ← maybe idents
    let query ← inner
    return Statement.insert target query columns place
  | 1 =>
    let table ← table
    let condition ← maybe expression
    return Statement.delete table condition place
  | 2 =>
    let name ← qualifiedName
    let query ← inner
    let ifNotExists ← flag
    let properties ← several 0 2 (property expression)
    let withData ← flag
    let columns ← maybe idents
    let comment ← maybe text
    return Statement.createTableAsSelect name query ifNotExists properties withData columns
      comment place
  | 3 =>
    let name ← qualifiedName
    let query ← inner
    let replace ← flag
    return Statement.createView name query replace place
  | 4 =>
    let name ← qualifiedName
    let elements ← several 1 3 (tableElement expression)
    let ifNotExists ← flag
    let properties ← several 0 2 (property expression)
    let comment ← maybe text
    return Statement.createTable name elements ifNotExists properties comment place
  | 5 =>
    let name ← qualifiedName
    let column ← columnDefinition expression
    return Statement.addColumn name column place
  | 6 =>
    let name ← qualifiedName
    let value ← expression
    return Statement.setSession name value place
  | 7 =>
    let table ← qualifiedName
    let condition ← maybe expression
    let ordering ← several 0 2 (sortItem expression)
    let count ← limit
    return Statement.showPartitions table ordering condition count place
  | 8 =>
    let table ← qualifiedName
    return Statement.showColumns table place
  | 9 =>
    let modes ← several 0 2 transactionMode
    return Statement.startTransaction modes place
  | 10 =>
    match explained with
    | some statement => explain statement place
    | none => ofQuery
  | _ => ofQuery

/-- The generators of depth zero. -/
def flat : Generators :=
  let query := queryOver (return none) (querySpecification literal table) table (return none)
  { expression := literal
    relation := table
    query
    statement := statementOver literal query query none }

/-- The generators one deeper than `g`. -/
def deeper (g : Generators) : Generators :=
  let relation := g.deeperRelation
  let query := queryOver (rarely 4 g.withClause) (querySpecification g.expression g.relation)
    relation (rarely 3 (orderBy g.expression))
  { expression := g.deeperExpression
    relation
    query
    statement := statementOver g.expression g.query query (some g.statement) }

/-- The generators of a depth. -/
def atDepth : Nat → Generators
  | 0 => flat
  | depth + 1 => (atDepth depth).deeper

end Generators

namespace Gen

/-- A tree of some family in which every kind has a standard rule, of depth four at most. -/
def tree (size : Nat) : Gen Node := do
  let g := Generators.atDepth (min size 4)
  match ← range 0 9 with
  | 0 =>
    let expression ← g.expression
    return { tree := expression }
  | 1 =>
    let relation ← g.relation
    return { tree := relation }
  | 2 =>
    let query ← g.query
    return { tree := query }
  | _ =>
    let statement ← g.statement
    return { tree := statement }

/-- A statement that has no standard rule. -/
def unsupportedStatement : Gen Statement := do
  let g := Generators.atDepth 1
  let place ← location
  match ← range 0 18 with
  | 0 =>
    let name ← ident
    let query ← g.query
    return Statement.prepare name (Statement.query query) place
  | 1 =>
    let name ← ident
    let parameters ← several 0 2 g.expression
    return Statement.execute name parameters place
  | 2 =>
    let name ← ident
    return Statement.deallocate name place
  | 3 =>
    let table ← qualifiedName
    let grantee ← ident
    let withGrantOption ← flag
    return Statement.grant table grantee withGrantOption (some ["SELECT"]) place
  | 4 =>
    let grantOptionFor ← flag
    let table ← qualifiedName
    let grantee ← ident
    return Statement.revoke grantOptionFor table grantee none place
  | 5 =>
    let name ← qualifiedName
    let ifNotExists ← flag
    let properties ← several 0 2 (property g.expression)
    return Statement.createSchema name ifNotExists properties place
  | 6 =>
    let name ← qualifiedName
    let ifExists ← flag
    let cascade ← flag
    return Statement.dropSchema name ifExists cascade place
  | 7 =>
    let name ← qualifiedName
    let ifExists ← flag
    return Statement.dropTable name ifExists place
  | 8 =>
    let name ← qualifiedName
    let ifExists ← flag
    return Statement.dropView name ifExists place
  | 9 =>
    let source ← qualifiedName
    let target ← qualifiedName
    return Statement.renameTable source target place
  | 10 =>
    let catalog ← maybe ident
    let schema ← ident
    return Statement.useSchema schema catalog place
  | 11 =>
    let schema ← maybe qualifiedName
    let pattern ← maybe text
    return Statement.showTables schema pattern place
  | 12 =>
    let catalog ← maybe ident
    let pattern ← maybe text
    return Statement.showSchemas catalog pattern place
  | 13 =>
    let pattern ← maybe text
    return Statement.showCatalogs pattern place
  | 14 => return Statement.showSession place
  | 15 => return Statement.showFunctions place
  | 16 =>
    let name ← qualifiedName
    return Statement.resetSession name place
  | 17 => return Statement.commit place
  | _ => return Statement.rollback place

end Gen
end SqlTrees
