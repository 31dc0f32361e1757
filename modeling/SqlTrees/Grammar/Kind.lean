import SqlTrees.Grammar.FieldType

/-! # The kinds of nodes

One table per property of a kind: its category, its fields, its written form and how a pass treats
it unless told otherwise. Everything else in the library is defined over these tables, so a kind is
described here and nowhere else.
-/

namespace SqlTrees
set_option autoImplicit false

/-- The concrete kinds of nodes, in the order in which reports list them. -/
inductive Kind
  | query
  | insert
  | delete
  | createTableAsSelect
  | createView
  | createTable
  | addColumn
  | setSession
  | showPartitions
  | showColumns
  | startTransaction
  | explain
  | prepare
  | execute
  | deallocate
  | grant
  | revoke
  | createSchema
  | dropSchema
  | dropTable
  | dropView
  | renameTable
  | useSchema
  | showTables
  | showSchemas
  | showCatalogs
  | showSession
  | showFunctions
  | resetSession
  | commit
  | rollback
  | table
  /-- A `SELECT ... FROM ... WHERE ...` block. -/
  | querySpecification
  | union
  | intersect
  | except
  | values
  /-- A parenthesized query used as a relation. -/
  | tableSubquery
  | aliasedRelation
  | sampledRelation
  | join
  | unnest
  | lateral
  /-- A bare column or variable name. -/
  | identifier
  /-- Field access on a row or a qualified column. -/
  | dereference
  | longLiteral
  | doubleLiteral
  /-- An exact decimal kept in its textual form. -/
  | decimalLiteral
  | stringLiteral
  | booleanLiteral
  | nullLiteral
  /-- A typed literal such as `DATE '2018-01-01'`. -/
  | genericLiteral
  | timeLiteral
  | timestampLiteral
  | intervalLiteral
  | currentTime
  /-- A positional `?` of a prepared statement. -/
  | parameter
  /-- A planner's reference to an input field by index. -/
  | fieldReference
  | arithmeticBinary
  | arithmeticUnary
  | comparison
  | logicalBinary
  | not
  | between
  /-- The list is an `inList` or a subquery. -/
  | inPredicate
  | inList
  | like
  | isNull
  | isNotNull
  | existsPredicate
  | quantifiedComparison
  | subqueryExpression
  | functionCall
  | cast
  | extract
  | atTimeZone
  | arrayConstructor
  | subscript
  | coalesce
  | nullIf
  /-- `IF(condition, true_value[, false_value])`. -/
  | conditional
  | tryExpression
  /-- Partial application of a lambda to leading values. -/
  | bind
  | lambda
  | simpleCase
  | searchedCase
  | row
  /-- `GROUPING(a, b)` inside an aggregation query. -/
  | groupingOperation
  | withClause
  /-- A named common table expression. -/
  | withQuery
  | select
  | singleColumn
  | allColumns
  | groupBy
  | simpleGroupBy
  | rollup
  | cube
  | groupingSets
  | orderBy
  | sortItem
  /-- An `OVER (...)` specification. -/
  | window
  | windowFrame
  | frameBound
  /-- A `WHEN operand THEN result` arm. -/
  | whenClause
  | joinOn
  | joinUsing
  | naturalJoin
  | property
  | columnDefinition
  | likeClause
  | isolation
  | transactionAccessMode
  | explainFormat
  | explainType
deriving DecidableEq, Repr

namespace Kind

/-- Every kind, in the order of declaration. -/
def all : List Kind :=
  [.query, .insert, .delete, .createTableAsSelect, .createView, .createTable, .addColumn,
    .setSession, .showPartitions, .showColumns, .startTransaction, .explain, .prepare, .execute,
    .deallocate, .grant, .revoke, .createSchema, .dropSchema, .dropTable, .dropView,
    .renameTable, .useSchema, .showTables, .showSchemas, .showCatalogs, .showSession,
    .showFunctions, .resetSession, .commit, .rollback, .table, .querySpecification, .union,
    .intersect, .except, .values, .tableSubquery, .aliasedRelation, .sampledRelation, .join,
    .unnest, .lateral, .identifier, .dereference, .longLiteral, .doubleLiteral, .decimalLiteral,
    .stringLiteral, .booleanLiteral, .nullLiteral, .genericLiteral, .timeLiteral,
    .timestampLiteral, .intervalLiteral, .currentTime, .parameter, .fieldReference,
    .arithmeticBinary, .arithmeticUnary, .comparison, .logicalBinary, .not, .between,
    .inPredicate, .inList, .like, .isNull, .isNotNull, .existsPredicate, .quantifiedComparison,
    .subqueryExpression, .functionCall, .cast, .extract, .atTimeZone, .arrayConstructor,
    .subscript, .coalesce, .nullIf, .conditional, .tryExpression, .bind, .lambda, .simpleCase,
    .searchedCase, .row, .groupingOperation, .withClause, .withQuery, .select, .singleColumn,
    .allColumns, .groupBy, .simpleGroupBy, .rollup, .cube, .groupingSets, .orderBy, .sortItem,
    .window, .windowFrame, .frameBound, .whenClause, .joinOn, .joinUsing, .naturalJoin,
    .property, .columnDefinition, .likeClause, .isolation, .transactionAccessMode,
    .explainFormat, .explainType]

/-- The name of a kind in messages and reports. -/
def name : Kind → String
  | .query => "Query"
  | .insert => "Insert"
  | .delete => "Delete"
  | .createTableAsSelect => "CreateTableAsSelect"
  | .createView => "CreateView"
  | .createTable => "CreateTable"
  | .addColumn => "AddColumn"
  | .setSession => "SetSession"
  | .showPartitions => "ShowPartitions"
  | .showColumns => "ShowColumns"
  | .startTransaction => "StartTransaction"
  | .explain => "Explain"
  | .prepare => "Prepare"
  | .execute => "Execute"
  | .deallocate => "Deallocate"
  | .grant => "Grant"
  | .revoke => "Revoke"
  | .createSchema => "CreateSchema"
  | .dropSchema => "DropSchema"
  | .dropTable => "DropTable"
  | .dropView => "DropView"
  | .renameTable => "RenameTable"
  | .useSchema => "Use"
  | .showTables => "ShowTables"
  | .showSchemas => "ShowSchemas"
  | .showCatalogs => "ShowCatalogs"
  | .showSession => "ShowSession"
  | .showFunctions => "ShowFunctions"
  | .resetSession => "ResetSession"
  | .commit => "Commit"
  | .rollback => "Rollback"
  | .table => "Table"
  | .querySpecification => "QuerySpecification"
  | .union => "Union"
  | .intersect => "Intersect"
  | .except => "Except"
  | .values => "Values"
  | .tableSubquery => "TableSubquery"
  | .aliasedRelation => "AliasedRelation"
  | .sampledRelation => "SampledRelation"
  | .join => "Join"
  | .unnest => "Unnest"
  | .lateral => "Lateral"
  | .identifier => "Identifier"
  | .dereference => "Dereference"
  | .longLiteral => "LongLiteral"
  | .doubleLiteral => "DoubleLiteral"
  | .decimalLiteral => "DecimalLiteral"
  | .stringLiteral => "StringLiteral"
  | .booleanLiteral => "BooleanLiteral"
  | .nullLiteral => "NullLiteral"
  | .genericLiteral => "GenericLiteral"
  | .timeLiteral => "TimeLiteral"
  | .timestampLiteral => "TimestampLiteral"
  | .intervalLiteral => "IntervalLiteral"
  | .currentTime => "CurrentTime"
  | .parameter => "Parameter"
  | .fieldReference => "FieldReference"
  | .arithmeticBinary => "ArithmeticBinary"
  | .arithmeticUnary => "ArithmeticUnary"
  | .comparison => "Comparison"
  | .logicalBinary => "LogicalBinary"
  | .not => "Not"
  | .between => "Between"
  | .inPredicate => "InPredicate"
  | .inList => "InList"
  | .like => "Like"
  | .isNull => "IsNull"
  | .isNotNull => "IsNotNull"
  | .existsPredicate => "Exists"
  | .quantifiedComparison => "QuantifiedComparison"
  | .subqueryExpression => "SubqueryExpression"
  | .functionCall => "FunctionCall"
  | .cast => "Cast"
  | .extract => "Extract"
  | .atTimeZone => "AtTimeZone"
  | .arrayConstructor => "ArrayConstructor"
  | .subscript => "Subscript"
  | .coalesce => "Coalesce"
  | .nullIf => "NullIf"
  | .conditional => "If"
  | .tryExpression => "Try"
  | .bind => "Bind"
  | .lambda => "Lambda"
  | .simpleCase => "SimpleCase"
  | .searchedCase => "SearchedCase"
  | .row => "Row"
  | .groupingOperation => "GroupingOperation"
  | .withClause => "With"
  | .withQuery => "WithQuery"
  | .select => "Select"
  | .singleColumn => "SingleColumn"
  | .allColumns => "AllColumns"
  | .groupBy => "GroupBy"
  | .simpleGroupBy => "SimpleGroupBy"
  | .rollup => "Rollup"
  | .cube => "Cube"
  | .groupingSets => "GroupingSets"
  | .orderBy => "OrderBy"
  | .sortItem => "SortItem"
  | .window => "Window"
  | .windowFrame => "WindowFrame"
  | .frameBound => "FrameBound"
  | .whenClause => "WhenClause"
  | .joinOn => "JoinOn"
  | .joinUsing => "JoinUsing"
  | .naturalJoin => "NaturalJoin"
  | .property => "Property"
  | .columnDefinition => "ColumnDefinition"
  | .likeClause => "LikeClause"
  | .isolation => "Isolation"
  | .transactionAccessMode => "TransactionAccessMode"
  | .explainFormat => "ExplainFormat"
  | .explainType => "ExplainType"

/-- The rank of a kind in the order of declaration. -/
def rank (k : Kind) : Nat :=
  k.ctorIdx

theorem mem_all (k : Kind) : k ∈ all := by
  apply List.mem_of_getElem? (i := k.ctorIdx)
  cases k <;> rfl

theorem find_name (k : Kind) : all.find? (fun l => l.name == k.name) = some k := by
  have h : all.all (fun k => decide (all.find? (fun l => l.name == k.name) = some k)) = true := by
    decide +kernel
  simpa using List.all_eq_true.1 h k (mem_all k)

instance : Tagged Kind where
  all := all
  tag := name
  find_tag := find_name

/-- The category that a kind belongs to. -/
@[reducible]
def category : Kind → Category
  | .insert | .delete | .createTableAsSelect | .createView | .createTable | .addColumn
  | .setSession | .showPartitions | .showColumns | .startTransaction | .explain | .prepare
  | .execute | .deallocate | .grant | .revoke | .createSchema | .dropSchema | .dropTable
  | .dropView | .renameTable | .useSchema | .showTables | .showSchemas | .showCatalogs
  | .showSession | .showFunctions | .resetSession | .commit | .rollback => .statement
  | .query => .query
  | .table | .querySpecification | .values | .tableSubquery | .aliasedRelation
  | .sampledRelation | .join | .unnest | .lateral => .relation
  | .union | .intersect | .except => .setOperation
  | .identifier | .dereference | .longLiteral | .doubleLiteral | .decimalLiteral
  | .stringLiteral | .booleanLiteral | .nullLiteral | .genericLiteral | .timeLiteral
  | .timestampLiteral | .intervalLiteral | .currentTime | .parameter | .fieldReference
  | .arithmeticBinary | .arithmeticUnary | .comparison | .logicalBinary | .not | .between
  | .inPredicate | .inList | .like | .isNull | .isNotNull | .existsPredicate
  | .quantifiedComparison | .subqueryExpression | .functionCall | .cast | .extract
  | .atTimeZone | .arrayConstructor | .subscript | .coalesce | .nullIf | .conditional
  | .tryExpression | .bind | .lambda | .simpleCase | .searchedCase | .row | .groupingOperation
    => .expression
  | .withClause => .withClause
  | .withQuery => .withQuery
  | .select => .select
  | .singleColumn | .allColumns => .selectItem
  | .groupBy => .groupBy
  | .simpleGroupBy | .rollup | .cube | .groupingSets => .groupingElement
  | .orderBy => .orderBy
  | .sortItem => .sortItem
  | .window => .window
  | .windowFrame => .windowFrame
  | .frameBound => .frameBound
  | .whenClause => .whenClause
  | .joinOn | .joinUsing | .naturalJoin => .joinCriteria
  | .property => .property
  | .columnDefinition => .columnDefinition
  | .likeClause => .likeClause
  | .isolation | .transactionAccessMode => .transactionMode
  | .explainFormat | .explainType => .explainOption

/-- The fields of a kind. A traversal reaches children in this order. A function call rebuilds its
arguments before its ordering, window and filter. -/
@[reducible]
def signature : Kind → Signature
  | .query =>
    [("with", .option (.child .withClause)), ("body", .child .relation),
     ("order_by", .option (.child .orderBy)), ("limit", .option (.atom .text)),
     ("location", .atom .location)]
  | .insert =>
    [("target", .atom .name), ("columns", .option (.list (.atom .ident))),
     ("query", .child .query), ("location", .atom .location)]
  | .delete =>
    [("table", .child .relation), ("where_clause", .option (.child .expression)),
     ("location", .atom .location)]
  | .createTableAsSelect =>
    [("name", .atom .name), ("query", .child .query), ("not_exists", .atom .flag),
     ("properties", .list (.child .property)), ("with_data", .atom .flag),
     ("column_aliases", .option (.list (.atom .ident))), ("comment", .option (.atom .text)),
     ("location", .atom .location)]
  | .createView =>
    [("name", .atom .name), ("query", .child .query), ("replace", .atom .flag),
     ("location", .atom .location)]
  | .createTable =>
    [("name", .atom .name), ("elements", .list (.child .tableElement)),
     ("not_exists", .atom .flag), ("properties", .list (.child .property)),
     ("comment", .option (.atom .text)), ("location", .atom .location)]
  | .addColumn =>
    [("name", .atom .name), ("column", .child .columnDefinition), ("location", .atom .location)]
  | .setSession =>
    [("name", .atom .name), ("value", .child .expression), ("location", .atom .location)]
  | .showPartitions =>
    [("table", .atom .name), ("where_clause", .option (.child .expression)),
     ("order_by", .list (.child .sortItem)), ("limit", .option (.atom .text)),
     ("location", .atom .location)]
  | .showColumns => [("table", .atom .name), ("location", .atom .location)]
  | .startTransaction =>
    [("modes", .list (.child .transactionMode)), ("location", .atom .location)]
  | .explain =>
    [("statement", .child .statement), ("analyze", .atom .flag), ("verbose", .atom .flag),
     ("options", .list (.child .explainOption)), ("location", .atom .location)]
  | .prepare =>
    [("name", .atom .ident), ("statement", .child .statement), ("location", .atom .location)]
  | .execute =>
    [("name", .atom .ident), ("parameters", .list (.child .expression)),
     ("location", .atom .location)]
  | .deallocate => [("name", .atom .ident), ("location", .atom .location)]
  | .grant =>
    [("privileges", .option (.list (.atom .text))), ("table", .atom .name),
     ("grantee", .atom .ident), ("with_grant_option", .atom .flag), ("location", .atom .location)]
  | .revoke =>
    [("grant_option_for", .atom .flag), ("privileges", .option (.list (.atom .text))),
     ("table", .atom .name), ("grantee", .atom .ident), ("location", .atom .location)]
  | .createSchema =>
    [("name", .atom .name), ("not_exists", .atom .flag), ("properties", .list (.child .property)),
     ("location", .atom .location)]
  | .dropSchema =>
    [("name", .atom .name), ("exists", .atom .flag), ("cascade", .atom .flag),
     ("location", .atom .location)]
  | .dropTable => [("name", .atom .name), ("exists", .atom .flag), ("location", .atom .location)]
  | .dropView => [("name", .atom .name), ("exists", .atom .flag), ("location", .atom .location)]
  | .renameTable =>
    [("source", .atom .name), ("target", .atom .name), ("location", .atom .location)]
  | .useSchema =>
    [("catalog", .option (.atom .ident)), ("schema", .atom .ident), ("location", .atom .location)]
  | .showTables =>
    [("schema", .option (.atom .name)), ("like_pattern", .option (.atom .text)),
     ("location", .atom .location)]
  | .showSchemas =>
    [("catalog", .option (.atom .ident)), ("like_pattern", .option (.atom .text)),
     ("location", .atom .location)]
  | .showCatalogs => [("like_pattern", .option (.atom .text)), ("location", .atom .location)]
  | .showSession => [("location", .atom .location)]
  | .showFunctions => [("location", .atom .location)]
  | .resetSession => [("name", .atom .name), ("location", .atom .location)]
  | .commit => [("location", .atom .location)]
  | .rollback => [("location", .atom .location)]
  | .table => [("name", .atom .name), ("location", .atom .location)]
  | .querySpecification =>
    [("select", .child .select), ("from", .option (.child .relation)),
     ("where_clause", .option (.child .expression)), ("group_by", .option (.child .groupBy)),
     ("having", .option (.child .expression)), ("order_by", .option (.child .orderBy)),
     ("limit", .option (.atom .text)), ("location", .atom .location)]
  | .union =>
    [("relations", .list (.child .relation)), ("distinct", .atom .flag),
     ("location", .atom .location)]
  | .intersect =>
    [("relations", .list (.child .relation)), ("distinct", .atom .flag),
     ("location", .atom .location)]
  | .except =>
    [("left", .child .relation), ("right", .child .relation), ("distinct", .atom .flag),
     ("location", .atom .location)]
  | .values => [("rows", .list (.child .expression)), ("location", .atom .location)]
  | .tableSubquery => [("query", .child .query), ("location", .atom .location)]
  | .aliasedRelation =>
    [("relation", .child .relation), ("alias", .atom .ident),
     ("column_names", .option (.list (.atom .ident))), ("location", .atom .location)]
  | .sampledRelation =>
    [("relation", .child .relation), ("sample_type", .atom (.word .sampleType)),
     ("percentage", .child .expression), ("location", .atom .location)]
  | .join =>
    [("join_type", .atom (.word .joinType)), ("left", .child .relation),
     ("right", .child .relation), ("criteria", .option (.child .joinCriteria)),
     ("location", .atom .location)]
  | .unnest =>
    [("expressions", .list (.child .expression)), ("with_ordinality", .atom .flag),
     ("location", .atom .location)]
  | .lateral => [("query", .child .query), ("location", .atom .location)]
  | .identifier =>
    [("value", .atom .text), ("delimited", .atom .flag), ("location", .atom .location)]
  | .dereference =>
    [("base", .child .expression), ("field", .atom .ident), ("location", .atom .location)]
  | .longLiteral => [("value", .atom .long), ("location", .atom .location)]
  | .doubleLiteral => [("value", .atom .double), ("location", .atom .location)]
  | .decimalLiteral => [("value", .atom .text), ("location", .atom .location)]
  | .stringLiteral => [("value", .atom .text), ("location", .atom .location)]
  | .booleanLiteral => [("value", .atom .flag), ("location", .atom .location)]
  | .nullLiteral => [("location", .atom .location)]
  | .genericLiteral =>
    [("type_name", .atom .text), ("value", .atom .text), ("location", .atom .location)]
  | .timeLiteral => [("value", .atom .text), ("location", .atom .location)]
  | .timestampLiteral => [("value", .atom .text), ("location", .atom .location)]
  | .intervalLiteral =>
    [("value", .atom .text), ("sign", .atom (.word .intervalSign)),
     ("start_field", .atom (.word .intervalField)),
     ("end_field", .option (.atom (.word .intervalField))), ("location", .atom .location)]
  | .currentTime =>
    [("function", .atom (.word .currentTimeFunction)), ("precision", .option (.atom .precision)),
     ("location", .atom .location)]
  | .parameter => [("position", .atom .index), ("location", .atom .location)]
  | .fieldReference => [("field_index", .atom .index), ("location", .atom .location)]
  | .arithmeticBinary =>
    [("op", .atom (.word .arithmeticOperator)), ("left", .child .expression),
     ("right", .child .expression), ("location", .atom .location)]
  | .arithmeticUnary =>
    [("sign", .atom (.word .sign)), ("value", .child .expression), ("location", .atom .location)]
  | .comparison =>
    [("op", .atom (.word .comparisonOperator)), ("left", .child .expression),
     ("right", .child .expression), ("location", .atom .location)]
  | .logicalBinary =>
    [("op", .atom (.word .logicalOperator)), ("left", .child .expression),
     ("right", .child .expression), ("location", .atom .location)]
  | .not => [("value", .child .expression), ("location", .atom .location)]
  | .between =>
    [("value", .child .expression), ("min", .child .expression), ("max", .child .expression),
     ("location", .atom .location)]
  | .inPredicate =>
    [("value", .child .expression), ("value_list", .child .expression),
     ("location", .atom .location)]
  | .inList => [("values", .list (.child .expression)), ("location", .atom .location)]
  | .like =>
    [("value", .child .expression), ("pattern", .child .expression),
     ("escape", .option (.child .expression)), ("location", .atom .location)]
  | .isNull => [("value", .child .expression), ("location", .atom .location)]
  | .isNotNull => [("value", .child .expression), ("location", .atom .location)]
  | .existsPredicate => [("subquery", .child .expression), ("location", .atom .location)]
  | .quantifiedComparison =>
    [("op", .atom (.word .comparisonOperator)), ("quantifier", .atom (.word .quantifier)),
     ("value", .child .expression), ("subquery", .child .expression),
     ("location", .atom .location)]
  | .subqueryExpression => [("query", .child .query), ("location", .atom .location)]
  | .functionCall =>
    [("name", .atom .name), ("distinct", .atom .flag), ("arguments", .list (.child .expression)),
     ("order_by", .option (.child .orderBy)), ("window", .option (.child .window)),
     ("filter", .option (.child .expression)), ("location", .atom .location)]
  | .cast =>
    [("expression", .child .expression), ("type_name", .atom .text), ("safe", .atom .flag),
     ("type_only", .atom .flag), ("location", .atom .location)]
  | .extract =>
    [("expression", .child .expression), ("field", .atom (.word .extractField)),
     ("location", .atom .location)]
  | .atTimeZone =>
    [("value", .child .expression), ("time_zone", .child .expression),
     ("location", .atom .location)]
  | .arrayConstructor => [("values", .list (.child .expression)), ("location", .atom .location)]
  | .subscript =>
    [("base", .child .expression), ("index", .child .expression), ("location", .atom .location)]
  | .coalesce => [("operands", .list (.child .expression)), ("location", .atom .location)]
  | .nullIf =>
    [("first", .child .expression), ("second", .child .expression), ("location", .atom .location)]
  | .conditional =>
    [("condition", .child .expression), ("true_value", .child .expression),
     ("false_value", .option (.child .expression)), ("location", .atom .location)]
  | .tryExpression => [("inner", .child .expression), ("location", .atom .location)]
  | .bind =>
    [("values", .list (.child .expression)), ("function", .child .expression),
     ("location", .atom .location)]
  | .lambda =>
    [("arguments", .list (.atom .ident)), ("body", .child .expression),
     ("location", .atom .location)]
  | .simpleCase =>
    [("operand", .child .expression), ("when_clauses", .list (.child .whenClause)),
     ("default_value", .option (.child .expression)), ("location", .atom .location)]
  | .searchedCase =>
    [("when_clauses", .list (.child .whenClause)),
     ("default_value", .option (.child .expression)), ("location", .atom .location)]
  | .row => [("items", .list (.child .expression)), ("location", .atom .location)]
  | .groupingOperation => [("columns", .list (.child .expression)), ("location", .atom .location)]
  | .withClause =>
    [("recursive", .atom .flag), ("queries", .list (.child .withQuery)),
     ("location", .atom .location)]
  | .withQuery =>
    [("name", .atom .ident), ("query", .child .query),
     ("column_names", .option (.list (.atom .ident))), ("location", .atom .location)]
  | .select =>
    [("distinct", .atom .flag), ("select_items", .list (.child .selectItem)),
     ("location", .atom .location)]
  | .singleColumn =>
    [("expression", .child .expression), ("alias", .option (.atom .ident)),
     ("location", .atom .location)]
  | .allColumns => [("prefix", .option (.atom .name)), ("location", .atom .location)]
  | .groupBy =>
    [("distinct", .atom .flag), ("grouping_elements", .list (.child .groupingElement)),
     ("location", .atom .location)]
  | .simpleGroupBy => [("columns", .list (.child .expression)), ("location", .atom .location)]
  | .rollup => [("columns", .list (.child .expression)), ("location", .atom .location)]
  | .cube => [("columns", .list (.child .expression)), ("location", .atom .location)]
  | .groupingSets => [("sets", .list (.list (.child .expression))), ("location", .atom .location)]
  | .orderBy => [("sort_items", .list (.child .sortItem)), ("location", .atom .location)]
  | .sortItem =>
    [("sort_key", .child .expression), ("ordering", .atom (.word .sortOrdering)),
     ("null_ordering", .atom (.word .nullOrdering)), ("location", .atom .location)]
  | .window =>
    [("partition_by", .list (.child .expression)), ("order_by", .option (.child .orderBy)),
     ("frame", .option (.child .windowFrame)), ("location", .atom .location)]
  | .windowFrame =>
    [("frame_type", .atom (.word .windowFrameType)), ("start", .child .frameBound),
     ("end", .option (.child .frameBound)), ("location", .atom .location)]
  | .frameBound =>
    [("bound_type", .atom (.word .frameBoundType)), ("value", .option (.child .expression)),
     ("location", .atom .location)]
  | .whenClause =>
    [("operand", .child .expression), ("result", .child .expression),
     ("location", .atom .location)]
  | .joinOn => [("condition", .child .expression)]
  | .joinUsing => [("columns", .list (.atom .ident))]
  | .naturalJoin => []
  | .property =>
    [("name", .atom .ident), ("value", .child .expression), ("location", .atom .location)]
  | .columnDefinition =>
    [("name", .atom .ident), ("type_name", .atom .text), ("properties", .list (.child .property)),
     ("comment", .option (.atom .text)), ("location", .atom .location)]
  | .likeClause =>
    [("table", .atom .name), ("properties_option", .option (.atom (.word .likeOption))),
     ("location", .atom .location)]
  | .isolation => [("level", .atom (.word .isolationLevel)), ("location", .atom .location)]
  | .transactionAccessMode => [("read_only", .atom .flag), ("location", .atom .location)]
  | .explainFormat => [("format", .atom (.word .explainFormat)), ("location", .atom .location)]
  | .explainType => [("explain_type", .atom (.word .explainType)), ("location", .atom .location)]

end Kind

/-- How a node is written inside the place that holds it. -/
inductive Layout
  /-- The record of its fields, with nothing around it. -/
  | bare
  /-- An object with one key, over the record of the fields. -/
  | tagged (tag : String)
  /-- An object with one key, over the only field. -/
  | payload (tag : String)
  /-- A word; there are no fields. -/
  | unit (tag : String)
deriving DecidableEq, Repr

/-- The tag that tells a kind apart within its category. -/
def Layout.tag? : Layout → Option String
  | .bare => none
  | .tagged tag | .payload tag | .unit tag => some tag

/-- How a pass treats a kind that it has no rule of its own for. -/
inductive Treatment
  /-- The node is copied as it stands, with its location. -/
  | leaf
  /-- The children are rebuilt and the location is dropped. -/
  | composite
  /-- The kind has no rule and rebuilding it fails. -/
  | unsupported
deriving DecidableEq, Repr

namespace Kind

/-- The written form of a kind. Most kinds are tagged with their own name. -/
def layout : Kind → Layout
  | .query | .withClause | .withQuery | .select | .groupBy | .orderBy | .sortItem | .window
  | .windowFrame | .frameBound | .whenClause | .property | .columnDefinition | .likeClause
    => .bare
  | .aliasedRelation => .tagged "Aliased"
  | .sampledRelation => .tagged "Sampled"
  | .inPredicate => .tagged "In"
  | .subqueryExpression => .tagged "Subquery"
  | .simpleGroupBy => .tagged "Simple"
  | .joinOn => .payload "On"
  | .joinUsing => .payload "Using"
  | .naturalJoin => .unit "Natural"
  | .transactionAccessMode => .tagged "AccessMode"
  | .explainFormat => .tagged "Format"
  | .explainType => .tagged "Type"
  | k => .tagged k.name

/-- Identifiers and literals are leaves; parameters, field references and nineteen administrative
statements have no rule; every other kind is a composite. -/
def treatment : Kind → Treatment
  | .identifier | .longLiteral | .doubleLiteral | .decimalLiteral | .stringLiteral
  | .booleanLiteral | .nullLiteral | .genericLiteral | .timeLiteral | .timestampLiteral
  | .intervalLiteral | .currentTime => .leaf
  | .prepare | .execute | .deallocate | .grant | .revoke | .createSchema | .dropSchema
  | .dropTable | .dropView | .renameTable | .useSchema | .showTables | .showSchemas
  | .showCatalogs | .showSession | .showFunctions | .resetSession | .commit | .rollback
  | .parameter | .fieldReference => .unsupported
  | _ => .composite

end Kind
end SqlTrees
