import SqlTrees.Tree

/-! # Expressions

One constructor for each kind of expression, and short forms for the common ones.
-/

namespace SqlTrees
set_option autoImplicit false

@[match_pattern]
def Expression.identifier (value : String) (delimited : Bool := false)
    (location : Location := none) : Expression :=
  .node .identifier rfl <| .cons (.atom value) <| .cons (.atom delimited) <|
    .cons (.atom location) .nil

@[match_pattern]
def Expression.dereference (base : Expression) (field : Ident) (location : Location := none) :
    Expression :=
  .node .dereference rfl <| .cons (.child base) <| .cons (.atom field) <|
    .cons (.atom location) .nil

@[match_pattern]
def Expression.longLiteral (value : Int64) (location : Location := none) : Expression :=
  .node .longLiteral rfl <| .cons (.atom value) <| .cons (.atom location) .nil

def Expression.doubleLiteral (value : Double) (location : Location := none) : Expression :=
  .node .doubleLiteral rfl <| .cons (.atom value) <| .cons (.atom location) .nil

def Expression.decimalLiteral (value : String) (location : Location := none) : Expression :=
  .node .decimalLiteral rfl <| .cons (.atom value) <| .cons (.atom location) .nil

@[match_pattern]
def Expression.stringLiteral (value : String) (location : Location := none) : Expression :=
  .node .stringLiteral rfl <| .cons (.atom value) <| .cons (.atom location) .nil

@[match_pattern]
def Expression.booleanLiteral (value : Bool) (location : Location := none) : Expression :=
  .node .booleanLiteral rfl <| .cons (.atom value) <| .cons (.atom location) .nil

def Expression.nullLiteral (location : Location := none) : Expression :=
  .node .nullLiteral rfl <| .cons (.atom location) .nil

def Expression.genericLiteral (typeName value : String) (location : Location := none) :
    Expression :=
  .node .genericLiteral rfl <| .cons (.atom typeName) <| .cons (.atom value) <|
    .cons (.atom location) .nil

def Expression.timeLiteral (value : String) (location : Location := none) : Expression :=
  .node .timeLiteral rfl <| .cons (.atom value) <| .cons (.atom location) .nil

def Expression.timestampLiteral (value : String) (location : Location := none) : Expression :=
  .node .timestampLiteral rfl <| .cons (.atom value) <| .cons (.atom location) .nil

def Expression.intervalLiteral (value : String) (sign : IntervalSign)
    (startField : IntervalField) (endField : Option IntervalField := none)
    (location : Location := none) : Expression :=
  .node .intervalLiteral rfl <| .cons (.atom value) <| .cons (.atom sign) <|
    .cons (.atom startField) <| .cons (.ofAtom? endField) <| .cons (.atom location) .nil

def Expression.currentTime (function : CurrentTimeFunction) (precision : Option UInt32 := none)
    (location : Location := none) : Expression :=
  .node .currentTime rfl <| .cons (.atom function) <| .cons (.ofAtom? precision) <|
    .cons (.atom location) .nil

@[match_pattern]
def Expression.parameter (position : UInt64) (location : Location := none) : Expression :=
  .node .parameter rfl <| .cons (.atom position) <| .cons (.atom location) .nil

def Expression.fieldReference (fieldIndex : UInt64) (location : Location := none) : Expression :=
  .node .fieldReference rfl <| .cons (.atom fieldIndex) <| .cons (.atom location) .nil

def Expression.arithmeticBinary (op : ArithmeticOperator) (left right : Expression)
    (location : Location := none) : Expression :=
  .node .arithmeticBinary rfl <| .cons (.atom op) <| .cons (.child left) <| .cons (.child right) <|
    .cons (.atom location) .nil

def Expression.arithmeticUnary (sign : Sign) (value : Expression) (location : Location := none) :
    Expression :=
  .node .arithmeticUnary rfl <| .cons (.atom sign) <| .cons (.child value) <|
    .cons (.atom location) .nil

def Expression.comparison (op : ComparisonOperator) (left right : Expression)
    (location : Location := none) : Expression :=
  .node .comparison rfl <| .cons (.atom op) <| .cons (.child left) <| .cons (.child right) <|
    .cons (.atom location) .nil

def Expression.logicalBinary (op : LogicalOperator) (left right : Expression)
    (location : Location := none) : Expression :=
  .node .logicalBinary rfl <| .cons (.atom op) <| .cons (.child left) <| .cons (.child right) <|
    .cons (.atom location) .nil

@[match_pattern]
def Expression.not (value : Expression) (location : Location := none) : Expression :=
  .node .not rfl <| .cons (.child value) <| .cons (.atom location) .nil

def Expression.between (value min max : Expression) (location : Location := none) : Expression :=
  .node .between rfl <| .cons (.child value) <| .cons (.child min) <| .cons (.child max) <|
    .cons (.atom location) .nil

def Expression.inPredicate (value valueList : Expression) (location : Location := none) :
    Expression :=
  .node .inPredicate rfl <| .cons (.child value) <| .cons (.child valueList) <|
    .cons (.atom location) .nil

def Expression.inList (values : List Expression) (location : Location := none) : Expression :=
  .node .inList rfl <| .cons (.ofChildren values) <| .cons (.atom location) .nil

def Expression.like (value pattern : Expression) (escape : Option Expression := none)
    (location : Location := none) : Expression :=
  .node .like rfl <| .cons (.child value) <| .cons (.child pattern) <| .cons (.ofChild? escape) <|
    .cons (.atom location) .nil

def Expression.isNull (value : Expression) (location : Location := none) : Expression :=
  .node .isNull rfl <| .cons (.child value) <| .cons (.atom location) .nil

def Expression.isNotNull (value : Expression) (location : Location := none) : Expression :=
  .node .isNotNull rfl <| .cons (.child value) <| .cons (.atom location) .nil

def Expression.existsPredicate (subquery : Expression) (location : Location := none) :
    Expression :=
  .node .existsPredicate rfl <| .cons (.child subquery) <| .cons (.atom location) .nil

def Expression.quantifiedComparison (op : ComparisonOperator) (quantifier : Quantifier)
    (value subquery : Expression) (location : Location := none) : Expression :=
  .node .quantifiedComparison rfl <| .cons (.atom op) <| .cons (.atom quantifier) <|
    .cons (.child value) <| .cons (.child subquery) <| .cons (.atom location) .nil

def Expression.subquery (query : Query) (location : Location := none) : Expression :=
  .node .subqueryExpression rfl <| .cons (.child query) <| .cons (.atom location) .nil

def Expression.functionCall (name : QualifiedName) (arguments : List Expression)
    (distinct : Bool := false) (orderBy : Option OrderBy := none)
    (window : Option Window := none) (filter : Option Expression := none)
    (location : Location := none) : Expression :=
  .node .functionCall rfl <| .cons (.atom name) <| .cons (.atom distinct) <|
    .cons (.ofChildren arguments) <| .cons (.ofChild? orderBy) <| .cons (.ofChild? window) <|
    .cons (.ofChild? filter) <| .cons (.atom location) .nil

def Expression.cast (expression : Expression) (typeName : String) (safe typeOnly : Bool)
    (location : Location := none) : Expression :=
  .node .cast rfl <| .cons (.child expression) <| .cons (.atom typeName) <| .cons (.atom safe) <|
    .cons (.atom typeOnly) <| .cons (.atom location) .nil

def Expression.extract (expression : Expression) (field : ExtractField)
    (location : Location := none) : Expression :=
  .node .extract rfl <| .cons (.child expression) <| .cons (.atom field) <|
    .cons (.atom location) .nil

def Expression.atTimeZone (value timeZone : Expression) (location : Location := none) :
    Expression :=
  .node .atTimeZone rfl <| .cons (.child value) <| .cons (.child timeZone) <|
    .cons (.atom location) .nil

def Expression.arrayConstructor (values : List Expression) (location : Location := none) :
    Expression :=
  .node .arrayConstructor rfl <| .cons (.ofChildren values) <| .cons (.atom location) .nil

def Expression.subscript (base index : Expression) (location : Location := none) : Expression :=
  .node .subscript rfl <| .cons (.child base) <| .cons (.child index) <|
    .cons (.atom location) .nil

def Expression.coalesce (operands : List Expression) (location : Location := none) : Expression :=
  .node .coalesce rfl <| .cons (.ofChildren operands) <| .cons (.atom location) .nil

def Expression.nullIf (first second : Expression) (location : Location := none) : Expression :=
  .node .nullIf rfl <| .cons (.child first) <| .cons (.child second) <|
    .cons (.atom location) .nil

def Expression.conditional (condition trueValue : Expression)
    (falseValue : Option Expression := none) (location : Location := none) : Expression :=
  .node .conditional rfl <| .cons (.child condition) <| .cons (.child trueValue) <|
    .cons (.ofChild? falseValue) <| .cons (.atom location) .nil

def Expression.tryExpression (inner : Expression) (location : Location := none) : Expression :=
  .node .tryExpression rfl <| .cons (.child inner) <| .cons (.atom location) .nil

def Expression.bind (values : List Expression) (function : Expression)
    (location : Location := none) : Expression :=
  .node .bind rfl <| .cons (.ofChildren values) <| .cons (.child function) <|
    .cons (.atom location) .nil

def Expression.lambda (arguments : List Ident) (body : Expression) (location : Location := none) :
    Expression :=
  .node .lambda rfl <| .cons (.ofAtoms arguments) <| .cons (.child body) <|
    .cons (.atom location) .nil

def Expression.simpleCase (operand : Expression) (whenClauses : List WhenClause)
    (defaultValue : Option Expression := none) (location : Location := none) : Expression :=
  .node .simpleCase rfl <| .cons (.child operand) <| .cons (.ofChildren whenClauses) <|
    .cons (.ofChild? defaultValue) <| .cons (.atom location) .nil

def Expression.searchedCase (whenClauses : List WhenClause)
    (defaultValue : Option Expression := none) (location : Location := none) : Expression :=
  .node .searchedCase rfl <| .cons (.ofChildren whenClauses) <| .cons (.ofChild? defaultValue) <|
    .cons (.atom location) .nil

def Expression.row (items : List Expression) (location : Location := none) : Expression :=
  .node .row rfl <| .cons (.ofChildren items) <| .cons (.atom location) .nil

def Expression.groupingOperation (columns : List Expression) (location : Location := none) :
    Expression :=
  .node .groupingOperation rfl <| .cons (.ofChildren columns) <| .cons (.atom location) .nil

/-! ## Short forms -/

/-- `-value` -/
def Expression.negate (value : Expression) : Expression :=
  .arithmeticUnary .minus value

def Expression.and (left right : Expression) : Expression :=
  .logicalBinary .and left right

def Expression.or (left right : Expression) : Expression :=
  .logicalBinary .or left right

/-- A plain call of a function given by its dotted name. -/
def Expression.call (name : String) (arguments : List Expression) : Expression :=
  .functionCall (.parse name) arguments

end SqlTrees
