import SqlTrees.Tagged

/-! # The small vocabularies of SQL

Operators, directions, modes and field names: every finite choice that a node can hold, each with
the word it is written as.
-/

namespace SqlTrees
set_option autoImplicit false

/-- The operator of a binary arithmetic expression. -/
inductive ArithmeticOperator
  | add | subtract | multiply | divide | modulus
deriving DecidableEq, Repr

instance : Tagged ArithmeticOperator where
  all := [.add, .subtract, .multiply, .divide, .modulus]
  tag
    | .add => "Add"
    | .subtract => "Subtract"
    | .multiply => "Multiply"
    | .divide => "Divide"
    | .modulus => "Modulus"
  find_tag a := by cases a <;> rfl

/-- The sign of a unary arithmetic expression. -/
inductive Sign
  | plus | minus
deriving DecidableEq, Repr

instance : Tagged Sign where
  all := [.plus, .minus]
  tag
    | .plus => "Plus"
    | .minus => "Minus"
  find_tag a := by cases a <;> rfl

/-- The operator of a comparison. -/
inductive ComparisonOperator
  | equal | notEqual | lessThan | lessThanOrEqual | greaterThan | greaterThanOrEqual
  | isDistinctFrom
deriving DecidableEq, Repr

instance : Tagged ComparisonOperator where
  all := [.equal, .notEqual, .lessThan, .lessThanOrEqual, .greaterThan, .greaterThanOrEqual,
    .isDistinctFrom]
  tag
    | .equal => "Equal"
    | .notEqual => "NotEqual"
    | .lessThan => "LessThan"
    | .lessThanOrEqual => "LessThanOrEqual"
    | .greaterThan => "GreaterThan"
    | .greaterThanOrEqual => "GreaterThanOrEqual"
    | .isDistinctFrom => "IsDistinctFrom"
  find_tag a := by cases a <;> rfl

/-- The operator of a binary logical expression. -/
inductive LogicalOperator
  | and | or
deriving DecidableEq, Repr

instance : Tagged LogicalOperator where
  all := [.and, .or]
  tag
    | .and => "And"
    | .or => "Or"
  find_tag a := by cases a <;> rfl

/-- The quantifier of a comparison with a subquery. -/
inductive Quantifier
  | all | any | some
deriving DecidableEq, Repr

instance : Tagged Quantifier where
  all := [.all, .any, .some]
  tag
    | .all => "All"
    | .any => "Any"
    | .some => "Some"
  find_tag a := by cases a <;> rfl

/-- The field that `EXTRACT` takes from a date or time. -/
inductive ExtractField
  | year | quarter | month | week | day | dayOfWeek | dayOfYear | hour | minute | second
  | timezoneHour | timezoneMinute
deriving DecidableEq, Repr

instance : Tagged ExtractField where
  all := [.year, .quarter, .month, .week, .day, .dayOfWeek, .dayOfYear, .hour, .minute, .second,
    .timezoneHour, .timezoneMinute]
  tag
    | .year => "Year"
    | .quarter => "Quarter"
    | .month => "Month"
    | .week => "Week"
    | .day => "Day"
    | .dayOfWeek => "DayOfWeek"
    | .dayOfYear => "DayOfYear"
    | .hour => "Hour"
    | .minute => "Minute"
    | .second => "Second"
    | .timezoneHour => "TimezoneHour"
    | .timezoneMinute => "TimezoneMinute"
  find_tag a := by cases a <;> rfl

/-- The functions that read the clock. -/
inductive CurrentTimeFunction
  | time | date | timestamp | localTime | localTimestamp
deriving DecidableEq, Repr

instance : Tagged CurrentTimeFunction where
  all := [.time, .date, .timestamp, .localTime, .localTimestamp]
  tag
    | .time => "Time"
    | .date => "Date"
    | .timestamp => "Timestamp"
    | .localTime => "LocalTime"
    | .localTimestamp => "LocalTimestamp"
  find_tag a := by cases a <;> rfl

/-- The sign of an interval literal. -/
inductive IntervalSign
  | positive | negative
deriving DecidableEq, Repr

instance : Tagged IntervalSign where
  all := [.positive, .negative]
  tag
    | .positive => "Positive"
    | .negative => "Negative"
  find_tag a := by cases a <;> rfl

/-- A field of an interval literal. -/
inductive IntervalField
  | year | month | day | hour | minute | second
deriving DecidableEq, Repr

instance : Tagged IntervalField where
  all := [.year, .month, .day, .hour, .minute, .second]
  tag
    | .year => "Year"
    | .month => "Month"
    | .day => "Day"
    | .hour => "Hour"
    | .minute => "Minute"
    | .second => "Second"
  find_tag a := by cases a <;> rfl

/-- The direction of a sort item. -/
inductive SortOrdering
  | ascending | descending
deriving DecidableEq, Repr

instance : Tagged SortOrdering where
  all := [.ascending, .descending]
  tag
    | .ascending => "Ascending"
    | .descending => "Descending"
  find_tag a := by cases a <;> rfl

/-- Where a sort item puts nulls. -/
inductive NullOrdering
  | first | last | undefined
deriving DecidableEq, Repr

instance : Tagged NullOrdering where
  all := [.first, .last, .undefined]
  tag
    | .first => "First"
    | .last => "Last"
    | .undefined => "Undefined"
  find_tag a := by cases a <;> rfl

/-- The unit in which a window frame is measured. -/
inductive WindowFrameType
  | range | rows
deriving DecidableEq, Repr

instance : Tagged WindowFrameType where
  all := [.range, .rows]
  tag
    | .range => "Range"
    | .rows => "Rows"
  find_tag a := by cases a <;> rfl

/-- The form of one end of a window frame. -/
inductive FrameBoundType
  | unboundedPreceding | preceding | currentRow | following | unboundedFollowing
deriving DecidableEq, Repr

instance : Tagged FrameBoundType where
  all := [.unboundedPreceding, .preceding, .currentRow, .following, .unboundedFollowing]
  tag
    | .unboundedPreceding => "UnboundedPreceding"
    | .preceding => "Preceding"
    | .currentRow => "CurrentRow"
    | .following => "Following"
    | .unboundedFollowing => "UnboundedFollowing"
  find_tag a := by cases a <;> rfl

/-- How a join treats rows without a partner; `implicit` is a comma in a FROM clause. -/
inductive JoinType
  | cross | inner | left | right | full | implicit
deriving DecidableEq, Repr

instance : Tagged JoinType where
  all := [.cross, .inner, .left, .right, .full, .implicit]
  tag
    | .cross => "Cross"
    | .inner => "Inner"
    | .left => "Left"
    | .right => "Right"
    | .full => "Full"
    | .implicit => "Implicit"
  find_tag a := by cases a <;> rfl

/-- The method of a TABLESAMPLE. -/
inductive SampleType
  | bernoulli | system
deriving DecidableEq, Repr

instance : Tagged SampleType where
  all := [.bernoulli, .system]
  tag
    | .bernoulli => "Bernoulli"
    | .system => "System"
  find_tag a := by cases a <;> rfl

/-- The isolation level of a transaction. -/
inductive IsolationLevel
  | serializable | repeatableRead | readCommitted | readUncommitted
deriving DecidableEq, Repr

instance : Tagged IsolationLevel where
  all := [.serializable, .repeatableRead, .readCommitted, .readUncommitted]
  tag
    | .serializable => "Serializable"
    | .repeatableRead => "RepeatableRead"
    | .readCommitted => "ReadCommitted"
    | .readUncommitted => "ReadUncommitted"
  find_tag a := by cases a <;> rfl

/-- The output format of EXPLAIN. -/
inductive ExplainFormat
  | text | graphviz | json
deriving DecidableEq, Repr

instance : Tagged ExplainFormat where
  all := [.text, .graphviz, .json]
  tag
    | .text => "Text"
    | .graphviz => "Graphviz"
    | .json => "Json"
  find_tag a := by cases a <;> rfl

/-- The plan that EXPLAIN shows. -/
inductive ExplainType
  | logical | distributed | validate | io
deriving DecidableEq, Repr

instance : Tagged ExplainType where
  all := [.logical, .distributed, .validate, .io]
  tag
    | .logical => "Logical"
    | .distributed => "Distributed"
    | .validate => "Validate"
    | .io => "Io"
  find_tag a := by cases a <;> rfl

/-- Whether a LIKE clause takes over properties. -/
inductive LikeOption
  | includingProperties | excludingProperties
deriving DecidableEq, Repr

instance : Tagged LikeOption where
  all := [.includingProperties, .excludingProperties]
  tag
    | .includingProperties => "IncludingProperties"
    | .excludingProperties => "ExcludingProperties"
  find_tag a := by cases a <;> rfl

end SqlTrees
