import SqlTrees.Grammar.Kind

/-! # Replaceable methods of a pass

The names under which a pass can replace its parts: `rebuild_*` for a rule, `process_*` for the
dispatcher of a category, `process` for the dispatch of any node, and `rebuild` for the entry point.
The kinds of a category with one rule for all share that rule's name.
-/

namespace SqlTrees
set_option autoImplicit false

/-- A name with capitals as one with underscores: `GroupBy` becomes `group_by`. -/
def snakeCase (name : String) : String :=
  let words := name.toList.flatMap fun c => if c.isUpper then ['_', c.toLower] else [c]
  String.ofList (words.dropWhile (· = '_'))

namespace Category

/-- Whether one rule rebuilds all kinds of the category. -/
def sharesRule : Category → Bool
  | .setOperation | .selectItem | .groupingElement | .joinCriteria | .transactionMode
  | .explainOption => true
  | _ => false

/-- The name of the category's dispatcher. Set operations have none of their own. -/
def dispatcherName? : Category → Option String
  | .setOperation => none
  | c => some ("process_" ++ snakeCase c.name)

end Category

/-- The name of the rule that rebuilds a kind. -/
def Kind.ruleName (k : Kind) : String :=
  "rebuild_" ++ snakeCase (if k.category.sharesRule then k.category.name else k.name)

/-- A part of a pass that can be replaced by name. -/
inductive Method
  /-- The rule of this name; its results are trees of category `c`. -/
  | rule (name : String) (c : Category)
  | dispatcher (c : Category)
  | process
  | rebuild
deriving DecidableEq, Repr

/-- The method of a given name. -/
def Method.ofName? (name : String) : Option Method :=
  if name = "process" then some .process
  else if name = "rebuild" then some .rebuild
  else
    match Kind.all.find? fun k => k.ruleName = name with
    | some k => some (.rule name k.category)
    | none => (Category.all.find? fun c => c.dispatcherName? = some name).map .dispatcher

/-- The name of a method. -/
def Method.name : Method → String
  | .rule name _ => name
  | .dispatcher c => c.dispatcherName?.getD ""
  | .process => "process"
  | .rebuild => "rebuild"

end SqlTrees
