import SqlTrees.Tree

/-! # Statements

One constructor for each kind of statement, with its fields as arguments. Optional fields and the
location come last and are absent unless given.
-/

namespace SqlTrees
set_option autoImplicit false

def Statement.insert (target : QualifiedName) (query : Query)
    (columns : Option (List Ident) := none) (location : Location := none) : Statement :=
  .node .insert rfl <| .cons (.atom target) <| .cons (.ofOption (columns.map .ofAtoms)) <|
    .cons (.child query) <| .cons (.atom location) .nil

def Statement.delete (table : Relation) (whereClause : Option Expression := none)
    (location : Location := none) : Statement :=
  .node .delete rfl <| .cons (.child table) <| .cons (.ofChild? whereClause) <|
    .cons (.atom location) .nil

def Statement.createTableAsSelect (name : QualifiedName) (query : Query) (ifNotExists : Bool)
    (properties : List Property) (withData : Bool) (columnAliases : Option (List Ident) := none)
    (comment : Option String := none) (location : Location := none) : Statement :=
  .node .createTableAsSelect rfl <| .cons (.atom name) <| .cons (.child query) <|
    .cons (.atom ifNotExists) <| .cons (.ofChildren properties) <| .cons (.atom withData) <|
    .cons (.ofOption (columnAliases.map .ofAtoms)) <| .cons (.ofAtom? comment) <|
    .cons (.atom location) .nil

def Statement.createView (name : QualifiedName) (query : Query) (replace : Bool)
    (location : Location := none) : Statement :=
  .node .createView rfl <| .cons (.atom name) <| .cons (.child query) <| .cons (.atom replace) <|
    .cons (.atom location) .nil

def Statement.createTable (name : QualifiedName) (elements : List TableElement)
    (ifNotExists : Bool) (properties : List Property) (comment : Option String := none)
    (location : Location := none) : Statement :=
  .node .createTable rfl <| .cons (.atom name) <| .cons (.ofChildren elements) <|
    .cons (.atom ifNotExists) <| .cons (.ofChildren properties) <| .cons (.ofAtom? comment) <|
    .cons (.atom location) .nil

def Statement.addColumn (name : QualifiedName) (column : ColumnDefinition)
    (location : Location := none) : Statement :=
  .node .addColumn rfl <| .cons (.atom name) <| .cons (.child column) <|
    .cons (.atom location) .nil

def Statement.setSession (name : QualifiedName) (value : Expression)
    (location : Location := none) : Statement :=
  .node .setSession rfl <| .cons (.atom name) <| .cons (.child value) <|
    .cons (.atom location) .nil

def Statement.showPartitions (table : QualifiedName) (orderBy : List SortItem)
    (whereClause : Option Expression := none) (limit : Option String := none)
    (location : Location := none) : Statement :=
  .node .showPartitions rfl <| .cons (.atom table) <| .cons (.ofChild? whereClause) <|
    .cons (.ofChildren orderBy) <| .cons (.ofAtom? limit) <| .cons (.atom location) .nil

def Statement.showColumns (table : QualifiedName) (location : Location := none) : Statement :=
  .node .showColumns rfl <| .cons (.atom table) <| .cons (.atom location) .nil

def Statement.startTransaction (modes : List TransactionMode) (location : Location := none) :
    Statement :=
  .node .startTransaction rfl <| .cons (.ofChildren modes) <| .cons (.atom location) .nil

def Statement.explain (statement : Statement) (analyze verbose : Bool)
    (options : List ExplainOption) (location : Location := none) : Statement :=
  .node .explain rfl <| .cons (.child statement) <| .cons (.atom analyze) <|
    .cons (.atom verbose) <| .cons (.ofChildren options) <| .cons (.atom location) .nil

def Statement.prepare (name : Ident) (statement : Statement) (location : Location := none) :
    Statement :=
  .node .prepare rfl <| .cons (.atom name) <| .cons (.child statement) <|
    .cons (.atom location) .nil

def Statement.execute (name : Ident) (parameters : List Expression)
    (location : Location := none) : Statement :=
  .node .execute rfl <| .cons (.atom name) <| .cons (.ofChildren parameters) <|
    .cons (.atom location) .nil

def Statement.deallocate (name : Ident) (location : Location := none) : Statement :=
  .node .deallocate rfl <| .cons (.atom name) <| .cons (.atom location) .nil

def Statement.grant (table : QualifiedName) (grantee : Ident) (withGrantOption : Bool)
    (privileges : Option (List String) := none) (location : Location := none) : Statement :=
  .node .grant rfl <| .cons (.ofOption (privileges.map .ofAtoms)) <| .cons (.atom table) <|
    .cons (.atom grantee) <| .cons (.atom withGrantOption) <| .cons (.atom location) .nil

def Statement.revoke (grantOptionFor : Bool) (table : QualifiedName) (grantee : Ident)
    (privileges : Option (List String) := none) (location : Location := none) : Statement :=
  .node .revoke rfl <| .cons (.atom grantOptionFor) <|
    .cons (.ofOption (privileges.map .ofAtoms)) <| .cons (.atom table) <| .cons (.atom grantee) <|
    .cons (.atom location) .nil

def Statement.createSchema (name : QualifiedName) (ifNotExists : Bool)
    (properties : List Property) (location : Location := none) : Statement :=
  .node .createSchema rfl <| .cons (.atom name) <| .cons (.atom ifNotExists) <|
    .cons (.ofChildren properties) <| .cons (.atom location) .nil

def Statement.dropSchema (name : QualifiedName) (ifExists cascade : Bool)
    (location : Location := none) : Statement :=
  .node .dropSchema rfl <| .cons (.atom name) <| .cons (.atom ifExists) <| .cons (.atom cascade) <|
    .cons (.atom location) .nil

def Statement.dropTable (name : QualifiedName) (ifExists : Bool) (location : Location := none) :
    Statement :=
  .node .dropTable rfl <| .cons (.atom name) <| .cons (.atom ifExists) <|
    .cons (.atom location) .nil

def Statement.dropView (name : QualifiedName) (ifExists : Bool) (location : Location := none) :
    Statement :=
  .node .dropView rfl <| .cons (.atom name) <| .cons (.atom ifExists) <|
    .cons (.atom location) .nil

def Statement.renameTable (source target : QualifiedName) (location : Location := none) :
    Statement :=
  .node .renameTable rfl <| .cons (.atom source) <| .cons (.atom target) <|
    .cons (.atom location) .nil

def Statement.useSchema (schema : Ident) (catalog : Option Ident := none)
    (location : Location := none) : Statement :=
  .node .useSchema rfl <| .cons (.ofAtom? catalog) <| .cons (.atom schema) <|
    .cons (.atom location) .nil

def Statement.showTables (schema : Option QualifiedName := none)
    (likePattern : Option String := none) (location : Location := none) : Statement :=
  .node .showTables rfl <| .cons (.ofAtom? schema) <| .cons (.ofAtom? likePattern) <|
    .cons (.atom location) .nil

def Statement.showSchemas (catalog : Option Ident := none) (likePattern : Option String := none)
    (location : Location := none) : Statement :=
  .node .showSchemas rfl <| .cons (.ofAtom? catalog) <| .cons (.ofAtom? likePattern) <|
    .cons (.atom location) .nil

def Statement.showCatalogs (likePattern : Option String := none) (location : Location := none) :
    Statement :=
  .node .showCatalogs rfl <| .cons (.ofAtom? likePattern) <| .cons (.atom location) .nil

def Statement.showSession (location : Location := none) : Statement :=
  .node .showSession rfl <| .cons (.atom location) .nil

def Statement.showFunctions (location : Location := none) : Statement :=
  .node .showFunctions rfl <| .cons (.atom location) .nil

def Statement.resetSession (name : QualifiedName) (location : Location := none) : Statement :=
  .node .resetSession rfl <| .cons (.atom name) <| .cons (.atom location) .nil

def Statement.commit (location : Location := none) : Statement :=
  .node .commit rfl <| .cons (.atom location) .nil

def Statement.rollback (location : Location := none) : Statement :=
  .node .rollback rfl <| .cons (.atom location) .nil

/-- A query as a statement. -/
@[match_pattern]
def Statement.query (q : Query) : Statement :=
  .inclusion .queryStatement q

end SqlTrees
