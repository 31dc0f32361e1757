import SqlTrees.Tree

/-! # Queries and relations

One constructor for each kind of relation and set operation, and for a complete query.
-/

namespace SqlTrees
set_option autoImplicit false

def Query.mk (body : Relation) (withClause : Option WithClause := none)
    (orderBy : Option OrderBy := none) (limit : Option String := none)
    (location : Location := none) : Query :=
  .node .query rfl <| .cons (.ofChild? withClause) <| .cons (.child body) <|
    .cons (.ofChild? orderBy) <| .cons (.ofAtom? limit) <| .cons (.atom location) .nil

def Relation.table (name : QualifiedName) (location : Location := none) : Relation :=
  .node .table rfl <| .cons (.atom name) <| .cons (.atom location) .nil

def Relation.querySpecification (select : Select) (source : Option Relation := none)
    (whereClause : Option Expression := none) (groupBy : Option GroupBy := none)
    (having : Option Expression := none) (orderBy : Option OrderBy := none)
    (limit : Option String := none) (location : Location := none) : Relation :=
  .node .querySpecification rfl <| .cons (.child select) <| .cons (.ofChild? source) <|
    .cons (.ofChild? whereClause) <| .cons (.ofChild? groupBy) <| .cons (.ofChild? having) <|
    .cons (.ofChild? orderBy) <| .cons (.ofAtom? limit) <| .cons (.atom location) .nil

def SetOperation.union (relations : List Relation) (distinct : Bool)
    (location : Location := none) : SetOperation :=
  .node .union rfl <| .cons (.ofChildren relations) <| .cons (.atom distinct) <|
    .cons (.atom location) .nil

def SetOperation.intersect (relations : List Relation) (distinct : Bool)
    (location : Location := none) : SetOperation :=
  .node .intersect rfl <| .cons (.ofChildren relations) <| .cons (.atom distinct) <|
    .cons (.atom location) .nil

def SetOperation.except (left right : Relation) (distinct : Bool) (location : Location := none) :
    SetOperation :=
  .node .except rfl <| .cons (.child left) <| .cons (.child right) <| .cons (.atom distinct) <|
    .cons (.atom location) .nil

def Relation.values (rows : List Expression) (location : Location := none) : Relation :=
  .node .values rfl <| .cons (.ofChildren rows) <| .cons (.atom location) .nil

def Relation.tableSubquery (query : Query) (location : Location := none) : Relation :=
  .node .tableSubquery rfl <| .cons (.child query) <| .cons (.atom location) .nil

def Relation.aliased (relation : Relation) (label : Ident)
    (columnNames : Option (List Ident) := none) (location : Location := none) : Relation :=
  .node .aliasedRelation rfl <| .cons (.child relation) <| .cons (.atom label) <|
    .cons (.ofOption (columnNames.map .ofAtoms)) <| .cons (.atom location) .nil

def Relation.sampled (relation : Relation) (sampleType : SampleType) (percentage : Expression)
    (location : Location := none) : Relation :=
  .node .sampledRelation rfl <| .cons (.child relation) <| .cons (.atom sampleType) <|
    .cons (.child percentage) <| .cons (.atom location) .nil

def Relation.join (joinType : JoinType) (left right : Relation)
    (criteria : Option JoinCriteria := none) (location : Location := none) : Relation :=
  .node .join rfl <| .cons (.atom joinType) <| .cons (.child left) <| .cons (.child right) <|
    .cons (.ofChild? criteria) <| .cons (.atom location) .nil

def Relation.unnest (expressions : List Expression) (withOrdinality : Bool)
    (location : Location := none) : Relation :=
  .node .unnest rfl <| .cons (.ofChildren expressions) <| .cons (.atom withOrdinality) <|
    .cons (.atom location) .nil

def Relation.lateral (query : Query) (location : Location := none) : Relation :=
  .node .lateral rfl <| .cons (.child query) <| .cons (.atom location) .nil

/-- A set operation as a relation. -/
@[match_pattern]
def Relation.setOperation (s : SetOperation) : Relation :=
  .inclusion .relationSetOperation s

end SqlTrees
