import SqlTrees.Passes.Failure
import SqlTrees.Rebuild.Pass
import SqlTrees.Tree.Expression

/-! # Spatial predicates

`CONTAINS(POINT(...), CIRCLE(...))` and `CONTAINS(POINT(...), POLYGON(...))` become one call over
the coordinates of both. The call must be the operand of a comparison or a logical operator, or a
condition of a query specification. The context is the stack of open nodes, innermost first.
-/

namespace SqlTrees
set_option autoImplicit false

/-- The name and the arguments of a function call. -/
def Expression.call? : Expression → Option (QualifiedName × List Expression)
  | .node .functionCall _ (.cons (.atom name) (.cons _ (.cons arguments _))) =>
    some (name, arguments.children)
  | _ => none

/-- The arguments of a call of the named function; only the last part of the call's name counts,
and the case of its letters does not. -/
def Expression.callOf? (name : String) (e : Expression) : Option (List Expression) :=
  match e.call? with
  | some (n, arguments) => if sameIgnoringCase n.suffix name then some arguments else none
  | none => none

/-- The kinds that a spatial predicate may stand directly under. -/
def Kind.holdsPredicate (k : Kind) : Bool :=
  k = .comparison || k = .logicalBinary || k = .querySpecification

/-- The function that tests a point against a shape, with the coordinates of the shape. -/
def shapeTest (shape : Expression) : Except SpatialError (String × List Expression) :=
  match shape.callOf? "circle" with
  | some coordinates => .ok ("scisql_s2PtInCircle", coordinates)
  | none =>
    match shape.callOf? "polygon" with
    | some coordinates =>
      if coordinates.length < 6 || coordinates.length % 2 = 1 then .error (.arity "POLYGON")
      else .ok ("scisql_s2PtInCPoly", coordinates)
    | none => .error .notAShape

/-- The call that a `CONTAINS` with these arguments becomes, under a node of kind `parent`. -/
def resolveContains (parent : Option Kind) (arguments : List Expression) :
    Except SpatialError (String × List Expression) :=
  if parent.any Kind.holdsPredicate then
    match arguments with
    | [point, shape] =>
      match point.callOf? "point" with
      | some position => do
        let (function, coordinates) ← shapeTest shape
        return (function, position ++ coordinates)
      | none => .error .notAPoint
    | _ => .error (.arity "CONTAINS")
  else .error .outsidePredicate

/-- Resolves every spatial predicate. Other calls are rebuilt with their arguments first, then
window, filter and ordering. -/
def Pass.spatial : Pass (List Kind) SpatialError where
  unsupported := .unsupported
  preVisit k := Walk.update (k :: ·)
  postVisit _ := Walk.update List.tail
  rule?
    | .functionCall => some fun
      | .cons (.atom name) <| .cons (.atom distinct) <| .cons arguments <| .cons orderBy <|
          .cons window <| .cons filter _ => do
        let arguments ← arguments.traverse Child.rebuilt
        if sameIgnoringCase name.suffix "contains" then
          let stack ← Walk.context
          let (function, coordinates) ←
            ExceptT.mk (pure (resolveContains stack[1]? arguments.children))
          Walk.report (.spatialCall function)
          return Expression.call function coordinates
        else
          let window ← window.traverse Child.rebuilt
          let filter ← filter.traverse Child.rebuilt
          let orderBy ← orderBy.traverse Child.rebuilt
          return .ofFields .functionCall <| .cons (.atom name) <| .cons (.atom distinct) <|
            .cons arguments <| .cons orderBy <| .cons window <| .cons filter <|
            .cons (.atom none) .nil
    | _ => none

end SqlTrees
