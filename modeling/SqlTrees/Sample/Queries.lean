import SqlTrees.Tree.Clause
import SqlTrees.Tree.Expression
import SqlTrees.Tree.Relation
import SqlTrees.Tree.Statement

/-! # Sample queries

Hand-built trees of a few queries. Where a query is written out in a comment, the positions in its
tree are those of the text.
-/

namespace SqlTrees
set_option autoImplicit false

namespace Sample

/-- The position of a piece of text. -/
def pos (line column : UInt64) : Location :=
  some ⟨line, column⟩

/-- `SELECT a + 1 FROM t WHERE a > 0` -/
def selectAPlusOne : Statement :=
  let plusOne := Expression.arithmeticBinary .add (Expression.identifier "a" false (pos 1 8))
    (Expression.longLiteral 1 (pos 1 12)) (pos 1 8)
  let positive := Expression.comparison .greaterThan
    (Expression.identifier "a" false (pos 1 27)) (Expression.longLiteral 0 (pos 1 31)) (pos 1 27)
  let select := Select.mk [SelectItem.singleColumn plusOne none (pos 1 8)] false (pos 1 1)
  let body := Relation.querySpecification select (some (Relation.table (.parse "t") (pos 1 19)))
    (some positive) none none none none (pos 1 1)
  Statement.query (Query.mk body none none none (pos 1 1))

/-- `SELECT column FROM table` -/
def selectColumn (column table : String) : Relation :=
  Relation.querySpecification (Select.mk [SelectItem.singleColumn (Expression.identifier column)])
    (some (Relation.table (.parse table)))

/-- `SELECT x FROM t1 UNION SELECT x FROM t2 UNION SELECT x FROM t3` -/
def unionOfThree : Statement :=
  let relations := [selectColumn "x" "t1", selectColumn "x" "t2", selectColumn "x" "t3"]
  Statement.query (Query.mk (Relation.setOperation (SetOperation.union relations true)))

/-- `SELECT x FROM t1 EXCEPT SELECT x FROM t2` -/
def exceptOfTwo : Statement :=
  Statement.query (Query.mk (Relation.setOperation
    (SetOperation.except (selectColumn "x" "t1") (selectColumn "x" "t2") true)))

/-- `SELECT * FROM r JOIN s`, with a join of any type and criteria. -/
def joinWith (joinType : JoinType) (criteria : Option JoinCriteria) : Statement :=
  Statement.query (Query.mk (Relation.querySpecification (Select.mk [SelectItem.allColumns])
    (some (Relation.join joinType (Relation.table (.parse "r")) (Relation.table (.parse "s"))
      criteria))))

/-- A column of a table. -/
def columnOf (table column : String) : Expression :=
  Expression.dereference (Expression.identifier table) (.plain column)

/-- `ON r.id = s.id AND s.flag = 1` -/
def onCriteria : JoinCriteria :=
  JoinCriteria.onCondition (Expression.and
    (Expression.comparison .equal (columnOf "r" "id") (columnOf "s" "id"))
    (Expression.comparison .equal (columnOf "s" "flag") (Expression.longLiteral 1)))

/-- `USING (id, run)` -/
def usingCriteria : JoinCriteria :=
  JoinCriteria.usingColumns [.plain "id", .plain "run"]

/-- `SELECT a, "B" FROM "//lsst:4040"."Sch".Tab` -/
def threePartTableSelect : Statement :=
  Statement.query (Query.mk (Relation.querySpecification
    (Select.mk [SelectItem.singleColumn (Expression.identifier "a"),
      SelectItem.singleColumn (Expression.identifier "B" true)])
    (some (Relation.table ⟨["//lsst:4040", "Sch", "Tab"]⟩ (pos 1 18)))))

/-- `SELECT * FROM Object o WHERE 1 = CONTAINS(POINT(o.ra, o.decl), CIRCLE(1, 2, 3))` -/
def containsPointInCircle : Statement :=
  let point := Expression.call "POINT" [columnOf "o" "ra", columnOf "o" "decl"]
  let circle := Expression.call "CIRCLE"
    [Expression.longLiteral 1, Expression.longLiteral 2, Expression.longLiteral 3]
  Statement.query (Query.mk (Relation.querySpecification (Select.mk [SelectItem.allColumns])
    (some (Relation.aliased (Relation.table (.parse "Object")) (.plain "o")))
    (some (Expression.comparison .equal (Expression.longLiteral 1)
      (Expression.call "CONTAINS" [point, circle])))))

/-- A statement with most kinds of nodes in it:

```sql
WITH recent (id) AS (SELECT id FROM runs ORDER BY id DESC LIMIT 10)
SELECT
  count(DISTINCT id) FILTER (WHERE id IS NOT NULL)
    OVER (PARTITION BY band ORDER BY mjd ROWS BETWEEN 1 PRECEDING AND CURRENT ROW),
  CASE WHEN flux > 0 THEN 'pos' ELSE 'neg' END,
  CAST(ra AS DOUBLE),
  *
FROM recent r JOIN obs o USING (id, run)
WHERE o.mjd BETWEEN 1 AND 2 AND o.band IN ('g', 'r') AND o.name LIKE 'a%'
GROUP BY ROLLUP (band), CUBE (mjd), GROUPING SETS ((band), ())
HAVING NOT EXISTS (SELECT 1)
```
-/
def kitchenSink : Statement :=
  let recent := WithQuery.mk (.plain "recent")
    (Query.mk (selectColumn "id" "runs") none
      (some (OrderBy.mk [SortItem.mk (Expression.identifier "id") .descending .undefined]))
      (some "10") (pos 1 27))
    (some [.plain "id"]) (pos 1 6)
  let window := Window.mk [Expression.identifier "band"]
    (some (OrderBy.mk [SortItem.mk (Expression.identifier "mjd") .ascending .last]))
    (some (WindowFrame.mk .rows (FrameBound.mk .preceding (some (Expression.longLiteral 1)))
      (some (FrameBound.mk .currentRow))))
  let counted := Expression.functionCall (.parse "count") [Expression.identifier "id"] true none
    (some window) (some (Expression.isNotNull (Expression.identifier "id"))) (pos 3 3)
  let positive := Expression.comparison .greaterThan (Expression.identifier "flux")
    (Expression.longLiteral 0)
  let signText := Expression.searchedCase [WhenClause.mk positive (Expression.stringLiteral "pos")]
    (some (Expression.stringLiteral "neg")) (pos 5 3)
  let cast := Expression.cast (Expression.identifier "ra") "DOUBLE" false false (pos 6 3)
  let between := Expression.between (columnOf "o" "mjd") (Expression.longLiteral 1)
    (Expression.longLiteral 2)
  let inBands := Expression.inPredicate (columnOf "o" "band")
    (Expression.inList [Expression.stringLiteral "g", Expression.stringLiteral "r"])
  let named := Expression.like (columnOf "o" "name") (Expression.stringLiteral "a%")
  let grouping := GroupBy.mk false
    [GroupingElement.rollup [Expression.identifier "band"],
      GroupingElement.cube [Expression.identifier "mjd"],
      GroupingElement.groupingSets [[Expression.identifier "band"], []]]
  let one := Query.mk (Relation.querySpecification
    (Select.mk [SelectItem.singleColumn (Expression.longLiteral 1)]))
  let having := Expression.not (Expression.existsPredicate (Expression.subquery one))
  let joined := Relation.join .inner
    (Relation.aliased (Relation.table (.parse "recent")) (.plain "r"))
    (Relation.aliased (Relation.table (.parse "obs")) (.plain "o")) (some usingCriteria)
  let select := Select.mk
    [SelectItem.singleColumn counted, SelectItem.singleColumn signText,
      SelectItem.singleColumn cast, SelectItem.allColumns]
  let body := Relation.querySpecification select (some joined)
    (some (Expression.and (Expression.and between inBands) named)) (some grouping) (some having)
    none none (pos 2 1)
  Statement.query (Query.mk body (some (WithClause.mk false [recent] (pos 1 1))) none none
    (pos 1 1))

/-- `CREATE TABLE IF NOT EXISTS sch.obs (id BIGINT WITH (nullable = false), LIKE sch.runs)` -/
def createTable : Statement :=
  let id := ColumnDefinition.mk (.plain "id") "BIGINT"
    [Property.mk (.plain "nullable") (Expression.booleanLiteral false)] (some "primary key")
    (pos 1 37)
  let runs := LikeClause.mk (.parse "sch.runs") (some .includingProperties)
  Statement.createTable (.parse "sch.obs") [TableElement.column id, TableElement.like runs] true
    [] none (pos 1 1)

end Sample
end SqlTrees
