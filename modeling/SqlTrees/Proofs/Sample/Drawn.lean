import SqlTrees.Sample.Drawn
import SqlTrees.Proofs.Sample.Always
import SqlTrees.Proofs.Sample.Fits

/-! # Drawn trees fit

* `Gen.literal_fits`, `Gen.whenClause_fits` and the like: what each generator of a clause draws
  fits, within a height a little above that of the expressions it is given.
* `Generators.Within`: bounds for the four generators of one depth.
* `Generators.Within.deeper`: what one more step of depth preserves.
* `Generators.atDepth_within`: the trees of a depth fit, at every depth.
-/

namespace SqlTrees
set_option autoImplicit false

namespace Gen
open SqlTrees.Tree SqlTrees.Field

/-! ## Children -/

section Children
variable {c : Category} {g : Gen (Tree c)} {h m : Nat}

theorem Always.within (hg : g.Always (Tree.Fits h)) (hm : h ≤ m) : g.Always (Tree.Fits m) :=
  hg.mono fun _ ht => ht.mono hm

theorem Always.children (hg : g.Always (Tree.Fits h)) {low high : Nat} (ordered : low ≤ high) :
    (several low high g).Always fun ts =>
      (low ≤ ts.length ∧ ts.length ≤ high) ∧ (ofChildren ts).Fits h :=
  (several_always hg ordered).mono fun _ hts => ⟨hts.1, fits_ofChildren hts.2⟩

theorem Always.child? (hg : g.Always (Tree.Fits h)) :
    (maybe g).Always fun o => (ofChild? o).Fits h :=
  (maybe_always hg).mono fun _ => fits_ofChild?

theorem Always.rareChild? (hg : g.Always (Tree.Fits h)) (n : Nat) :
    (rarely n g).Always fun o => (ofChild? o).Fits h :=
  (rarely_always hg n).mono fun _ => fits_ofChild?

end Children

/-! ## Names and literals -/

theorem qualifiedName_always : qualifiedName.Always fun n => n.short = true := by
  have parts := several_always (g := name) (p := fun _ => True) (fun _ => trivial)
    (show 1 ≤ 3 by decide)
  refine .bind parts fun ps hps => .pure ?_
  simpa [QualifiedName.short] using hps.1

theorem isFinite_ofDyadic_quarters : ∀ m ≤ 360, (Double.ofDyadic m 2).isFinite = true := by
  decide +kernel

theorem columnReference_fits :
    columnReference.Always fun e => e.Fits 2 ∧ e.isColumn = true := by
  have identifier (value : String) (place : Location) :
      (Expression.identifier value false place).Fits 1 :=
    fits_node rfl rfl (by simp +decide)
  refine .any fun value => .any fun place => .any fun field => .ite (fun _ => ?_) fun _ => ?_
  · refine .any fun field => .any fun place => .pure ⟨fits_node rfl rfl ?_, rfl⟩
    simp +decide [identifier]
  · exact .pure ⟨(identifier value place).mono (by decide), rfl⟩

theorem literal_fits : literal.Always (Tree.Fits 3) := by
  refine .any fun place => .any fun n => ?_
  split
  · refine .any fun value => .any fun delimited => .pure ?_
    exact fits_node rfl rfl (by simp +decide)
  · refine .any fun n => .pure ?_
    exact fits_node rfl rfl (by simp +decide)
  · refine .bind (range_always 0 360 (by decide)) fun quarters hq => .pure ?_
    exact fits_node rfl rfl (by simp +decide [isFinite_ofDyadic_quarters quarters hq.2])
  · refine .any fun n => .pure ?_
    exact fits_node rfl rfl (by simp +decide)
  · refine .any fun value => .pure ?_
    exact fits_node rfl rfl (by simp +decide)
  · refine .any fun value => .pure ?_
    exact fits_node rfl rfl (by simp +decide)
  · exact .pure (fits_node rfl rfl (by simp +decide))
  · refine .any fun value => .pure ?_
    exact fits_node rfl rfl (by simp +decide)
  · exact .pure (fits_node rfl rfl (by simp +decide))
  · exact .pure (fits_node rfl rfl (by simp +decide))
  · refine .any fun n => .any fun sign => .any fun start => .any fun last => .pure ?_
    exact fits_node rfl rfl (by simp +decide)
  · refine .any fun function => .any fun precision => .pure ?_
    exact fits_node rfl rfl (by simp +decide)
  · refine .bind (several_always columnReference_fits (by decide)) fun columns hc => .pure ?_
    have consistent : (ofChildren columns).children.all Expression.isColumn = true := by
      rw [children_ofChildren, List.all_eq_true]
      exact fun e he => (hc.2 e he).2
    have inside := fits_ofChildren fun e he => (hc.2 e he).1
    exact fits_node rfl consistent (by simp +decide [inside])

/-! ## Clauses -/

section Clauses
variable {expression : Gen Expression} {h : Nat} (he : expression.Always (Tree.Fits h))
include he

theorem whenClause_fits : (whenClause expression).Always (Tree.Fits (h + 1)) := by
  refine .bind he fun operand ho => .bind he fun result hr => .any fun place => .pure ?_
  exact fits_node rfl rfl (by simp +decide [ho, hr])

theorem sortItem_fits : (sortItem expression).Always (Tree.Fits (h + 1)) := by
  refine .bind he fun key hk => .any fun ordering => .any fun nulls => .any fun place => .pure ?_
  exact fits_node rfl rfl (by simp +decide [hk])

theorem orderBy_fits : (orderBy expression).Always (Tree.Fits (h + 2)) := by
  refine .bind ((sortItem_fits he).children (by decide)) fun items hi => .any fun place =>
    .pure ?_
  exact fits_node rfl rfl (by simp +decide [hi.2])

theorem frameBound_fits : (frameBound expression).Always (Tree.Fits (h + 1)) := by
  refine .any fun form => ?_
  cases form with
  | preceding | following =>
    refine .bind he fun value hv => .next <| .any fun place => .pure ?_
    exact fits_node rfl rfl (by simp +decide [ofChild?, ofOption, hv])
  | _ =>
    refine .next <| .any fun place => .pure ?_
    exact fits_node rfl rfl (by simp +decide [ofChild?, ofOption])

theorem windowFrame_fits : (windowFrame expression).Always (Tree.Fits (h + 2)) := by
  have bound := frameBound_fits he
  refine .any fun unit => .bind bound fun start hs => .bind bound.child? fun last hl =>
    .any fun place => .pure ?_
  exact fits_node rfl rfl (by simp +decide [hs, hl])

theorem window_fits : (window expression).Always (Tree.Fits (h + 3)) := by
  have partitioned := (he.within (show h ≤ h + 2 by omega)).children (show 0 ≤ 2 by decide)
  refine .bind partitioned fun partition hp => .bind (orderBy_fits he).child? fun ordering ho =>
    .bind (windowFrame_fits he).child? fun frame hf => .any fun place => .pure ?_
  exact fits_node rfl rfl (by simp +decide [hp.2, ho, hf])

theorem selectItem_fits : (selectItem expression).Always (Tree.Fits (h + 1)) := by
  refine .any fun n => .ite (fun _ => ?_) fun _ => ?_
  · refine .bind (maybe_always qualifiedName_always) fun qualifier hq => .any fun place =>
      .pure ?_
    exact fits_node rfl rfl (by simp +decide [fits_name? hq])
  · refine .bind he fun column hc => .any fun label => .any fun place => .pure ?_
    exact fits_node rfl rfl (by simp +decide [hc])

theorem groupingElement_fits : (groupingElement expression).Always (Tree.Fits (h + 1)) := by
  have columns := he.children (show 1 ≤ 2 by decide)
  refine .any fun place => .any fun n => ?_
  split
  · refine .bind columns fun cs hc => .pure ?_
    exact fits_node rfl rfl (by simp +decide [hc.2])
  · refine .bind columns fun cs hc => .pure ?_
    exact fits_node rfl rfl (by simp +decide [hc.2])
  · refine .bind columns fun cs hc => .pure ?_
    exact fits_node rfl rfl (by simp +decide [hc.2])
  · have sets := several_always (he.children (show 0 ≤ 2 by decide)) (show 1 ≤ 2 by decide)
    refine .bind sets fun ss hs => .pure ?_
    have inside : (ofList (ss.map ofChildren)).Fits h :=
      fits_ofList (List.forall_mem_map.2 fun cs hc => (hs.2 cs hc).2)
    exact fits_node rfl rfl (by simp +decide [inside])

theorem groupBy_fits : (groupBy expression).Always (Tree.Fits (h + 2)) := by
  have elements := (groupingElement_fits he).children (show 1 ≤ 2 by decide)
  refine .any fun distinct => .bind elements fun es hes => .any fun place => .pure ?_
  exact fits_node rfl rfl (by simp +decide [hes.2])

theorem select_fits : (select expression).Always (Tree.Fits (h + 2)) := by
  have items := (selectItem_fits he).children (show 1 ≤ 3 by decide)
  refine .any fun distinct => .bind items fun is his => .any fun place => .pure ?_
  exact fits_node rfl rfl (by simp +decide [his.2])

theorem property_fits : (property expression).Always (Tree.Fits (h + 1)) := by
  refine .any fun name => .bind he fun value hv => .any fun place => .pure ?_
  exact fits_node rfl rfl (by simp +decide [hv])

theorem columnDefinition_fits : (columnDefinition expression).Always (Tree.Fits (h + 2)) := by
  have properties := (property_fits he).children (show 0 ≤ 2 by decide)
  refine .any fun name => .any fun type => .bind properties fun ps hps => .any fun comment =>
    .any fun place => .pure ?_
  exact fits_node rfl rfl (by simp +decide [hps.2])

theorem tableElement_fits : (tableElement expression).Always (Tree.Fits (h + 2)) := by
  refine .any fun n => .ite (fun _ => ?_) fun _ => ?_
  · refine .bind qualifiedName_always fun table ht => .any fun option => .any fun place => .pure ?_
    exact fits_inclusion.2 (fits_node rfl rfl (by simp +decide [ht]))
  · refine .bind (columnDefinition_fits he) fun column hc => .pure ?_
    exact fits_inclusion.2 hc

end Clauses

theorem transactionMode_fits : transactionMode.Always (Tree.Fits 1) := by
  refine .any fun b => .ite (fun _ => ?_) fun _ => ?_
  · refine .any fun level => .any fun place => .pure ?_
    exact fits_node rfl rfl (by simp +decide)
  · refine .any fun readOnly => .any fun place => .pure ?_
    exact fits_node rfl rfl (by simp +decide)

theorem explainOption_fits : explainOption.Always (Tree.Fits 1) := by
  refine .any fun b => .ite (fun _ => ?_) fun _ => ?_
  · refine .any fun format => .any fun place => .pure ?_
    exact fits_node rfl rfl (by simp +decide)
  · refine .any fun type => .any fun place => .pure ?_
    exact fits_node rfl rfl (by simp +decide)

/-! ## Relations -/

theorem table_fits : table.Always fun t => t.Fits 1 ∧ t.kind = .table :=
  .bind qualifiedName_always fun name hn => .any fun place =>
    .pure ⟨fits_node rfl rfl (by simp +decide [hn]), rfl⟩

/-- Nothing of a query specification lies deeper than the sort keys, the grouping columns and the
selected columns, but for what lies in the relation it selects from. -/
theorem querySpecification_fits {expression : Gen Expression} {relation : Gen Relation} {h : Nat}
    (he : expression.Always (Tree.Fits h)) (hr : relation.Always (Tree.Fits (h + 2))) :
    (querySpecification expression relation).Always (Tree.Fits (h + 3)) := by
  have he' := he.within (show h ≤ h + 2 by omega)
  have grouping := (groupBy_fits he).rareChild? 3
  have ordering := (orderBy_fits he).rareChild? 3
  have rest {items : Select} {source : Option Relation} (hi : items.Fits (h + 2))
      (hs : (ofChild? source).Fits (h + 2)) : Always (do
        let condition ← maybe expression
        let grouping ← rarely 3 (groupBy expression)
        let having ← rarely 3 expression
        let ordering ← rarely 3 (orderBy expression)
        let count ← limit
        let place ← location
        return Relation.querySpecification items source condition grouping having ordering count
          place) (Tree.Fits (h + 3)) :=
    .bind he'.child? fun condition hc => .bind grouping fun g hg =>
      .bind (he'.rareChild? 3) fun having hh => .bind ordering fun o ho => .any fun count =>
      .any fun place =>
      .pure (fits_node rfl rfl (by simp +decide [hi, hs, hc, hg, hh, ho]))
  refine .bind (select_fits he) fun items hi => .any fun n => .ite (fun _ => ?_) fun _ => ?_
  · exact .bind hr fun source hs => .next (rest hi (fits_some.2 (fits_child.2 hs)))
  · exact .next (rest hi fits_none)

/-- The criteria of a join of the type. -/
theorem joinCriteria_fits {expression : Gen Expression} {h : Nat}
    (he : expression.Always (Tree.Fits h)) (type : JoinType) :
    (joinCriteria expression type).Always fun o =>
      (ofChild? o).Fits (h + 1) ∧
        ((ofChild? o).toOption.isNone == (type = .cross || type = .implicit)) = true := by
  cases type with
  | cross | implicit => exact .pure ⟨fits_none, rfl⟩
  | _ =>
    refine .any fun n => ?_
    split
    · refine .bind he fun condition hc => .pure ⟨fits_some.2 (fits_child.2 ?_), rfl⟩
      exact fits_node rfl rfl (by simp +decide [hc])
    · refine .any fun columns => .pure ⟨fits_some.2 (fits_child.2 ?_), rfl⟩
      exact fits_node rfl rfl (by simp +decide)
    · refine .pure ⟨fits_some.2 (fits_child.2 ?_), rfl⟩
      exact fits_node rfl rfl (by simp +decide)

end Gen

/-! ## By depth -/

/-- Bounds for the trees of one depth, all in terms of the bound for expressions. -/
structure Generators.Within (g : Generators) (h : Nat) : Prop where
  expression : g.expression.Always (Tree.Fits h)
  relation : g.relation.Always (Tree.Fits (h + 1))
  query : g.query.Always (Tree.Fits (h + 2))
  statement : g.statement.Always (Tree.Fits (h + 3))

namespace Generators
open Gen SqlTrees.Tree SqlTrees.Field
variable {g : Generators} {h : Nat}

theorem Within.subquery (hg : g.Within h) :
    g.subquery.Always fun e => e.Fits (h + 3) ∧ e.kind = .subqueryExpression :=
  .bind hg.query fun query hq => .any fun place =>
    .pure ⟨fits_node rfl rfl (by simp +decide [hq]), rfl⟩

theorem Within.deeperExpression (hg : g.Within h) :
    g.deeperExpression.Always (Tree.Fits (h + 4)) := by
  have shallow := hg.expression
  have he := shallow.within (show h ≤ h + 3 by omega)
  have he? := he.child?
  have several (low high : Nat) (ordered : low ≤ high) := he.children ordered
  have clauses := ((whenClause_fits shallow).within (show h + 1 ≤ h + 3 by omega)).children
    (show 1 ≤ 2 by decide)
  have query := hg.query.within (show h + 2 ≤ h + 3 by omega)
  have ordering := (orderBy_fits shallow).within (show h + 2 ≤ h + 3 by omega)
  have literal := literal_fits.within (show 3 ≤ h + 4 by omega)
  refine .any fun n => .ite (fun _ => literal) fun _ => .any fun place => .any fun n => ?_
  -- one case for each form of expression, in the order the generator lists them
  split
  · refine .bind he fun base hb => .any fun field => .pure ?_
    exact fits_node rfl rfl (by simp +decide [hb])
  · refine .any fun op => .bind he fun left hl => .bind he fun right hr => .pure ?_
    exact fits_node rfl rfl (by simp +decide [hl, hr])
  · refine .any fun sign => .bind he fun value hv => .pure ?_
    exact fits_node rfl rfl (by simp +decide [hv])
  · refine .any fun op => .bind he fun left hl => .bind he fun right hr => .pure ?_
    exact fits_node rfl rfl (by simp +decide [hl, hr])
  · refine .any fun op => .bind he fun left hl => .bind he fun right hr => .pure ?_
    exact fits_node rfl rfl (by simp +decide [hl, hr])
  · refine .bind he fun value hv => .pure ?_
    exact fits_node rfl rfl (by simp +decide [hv])
  · refine .bind he fun value hv => .bind he fun min hmin => .bind he fun max hmax => .pure ?_
    exact fits_node rfl rfl (by simp +decide [hv, hmin, hmax])
  · -- `IN`: the list is a node of its own between the predicate and the values
    have listed := (shallow.within (show h ≤ h + 2 by omega)).children (show 1 ≤ 3 by decide)
    refine .bind he fun value hv => .bind listed fun values hvs => .any fun listPlace => .pure ?_
    have list : (Expression.inList values listPlace).Fits (h + 3) :=
      fits_node rfl rfl (by simp +decide [hvs.2])
    exact fits_node rfl rfl (by simp +decide [hv, list])
  · refine .bind he fun value hv => .bind he fun pattern hp => .bind he? fun escape hesc =>
      .pure ?_
    exact fits_node rfl rfl (by simp +decide [hv, hp, hesc])
  · refine .bind he fun value hv => .pure ?_
    exact fits_node rfl rfl (by simp +decide [hv])
  · refine .bind he fun value hv => .pure ?_
    exact fits_node rfl rfl (by simp +decide [hv])
  · refine .bind hg.subquery fun subquery hs => .pure ?_
    exact fits_node rfl (decide_eq_true hs.2) (by simp +decide [hs.1])
  · refine .any fun op => .any fun quantifier => .bind he fun value hv =>
      .bind hg.subquery fun subquery hs => .pure ?_
    exact fits_node rfl (decide_eq_true hs.2) (by simp +decide [hv, hs.1])
  · refine .bind query fun query hq => .pure ?_
    exact fits_node rfl rfl (by simp +decide [hq])
  · refine .bind qualifiedName_always fun name hn =>
      .bind ((window_fits shallow).rareChild? 3) fun window hw =>
      .bind (he.rareChild? 3) fun filter hf => .bind (ordering.rareChild? 3) fun ordering ho =>
      .any fun distinct => .bind (several 0 3 (by decide)) fun arguments ha => .pure ?_
    exact fits_node rfl rfl (by simp +decide [hn, hw, hf, ho, ha.2])
  · refine .bind he fun inner hi => .any fun type => .any fun safe => .any fun typeOnly =>
      .pure ?_
    exact fits_node rfl rfl (by simp +decide [hi])
  · refine .bind he fun inner hi => .any fun field => .pure ?_
    exact fits_node rfl rfl (by simp +decide [hi])
  · refine .bind he fun value hv => .bind he fun zone hz => .pure ?_
    exact fits_node rfl rfl (by simp +decide [hv, hz])
  · refine .bind (several 0 3 (by decide)) fun values hvs => .pure ?_
    exact fits_node rfl rfl (by simp +decide [hvs.2])
  · refine .bind he fun base hb => .bind he fun index hi => .pure ?_
    exact fits_node rfl rfl (by simp +decide [hb, hi])
  · refine .bind (several 1 3 (by decide)) fun operands ho => .pure ?_
    exact fits_node rfl rfl (by simp +decide [ho.2])
  · refine .bind he fun first hf => .bind he fun second hs => .pure ?_
    exact fits_node rfl rfl (by simp +decide [hf, hs])
  · refine .bind he fun condition hc => .bind he fun whenTrue ht => .bind he? fun whenFalse hf =>
      .pure ?_
    exact fits_node rfl rfl (by simp +decide [hc, ht, hf])
  · refine .bind he fun inner hi => .pure ?_
    exact fits_node rfl rfl (by simp +decide [hi])
  · refine .bind (several 1 2 (by decide)) fun values hvs => .bind he fun function hf => .pure ?_
    exact fits_node rfl rfl (by simp +decide [hvs.2, hf])
  · refine .any fun arguments => .bind he fun body hb => .pure ?_
    exact fits_node rfl rfl (by simp +decide [hb])
  · refine .bind he fun operand ho => .bind clauses fun whens hw => .bind he? fun default hd =>
      .pure ?_
    exact fits_node rfl rfl (by simp +decide [ho, hw.2, hd])
  · refine .bind clauses fun whens hw => .bind he? fun default hd => .pure ?_
    exact fits_node rfl rfl (by simp +decide [hw.2, hd])
  · refine .bind (several 1 3 (by decide)) fun items hi => .pure ?_
    exact fits_node rfl rfl (by simp +decide [hi.2])
  · refine .bind (several 1 3 (by decide)) fun values hvs => .pure ?_
    exact fits_node rfl rfl (by simp +decide [hvs.2])
  · exact literal

theorem Within.deeperRelation (hg : g.Within h) :
    g.deeperRelation.Always (Tree.Fits (h + 3)) := by
  have he := hg.expression.within (show h ≤ h + 2 by omega)
  have hr := hg.relation.within (show h + 1 ≤ h + 2 by omega)
  have several := hr.children (show 2 ≤ 3 by decide)
  have twoOrThree {rs : List Relation} (length : 2 ≤ rs.length ∧ rs.length ≤ 3) :
      ((ofChildren rs).toList.length = 2 || (ofChildren rs).toList.length = 3) = true := by
    rw [ofChildren, toList_ofList, List.length_map, Bool.or_eq_true, decide_eq_true_eq,
      decide_eq_true_eq]
    omega
  refine .any fun place => .any fun n => ?_
  split
  · exact querySpecification_fits hg.expression hr
  · refine .bind several fun relations hrs => .any fun distinct => .pure ?_
    exact fits_inclusion.2 (fits_node rfl (twoOrThree hrs.1) (by simp +decide [hrs.2]))
  · refine .bind several fun relations hrs => .any fun distinct => .pure ?_
    exact fits_inclusion.2 (fits_node rfl (twoOrThree hrs.1) (by simp +decide [hrs.2]))
  · refine .bind hr fun left hl => .bind hr fun right hr => .any fun distinct => .pure ?_
    exact fits_inclusion.2 (fits_node rfl rfl (by simp +decide [hl, hr]))
  · refine .bind (he.children (by decide)) fun rows hrs => .pure ?_
    exact fits_node rfl rfl (by simp +decide [hrs.2])
  · refine .bind hg.query fun query hq => .pure ?_
    exact fits_node rfl rfl (by simp +decide [hq])
  · refine .bind hr fun relation hr => .any fun label => .any fun columns => .pure ?_
    exact fits_node rfl rfl (by simp +decide [hr])
  · refine .bind hr fun relation hr => .any fun method => .bind he fun percentage hp => .pure ?_
    exact fits_node rfl rfl (by simp +decide [hr, hp])
  · refine .any fun type => .bind (joinCriteria_fits hg.expression type) fun criteria hc =>
      .bind hr fun left hl => .bind hr fun right hr => .pure ?_
    have inside := hc.1.mono (show h + 1 ≤ h + 2 by omega)
    exact fits_node rfl hc.2 (by simp +decide [hl, hr, inside])
  · refine .bind (he.children (by decide)) fun expressions hes => .any fun withOrdinality =>
      .pure ?_
    exact fits_node rfl rfl (by simp +decide [hes.2])
  · refine .bind hg.query fun query hq => .pure ?_
    exact fits_node rfl rfl (by simp +decide [hq])
  · exact (table_fits.mono fun _ ht => ht.1).within (show 1 ≤ h + 3 by omega)

theorem Within.withClause (hg : g.Within h) : g.withClause.Always (Tree.Fits (h + 4)) := by
  have query : Always (do
      let name ← ident
      let query ← g.query
      let columns ← maybe idents
      let place ← location
      return WithQuery.mk name query columns place) (Tree.Fits (h + 3)) :=
    .any fun name => .bind hg.query fun query hq => .any fun columns => .any fun place =>
      .pure (fits_node rfl rfl (by simp +decide [hq]))
  refine .any fun recursive => .bind (query.children (by decide)) fun queries hqs =>
    .any fun place => .pure ?_
  exact fits_node rfl rfl (by simp +decide [hqs.2])

theorem queryOver_fits {clause : Gen (Option WithClause)} {specification relation : Gen Relation}
    {ordering : Gen (Option OrderBy)} (hc : clause.Always fun o => (ofChild? o).Fits h)
    (hs : specification.Always (Tree.Fits h)) (hr : relation.Always (Tree.Fits h))
    (ho : ordering.Always fun o => (ofChild? o).Fits h) :
    (queryOver clause specification relation ordering).Always (Tree.Fits (h + 1)) := by
  have rest {c : Option WithClause} {body : Relation} (hc : (ofChild? c).Fits h)
      (hb : body.Fits h) : Always (do
        let ordering ← ordering
        let count ← limit
        let place ← location
        return Query.mk body c ordering count place) (Tree.Fits (h + 1)) :=
    .bind ho fun ordering ho => .any fun count => .any fun place =>
      .pure (fits_node rfl rfl (by simp +decide [hc, hb, ho]))
  refine .bind hc fun clause hc => .any fun b => .ite (fun _ => ?_) fun _ => ?_
  · exact .bind hs fun body hb => rest hc hb
  · exact .bind hr fun body hb => rest hc hb

theorem explain_fits {statement : Gen Statement} (hs : statement.Always (Tree.Fits (h + 1)))
    (place : Location) : (explain statement place).Always (Tree.Fits (h + 2)) := by
  have options := explainOption_fits.within (show 1 ≤ h + 1 by omega)
  refine .bind hs fun statement hs => .any fun analyze => .any fun verbose =>
    .bind (options.children (by decide)) fun os hos => .pure ?_
  exact fits_node rfl rfl (by simp +decide [hs, hos.2])

theorem statementOver_fits {expression : Gen Expression} {inner query : Gen Query}
    {explained : Option (Gen Statement)} (he : expression.Always (Tree.Fits h))
    (hi : inner.Always (Tree.Fits (h + 2))) (hq : query.Always (Tree.Fits (h + 3)))
    (hx : ∀ statement ∈ explained, statement.Always (Tree.Fits (h + 2))) :
    (statementOver expression inner query explained).Always (Tree.Fits (h + 3)) := by
  have he' := he.within (show h ≤ h + 2 by omega)
  have properties := ((property_fits he).within (show h + 1 ≤ h + 2 by omega)).children
    (show 0 ≤ 2 by decide)
  have sortItems := ((sortItem_fits he).within (show h + 1 ≤ h + 2 by omega)).children
    (show 0 ≤ 2 by decide)
  have modes := (transactionMode_fits.within (show 1 ≤ h + 2 by omega)).children
    (show 0 ≤ 2 by decide)
  have ofQuery : Always (do
      let query ← query
      return Statement.query query) (Tree.Fits (h + 3)) :=
    .bind hq fun query hq => .pure (fits_inclusion.2 hq)
  refine .any fun place => .any fun n => ?_
  split
  · refine .bind qualifiedName_always fun target ht => .any fun columns =>
      .bind hi fun query hq => .pure ?_
    exact fits_node rfl rfl (by simp +decide [ht, hq])
  · refine .bind table_fits fun table ht => .bind he'.child? fun condition hc => .pure ?_
    exact fits_node rfl (decide_eq_true ht.2)
      (by simp +decide [ht.1.mono (show 1 ≤ h + 2 by omega), hc])
  · refine .bind qualifiedName_always fun name hn => .bind hi fun query hq =>
      .any fun ifNotExists => .bind properties fun ps hps => .any fun withData =>
      .any fun columns => .any fun comment => .pure ?_
    exact fits_node rfl rfl (by simp +decide [hn, hq, hps.2])
  · refine .bind qualifiedName_always fun name hn => .bind hi fun query hq => .any fun replace =>
      .pure ?_
    exact fits_node rfl rfl (by simp +decide [hn, hq])
  · refine .bind qualifiedName_always fun name hn =>
      .bind ((tableElement_fits he).children (by decide)) fun elements hes =>
      .any fun ifNotExists => .bind properties fun ps hps => .any fun comment => .pure ?_
    exact fits_node rfl rfl (by simp +decide [hn, hes.2, hps.2])
  · refine .bind qualifiedName_always fun name hn =>
      .bind (columnDefinition_fits he) fun column hc => .pure ?_
    exact fits_node rfl rfl (by simp +decide [hn, hc])
  · refine .bind qualifiedName_always fun name hn => .bind he' fun value hv => .pure ?_
    exact fits_node rfl rfl (by simp +decide [hn, hv])
  · refine .bind qualifiedName_always fun table ht => .bind he'.child? fun condition hc =>
      .bind sortItems fun items his => .any fun count => .pure ?_
    exact fits_node rfl rfl (by simp +decide [ht, hc, his.2])
  · refine .bind qualifiedName_always fun table ht => .pure ?_
    exact fits_node rfl rfl (by simp +decide [ht])
  · refine .bind modes fun ms hms => .pure ?_
    exact fits_node rfl rfl (by simp +decide [hms.2])
  · split
    · next statement => exact explain_fits (hx statement rfl) place
    · exact ofQuery
  · exact ofQuery

theorem flat_within : flat.Within 5 := by
  have table := table_fits.mono fun _ ht => ht.1
  have specification := querySpecification_fits literal_fits (table.within (by decide))
  have query : flat.query.Always (Tree.Fits 7) :=
    queryOver_fits (.pure fits_none) specification (table.within (by decide)) (.pure fits_none)
  exact {
    expression := literal_fits.within (by decide)
    relation := table.within (by decide)
    query
    statement := statementOver_fits (literal_fits.within (by decide)) query
      (query.within (by decide)) nofun }

/-- One step of depth lets the trees grow by four nodes: a call over the window, its frame, a bound
of that and the expression in it, or a subquery over a query with a `WITH` clause. -/
theorem Within.deeper (hg : g.Within h) : g.deeper.Within (h + 4) := by
  have specification := querySpecification_fits hg.expression
    (hg.relation.within (show h + 1 ≤ h + 2 by omega))
  have ordering := (orderBy_fits hg.expression).within (show h + 2 ≤ h + 4 by omega)
  have query : g.deeper.query.Always (Tree.Fits (h + 5)) :=
    queryOver_fits (hg.withClause.rareChild? 4) (specification.within (by omega))
      (hg.deeperRelation.within (by omega)) (ordering.rareChild? 3)
  exact {
    expression := hg.deeperExpression
    relation := hg.deeperRelation.within (by omega)
    query := query.within (by omega)
    statement := statementOver_fits (hg.expression.within (by omega)) (hg.query.within (by omega))
      (query.within (by omega)) fun _ hs => by
        cases hs
        exact hg.statement.within (by omega) }

theorem atDepth_within (depth : Nat) : (atDepth depth).Within (4 * depth + 5) := by
  induction depth with
  | zero => exact flat_within
  | succ depth ih => exact ih.deeper

end Generators
end SqlTrees
