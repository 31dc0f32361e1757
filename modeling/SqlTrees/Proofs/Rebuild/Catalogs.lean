import SqlTrees.Passes.Restructure
import SqlTrees.Proofs.Rebuild.Reshaping
import SqlTrees.Proofs.Tree.Renamed

/-! # Dropping catalogs

* `QualifiedName.withoutCatalog`, `QualifiedName.withoutFirst`: the two policies.
* `Replacement.stripping`: what the pass puts in the place of these nodes.
* `Tree.alike_stripped`: but for locations, that is a change of names.
* `stripping_policy_iff`: the pass has one policy for tables and another for `SHOW COLUMNS`; when
  they come to the same, and when a second run has nothing left to do.
-/

namespace SqlTrees
set_option autoImplicit false

/-! ## Names -/

namespace QualifiedName

/-- The name without its first part. -/
def withoutFirst (name : QualifiedName) : QualifiedName :=
  ⟨name.parts.drop 1⟩

/-- The name without its first part if it has exactly three. -/
def withoutCatalog (name : QualifiedName) : QualifiedName :=
  if name.parts.length = 3 then name.withoutFirst else name

theorem withoutFirst_eq_withoutCatalog_iff (name : QualifiedName) :
    name.withoutFirst = name.withoutCatalog ↔ name.parts.length = 3 ∨ name.parts = [] := by
  obtain ⟨parts⟩ := name
  rw [withoutCatalog]
  split
  · next three => exact iff_of_true rfl (.inl three)
  · next other =>
    cases parts with
    | nil => exact iff_of_true rfl (.inr rfl)
    | cons part rest =>
      refine iff_of_false (fun h => ?_) (by simpa using other)
      have lengths := congrArg (fun name => name.parts.length) h
      simp [withoutFirst] at lengths

theorem withoutFirst_withoutFirst_eq_iff (name : QualifiedName) :
    name.withoutFirst.withoutFirst = name.withoutFirst ↔ name.parts.length ≤ 1 := by
  obtain ⟨parts⟩ := name
  match parts with
  | [] => exact iff_of_true rfl (Nat.zero_le 1)
  | [_] => exact iff_of_true rfl (Nat.le_refl 1)
  | _ :: _ :: rest =>
    refine iff_of_false (fun h => ?_) (by simp)
    have lengths := congrArg (fun name => name.parts.length) h
    simp [withoutFirst] at lengths

end QualifiedName

/-! ## What is put in the place of tables -/

namespace Replacement
variable {shown : QualifiedName → QualifiedName} {k : Kind}

/-- A table of three parts without the first of them and without its location, any other table as
it is, and new names for the tables whose columns are shown. -/
def stripping (shown : QualifiedName → QualifiedName) : Replacement UnsupportedKind
  | .table => some fun
    | .cons (.atom name) (.cons (.atom location) .nil) =>
      .ok (if name.parts.length = 3 then Relation.table name.withoutFirst
        else Relation.table name location)
  | .showColumns => some fun
    | .cons (.atom name) _ => .ok (Statement.showColumns (shown name))
  | _ => none

theorem stripping_of_ne (ht : k ≠ .table) (hs : k ≠ .showColumns) :
    stripping shown k = none := by
  cases k <;> first | rfl | exact absurd rfl ht | exact absurd rfl hs

theorem stripping_relabels (shown : QualifiedName → QualifiedName) :
    (stripping shown).Relabels := by
  have each : ∀ k f, stripping shown k = some f →
      Signature.childless k.signature = true ∧ k ∉ Kind.unruled ∧
        ∀ fields, ∃ others, f fields = .ok (.ofFields k others) := by
    intro k f hk
    by_cases ht : k = .table
    · subst ht
      cases hk
      refine ⟨rfl, by decide, fun fields => ?_⟩
      match fields with
      | .cons (.atom name) (.cons (.atom location) .nil) =>
        by_cases three : name.parts.length = 3
        · exact ⟨_, congrArg Except.ok (if_pos three)⟩
        · exact ⟨_, congrArg Except.ok (if_neg three)⟩
    · by_cases hs : k = .showColumns
      · subst hs
        cases hk
        refine ⟨rfl, by decide, fun fields => ?_⟩
        match fields with
        | .cons (.atom name) (.cons (.atom location) .nil) => exact ⟨_, rfl⟩
      · rw [stripping_of_ne ht hs] at hk
        cases hk
  exact ⟨fun k f hk => (each k f hk).1, fun k f hk => (each k f hk).2.1,
    fun k f hk => (each k f hk).2.2⟩

theorem put_stripping_table (name : QualifiedName) (location : Location)
    (below : Record Tree Kind.table.signature) :
    (stripping shown).put .table (.cons (.atom name) (.cons (.atom location) .nil))
        below =
      if name.parts.length = 3 then Relation.table name.withoutFirst
      else Relation.table name location := rfl

/-- A table that has lost its catalog has two parts, and a second run leaves it alone. -/
theorem stripping_composes (shown shown' : QualifiedName → QualifiedName) :
    (stripping shown).Composes (stripping shown') (stripping (shown' ∘ shown)) := by
  intro k fields
  by_cases ht : k = .table
  · subst ht
    match fields with
    | .cons (.atom name) (.cons (.atom location) .nil) =>
      rw [put_stripping_table, put_stripping_table]
      by_cases three : name.parts.length = 3
      · have two : ¬ name.withoutFirst.parts.length = 3 := by
          simp [QualifiedName.withoutFirst, three]
        rw [if_pos three]
        -- without its catalog the table has two parts, which the second run does not touch
        exact if_neg two
      · rw [if_neg three]
        exact if_neg three
  · by_cases hs : k = .showColumns
    · subst hs
      match fields with
      | .cons (.atom name) (.cons (.atom location) .nil) => rfl
    · exact composes_of_none (stripping_of_ne ht hs) (stripping_of_ne ht hs)
        (stripping_of_ne ht hs) _ _

theorem alike_put_stripping (fields : Record Tree k.signature)
    (ih : (fields.substituted (stripping shown)).alike
      (fields.reshaped (.newNames .withoutCatalog shown)) = true) :
    ((stripping shown).put k fields (fields.substituted (stripping shown))).alike
      (Tree.ofFields k (Reshape.newNames .withoutCatalog shown k
        (fields.reshaped (.newNames .withoutCatalog shown)))) = true := by
  by_cases ht : k = .table
  · subst ht
    match fields with
    | .cons (.atom name) (.cons (.atom location) .nil) =>
      change ((stripping shown).put .table _ _).alike
        (Relation.table name.withoutCatalog location) = true
      rw [put_stripping_table, QualifiedName.withoutCatalog]
      split <;> exact (Tree.alike_iff _ _).2 rfl
  · by_cases hs : k = .showColumns
    · subst hs
      match fields with
      | .cons (.atom name) (.cons (.atom location) .nil) => exact (Tree.alike_iff _ _).2 rfl
    · rw [put_of_none (stripping_of_ne ht hs), Reshape.newNames_of_ne ht hs, Tree.alike_node]
      split
      · exact ih
      · exact Record.unlocated_alike _ _ ih

end Replacement

section
variable {shown : QualifiedName → QualifiedName}

mutual

/-- But for locations, what the pass does is a change of names. -/
theorem Tree.alike_stripped : {c : Category} → (t : Tree c) →
    (t.substituted (.stripping shown)).alike
      (t.reshaped (.newNames .withoutCatalog shown)) = true
  | _, .node _ rfl fields => Replacement.alike_put_stripping fields fields.alike_stripped
  | _, .inclusion _ t => by
    rw [Tree.substituted, Tree.reshaped, Tree.alike_inclusion, t.alike_stripped]

theorem Record.alike_stripped : {s : Signature} → (r : Record Tree s) →
    (r.substituted (.stripping shown)).alike
      (r.reshaped (.newNames .withoutCatalog shown)) = true
  | _, .nil => rfl
  | _, .cons f r => by
    rw [Record.substituted, Record.reshaped, Record.alike_cons, f.alike_stripped,
      r.alike_stripped, Bool.and_self]

theorem Field.alike_stripped : {τ : FieldType} → (f : Field Tree τ) →
    (f.substituted (.stripping shown)).alike
      (f.reshaped (.newNames .withoutCatalog shown)) = true
  | .atom a, .atom v => by
    rw [Field.substituted, Field.reshaped, Field.alike_atom, a.alike_refl]
  | _, .child t => by
    rw [Field.substituted, Field.reshaped, Field.alike_child, t.alike_stripped]
  | _, .none => rfl
  | _, .some f => by
    rw [Field.substituted, Field.reshaped, Field.alike_some, f.alike_stripped]
  | _, .nil => rfl
  | _, .cons f fs => by
    rw [Field.substituted, Field.reshaped, Field.alike_cons, f.alike_stripped,
      fs.alike_stripped, Bool.and_self]

end

end

theorem Node.alike_stripped (n : Node) (shown : QualifiedName → QualifiedName) :
    (n.substituted (.stripping shown)).alike (n.renamed .withoutCatalog shown) = true :=
  (alike_mk _ _ _).trans n.tree.alike_stripped

/-! ## The pass -/

namespace Pass

/-- What the pass notes at a node. -/
def noteBoolean (notes : CatalogNotes) (k : Kind) : CatalogNotes :=
  if k = .booleanLiteral then { notes with hasBooleanLiterals := true } else notes

/-- At a node of any other kind the pass stops where every pass does. -/
theorem stripCatalog_of_ne {k : Kind} (ht : k ≠ .table) (hs : k ≠ .showColumns)
    (hb : k ≠ .booleanLiteral) : stripCatalog.rule k = stripCatalog.standardRule k ∧
      stripCatalog.stopsAt k = decide (k ∈ Kind.unruled) := by
  have standard : stripCatalog.rule? k = none := by
    cases k <;> first | rfl | exact absurd rfl ht | exact absurd rfl hs | exact absurd rfl hb
  rw [rule, stopsAt, standard, Option.getD_none, Option.isSome_none, Bool.false_or]
  exact ⟨rfl, rfl⟩

theorem stripCatalog_table (name : QualifiedName) (location : Location) :
    stripCatalog.rule .table ((.cons (.atom name) (.cons (.atom location) .nil) :
        Record Tree Kind.table.signature).attach stripCatalog) =
      if name.parts.length = 3 then do
        Walk.report (.strippingCatalog name)
        return Relation.table name.withoutFirst
      else
        return Relation.table name location := rfl

theorem stripCatalog_nodewise : stripCatalog.Nodewise (.stripping .withoutFirst) where
  direct := ⟨fun _ => rfl, rfl, rfl⟩
  preVisit _ := rfl
  postVisit _ := rfl
  kept k hk := by
    refine Replacement.stripping_of_ne ?_ ?_ <;> rintro rfl <;> cases hk
  rule k hk fields := by
    by_cases ht : k = .table
    · subst ht
      match fields with
      | .cons (.atom name) (.cons (.atom location) .nil) =>
        rw [stripCatalog_table, Tree.substituted_node, Replacement.put_stripping_table]
        by_cases three : name.parts.length = 3
        · rw [if_pos three, if_pos three]
          rfl
        · rw [if_neg three, if_neg three]
          rfl
    · by_cases hs : k = .showColumns
      · subst hs
        match fields with
        | .cons (.atom name) (.cons (.atom location) .nil) => rfl
      · by_cases hb : k = .booleanLiteral
        · subst hb
          match fields with
          | .cons (.atom value) (.cons (.atom location) .nil) => rfl
        · obtain ⟨standard, stops⟩ := stripCatalog_of_ne ht hs hb
          rw [stops, decide_eq_true_iff] at hk
          rw [standard, standardRule_unruled _ hk]
          rfl

/-- A rule that is met changes nothing but the notes. -/
theorem stripCatalog_rule_comesBy {k : Kind} (hk : stripCatalog.stopsAt k = true)
    (fields : Record Tree k.signature) :
    Walk.ComesBy noteBoolean
      (do let _ ← stripCatalog.rule k (fields.attach stripCatalog)) [k] () := by
  by_cases ht : k = .table
  · subst ht
    match fields with
    | .cons (.atom name) (.cons (.atom location) .nil) =>
      refine (?_ : Walk.ComesBy noteBoolean _ [] ()).past (by decide) fun _ => rfl
      rw [stripCatalog_table]
      split
      · exact .report _
      · exact .pure ()
  · by_cases hs : k = .showColumns
    · subst hs
      match fields with
      | .cons (.atom name) (.cons (.atom location) .nil) =>
        exact (Walk.ComesBy.pure ()).past (by decide) fun _ => rfl
    · by_cases hb : k = .booleanLiteral
      · subst hb
        match fields with
        | .cons (.atom value) (.cons (.atom location) .nil) =>
          exact Walk.ComesBy.update (k := .booleanLiteral) (by decide)
      · obtain ⟨standard, stops⟩ := stripCatalog_of_ne ht hs hb
        rw [stops, decide_eq_true_iff] at hk
        rw [standard, standardRule_unruled _ hk]
        exact .stop hk _ _

theorem stripCatalog_meet (x : Occurrence) :
    (stripCatalog.meet x).ComesBy noteBoolean [x.kind] () := by
  refine (Walk.ComesBy.report _).bind ?_
  cases hx : stripCatalog.stopsAt x.kind with
  | true =>
    rw [if_pos rfl]
    exact stripCatalog_rule_comesBy hx x.fields
  | false =>
    obtain ⟨-, ruled⟩ := rule_eq_standard hx
    have plain : x.kind ≠ .booleanLiteral := by
      intro hk
      rw [hk] at hx
      cases hx
    rw [if_neg (by decide)]
    exact (Walk.ComesBy.pure ()).past ruled fun _ => if_neg plain

theorem stripCatalog_visit {c : Category} (t : Tree c) :
    (t.visit stripCatalog).ComesBy noteBoolean t.kinds (t.substituted (.stripping .withoutFirst)) := by
  have met (xs : List Occurrence) :
      Walk.ComesBy noteBoolean (forM xs stripCatalog.meet) (xs.map Occurrence.kind) () := by
    induction xs with
    | nil => exact .pure ()
    | cons x xs ih =>
      rw [List.forM_cons]
      exact (stripCatalog_meet x).bind ih
  rw [t.visit_eq_forM_meet stripCatalog_nodewise, ← t.map_kind_nodes]
  exact (met t.nodes).map fun _ => t.substituted (.stripping .withoutFirst)

theorem stripCatalog_result (n : Node) (notes : CatalogNotes) :
    stripCatalog.result notes n =
      (identity.result () n).map fun _ => n.substituted (.stripping .withoutFirst) := by
  obtain ⟨events, start⟩ :=
    stripCatalog_nodewise.direct.start_of_comesBy (stripCatalog_visit n.tree) notes
  rw [result, start]
  rfl

/-- After a run there is nothing for a second one to fail on. -/
theorem stripCatalog_twice {n m : Node} {notes : CatalogNotes}
    (hm : stripCatalog.result notes n = .ok m) (again : CatalogNotes) :
    m = n.substituted (.stripping .withoutFirst) ∧ stripCatalog.result again m =
      .ok (n.substituted (.stripping (.withoutFirst ∘ .withoutFirst))) := by
  obtain ⟨ruled, rfl⟩ := ruled_of_identity_map ((stripCatalog_result n notes).symm.trans hm)
  have kinds : (n.substituted (.stripping .withoutFirst)).tree.kinds = n.tree.kinds :=
    n.tree.kinds_substituted (Replacement.stripping_relabels _)
  have rebuilt := (identity_eq_ok_iff (n.substituted (.stripping .withoutFirst)) _).2
    ⟨by rwa [kinds], rfl⟩
  refine ⟨rfl, ?_⟩
  rw [stripCatalog_result, result, rebuilt]
  exact congrArg Except.ok (n.substituted_substituted (Replacement.stripping_composes _ _))

end Pass

/-- The pass succeeds with the identity pass. But for locations, its result is the tree with every
table of exactly three parts stripped of the first, and with every name that `SHOW COLUMNS` asks
about stripped of the first part, whatever the number of its parts. So both go by the number of
parts exactly if there are three or none in all the names that are asked about, and a second run
changes nothing exactly if there is at most one. -/
theorem stripping_policy_iff (n : Node) (notes : Pass.CatalogNotes) :
    ((∃ m, Pass.stripCatalog.result notes n = .ok m) ↔
      ∃ i, Pass.identity.result () n = .ok i) ∧
    ∀ m, Pass.stripCatalog.result notes n = .ok m →
      m.alike (n.renamed .withoutCatalog .withoutFirst) = true ∧
      (m.alike (n.renamed .withoutCatalog .withoutCatalog) = true ↔
        ∀ name ∈ n.shownNames, name.parts.length = 3 ∨ name.parts = []) ∧
      ∀ again, ∃ m', Pass.stripCatalog.result again m = .ok m' ∧
        (m'.alike m = true ↔ ∀ name ∈ n.shownNames, name.parts.length ≤ 1) := by
  refine ⟨?success, fun m hm => ?stripped⟩
  case success =>
    rw [Pass.stripCatalog_result]
    cases Pass.identity.result () n with
    | error e => exact ⟨nofun, nofun⟩
    | ok i => exact ⟨fun _ => ⟨i, rfl⟩, fun _ => ⟨_, rfl⟩⟩
  case stripped =>
    obtain ⟨rfl, -⟩ := Pass.stripCatalog_twice hm notes
    have once := n.alike_stripped .withoutFirst
    have refl {i : Node} : i.alike i = true := Node.alike_equivalence.refl i
    refine ⟨once, ?policy, fun again => ⟨_, (Pass.stripCatalog_twice hm again).2, ?twice⟩⟩
    case policy =>
      rw [Node.alike_congr once refl, Node.alike_renamed_iff]
      simp only [QualifiedName.withoutFirst_eq_withoutCatalog_iff]
    case twice =>
      rw [Node.alike_congr (n.alike_stripped _) once, Node.alike_renamed_iff]
      simp only [Function.comp_apply, QualifiedName.withoutFirst_withoutFirst_eq_iff]

/-- Under `EXPLAIN`, `SHOW COLUMNS FROM c.s.t` loses the catalog as a table would. -/
theorem three_part_name_shortened :
    let explained (parts : List String) : Node :=
      ⟨Statement.explain (.showColumns ⟨parts⟩) false false [], rfl⟩
    let n := explained ["c", "s", "t"]
    Pass.stripCatalog.result {} n = .ok (explained ["s", "t"]) ∧
      (explained ["s", "t"]).alike (n.renamed .withoutCatalog .withoutCatalog) = true := by
  intro explained n
  have hm : Pass.stripCatalog.result {} n = .ok (explained ["s", "t"]) := rfl
  have three : ∀ name ∈ n.shownNames, name.parts.length = 3 ∨ name.parts = [] := by
    have listed : n.shownNames = [⟨["c", "s", "t"]⟩] := rfl
    rw [listed]
    decide
  exact ⟨hm, (((stripping_policy_iff n {}).2 _ hm).2.1).2 three⟩

/-- `SHOW COLUMNS FROM s.t` loses a part that is not a catalog, and `SHOW COLUMNS FROM c.s.t` loses
one in every run. -/
theorem two_part_name_shortened :
    let columns (parts : List String) : Node := ⟨Statement.showColumns ⟨parts⟩, rfl⟩
    Pass.stripCatalog.result {} (columns ["s", "t"]) = .ok (columns ["t"]) ∧
      (columns ["t"]).alike ((columns ["s", "t"]).renamed .withoutCatalog .withoutCatalog) =
        false ∧
      Pass.stripCatalog.result {} (columns ["c", "s", "t"]) = .ok (columns ["s", "t"]) ∧
      (columns ["t"]).alike (columns ["s", "t"]) = false :=
  ⟨rfl, by decide, rfl, by decide⟩

end SqlTrees
