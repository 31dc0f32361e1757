import SqlTrees.Proofs.Rebuild.Substitution
import SqlTrees.Proofs.Tree.Relabelled

/-! # Passes one after the other

* `Pass.result`: the tree or the failure that a pass comes to.
* `Pass.result_of_childless`: what a pass comes to that only replaces nodes without children.
* `Pass.result_substituting`: a pass that only relabels nodes fails on the first kind without a
  rule, whatever it puts on the others.
* `Pass.result_then_result`: two such passes in a row are one, where their replacements compose.
* `Replacement.mapping`: new values for the integer literals and new names for the tables, or for
  one of the two only; two in a row compose value by value and name by name.
* `mappings_fuse_and_commute`: shifting integers and renaming tables, in a row and in either order.
-/

namespace SqlTrees
set_option autoImplicit false

/-- The tree or the failure that a pass comes to from a context. -/
def Pass.result {σ ε : Type} (P : Pass σ ε) (context : σ) (n : Node) : Except ε Node :=
  ((P.rebuild n).start context).1

/-! ## Relabelling and then relabelling -/

section
variable {σ ε : Type} {unsupported : UnsupportedKind → ε}
  {new? first second whole : Replacement ε}

theorem Replacement.Relabels.failure?_eq (h : new?.Relabels) (x : Occurrence) :
    new?.failure? unsupported x =
      if x.kind ∈ Kind.unruled then some (unsupported ⟨x.kind⟩) else none := by
  cases hn : new? x.kind with
  | some f =>
    obtain ⟨others, ho⟩ := h.same _ f hn x.fields
    have hu : x.kind ∉ Kind.unruled := h.ruled _ f hn
    simp only [failure?, hn, ho, if_neg hu]
  | none => simp only [failure?, hn]

theorem Replacement.Relabels.findSome?_failure? (h : new?.Relabels) (xs : List Occurrence) :
    xs.findSome? (new?.failure? unsupported) =
      ((xs.map Occurrence.kind).find? (· ∈ Kind.unruled)).map fun k => unsupported ⟨k⟩ := by
  induction xs with
  | nil => rfl
  | cons x xs ih =>
    rw [List.findSome?_cons, h.failure?_eq, List.map_cons]
    by_cases hu : x.kind ∈ Kind.unruled
    · rw [if_pos hu, List.find?_cons_of_pos (by simpa using hu)]
      rfl
    · rw [if_neg hu, List.find?_cons_of_neg (by simpa using hu)]
      exact ih

namespace Pass

/-- Where only nodes without children are replaced, the first failure of a node is that of the pass. -/
theorem result_of_childless (h : new?.Childless) (context : σ) (n : Node) :
    (substituting unsupported new? : Pass σ ε).result context n =
      match n.tree.nodes.findSome? (new?.failure? unsupported) with
      | none => .ok (n.substituted new?)
      | some e => .error e := by
  have ends := (substituting_start unsupported h n context).2
  cases hf : n.tree.nodes.findSome? (new?.failure? unsupported) with
  | none =>
    rw [hf] at ends
    exact congrArg Prod.fst ends
  | some e =>
    rw [hf] at ends
    exact ends

theorem result_substituting (h : new?.Relabels) (context : σ) (n : Node) :
    (substituting unsupported new? : Pass σ ε).result context n =
      match n.tree.kinds.find? (· ∈ Kind.unruled) with
      | none => .ok (n.substituted new?)
      | some k => .error (unsupported ⟨k⟩) := by
  rw [result_of_childless h.childless, h.findSome?_failure?, n.tree.map_kind_nodes]
  cases n.tree.kinds.find? (· ∈ Kind.unruled) <;> rfl

theorem result_then_result (hf : first.Relabels) (hs : second.Relabels) (hw : whole.Relabels)
    (hc : first.Composes second whole) (context : σ) :
    (substituting unsupported first : Pass σ ε).result context >=>
        (substituting unsupported second : Pass σ ε).result context =
      (substituting unsupported whole : Pass σ ε).result context := by
  funext n
  change (substituting unsupported first : Pass σ ε).result context n >>= _ = _
  rw [result_substituting hf, result_substituting hw]
  cases hk : n.tree.kinds.find? (· ∈ Kind.unruled) with
  | none =>
    have kept : (n.substituted first).tree.kinds = n.tree.kinds := n.tree.kinds_substituted hf
    change (substituting unsupported second : Pass σ ε).result context (n.substituted first) = _
    rw [result_substituting hs, kept, hk, n.substituted_substituted hc]
  | some k => rfl

end Pass
end

/-! ## Mapping integers and tables -/

namespace Replacement
variable {ε : Type}

/-- New values for the integer literals and new names for the tables, each where there is a function
for them. What is replaced loses its location. -/
def mapping (values? : Option (Int64 → Int64))
    (names? : Option (QualifiedName → QualifiedName)) : Replacement ε
  | .longLiteral => values?.map fun f => .ok ∘ Pass.mappedInteger f
  | .table => names?.map fun h => .ok ∘ Pass.mappedTable h
  | _ => none

/-- One function after the other, where there are two. -/
def compose {α : Type} : Option (α → α) → Option (α → α) → Option (α → α) :=
  Option.merge fun f g => g ∘ f

variable {values? values'? : Option (Int64 → Int64)}
  {names? names'? : Option (QualifiedName → QualifiedName)}

theorem mapping_of_ne {k : Kind} (hl : k ≠ .longLiteral) (ht : k ≠ .table) :
    (mapping values? names? : Replacement ε) k = none := by
  cases k <;> first | rfl | exact absurd rfl hl | exact absurd rfl ht

theorem mapping_relabels : (mapping values? names? : Replacement ε).Relabels := by
  have each : ∀ k f, (mapping values? names? : Replacement ε) k = some f →
      Signature.childless k.signature = true ∧ k ∉ Kind.unruled ∧
        ∀ fields, ∃ others, f fields = .ok (.ofFields k others) := by
    intro k f hk
    by_cases hl : k = .longLiteral
    · subst hl
      obtain ⟨g, -, rfl⟩ := Option.map_eq_some_iff.mp hk
      refine ⟨rfl, by decide, ?_⟩
      intro fields
      match fields with
      | .cons (.atom _) _ => exact ⟨_, rfl⟩
    · by_cases ht : k = .table
      · subst ht
        obtain ⟨g, -, rfl⟩ := Option.map_eq_some_iff.mp hk
        refine ⟨rfl, by decide, ?_⟩
        intro fields
        match fields with
        | .cons (.atom _) _ => exact ⟨_, rfl⟩
      · rw [mapping_of_ne hl ht] at hk
        cases hk
  exact ⟨fun k f hk => (each k f hk).1, fun k f hk => (each k f hk).2.1,
    fun k f hk => (each k f hk).2.2⟩

/-- A literal or a table that only one of the two replaces has no location left after either. -/
theorem mapping_composes :
    (mapping values? names? : Replacement ε).Composes (mapping values'? names'?)
      (mapping (compose values? values'?) (compose names? names'?)) := by
  intro k fields
  by_cases hl : k = .longLiteral
  · subst hl
    match fields with
    | .cons (.atom _) (.cons (.atom _) .nil) => cases values? <;> cases values'? <;> rfl
  · by_cases ht : k = .table
    · subst ht
      match fields with
      | .cons (.atom _) (.cons (.atom _) .nil) => cases names? <;> cases names'? <;> rfl
    · exact composes_of_none (mapping_of_ne hl ht) (mapping_of_ne hl ht) (mapping_of_ne hl ht) _ _

theorem only_eq_mapping_integers (f : Int64 → Int64) :
    only .longLiteral (.ok ∘ Pass.mappedInteger f) =
      (mapping (some f) none : Replacement ε) := by
  funext k
  by_cases hl : k = .longLiteral
  · subst hl
    rw [only_self]
    rfl
  · rw [only_of_ne hl]
    by_cases ht : k = .table
    · subst ht
      rfl
    · rw [mapping_of_ne hl ht]

theorem only_eq_mapping_tables (h : QualifiedName → QualifiedName) :
    only .table (.ok ∘ Pass.mappedTable h) = (mapping none (some h) : Replacement ε) := by
  funext k
  by_cases ht : k = .table
  · subst ht
    rw [only_self]
    rfl
  · rw [only_of_ne ht]
    by_cases hl : k = .longLiteral
    · subst hl
      rfl
    · rw [mapping_of_ne hl ht]

end Replacement

/-! ## Rebuilding twice -/

namespace Pass

theorem mapIntegers_eq_mapping (f : Int64 → Int64) :
    mapIntegers f = substituting id (.mapping (some f) none) := by
  rw [mapIntegers_eq_substituting, Replacement.only_eq_mapping_integers]

theorem mapTables_eq_mapping (h : QualifiedName → QualifiedName) :
    mapTables h = substituting id (.mapping none (some h)) := by
  rw [mapTables_eq_substituting, Replacement.only_eq_mapping_tables]

theorem mapping_then_mapping (values? values'? : Option (Int64 → Int64))
    (names? names'? : Option (QualifiedName → QualifiedName)) :
    (substituting id (.mapping values? names?)).result () >=>
        (substituting id (.mapping values'? names'?)).result () =
      (substituting id (.mapping (Replacement.compose values? values'?)
        (Replacement.compose names? names'?))).result () :=
  result_then_result Replacement.mapping_relabels Replacement.mapping_relabels
    Replacement.mapping_relabels Replacement.mapping_composes ()

theorem mapIntegers_then_mapIntegers (f g : Int64 → Int64) :
    (mapIntegers f).result () >=> (mapIntegers g).result () = (mapIntegers (g ∘ f)).result () := by
  simp only [mapIntegers_eq_mapping]
  exact mapping_then_mapping (some f) (some g) none none

theorem mapTables_then_mapTables (h k : QualifiedName → QualifiedName) :
    (mapTables h).result () >=> (mapTables k).result () = (mapTables (k ∘ h)).result () := by
  simp only [mapTables_eq_mapping]
  exact mapping_then_mapping none none (some h) (some k)

theorem mapIntegers_comm_mapTables (f : Int64 → Int64) (h : QualifiedName → QualifiedName) :
    (mapIntegers f).result () >=> (mapTables h).result () =
      (mapTables h).result () >=> (mapIntegers f).result () := by
  rw [mapIntegers_eq_mapping, mapTables_eq_mapping]
  calc _ = (substituting id (.mapping (some f) (some h))).result () :=
        mapping_then_mapping (some f) none none (some h)
    _ = _ := (mapping_then_mapping none (some f) (some h) none).symm

theorem shiftIntegers_then_shiftIntegers (a b : Int64) :
    (shiftIntegers a).result () >=> (shiftIntegers b).result () =
      (shiftIntegers (a + b)).result () := by
  have sum : ((· + b) ∘ (· + a) : Int64 → Int64) = (· + (a + b)) := by
    funext v
    exact Int64.add_assoc v a b
  rw [shiftIntegers, shiftIntegers, mapIntegers_then_mapIntegers, sum, shiftIntegers]

/-- Two passes on the integer literals in a row come to what one pass with both functions comes to,
the failure included, and so do two passes on the tables. A pass on the literals and one on the
tables may change places. So mapping is idempotent where its function is, and shifts add up; sums
wrap around, and none of them has to stay in range. -/
theorem mappings_fuse_and_commute :
    (∀ f g : Int64 → Int64,
      (mapIntegers f).result () >=> (mapIntegers g).result () = (mapIntegers (g ∘ f)).result ()) ∧
    (∀ h k : QualifiedName → QualifiedName,
      (mapTables h).result () >=> (mapTables k).result () = (mapTables (k ∘ h)).result ()) ∧
    (∀ f h, (mapIntegers f).result () >=> (mapTables h).result () =
      (mapTables h).result () >=> (mapIntegers f).result ()) ∧
    (∀ f, f ∘ f = f →
      (mapIntegers f).result () >=> (mapIntegers f).result () = (mapIntegers f).result ()) ∧
    (∀ h, h ∘ h = h →
      (mapTables h).result () >=> (mapTables h).result () = (mapTables h).result ()) ∧
    ∀ a b, (shiftIntegers a).result () >=> (shiftIntegers b).result () =
      (shiftIntegers (a + b)).result () := by
  refine ⟨mapIntegers_then_mapIntegers, mapTables_then_mapTables, mapIntegers_comm_mapTables,
    ?_, ?_, shiftIntegers_then_shiftIntegers⟩
  · intro f hf
    rw [mapIntegers_then_mapIntegers, hf]
  · intro h hh
    rw [mapTables_then_mapTables, hh]

/-- In `c.t TABLESAMPLE SYSTEM (5)`, all literals are masked by zero and all qualifiers dropped,
each twice. The second run of the renaming still finds the literal where it was parsed. -/
theorem sample_masked_twice :
    let mask : Int64 → Int64 := fun _ => 0
    let bare : QualifiedName → QualifiedName := fun name => ⟨[name.suffix]⟩
    let sample (table : List String) (percentage : Expression) : Node :=
      ⟨Relation.sampled (.table ⟨table⟩) .system percentage, rfl⟩
    let parsed := sample ["c", "t"] (.longLiteral 5 (some ⟨1, 24⟩))
    mask ∘ mask = mask ∧ bare ∘ bare = bare ∧
      ((mapIntegers mask).result () >=> (mapIntegers mask).result ()) parsed =
        .ok (sample ["c", "t"] (.longLiteral 0)) ∧
      ((mapTables bare).result () >=> (mapTables bare).result ()) parsed =
        .ok (sample ["t"] (.longLiteral 5 (some ⟨1, 24⟩))) := by
  intro mask bare sample parsed
  have hm : mask ∘ mask = mask := rfl
  have hb : bare ∘ bare = bare := rfl
  obtain ⟨-, -, -, integers, tables, -⟩ := mappings_fuse_and_commute
  refine ⟨hm, hb, ?_, ?_⟩
  · rw [integers mask hm]
    rfl
  · rw [tables bare hb]
    rfl

end Pass
end SqlTrees
