import Mathlib.Data.List.Nodup
import SqlTrees.Proofs.Format.RoundTrip
import SqlTrees.Proofs.Grammar.Marks
import SqlTrees.Proofs.Rebuild.Accounting
import SqlTrees.Tree.Clause
import SqlTrees.Tree.Expression

/-! # Two counts of the nodes of a tree

* `Tree.nodeCount_toJson`: the count on the written tree finds every node once, but for a join
  criteria at the root.
* `Counts.total_add`: the total of a tally grows by one with each node.
* `visits_agree_with_written_count`: the two counts agree, before and after rebuilding.
-/

namespace SqlTrees
set_option autoImplicit false

/-! ## Join criteria below a node -/

/-- How many join criteria stand in a field. -/
def Field.criteria : {τ : FieldType} → Field Tree τ → Nat
  | _, .atom _ => 0
  | .child c, .child _ => if c = .joinCriteria then 1 else 0
  | _, .none => 0
  | _, .some f => f.criteria
  | _, .nil => 0
  | _, .cons f fs => f.criteria + fs.criteria

/-- How many join criteria stand in the fields of a node. -/
def Record.criteria : {s : Signature} → Record Tree s → Nat
  | _, .nil => 0
  | _, .cons f r => f.criteria + r.criteria

theorem Field.criteria_of_free : {τ : FieldType} → (f : Field Tree τ) →
    τ.criteriaFree = true → f.criteria = 0
  | _, .atom _, _ => rfl
  | .child _, .child _, h => if_neg (of_decide_eq_true h)
  | _, .none, _ => rfl
  | _, .some f, h => f.criteria_of_free h
  | _, .nil, _ => rfl
  | _, .cons f fs, h => by rw [criteria, f.criteria_of_free h, fs.criteria_of_free h]

theorem Record.criteria_of_free : {s : Signature} → (r : Record Tree s) →
    (s.all fun field => field.2.criteriaFree) = true → r.criteria = 0
  | _, .nil, _ => rfl
  | _, .cons f r, h => by
    rw [List.all_cons, Bool.and_eq_true] at h
    rw [criteria, f.criteria_of_free h.1, r.criteria_of_free h.2]

theorem Record.criteria_of_not_mem : {s : Signature} → (r : Record Tree s) →
    Signature.marksCriteria s = true → "criteria" ∉ s.map Prod.fst → r.criteria = 0
  | _, .nil, _, _ => rfl
  | _, .cons f r, h, absent => by
    obtain ⟨first, later⟩ := Signature.marksCriteria_cons h
    rw [if_neg (List.ne_of_not_mem_cons absent).symm] at first
    rw [criteria, f.criteria_of_free first,
      r.criteria_of_not_mem later (List.not_mem_of_not_mem_cons absent)]

theorem hasContent_cons_of_ne {name other : String} (h : name ≠ other) (j : Json)
    (members : List (String × Json)) :
    hasContent name ((other, j) :: members) = hasContent name members := by
  rw [hasContent, hasContent, List.lookup_cons, beq_false_of_ne h]

theorem hasContent_cons_self (name : String) (j : Json) (members : List (String × Json)) :
    hasContent name ((name, j) :: members) = true ↔ j ≠ .null := by
  rw [hasContent, List.lookup_cons_self]
  cases j <;> simp

/-- The criteria of a join are not null, and no other node has any. -/
theorem Record.criteria_eq : {s : Signature} → (r : Record Tree s) →
    Signature.marksCriteria s = true → Signature.legible s = true →
    r.criteria = if hasContent "criteria" r.toMembers then 1 else 0
  | _, .nil, _, _ => rfl
  | (name, τ) :: s, .cons f r, h, legible => by
    obtain ⟨first, later⟩ := Signature.marksCriteria_cons h
    obtain ⟨-, fresh, legibleRest⟩ := Signature.legible_cons legible
    rw [criteria, toMembers]
    by_cases hn : name = "criteria"
    · subst hn
      rw [if_pos rfl] at first
      subst first
      rw [r.criteria_of_not_mem later fresh]
      cases f with
      | none => rfl
      | some f =>
        cases f with
        | child t =>
          have present := (hasContent_cons_self "criteria" t.toJson r.toMembers).2 t.toJson_ne_null
          rw [Field.toJson, Field.toJson, if_pos present]
          rfl
    · rw [if_neg hn] at first
      rw [f.criteria_of_free first, hasContent_cons_of_ne (Ne.symm hn),
        r.criteria_eq later legibleRest, Nat.zero_add]

/-! ## Counting in a written tree -/

theorem Json.nodeCount_singleton {tag : String} (h : tag ∉ marks) (j : Json) :
    (Json.obj [(tag, j)]).nodeCount = j.nodeCount := by
  have location : "location" ≠ tag := by
    rintro rfl
    exact h (by decide)
  have criteria : "criteria" ≠ tag := by
    rintro rfl
    exact h (by decide)
  rw [nodeCount, hasContent_cons_of_ne criteria, List.lookup_cons, beq_false_of_ne location]
  simp [nodeCountOfMembers, hasContent]

theorem nodeCountOfItems_map_str (ss : List String) : nodeCountOfItems (ss.map .str) = 0 := by
  induction ss with
  | nil => rfl
  | cons s ss ih =>
    rw [List.map_cons, nodeCountOfItems, ih]
    rfl

/-- There are no nodes in an atom. -/
theorem Atom.nodeCount_encode (a : Atom) (v : a.Carrier) : (a.encode v).nodeCount = 0 := by
  cases a with
  | double =>
    rw [encode]
    rcases Double.toJson_cases v with h | h <;> rw [h] <;> rfl
  | name =>
    change (Json.obj [("parts", .arr (v.parts.map .str))]).nodeCount = 0
    rw [Json.nodeCount_singleton (by decide), Json.nodeCount, nodeCountOfItems_map_str]
  | location =>
    cases v with
    | none => rfl
    | some p => rfl
  | _ => rfl

theorem Layout.nodeCount_wrap_of_named {l : Layout} (named : l.named = true)
    (unmarked : ∀ tag, l.tag? = some tag → tag ∉ marks) (members : List (String × Json)) :
    (l.wrap members).nodeCount = (Json.obj members).nodeCount := by
  match l, named with
  | .bare, _ => rfl
  | .tagged tag, _ => exact Json.nodeCount_singleton (unmarked tag rfl) _

theorem Layout.nodeCount_wrap_of_unnamed {l : Layout} {s : Signature} (unnamed : l.named = false)
    (fits : l.fits s = true) (unmarked : ∀ tag, l.tag? = some tag → tag ∉ marks)
    (r : Record Tree s) : (l.wrap r.toMembers).nodeCount = nodeCountOfMembers r.toMembers := by
  match l, r, fits with
  | .payload tag, .cons f .nil, _ =>
    rw [Record.toMembers, Record.toMembers, wrap, Json.nodeCount_singleton (unmarked tag rfl)]
    rfl
  | .unit _, .nil, _ => rfl

theorem Record.location_mem {s : Signature} (r : Record Tree s)
    (h : "location" ∈ s.map Prod.fst) : (r.toMembers.lookup "location").isSome = true := by
  rw [← r.map_fst_toMembers] at h
  obtain ⟨member, hm, hn⟩ := List.mem_map.1 h
  exact List.lookup_isSome_iff.2 ⟨member, hm, beq_iff_eq.2 hn.symm⟩

/-- A node is counted where its fields are, unless it is a join criteria; with it are counted the
join criteria among its children. -/
theorem Kind.nodeCount_wrap (k : Kind) (fields : Record Tree k.signature) :
    (k.layout.wrap fields.toMembers).nodeCount + (if k.category = .joinCriteria then 1 else 0) =
      nodeCountOfMembers fields.toMembers + fields.criteria + 1 := by
  have unmarked (tag : String) : k.layout.tag? = some tag → tag ∉ marks := tag_unmarked
  have named := k.named_layout
  by_cases h : k.category = .joinCriteria
  · have unnamed : k.layout.named = false := by simpa [h] using named
    rw [if_pos h, Layout.nodeCount_wrap_of_unnamed unnamed k.fits_signature unmarked,
      fields.criteria_of_free (criteriaFree_signature h)]
  · have named : k.layout.named = true := by simpa [h] using named
    rw [if_neg h, Layout.nodeCount_wrap_of_named named unmarked, Json.nodeCount,
      fields.location_mem (k.location_mem h), if_pos rfl,
      ← fields.criteria_eq k.marksCriteria_signature k.legible_signature]
    omega

/-! ## Counting in a whole tree -/

mutual

/-- Counting in the written tree finds every node, but for join criteria that nothing encloses. -/
theorem Tree.nodeCount_toJson : {c : Category} → (t : Tree c) →
    t.toJson.nodeCount + (if c = .joinCriteria then 1 else 0) = t.kinds.length
  | _, .node k rfl fields => by
    have ih := fields.nodeCount_toMembers
    rw [Tree.toJson, k.nodeCount_wrap, ih, Tree.kinds, List.length_cons]
  | _, .inclusion i t => by
    have ih := t.nodeCount_toJson
    rw [Tree.toJson, Json.nodeCount_singleton i.tag_unmarked, Tree.kinds, ← ih]
    cases i <;> rfl

theorem Record.nodeCount_toMembers : {s : Signature} → (r : Record Tree s) →
    nodeCountOfMembers r.toMembers + r.criteria = r.kinds.length
  | _, .nil => rfl
  | _, .cons f r => by
    have ihf := f.nodeCount_toJson
    have ih := r.nodeCount_toMembers
    rw [Record.toMembers, nodeCountOfMembers, Record.criteria, Record.kinds, List.length_append]
    omega

theorem Field.nodeCount_toJson : {τ : FieldType} → (f : Field Tree τ) →
    f.toJson.nodeCount + f.criteria = f.kinds.length
  | .atom a, .atom v => a.nodeCount_encode v
  | _, .child t => t.nodeCount_toJson
  | _, .none => rfl
  | _, .some f => f.nodeCount_toJson
  | _, .nil => rfl
  | _, .cons f fs => by
    have ihf := f.nodeCount_toJson
    have ih := fs.nodeCount_toJson
    rw [fs.toJson_list, Json.nodeCount] at ih
    rw [Field.toJson, Json.nodeCount, nodeCountOfItems, Field.criteria, Field.kinds,
      List.length_append]
    omega

end

theorem Node.category_cleared (n : Node) : n.cleared.category = n.category := rfl

theorem Node.writtenCount_eq (n : Node) :
    n.writtenCount + (if n.category = .joinCriteria then 1 else 0) = n.tree.kinds.length := by
  rw [writtenCount, toJson, Json.nodeCount_singleton n.category.name_unmarked,
    n.tree.nodeCount_toJson]

/-! ## Totals -/

theorem Kind.nodup_all : all.Nodup := by
  decide +kernel

namespace Counts

theorem total_bump (c : Counts) (k : Kind) : (c.bump k).total = c.total + 1 := by
  have counted (ks : List Kind) : ks.foldr (fun l n => c.bump k l + n) 0 =
      ks.foldr (fun l n => c l + n) 0 + ks.count k := by
    induction ks with
    | nil => rfl
    | cons l ks ih =>
      rw [List.foldr_cons, List.foldr_cons, ih, List.count_cons, bump]
      by_cases h : l = k <;> simp [h] <;> omega
  have once : Kind.all.count k = 1 := List.count_eq_one_of_mem Kind.nodup_all k.mem_all
  rw [total, counted, once]
  rfl

theorem total_add (c : Counts) (ks : List Kind) : (c.add ks).total = c.total + ks.length := by
  induction ks generalizing c with
  | nil =>
    have h : c.add [] = c := by
      funext k
      simp [add]
    rw [h, List.length_nil, Nat.add_zero]
  | cons k ks ih =>
    have h : c.add (k :: ks) = (c.bump k).add ks := by
      rw [bump_eq_add, ← add_append, List.singleton_append]
    rw [h, ih, total_bump, List.length_cons]
    omega

end Counts

/-! ## The two counts -/

/-- A count of visits that starts from nothing comes to the number of nodes, unless one has no
rule. -/
theorem Pass.visitCounter_total (n : Node) :
    let run := (visitCounter.rebuild n).start {}
    match n.tree.blocked? with
    | none => run.1 = .ok n.cleared ∧ run.2.context.total = n.tree.kinds.length
    | some b => run.1 = .error ⟨b.kind⟩ := by
  have hrun := visitCounter_start n {}
  cases hb : n.tree.blocked? with
  | none =>
    rw [hb] at hrun
    obtain ⟨hm, hp⟩ := hrun
    refine ⟨hm, ?_⟩
    have nothing : Counts.total (fun _ => 0) = 0 := by decide
    rw [hp, Tally.total, Tally.after, Counts.total_add, nothing, Nat.zero_add]
  | some b =>
    rw [hb] at hrun
    exact hrun.1

/-- Where a count of visits succeeds, it agrees with the count on the written tree; join criteria
that stand alone are not found there, since nothing marks them. Both counts are the same for the
rebuilt tree. -/
theorem visits_agree_with_written_count (n m : Node) (p : Progress Tally)
    (h : (Pass.visitCounter.rebuild n).start {} = (.ok m, p)) :
    p.context.total = n.writtenCount + (if n.category = .joinCriteria then 1 else 0) ∧
    m.writtenCount = n.writtenCount ∧
    ∃ l q, (Pass.visitCounter.rebuild m).start {} = (.ok l, q) ∧
      q.context.total = p.context.total := by
  have first := Pass.visitCounter_total n
  rw [h] at first
  cases hb : n.tree.blocked? with
  | none =>
    rw [hb] at first
    obtain ⟨hm, total⟩ := first
    obtain rfl : m = n.cleared := Except.ok.inj hm
    simp only at total
    have kinds : n.cleared.tree.kinds = n.tree.kinds := n.tree.kinds_cleared
    have unblocked : n.cleared.tree.blocked? = none := n.tree.blocked?_cleared hb
    have second := Pass.visitCounter_total n.cleared
    rw [unblocked, kinds] at second
    have written := n.writtenCount_eq
    have rewritten := n.cleared.writtenCount_eq
    rw [kinds, n.category_cleared] at rewritten
    refine ⟨by omega, by omega, _, _, Prod.ext second.1 rfl, ?_⟩
    rw [second.2, total]
  | some b =>
    rw [hb] at first
    cases first

/-- A condition of a join that stands alone: of its four nodes three are found where it is
written. -/
theorem visits_of_lone_condition :
    let n : Node := ⟨JoinCriteria.onCondition
      (.comparison .equal (.identifier "a") (.identifier "b")), rfl⟩
    let run := (Pass.visitCounter.rebuild n).start {}
    run.1 = .ok n.cleared ∧ run.2.context.total = n.writtenCount + 1 ∧ n.writtenCount = 3 := by
  intro n run
  have h : (Pass.visitCounter.rebuild n).start {} = (.ok n.cleared, run.2) := rfl
  exact ⟨rfl, (visits_agree_with_written_count n n.cleared run.2 h).1, rfl⟩

end SqlTrees
