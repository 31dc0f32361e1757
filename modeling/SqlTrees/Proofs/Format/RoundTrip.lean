import SqlTrees.Proofs.Format.Doubles

/-! # Written trees are read back

* `Kind.field_wrap`: a node is read back as the record of its fields is, whatever its layout.
* `Tree.field_toJson`, `Record.members_toMembers`, `Field.field_toJson`: what is finite is read back
  as it was, anything else is not read back at all.
* `Tree.ofJson?_toJson`, `Node.ofJson?_toJson`: the same of whole documents.
-/

namespace SqlTrees
set_option autoImplicit false
open Reading

/-! ## What is never written as null -/

theorem Atom.encode_ne_null {a : Atom} (solid : (FieldType.atom a).solid = true) (v : a.Carrier) :
    a.encode v ≠ .null := by
  cases a with
  | location => cases solid
  | double => cases solid
  | _ =>
    intro h
    cases h

theorem Layout.wrap_ne_null (l : Layout) (members : List (String × Json)) :
    l.wrap members ≠ .null := by
  unfold wrap
  split <;> intro h <;> cases h

theorem Tree.toJson_ne_null {c : Category} (t : Tree c) : t.toJson ≠ .null := by
  cases t with
  | node k _ fields => exact k.layout.wrap_ne_null _
  | inclusion i t =>
    rw [toJson]
    intro h
    cases h

theorem Field.toJson_ne_null {τ : FieldType} (solid : τ.solid = true) (f : Field Tree τ) :
    f.toJson ≠ .null := by
  cases f with
  | atom v => exact Atom.encode_ne_null solid v
  | child t => exact t.toJson_ne_null
  | none => cases solid
  | some f => cases solid
  | nil =>
    rw [toJson]
    intro h
    cases h
  | cons f fs =>
    rw [toJson]
    intro h
    cases h

/-! ## Readings of a value -/

theorem Json.field_atom (j : Json) (a : Atom) :
    j.reading.field (.atom a) = (a.decode j).map .atom := by
  cases j <;> rfl

theorem Json.field_option {j : Json} (present : j ≠ .null) (τ : FieldType) :
    j.reading.field (.option τ) = (j.reading.field τ).map .some := by
  cases j with
  | null => exact absurd rfl present
  | _ => rfl

theorem Json.field_list (items : List Json) (τ : FieldType) :
    (Json.arr items).reading.field (.list τ) = listOfItems τ (readings items) := rfl

/-- An object with one member is read as the tree that the member's name is a tag of. -/
theorem Json.field_obj_singleton {c : Category} (tagged : c.bareKind? = none) (tag : String)
    (j : Json) :
    (Json.obj [(tag, j)]).reading.field (.child c) = (j.reading.tagged c tag).map .child := by
  simp only [Json.reading, memberReadings, ofObject, fieldOf, tagged]

/-! ## Records -/

theorem Reading.recordOfMembers_eq (parts : List (String × Reading)) (name : String)
    (τ : FieldType) (s : Signature) :
    recordOfMembers parts ((name, τ) :: s) =
      (match parts.lookup name with
        | some r => r.field τ
        | none => τ.absent?).bind fun f => (recordOfMembers parts s).map (.cons f) := by
  rw [recordOfMembers]
  simp only [Option.bind_eq_bind, Option.pure_def, Option.map_eq_bind, Function.comp_def]
  cases parts.lookup name <;> rfl

/-- A member is passed over by every field of another name. -/
theorem Reading.recordOfMembers_of_fresh {name : String} (r : Reading)
    (parts : List (String × Reading)) : {s : Signature} → name ∉ s.map Prod.fst →
    recordOfMembers ((name, r) :: parts) s = recordOfMembers parts s
  | [], _ => rfl
  | (other, τ) :: s, fresh => by
    have different := List.ne_of_not_mem_cons fresh
    have later := List.not_mem_of_not_mem_cons fresh
    rw [recordOfMembers_eq, recordOfMembers_eq, recordOfMembers_of_fresh r parts later,
      List.lookup_cons, beq_false_of_ne different.symm]

theorem Reading.recordOfMembers_cons {name : String} {s : Signature} (fresh : name ∉ s.map Prod.fst)
    (τ : FieldType) (r : Reading) (parts : List (String × Reading)) :
    recordOfMembers ((name, r) :: parts) ((name, τ) :: s) =
      (r.field τ).bind fun f => (recordOfMembers parts s).map (.cons f) := by
  rw [recordOfMembers_eq, List.lookup_cons_self, recordOfMembers_of_fresh r parts fresh]

/-! ## Nodes -/

theorem Reading.node?_self (r : Reading) (k : Kind) :
    r.node? k.category k = (r.content k.layout k.signature).map (.node k rfl) := dif_pos rfl

theorem Reading.tagged_kind {k : Kind} {tag : String} (h : k.layout.tag? = some tag) (r : Reading) :
    r.tagged k.category tag = (r.content k.layout k.signature).map (.node k rfl) := by
  obtain ⟨-, notIncluded, found⟩ := Kind.search_of_tag h
  rw [tagged, notIncluded, found, Option.bind_some, node?_self]

/-- An object over the fields of a bare node is read as those fields. -/
theorem Json.field_bare {k : Kind} (h : k.layout = .bare) (members : List (String × Json)) :
    (Json.obj members).reading.field (.child k.category) =
      (recordOfMembers (memberReadings members) k.signature).map (.child <| .node k rfl ·) := by
  simp only [Json.reading, ofObject, fieldOf, Kind.bareKind?_of_bare h, dite_true, Option.map_map,
    Function.comp_def]

/-- Under a tag stands what the fields of the node are read from. -/
theorem Layout.content_wrap {l : Layout} {tag : String} (h : l = .tagged tag ∨ l = .payload tag)
    {s : Signature} (fits : l.fits s = true) (r : Record Tree s) :
    ∃ j, l.wrap r.toMembers = .obj [(tag, j)] ∧
      j.reading.content l s = recordOfMembers (memberReadings r.toMembers) s := by
  rcases h with rfl | rfl
  · exact ⟨.obj r.toMembers, rfl, rfl⟩
  · match r, fits with
    | .cons f .nil, _ =>
      refine ⟨f.toJson, rfl, ?_⟩
      rw [Record.toMembers, memberReadings, recordOfMembers_cons List.not_mem_nil, content,
        Option.map_eq_bind]
      rfl

/-- A word stands for no fields. -/
theorem Layout.content_unit {l : Layout} {tag : String} (h : l = .unit tag) {s : Signature}
    (fits : l.fits s = true) (r : Record Tree s) :
    l.wrap r.toMembers = .str tag ∧
      nothing.content l s = recordOfMembers (memberReadings r.toMembers) s := by
  subst h
  match r, fits with
  | .nil, _ => exact ⟨rfl, rfl⟩

theorem Reading.wordTree_kind {k : Kind} {tag : String} (h : k.layout = .unit tag) :
    wordTree k.category tag = (nothing.content k.layout k.signature).map (.node k rfl) := by
  have tag? : k.layout.tag? = some tag := by rw [h, Layout.tag?]
  obtain ⟨-, -, found⟩ := Kind.search_of_tag tag?
  rw [wordTree, found, ← node?_self]
  simp only [Option.bind_eq_bind, Option.bind_some, h]

namespace Kind

theorem field_under_tag {k : Kind} {tag : String}
    (h : k.layout = .tagged tag ∨ k.layout = .payload tag) (fields : Record Tree k.signature) :
    (k.layout.wrap fields.toMembers).reading.field (.child k.category) =
      (recordOfMembers (memberReadings fields.toMembers) k.signature).map
        (.child <| .node k rfl ·) := by
  have tag? : k.layout.tag? = some tag := by
    rcases h with h | h <;> rw [h, Layout.tag?]
  obtain ⟨j, written, content⟩ := Layout.content_wrap h k.fits_signature fields
  rw [written, Json.field_obj_singleton (search_of_tag tag?).1, tagged_kind tag?, content,
    Option.map_map]
  rfl

theorem field_word {k : Kind} {tag : String} (h : k.layout = .unit tag)
    (fields : Record Tree k.signature) :
    (k.layout.wrap fields.toMembers).reading.field (.child k.category) =
      (recordOfMembers (memberReadings fields.toMembers) k.signature).map
        (.child <| .node k rfl ·) := by
  obtain ⟨written, content⟩ := Layout.content_unit h k.fits_signature fields
  rw [written]
  change (wordTree k.category tag).map Field.child = _
  rw [wordTree_kind h, content, Option.map_map]
  rfl

/-- A node is read back as its fields are, whatever the layout. -/
theorem field_wrap (k : Kind) (fields : Record Tree k.signature) :
    (k.layout.wrap fields.toMembers).reading.field (.child k.category) =
      (recordOfMembers (memberReadings fields.toMembers) k.signature).map
        (.child <| .node k rfl ·) := by
  match h : k.layout with
  | .bare => exact Json.field_bare h fields.toMembers
  | .tagged tag => exact h ▸ field_under_tag (.inl h) fields
  | .payload tag => exact h ▸ field_under_tag (.inr h) fields
  | .unit tag => exact h ▸ field_word h fields

end Kind

theorem Inclusion.field_tag {a b : Category} (i : Inclusion a b) (j : Json) :
    (Json.obj [(i.tag, j)]).reading.field (.child b) =
      (j.reading.field (.child a)).map fun f => .child (.inclusion i f.subject) := by
  obtain ⟨tagged, found⟩ := i.search
  rw [Json.field_obj_singleton tagged, Reading.tagged, found]
  dsimp only
  match j.reading.field (.child a) with
  | some (.child t) => rfl
  | none => rfl

/-! ## Trees -/

mutual

theorem Tree.field_toJson : {c : Category} → (t : Tree c) →
    t.toJson.reading.field (.child c) = if t.finite then some (.child t) else none
  | _, .node k rfl fields => by
    rw [Tree.toJson, k.field_wrap, fields.members_toMembers k.legible_signature, Tree.finite_node]
    cases fields.finite <;> rfl
  | _, .inclusion i t => by
    rw [Tree.toJson, i.field_tag, t.field_toJson, Tree.finite_inclusion]
    cases t.finite <;> rfl

theorem Record.members_toMembers : {s : Signature} → (r : Record Tree s) →
    Signature.legible s = true →
    recordOfMembers (memberReadings r.toMembers) s = if r.finite then some r else none
  | _, .nil, _ => rfl
  | _, .cons f r, legible => by
    obtain ⟨legibleFirst, fresh, legibleRest⟩ := Signature.legible_cons legible
    rw [Record.toMembers, memberReadings, recordOfMembers_cons fresh, f.field_toJson legibleFirst,
      r.members_toMembers legibleRest, Record.finite_cons]
    cases f.finite <;> cases r.finite <;> rfl

theorem Field.field_toJson : {τ : FieldType} → (f : Field Tree τ) → τ.legible = true →
    f.toJson.reading.field τ = if f.finite then some f else none
  | .atom a, .atom v, _ => by
    rw [Field.toJson, Json.field_atom, a.decode_encode, Field.finite_atom]
    cases a.finite v <;> rfl
  | _, .child t, _ => by
    rw [Field.toJson, t.field_toJson, Field.finite_child]
  | _, .none, _ => rfl
  | .option τ, .some f, legible => by
    obtain ⟨solid, legibleContent⟩ := Bool.and_eq_true_iff.1 legible
    rw [Field.toJson, Json.field_option (f.toJson_ne_null solid), f.field_toJson legibleContent,
      Field.finite_some]
    cases f.finite <;> rfl
  | _, .nil, _ => rfl
  | .list τ, .cons f fs, legible => by
    have tail := fs.field_toJson legible
    rw [fs.toJson_list, Json.field_list] at tail
    rw [Field.toJson, Json.field_list, readings, listOfItems, f.field_toJson legible, tail,
      Field.finite_cons]
    cases f.finite <;> cases fs.finite <;> rfl

end

theorem Tree.ofJson?_toJson {c : Category} (t : Tree c) :
    ofJson? c t.toJson = if t.finite then some t else none := by
  rw [ofJson?, t.field_toJson]
  cases t.finite <;> rfl

theorem Node.ofJson?_toJson (n : Node) :
    ofJson? n.toJson = if n.finite then some n else none := by
  change (do
    let c ← Tagged.ofTag? Category (Tagged.tag n.category)
    if h : c.isFamily then (Tree.ofJson? c n.tree.toJson).map (⟨·, h⟩ : Tree c → Node)
    else none) = _
  rw [Tagged.ofTag?_tag, n.finite_eq]
  change dite _ _ _ = _
  rw [dif_pos n.isFamily, n.tree.ofJson?_toJson]
  cases n.tree.finite <;> rfl

end SqlTrees
