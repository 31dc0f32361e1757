import Mathlib.Data.List.Nodup
import Mathlib.Logic.Relation
import SqlTrees.Proofs.Format.Faithful
import SqlTrees.Proofs.Format.Respelled
import SqlTrees.Tree.Clause

/-! # Every spelling of a tree is read as that tree

* `Rearranged.lookup_eq`, `Atom.Respelled.decode_eq`: no rearrangement is seen by a look-up of a
  field, and no other spelling by the reader of an atom.
* `recordOfMembers_congr_at`, `Lists.recordOfItems_eq`, `recordOfItems_congr`: what the record of a
  node is read as depends on its fields only, by name or by position.
* `FieldType.Respelled.field_eq`: one change does not alter what a field is read as.
* `every_spelling_is_read`: neither does any number of changes to a written tree.
-/

namespace SqlTrees
set_option autoImplicit false
open Reading

/-! ## Looking up members -/

theorem lookup_eq_some_iff_mem {members : List (String × Json)}
    (distinct : (members.map Prod.fst).Nodup) (name : String) (j : Json) :
    members.lookup name = some j ↔ (name, j) ∈ members := by
  induction members with
  | nil => simp
  | cons member members ih =>
    obtain ⟨other, i⟩ := member
    rw [List.map_cons, List.nodup_cons] at distinct
    rw [List.lookup_cons, List.mem_cons, Prod.mk.injEq]
    by_cases h : name = other
    · subst h
      have absent : (name, j) ∉ members := fun hm => distinct.1 (List.mem_map.2 ⟨_, hm, rfl⟩)
      simp [absent, eq_comm]
    · rw [beq_false_of_ne h]
      simp [h, ih distinct.2]

theorem lookup_perm {members others : List (String × Json)}
    (distinct : (members.map Prod.fst).Nodup) (perm : members.Perm others) (name : String) :
    others.lookup name = members.lookup name := by
  have distinct' : (others.map Prod.fst).Nodup := (perm.map Prod.fst).nodup distinct
  apply Option.ext
  intro j
  rw [lookup_eq_some_iff_mem distinct', lookup_eq_some_iff_mem distinct, perm.mem_iff]

theorem lookup_insert_of_ne {name other : String} (h : name ≠ other) (value : Json)
    (before after : List (String × Json)) :
    (before ++ (other, value) :: after).lookup name = (before ++ after).lookup name := by
  rw [List.lookup_append, List.lookup_append, List.lookup_cons, beq_false_of_ne h]

theorem Rearranged.lookup_eq {names : List String} {members others : List (String × Json)}
    (h : Rearranged names members others) {name : String} (known : name ∈ names) :
    others.lookup name = members.lookup name := by
  cases h with
  | unknown absent value before after =>
    apply lookup_insert_of_ne
    rintro rfl
    exact absent known
  | reordered distinct perm => exact lookup_perm distinct perm name

theorem lookup_memberReadings (members : List (String × Json)) (name : String) :
    (memberReadings members).lookup name = (members.lookup name).map Json.reading := by
  induction members with
  | nil => rfl
  | cons member members ih =>
    obtain ⟨other, i⟩ := member
    rw [memberReadings, List.lookup_cons, List.lookup_cons]
    cases name == other with
    | true => rfl
    | false => exact ih

/-! ## Scalars -/

theorem Json.Restructured.fields?_eq {names : List String} {i j : Json}
    (h : Restructured names i j) : j.fields? names = i.fields? names := by
  cases h with
  | rearranged h =>
    rw [fields?, fields?]
    congr 1
    apply List.map_congr_left
    intro name known
    exact h.lookup_eq known
  | positional h =>
    rename_i members items
    have length : items.length = names.length := by
      have := congrArg List.length h
      simpa using this.symm
    rw [fields?, fields?, if_pos length]
    exact congrArg some h.symm

theorem Json.Restructured.ne_null {names : List String} {i j : Json}
    (h : Restructured names i j) : i ≠ .null ∧ j ≠ .null := by
  cases h <;> exact ⟨nofun, nofun⟩

theorem Location.ofJson?_of_ne_null {j : Json} (h : j ≠ .null) :
    Location.ofJson? j = (Position.ofJson? j).map some := by
  cases j with
  | null => exact absurd rfl h
  | _ => rfl

theorem Atom.Respelled.decode_eq {a : Atom} {i j : Json} (h : a.Respelled i j) :
    a.decode j = a.decode i := by
  cases h with
  | ident h => rw [decode, decode, Ident.ofJson?, Ident.ofJson?, h.fields?_eq]
  | name h => rw [decode, decode, QualifiedName.ofJson?, QualifiedName.ofJson?, h.fields?_eq]
  | location h =>
    rw [decode, decode, Location.ofJson?_of_ne_null h.ne_null.1,
      Location.ofJson?_of_ne_null h.ne_null.2, Position.ofJson?, Position.ofJson?, h.fields?_eq]
  | word w tag => rfl

theorem Atom.Respelled.ne_null {a : Atom} {i j : Json} (h : a.Respelled i j) :
    i ≠ .null ∧ j ≠ .null := by
  cases h with
  | ident h => exact h.ne_null
  | name h => exact h.ne_null
  | location h => exact h.ne_null
  | word w tag => exact ⟨nofun, nofun⟩

/-! ## Records -/

/-- What an object has for a field. -/
def memberField (members : List (String × Json)) (name : String) (τ : FieldType) :
    Option (Field Tree τ) :=
  match members.lookup name with
  | some j => j.reading.field τ
  | none => τ.absent?

theorem recordOfMembers_cons_eq (members : List (String × Json)) (name : String) (τ : FieldType)
    (s : Signature) :
    recordOfMembers (memberReadings members) ((name, τ) :: s) =
      (memberField members name τ).bind fun f =>
        (recordOfMembers (memberReadings members) s).map (.cons f) := by
  rw [recordOfMembers_eq, lookup_memberReadings, memberField]
  cases members.lookup name <;> rfl

theorem recordOfMembers_congr {members others : List (String × Json)} : {s : Signature} →
    (∀ name τ, (name, τ) ∈ s → memberField others name τ = memberField members name τ) →
    recordOfMembers (memberReadings others) s = recordOfMembers (memberReadings members) s
  | [], _ => rfl
  | (name, τ) :: s, h => by
    rw [recordOfMembers_cons_eq, recordOfMembers_cons_eq, h name τ List.mem_cons_self,
      recordOfMembers_congr fun other υ hm => h other υ (List.mem_cons_of_mem _ hm)]

theorem Lists.recordOfItems_eq {members : List (String × Json)} : {s : Signature} →
    {items : List Json} → Lists (s.map Prod.fst) items members →
    recordOfItems (readings items) s = recordOfMembers (memberReadings members) s
  | [], [], _ => rfl
  | [], _ :: _, h => by cases h
  | _ :: _, [], h => by cases h
  | (name, τ) :: s, j :: items, h => by
    obtain ⟨first, later⟩ := List.cons.inj h
    have ih := recordOfItems_eq (s := s) later
    simp only at first
    rw [recordOfMembers_cons_eq, memberField, first, readings, recordOfItems, ih]
    simp only [Option.bind_eq_bind, Option.pure_def, Option.map_eq_bind, Function.comp_def]

theorem recordOfItems_congr {name : String} {τ : FieldType} {i j : Json} (after : List Json)
    (h : j.reading.field τ = i.reading.field τ) : {s : Signature} → {before : List Json} →
    s[before.length]? = some (name, τ) →
    recordOfItems (readings (before ++ j :: after)) s =
      recordOfItems (readings (before ++ i :: after)) s
  | [], _, field => by simp at field
  | _ :: _, [], field => by
    cases field
    rw [List.nil_append, List.nil_append, readings, readings, recordOfItems, recordOfItems, h]
  | (_, _) :: _, _ :: _, field => by
    have ih := recordOfItems_congr after h (by simpa using field)
    rw [List.cons_append, List.cons_append, readings, readings, recordOfItems, recordOfItems, ih]

theorem listOfItems_congr {τ : FieldType} {i j : Json} (after : List Json)
    (h : j.reading.field τ = i.reading.field τ) (before : List Json) :
    listOfItems τ (readings (before ++ j :: after)) =
      listOfItems τ (readings (before ++ i :: after)) := by
  induction before with
  | nil => rw [List.nil_append, List.nil_append, readings, readings, listOfItems, listOfItems, h]
  | cons b before ih =>
    rw [List.cons_append, List.cons_append, readings, readings, listOfItems, listOfItems, ih]

/-! ## One member of a record -/

theorem Signature.legible_unique : {s : Signature} → Signature.legible s = true →
    {name : String} → {τ υ : FieldType} → (name, τ) ∈ s → (name, υ) ∈ s → υ = τ
  | (_, _) :: _, legible, name, τ, υ, hτ, hυ => by
    obtain ⟨-, fresh, rest⟩ := Signature.legible_cons legible
    rcases List.mem_cons.1 hτ with hτ | hτ <;> rcases List.mem_cons.1 hυ with hυ | hυ
    · cases hτ
      cases hυ
      rfl
    · cases hτ
      exact absurd (List.mem_map.2 ⟨_, hυ, rfl⟩) fresh
    · cases hυ
      exact absurd (List.mem_map.2 ⟨_, hτ, rfl⟩) fresh
    · exact legible_unique rest hτ hυ

theorem Json.field_null {τ : FieldType} (optional : τ.absent?.isSome = true) :
    Json.null.reading.field τ = τ.absent? := by
  unfold FieldType.absent? at optional ⊢
  split at optional
  · rfl
  · rfl
  · cases optional

theorem memberField_replace {name : String} {τ : FieldType} {i j : Json}
    (h : j.reading.field τ = i.reading.field τ) (before after : List (String × Json)) :
    memberField (before ++ (name, j) :: after) name τ =
      memberField (before ++ (name, i) :: after) name τ := by
  rw [memberField, memberField, List.lookup_append, List.lookup_append, List.lookup_cons_self,
    List.lookup_cons_self]
  cases before.lookup name with
  | none => exact h
  | some _ => rfl

theorem memberField_omit {name : String} {τ : FieldType} (optional : τ.absent?.isSome = true)
    (before : List (String × Json)) {after : List (String × Json)}
    (once : name ∉ after.map Prod.fst) :
    memberField (before ++ after) name τ =
      memberField (before ++ (name, .null) :: after) name τ := by
  have absent : after.lookup name = none := by
    rw [List.lookup_eq_none_iff]
    intro member hm
    rw [bne_iff_ne]
    rintro rfl
    exact once (List.mem_map_of_mem hm)
  rw [memberField, memberField, List.lookup_append, List.lookup_append, List.lookup_cons_self,
    absent]
  cases before.lookup name with
  | none => exact (Json.field_null optional).symm
  | some _ => rfl

/-- Records of a node are read alike if the objects differ at one member only, and not in what the
field of its name is read as. -/
theorem recordOfMembers_congr_at {members others : List (String × Json)} {name : String}
    {τ : FieldType} (k : Kind) (field : (name, τ) ∈ k.signature)
    (same : memberField others name τ = memberField members name τ)
    (rest : ∀ other, other ≠ name → others.lookup other = members.lookup other) :
    recordOfMembers (memberReadings others) k.signature =
      recordOfMembers (memberReadings members) k.signature := by
  apply recordOfMembers_congr
  intro other υ hm
  by_cases h : other = name
  · subst h
    obtain rfl := Signature.legible_unique k.legible_signature field hm
    exact same
  · rw [memberField, memberField, rest other h]

/-! ## Nodes -/

/-- The record of a node's fields is read from the members of an object, whichever they are. -/
theorem Kind.field_wrap_members {k : Kind} (named : k.layout.named = true)
    (members : List (String × Json)) :
    (k.layout.wrap members).reading.field (.child k.category) =
      (recordOfMembers (memberReadings members) k.signature).map (.child <| .node k rfl ·) := by
  match h : k.layout with
  | .bare => exact Json.field_bare h members
  | .tagged tag =>
    have tag? : k.layout.tag? = some tag := by rw [h, Layout.tag?]
    rw [Layout.wrap, Json.field_obj_singleton (search_of_tag tag?).1, tagged_kind tag?, h,
      Option.map_map]
    rfl
  | .payload _ | .unit _ =>
    rw [h] at named
    cases named

/-- The fields of a node that is written bare may be listed. -/
theorem Kind.field_arr {k : Kind} (bare : k.layout = .bare) (items : List Json) :
    (Json.arr items).reading.field (.child k.category) =
      (recordOfItems (readings items) k.signature).map (.child <| .node k rfl ·) := by
  simp only [Json.reading, ofArray, fieldOf, Kind.bareKind?_of_bare bare, Option.bind_eq_bind,
    Option.bind_some, dite_true, Option.map_map, Function.comp_def]

theorem Kind.field_payload {k : Kind} {tag name : String} {τ : FieldType}
    (layout : k.layout = .payload tag) (only : k.signature = [(name, τ)]) {i j : Json}
    (h : j.reading.field τ = i.reading.field τ) :
    (Json.obj [(tag, j)]).reading.field (.child k.category) =
      (Json.obj [(tag, i)]).reading.field (.child k.category) := by
  have tag? : k.layout.tag? = some tag := by rw [layout, Layout.tag?]
  have content : j.reading.content k.layout k.signature =
      i.reading.content k.layout k.signature := by
    rw [layout, only, Reading.content, Reading.content, h]
  rw [Json.field_obj_singleton (search_of_tag tag?).1,
    Json.field_obj_singleton (search_of_tag tag?).1, tagged_kind tag?, tagged_kind tag?, content]

theorem Kind.field_null_under_tag {k : Kind} {tag : String} (layout : k.layout = .unit tag) :
    (Json.obj [(tag, .null)]).reading.field (.child k.category) =
      (Json.str tag).reading.field (.child k.category) := by
  have tag? : k.layout.tag? = some tag := by rw [layout, Layout.tag?]
  rw [Json.field_obj_singleton (search_of_tag tag?).1, tagged_kind tag?]
  change _ = (wordTree k.category tag).map Field.child
  have content (s : Signature) : Json.null.reading.content (.unit tag) s =
      nothing.content (.unit tag) s := by
    cases s <;> rfl
  rw [wordTree_kind layout, layout, content]

/-! ## Fields -/

theorem FieldType.Respelled.ne_null {τ : FieldType} {i j : Json} (h : τ.Respelled i j) :
    i ≠ .null ∧ j ≠ .null := by
  induction h with
  | atom h => exact h.ne_null
  | option _ ih => exact ih
  | member | rearranged | omitted => exact ⟨Layout.wrap_ne_null _ _, Layout.wrap_ne_null _ _⟩
  | _ => exact ⟨nofun, nofun⟩

/-- One change does not alter what a field is read as: it is read the same from both spellings, or
from neither. -/
theorem FieldType.Respelled.field_eq {τ : FieldType} {i j : Json} (h : τ.Respelled i j) :
    j.reading.field τ = i.reading.field τ := by
  induction h with
  | atom h => rw [Json.field_atom, Json.field_atom, h.decode_eq]
  | option h ih => rw [Json.field_option h.ne_null.1, Json.field_option h.ne_null.2, ih]
  | item before after _ ih =>
    rw [Json.field_list, Json.field_list, listOfItems_congr after ih before]
  | included inc _ ih => rw [inc.field_tag, inc.field_tag, ih]
  | payload layout only _ ih => exact Kind.field_payload layout only ih
  | member named field before after _ ih =>
    rw [Kind.field_wrap_members named, Kind.field_wrap_members named]
    congr 1
    apply recordOfMembers_congr_at _ field
    · exact memberField_replace ih before after
    · intro other h
      rw [lookup_insert_of_ne h, lookup_insert_of_ne h]
  | entry bare field after _ ih =>
    rw [Kind.field_arr bare, Kind.field_arr bare, recordOfItems_congr after ih field]
  | rearranged named h =>
    rw [Kind.field_wrap_members named, Kind.field_wrap_members named]
    congr 1
    apply recordOfMembers_congr
    intro name τ hm
    rw [memberField, memberField, h.lookup_eq (List.mem_map.2 ⟨_, hm, rfl⟩)]
  | omitted named field optional before once =>
    rw [Kind.field_wrap_members named, Kind.field_wrap_members named]
    congr 1
    apply recordOfMembers_congr_at _ field
    · exact memberField_omit optional before once
    · intro other h
      rw [lookup_insert_of_ne h]
  | positional bare h => rw [Kind.field_arr bare, Json.field_bare bare, h.recordOfItems_eq]
  | word layout => exact Kind.field_null_under_tag layout

/-! ## Spellings of a value -/

/-- Reading that sees no difference in one change sees none in any number of changes. -/
theorem read_eq_of_respelled {α : Type} {respelled : Json → Json → Prop} {read? : Json → Option α}
    {i j : Json} (h : Relation.ReflTransGen respelled i j)
    (one : ∀ i j, respelled i j → read? j = read? i) : read? j = read? i := by
  induction h with
  | refl => rfl
  | tail _ step ih => rw [one _ _ step, ih]

theorem Tree.ofJson?_eq_of_respelled {c : Category} {i j : Json}
    (h : (FieldType.child c).Respelled i j) : Tree.ofJson? c j = Tree.ofJson? c i := by
  rw [Tree.ofJson?, Tree.ofJson?, h.field_eq]

theorem Node.Respelled.ofJson?_eq {i j : Json} (h : Node.Respelled i j) :
    Node.ofJson? j = Node.ofJson? i := by
  cases h with
  | tree h =>
    rename_i c i j
    change (do
      let d ← Tagged.ofTag? Category (Tagged.tag c)
      if h : d.isFamily then (Tree.ofJson? d j).map (⟨·, h⟩ : Tree d → Node) else none) = (do
      let d ← Tagged.ofTag? Category (Tagged.tag c)
      if h : d.isFamily then (Tree.ofJson? d i).map (⟨·, h⟩ : Tree d → Node) else none)
    rw [Tagged.ofTag?_tag]
    simp only [Option.bind_eq_bind, Option.bind_some, Tree.ofJson?_eq_of_respelled h]

/-- Every spelling of a value whose doubles are finite is read as that value, however many changes
it is away from the written form: every spelling of a scalar, of a tree of any category, and of a
document. -/
theorem every_spelling_is_read :
    (∀ (a : Atom) (v : a.Carrier), (∀ x ∈ a.doubles v, x.double.isFinite = true) →
      ∀ j, Relation.ReflTransGen a.Respelled (a.encode v) j → a.decode j = some v) ∧
    (∀ (c : Category) (t : Tree c), (∀ x ∈ t.doubles, x.double.isFinite = true) →
      ∀ j, Relation.ReflTransGen (FieldType.child c).Respelled t.toJson j →
        Tree.ofJson? c j = some t) ∧
    ∀ n : Node, (∀ x ∈ n.doubles, x.double.isFinite = true) →
      ∀ j, Relation.ReflTransGen Node.Respelled n.toJson j → Node.ofJson? j = some n := by
  refine ⟨?_, ?_, ?_⟩
  · intro a v hv j h
    have finite : a.finite v = true := by
      rw [← a.allFinite_doubles]
      exact allFinite_iff.2 hv
    rw [read_eq_of_respelled h fun _ _ => Atom.Respelled.decode_eq, a.decode_encode, if_pos finite]
  · intro c t ht j h
    have finite : t.finite = true := allFinite_iff.2 ht
    rw [read_eq_of_respelled h fun _ _ => Tree.ofJson?_eq_of_respelled, t.ofJson?_toJson,
      if_pos finite]
  · intro n hn j h
    have finite : n.finite = true := allFinite_iff.2 hn
    rw [read_eq_of_respelled h fun _ _ => Node.Respelled.ofJson?_eq, n.ofJson?_toJson,
      if_pos finite]

/-- `ROWS CURRENT ROW`, with a word as an object, a frame bound and a position as arrays, an absent
end left out and a member that means nothing. -/
theorem respelled_frame :
    let n : Node := ⟨WindowFrame.mk .rows (.mk .currentRow) none (some ⟨3, 7⟩), rfl⟩
    let j : Json := .obj [("WindowFrame", .obj [
      ("frame_type", .obj [("Rows", .null)]),
      ("start", .arr [.str "CurrentRow", .null, .null]),
      ("note", .bool true),
      ("location", .arr [.int 3, .int 7])])]
    Relation.ReflTransGen Node.Respelled n.toJson j ∧ Node.ofJson? j = some n := by
  intro n j
  -- the members of the frame, first as they are written and then as they are respelled
  let type : String × Json := ("frame_type", .str "Rows")
  let start : String × Json := ("start",
    .obj [("bound_type", .str "CurrentRow"), ("value", .null), ("location", .null)])
  let location : String × Json := ("location", .obj [("line", .int 3), ("column", .int 7)])
  let type' : String × Json := ("frame_type", .obj [("Rows", .null)])
  let start' : String × Json := ("start", .arr [.str "CurrentRow", .null, .null])
  let location' : String × Json := ("location", .arr [.int 3, .int 7])
  have word : (FieldType.child .windowFrame).Respelled n.tree.toJson
      (.obj [type', start, ("end", .null), location]) :=
    .member (k := .windowFrame) rfl (by decide) [] _ (.atom (.word .windowFrameType "Rows"))
  have bound : (FieldType.child .windowFrame).Respelled
      (.obj [type', start, ("end", .null), location])
      (.obj [type', start', ("end", .null), location]) :=
    .member (k := .windowFrame) rfl (by decide) [type'] _ (.positional (k := .frameBound) rfl rfl)
  have omitted : (FieldType.child .windowFrame).Respelled
      (.obj [type', start', ("end", .null), location]) (.obj [type', start', location]) :=
    .omitted (k := .windowFrame) (τ := .option (.child .frameBound)) rfl (by decide) rfl
      [type', start'] (by decide)
  have noted : (FieldType.child .windowFrame).Respelled
      (.obj [type', start', location]) (.obj [type', start', ("note", .bool true), location]) :=
    .rearranged (k := .windowFrame) rfl
      (.unknown (by decide) (.bool true) [type', start'] [location])
  have position : (FieldType.child .windowFrame).Respelled
      (.obj [type', start', ("note", .bool true), location])
      (.obj [type', start', ("note", .bool true), location']) :=
    .member (k := .windowFrame) rfl (by decide) [type', start', ("note", .bool true)] []
      (.atom (.location (.positional rfl)))
  have h : Relation.ReflTransGen Node.Respelled n.toJson j :=
    .tail (.tail (.tail (.tail (.tail .refl (.tree word)) (.tree bound)) (.tree omitted))
      (.tree noted)) (.tree position)
  exact ⟨h, every_spelling_is_read.2.2 n nofun j h⟩

end SqlTrees
