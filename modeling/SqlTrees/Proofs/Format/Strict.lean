import SqlTrees.Proofs.Format.Corrupted
import SqlTrees.Proofs.Format.Spellings
import SqlTrees.Tree.Expression

/-! # No corrupted document is read

* `Structured.field_obj`, `Structured.field_arr`, `Recorded.field`: a scalar structure is read as a
  node is, from the record of its fields.
* `recordOfMembers_eq_none`, `recordOfItems_eq_none`, `listOfItems_eq_none`: one part that is not
  read spoils the whole.
* `FieldType.Corrupted.field_eq_none`: what is corrupted anywhere is not read.
* `no_corruption_is_read`: so it is for scalars, for trees of every category and for documents.
-/

namespace SqlTrees
set_option autoImplicit false
open Reading

/-! ## Parts that spoil the whole -/

theorem recordOfMembers_eq_none {members : List (String × Json)} {name : String} {υ : FieldType} :
    {s : Signature} → (name, υ) ∈ s → memberField members name υ = none →
      recordOfMembers (memberReadings members) s = none
  | (other, τ) :: s, field, unread => by
    rw [recordOfMembers_cons_eq]
    rcases List.mem_cons.1 field with here | later
    · cases here
      rw [unread, Option.bind_none]
    · rw [recordOfMembers_eq_none later unread]
      cases memberField members other τ <;> rfl

theorem length_readings (items : List Json) : (readings items).length = items.length := by
  induction items with
  | nil => rfl
  | cons j items ih => rw [readings, List.length_cons, List.length_cons, ih]

theorem length_of_recordOfItems : {parts : List Reading} → {s : Signature} →
    {r : Record Tree s} → recordOfItems parts s = some r → parts.length = s.length
  | [], [], _, _ => rfl
  | part :: parts, (_, τ) :: s, _, h => by
    rw [recordOfItems] at h
    obtain ⟨f, -, rest, hrest, -⟩ : ∃ f, part.field τ = some f ∧
        ∃ rest, recordOfItems parts s = some rest ∧ _ := by
      simpa [Option.bind_eq_some_iff] using h
    rw [List.length_cons, List.length_cons, length_of_recordOfItems hrest]
  | [], _ :: _, _, h => by cases h
  | _ :: _, [], _, h => by cases h

theorem listOfItems_eq_none {τ : FieldType} {j : Json} (unread : j.reading.field τ = none)
    (before after : List Json) : listOfItems τ (readings (before ++ j :: after)) = none := by
  induction before with
  | nil =>
    rw [List.nil_append, readings, listOfItems, unread]
    rfl
  | cons b before ih =>
    rw [List.cons_append, readings, listOfItems, ih]
    cases b.reading.field τ <;> rfl

theorem memberField_of_first {before : List (String × Json)} {name : String}
    (first : name ∉ before.map Prod.fst) (υ : FieldType) (j : Json)
    (after : List (String × Json)) :
    memberField (before ++ (name, j) :: after) name υ = j.reading.field υ := by
  have before_none : before.lookup name = none := by
    rw [List.lookup_eq_none_iff]
    intro member hm
    simpa using fun h => first (List.mem_map.2 ⟨member, hm, h.symm⟩)
  rw [memberField, List.lookup_append, before_none, List.lookup_cons_self]
  rfl

theorem memberField_of_missing {members : List (String × Json)} {name : String}
    (missing : name ∉ members.map Prod.fst) (υ : FieldType) :
    memberField members name υ = υ.absent? := by
  have members_none : members.lookup name = none := by
    rw [List.lookup_eq_none_iff]
    intro member hm
    simpa using fun h => missing (List.mem_map.2 ⟨member, hm, h.symm⟩)
  rw [memberField, members_none]

/-! ## Structures -/

theorem listOfItems_texts (items : List Json) :
    listOfItems (.atom .text) (readings items) =
      (texts? items).map (Field.ofAtoms (a := .text)) := by
  induction items with
  | nil => rfl
  | cons j items ih =>
    rw [readings, listOfItems, ih, Json.field_atom]
    cases j with
    | str s =>
      change _ = ((texts? items).map (s :: ·)).map _
      cases texts? items <;> rfl
    | _ => rfl

theorem Field.values_ofAtoms (a : Atom) (vs : List a.Carrier) :
    (ofAtoms vs : Field Tree (.list (.atom a))).toList.map Field.value = vs := by
  simp [ofAtoms, Function.comp_def, Field.value]

def Ident.ofFields :
    Record Tree [("value", .atom .text), ("delimited", .atom .flag)] → Ident
  | .cons (.atom value) (.cons (.atom delimited) .nil) => ⟨value, delimited⟩

def QualifiedName.ofFields : Record Tree [("parts", .list (.atom .text))] → QualifiedName
  | .cons parts .nil => ⟨parts.toList.map Field.value⟩

def Position.ofFields : Record Tree [("line", .atom .index), ("column", .atom .index)] → Position
  | .cons (.atom line) (.cons (.atom column) .nil) => ⟨line, column⟩

/-- A structure is read from the members of an object as the record of its fields is. -/
theorem Structured.field_obj {τ : FieldType} {s : Signature} (h : Structured τ s) :
    ∃ build : Record Tree s → Field Tree τ, ∀ members, (Json.obj members).reading.field τ =
      (recordOfMembers (memberReadings members) s).map build := by
  cases h with
  | ident =>
    refine ⟨fun r => .atom (Ident.ofFields r), fun members => ?_⟩
    rw [Json.field_atom, Atom.decode, Ident.ofJson?, Json.fields?, List.map_cons, List.map_cons,
      recordOfMembers_cons_eq, recordOfMembers_cons_eq, memberField, memberField]
    cases members.lookup "value" with
    | none => rfl
    | some value =>
      cases members.lookup "delimited" with
      | none => cases value <;> rfl
      | some delimited => cases value <;> cases delimited <;> rfl
  | name =>
    refine ⟨fun r => .atom (QualifiedName.ofFields r), fun members => ?_⟩
    rw [Json.field_atom, Atom.decode, QualifiedName.ofJson?, Json.fields?, List.map_cons,
      List.map_nil, recordOfMembers_cons_eq, memberField]
    cases members.lookup "parts" with
    | none => rfl
    | some parts =>
      cases parts with
      | arr items =>
        simp only [Json.field_list, listOfItems_texts]
        cases texts? items with
        | none => rfl
        | some ss =>
          have values := Field.values_ofAtoms .text ss
          change some (Field.atom (a := .name) ⟨ss⟩) = some (Field.atom (a := .name) ⟨_⟩)
          rw [values]
      | _ => rfl
  | location =>
    refine ⟨fun r => .atom (some (Position.ofFields r)), fun members => ?_⟩
    have present : Json.obj members ≠ .null := by simp
    rw [Json.field_atom, Atom.decode, Location.ofJson?_of_ne_null present, Position.ofJson?,
      Json.fields?, List.map_cons, List.map_cons, List.map_nil, recordOfMembers_cons_eq,
      recordOfMembers_cons_eq, memberField, memberField]
    cases members.lookup "line" with
    | none => rfl
    | some line =>
      cases members.lookup "column" with
      | none =>
        simp only [Json.field_atom, Atom.decode]
        cases index? line <;> rfl
      | some column =>
        simp only [Json.field_atom, Atom.decode]
        cases index? line with
        | none => rfl
        | some l => cases index? column <;> rfl
  | node bare => exact ⟨_, Json.field_bare bare⟩

/-- An array has as many items as the structure has fields, or it is not read. -/
theorem Structured.field_arr {τ : FieldType} {s : Signature} (h : Structured τ s)
    {items : List Json} (different : items.length ≠ s.length) :
    (Json.arr items).reading.field τ = none := by
  have unread {names : List String} (length : s.length = names.length) :
      (Json.arr items).fields? names = none := if_neg (length ▸ different)
  cases h with
  | ident => rw [Json.field_atom, Atom.decode, Ident.ofJson?, unread rfl]; rfl
  | name => rw [Json.field_atom, Atom.decode, QualifiedName.ofJson?, unread rfl]; rfl
  | location =>
    have present : Json.arr items ≠ .null := by simp
    rw [Json.field_atom, Atom.decode, Location.ofJson?_of_ne_null present, Position.ofJson?,
      unread rfl]
    rfl
  | node bare =>
    rw [Kind.field_arr bare, Option.map_eq_none_iff, Option.eq_none_iff_forall_ne_some]
    intro r hr
    have same := length_of_recordOfItems hr
    rw [length_readings] at same
    exact different same

/-- So is a node whose record stands under a tag. -/
theorem Recorded.field {τ : FieldType} {s : Signature} {write : List (String × Json) → Json}
    (h : Recorded τ s write) :
    ∃ build : Record Tree s → Field Tree τ, ∀ members, (write members).reading.field τ =
      (recordOfMembers (memberReadings members) s).map build := by
  cases h with
  | bare h => exact h.field_obj
  | @tagged k tag layout =>
    have named : k.layout.named = true := by rw [layout, Layout.named]
    have written (members : List (String × Json)) :
        k.layout.wrap members = .obj [(tag, .obj members)] := by rw [layout, Layout.wrap]
    exact ⟨_, fun members => written members ▸ Kind.field_wrap_members named members⟩

theorem Recorded.field_eq_none {τ υ : FieldType} {s : Signature}
    {write : List (String × Json) → Json} (h : Recorded τ s write) {name : String}
    (field : (name, υ) ∈ s) {members : List (String × Json)}
    (unread : memberField members name υ = none) : (write members).reading.field τ = none := by
  obtain ⟨build, read⟩ := h.field
  rw [read, recordOfMembers_eq_none field unread, Option.map_none]

/-! ## Null -/

theorem Json.field_null_of_required {τ : FieldType} (required : τ.absent? = none) :
    Json.null.reading.field τ = none := by
  cases τ with
  | atom a =>
    cases a with
    | location => cases required
    | _ => rfl
  | child => rfl
  | option => cases required
  | list => rfl

/-! ## Tags and words -/

theorem FieldType.knows_word {w : WordClass} {tag : String} :
    (FieldType.atom (.word w)).knows tag = false ↔ Tagged.ofTag? w.Word tag = none := by
  rw [knows, Option.isSome_eq_false_iff, Option.isNone_iff_eq_none]

theorem FieldType.knows_child {c : Category} {tag : String} :
    (FieldType.child c).knows tag = false ↔
      Inclusion.ofTag? c tag = none ∧ c.taggedKind? tag = none := by
  rw [knows, Bool.or_eq_false_iff, Option.isSome_eq_false_iff, Option.isSome_eq_false_iff,
    Option.isNone_iff_eq_none, Option.isNone_iff_eq_none]

namespace FieldType.Enumerated
variable {τ : FieldType} (h : τ.Enumerated)
include h

theorem field_keys {members : List (String × Json)} (number : members.length ≠ 1) :
    (Json.obj members).reading.field τ = none := by
  match members with
  | [] =>
    cases h with
    | word => rfl
    | child tagged => simp only [Json.reading, memberReadings, ofObject, fieldOf, tagged]; rfl
  | [_] => exact absurd rfl number
  | (_, content) :: _ :: _ =>
    cases h with
    | word =>
      rw [Json.field_atom, Atom.decode, wordOfJson?]
      cases content <;> rfl
    | child tagged => simp only [Json.reading, memberReadings, ofObject, fieldOf, tagged]; rfl

theorem field_unknown_tag {tag : String} (unknown : τ.knows tag = false) (content : Json) :
    (Json.obj [(tag, content)]).reading.field τ = none := by
  cases h with
  | word w =>
    rw [Json.field_atom, Atom.decode, wordOfJson?]
    cases content with
    | null => rw [Json.word?, Option.bind_some, knows_word.1 unknown, Option.map_none]
    | _ => rfl
  | child tagged =>
    obtain ⟨notIncluded, notKind⟩ := knows_child.1 unknown
    rw [Json.field_obj_singleton tagged, Reading.tagged, notIncluded, notKind]
    rfl

theorem field_unknown_word {tag : String} (unknown : τ.knows tag = false) :
    (Json.str tag).reading.field τ = none := by
  cases h with
  | word w =>
    rw [Json.field_atom, Atom.decode, wordOfJson?, Json.word?, Option.bind_some,
      knows_word.1 unknown, Option.map_none]
  | @child c tagged =>
    change (wordTree c tag).map Field.child = none
    rw [wordTree, (knows_child.1 unknown).2]
    rfl

end FieldType.Enumerated

theorem Kind.field_eq_none_of_content {k : Kind} {tag : String} (tag? : k.layout.tag? = some tag)
    {j : Json} (unread : j.reading.content k.layout k.signature = none) :
    (Json.obj [(tag, j)]).reading.field (.child k.category) = none := by
  rw [Json.field_obj_singleton (search_of_tag tag?).1, tagged_kind tag?, unread]
  rfl

theorem Json.json_reading (j : Json) : j.reading.json = j := by
  cases j <;> rfl

theorem Reading.content_of_something {r : Reading} (something : r.json ≠ .null) (tag : String)
    (s : Signature) : r.content (.unit tag) s = none := by
  cases s with
  | nil =>
    rw [content]
    cases h : r.json with
    | null => exact absurd h something
    | _ => rfl
  | cons => rfl

theorem FieldType.HasWord.field_content {τ : FieldType} {tag : String} (h : τ.HasWord tag)
    {content : Json} (something : content ≠ .null) :
    (Json.obj [(tag, content)]).reading.field τ = none := by
  cases h with
  | word a =>
    rw [Json.field_atom, Atom.decode, wordOfJson?]
    cases content with
    | null => exact absurd rfl something
    | _ => rfl
  | @node k tag layout =>
    have present : content.reading.json ≠ .null := by rwa [Json.json_reading]
    refine Kind.field_eq_none_of_content (by rw [layout, Layout.tag?]) ?_
    rw [layout, Reading.content_of_something present]

theorem Kind.field_array_under_tag {k : Kind} {tag : String} (layout : k.layout = .tagged tag)
    (items : List Json) :
    (Json.obj [(tag, .arr items)]).reading.field (.child k.category) = none := by
  refine field_eq_none_of_content (by rw [layout, Layout.tag?]) ?_
  rw [layout]
  rfl

/-! ## Numbers -/

theorem Atom.decode_double {a : Atom} (integral : a.range?.isSome = true) (d : Double) :
    a.decode (.double d) = none := by
  cases a <;> first | rfl | cases integral

theorem Atom.decode_outside {a : Atom} {low high : Int} (integral : a.range? = some (low, high))
    {n : Int} (outside : n < low ∨ high < n) : a.decode (.int n) = none := by
  cases a with
  | long =>
    cases integral
    have far : isLong n = false := by
      rw [isLong, Bool.and_eq_false_iff, decide_eq_false_iff_not, decide_eq_false_iff_not]
      omega
    rw [decode, long?, far]
    rfl
  | index =>
    cases integral
    have far : ¬(0 ≤ n ∧ n < UInt64.size) := by omega
    rw [decode, index?, Json.natBelow?, if_neg far]
    rfl
  | precision =>
    cases integral
    have far : ¬(0 ≤ n ∧ n < UInt32.size) := by omega
    rw [decode, precision?, Json.natBelow?, if_neg far]
    rfl
  | _ => cases integral

/-! ## Documents -/

/-- What is spoilt in one place is not read. -/
theorem FieldType.Corrupted.field_eq_none {τ : FieldType} {i j : Json} (h : τ.Corrupted i j) :
    j.reading.field τ = none := by
  induction h with
  -- the place lies further in
  | option present _ ih => rw [Json.field_option present, ih, Option.map_none]
  | item before after _ ih => rw [Json.field_list, listOfItems_eq_none ih]
  | included inc _ ih => rw [inc.field_tag, ih, Option.map_none]
  | @payload k tag name τ i j layout only _ ih =>
    refine Kind.field_eq_none_of_content (by rw [layout, Layout.tag?]) ?_
    rw [layout, only, Reading.content, ih, Option.map_none]
  | member recorded field before after first _ ih =>
    exact recorded.field_eq_none field (by rw [memberField_of_first first, ih])
  -- the place is here
  | missing recorded field required i before after only =>
    exact recorded.field_eq_none field (by rw [memberField_of_missing only, required])
  | null required i => exact Json.field_null_of_required required
  | length structured members different => exact structured.field_arr different
  | array layout members items => exact Kind.field_array_under_tag layout items
  | keys enumerated i number => exact enumerated.field_keys number
  | tag enumerated i unknown content => exact enumerated.field_unknown_tag unknown content
  | word enumerated i unknown => exact enumerated.field_unknown_word unknown
  | content hasWord something => exact hasWord.field_content something
  | fraction integral i d => rw [Json.field_atom, Atom.decode_double integral, Option.map_none]
  | range integral i outside =>
    rw [Json.field_atom, Atom.decode_outside integral outside, Option.map_none]

theorem Tree.Corrupted.ofJson?_eq_none {c : Category} {i j : Json}
    (h : (FieldType.child c).Corrupted i j) : Tree.ofJson? c j = none := by
  rw [Tree.ofJson?, h.field_eq_none, Option.map_none]

theorem Node.Corrupted.ofJson?_eq_none {i j : Json} (h : Node.Corrupted i j) :
    Node.ofJson? j = none := by
  cases h with
  | @tree c i j h =>
    change (do
      let d ← Tagged.ofTag? Category (Tagged.tag c)
      if h : d.isFamily then (Tree.ofJson? d j).map (⟨·, h⟩ : Tree d → Node) else none) = none
    rw [Tagged.ofTag?_tag]
    simp only [Option.bind_eq_bind, Option.bind_some, Tree.Corrupted.ofJson?_eq_none h,
      Option.map_none, dite_eq_ite, ite_self]
  | @keys _ members number =>
    rcases members with _ | ⟨member, _ | ⟨other, rest⟩⟩
    · rfl
    · exact absurd rfl number
    · rfl
  | @family _ name unknown content =>
    rw [Node.ofJson?]
    cases found : Tagged.ofTag? Category name with
    | none => rfl
    | some c =>
      have named : c.name = name := Tagged.ofTag?_eq_some_iff.1 found
      have notFamily : ¬c.isFamily = true := fun family => unknown c family named
      rw [Option.bind_eq_bind, Option.bind_some, dif_neg notFamily]

/-- Whatever is written, one spoilt place makes the reader refuse all of it: a scalar, a tree of any
category, and a document. -/
theorem no_corruption_is_read :
    (∀ (a : Atom) (v : a.Carrier) (j : Json), (FieldType.atom a).Corrupted (a.encode v) j →
      a.decode j = none) ∧
    (∀ (c : Category) (t : Tree c) (j : Json), (FieldType.child c).Corrupted t.toJson j →
      Tree.ofJson? c j = none) ∧
    ∀ (n : Node) (j : Json), Node.Corrupted n.toJson j → Node.ofJson? j = none := by
  refine ⟨fun a v j h => ?_, fun c t j h => Tree.Corrupted.ofJson?_eq_none h,
    fun n j h => h.ofJson?_eq_none⟩
  have unread := h.field_eq_none
  rwa [Json.field_atom, Option.map_eq_none_iff] at unread

/-- `f(1)`, from whose argument the column of its position is deleted. -/
theorem call_without_column :
    let literal (position : List (String × Json)) : Json :=
      .obj [("LongLiteral", .obj [("value", .int 1), ("location", .obj position)])]
    let call (argument : Json) : Json :=
      .obj [("Expression", .obj [("FunctionCall", .obj [("name", .obj [("parts", .arr [.str "f"])]),
        ("distinct", .bool false), ("arguments", .arr [argument]), ("order_by", .null),
        ("window", .null), ("filter", .null), ("location", .null)])])]
    let n : Node := ⟨Expression.functionCall ⟨["f"]⟩ [.longLiteral 1 (some ⟨3, 7⟩)], rfl⟩
    n.toJson = call (literal [("line", .int 3), ("column", .int 7)]) ∧
    Node.ofJson? n.toJson = some n ∧ Node.ofJson? (call (literal [("line", .int 3)])) = none := by
  intro literal call n
  have position : (FieldType.atom .location).Corrupted
      (.obj [("line", .int 3), ("column", .int 7)]) (.obj [("line", .int 3)]) :=
    .missing (.bare .location) (List.mem_cons_of_mem _ List.mem_cons_self) rfl (.int 7)
      [("line", .int 3)] [] (by decide)
  have argument : (FieldType.child .expression).Corrupted
      (literal [("line", .int 3), ("column", .int 7)]) (literal [("line", .int 3)]) :=
    .member (.tagged (k := .longLiteral) rfl) (List.mem_cons_of_mem _ List.mem_cons_self)
      [("value", .int 1)] [] (by decide) position
  have document : Node.Corrupted n.toJson (call (literal [("line", .int 3)])) :=
    .tree (c := .expression) <| .member (.tagged (k := .functionCall) rfl) (by decide)
      [("name", .obj [("parts", .arr [.str "f"])]), ("distinct", .bool false)] _ (by decide)
      (.item [] [] argument)
  exact ⟨rfl, n.ofJson?_toJson, no_corruption_is_read.2.2 n _ document⟩

end SqlTrees
