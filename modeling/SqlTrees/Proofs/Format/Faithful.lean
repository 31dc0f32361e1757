import SqlTrees.Proofs.Format.RoundTrip

/-! # The JSON format is faithful

* `Reading.Finite`: whatever a reading offers is finite.
* `Json.finite_reading`: the reading of every value is.
* `Faithful`: what it takes for a written form and a reader of it to belong together.
* `json_round_trip`: the format of every sort of value is faithful.
-/

namespace SqlTrees
set_option autoImplicit false

/-! ## What is read is finite -/

theorem FieldType.finite_of_absent? {τ : FieldType} {f : Field Tree τ} (h : τ.absent? = some f) :
    f.finite = true := by
  unfold absent? at h
  split at h <;> cases h <;> rfl

/-- Whatever the reading offers is finite. -/
structure Reading.Finite (r : Reading) : Prop where
  field : ∀ {τ f}, r.field τ = some f → f.finite = true
  members : ∀ {s x}, r.members s = some x → x.finite = true
  items : ∀ {s x}, r.items s = some x → x.finite = true

namespace Reading

theorem finite_of_recordOfMembers {parts : List (String × Reading)}
    (hp : ∀ p ∈ parts, p.2.Finite) :
    {s : Signature} → {x : Record Tree s} → recordOfMembers parts s = some x → x.finite = true
  | [], _, h => by
    cases h
    rfl
  | (name, τ) :: s, _, h => by
    rw [recordOfMembers_eq] at h
    obtain ⟨f, hf, h⟩ := Option.bind_eq_some_iff.1 h
    obtain ⟨rest, hrest, rfl⟩ := Option.map_eq_some_iff.1 h
    have first : f.finite = true := by
      split at hf
      · next r found => exact (hp _ (mem_of_lookup found)).field hf
      · exact FieldType.finite_of_absent? hf
    rw [Record.finite_cons, first, finite_of_recordOfMembers hp hrest]
    rfl

theorem finite_of_recordOfItems : {parts : List Reading} → (∀ r ∈ parts, r.Finite) →
    {s : Signature} → {x : Record Tree s} → recordOfItems parts s = some x → x.finite = true
  | [], _, [], _, h => by
    cases h
    rfl
  | r :: parts, hp, (_, _) :: _, _, h => by
    obtain ⟨f, hf, h⟩ := Option.bind_eq_some_iff.1 h
    obtain ⟨rest, hrest, h⟩ := Option.bind_eq_some_iff.1 h
    cases h
    obtain ⟨hr, hp⟩ := List.forall_mem_cons.1 hp
    rw [Record.finite_cons, hr.field hf, finite_of_recordOfItems hp hrest]
    rfl

theorem finite_of_listOfItems {τ : FieldType} : {parts : List Reading} → (∀ r ∈ parts, r.Finite) →
    {f : Field Tree (.list τ)} → listOfItems τ parts = some f → f.finite = true
  | [], _, _, h => by
    cases h
    rfl
  | r :: parts, hp, _, h => by
    obtain ⟨f, hf, h⟩ := Option.bind_eq_some_iff.1 h
    obtain ⟨fs, hfs, h⟩ := Option.bind_eq_some_iff.1 h
    cases h
    obtain ⟨hr, hp⟩ := List.forall_mem_cons.1 hp
    rw [Field.finite_cons, hr.field hf, finite_of_listOfItems hp hfs]
    rfl

theorem finite_of_fieldOf {j : Json} {tree : (c : Category) → Option (Tree c)}
    {list : (τ : FieldType) → Option (Field Tree (.list τ))}
    (htree : ∀ c t, tree c = some t → t.finite = true)
    (hlist : ∀ τ f, list τ = some f → f.finite = true) :
    {τ : FieldType} → {f : Field Tree τ} → fieldOf j tree list τ = some f → f.finite = true
  | .atom _, _, h => by
    obtain ⟨v, hv, rfl⟩ := Option.map_eq_some_iff.1 h
    rw [Field.finite_atom]
    exact Atom.finite_of_decode hv
  | .child _, _, h => by
    obtain ⟨t, ht, rfl⟩ := Option.map_eq_some_iff.1 h
    exact htree _ _ ht
  | .option τ, f, h => by
    rw [fieldOf.eq_def] at h
    dsimp only at h
    split at h
    · cases h
      rfl
    · obtain ⟨g, hg, rfl⟩ := Option.map_eq_some_iff.1 h
      rw [Field.finite_some]
      exact finite_of_fieldOf htree hlist hg
  | .list _, _, h => hlist _ _ h

namespace Finite
variable {r : Reading}

theorem content (hr : r.Finite) {l : Layout} {s : Signature} {x : Record Tree s}
    (h : r.content l s = some x) : x.finite = true := by
  unfold Reading.content at h
  split at h
  · rcases Option.or_eq_some_iff.1 h with h | ⟨-, h⟩
    · exact hr.members h
    · exact hr.items h
  · exact hr.members h
  · obtain ⟨f, hf, rfl⟩ := Option.map_eq_some_iff.1 h
    rw [Record.finite_cons, hr.field hf]
    rfl
  · exact hr.members h
  · split at h <;> cases h
    rfl
  · cases h

theorem node? (hr : r.Finite) {c : Category} {k : Kind} {t : Tree c} (h : r.node? c k = some t) :
    t.finite = true := by
  unfold Reading.node? at h
  split at h
  · obtain ⟨x, hx, rfl⟩ := Option.map_eq_some_iff.1 h
    rw [Tree.finite_node]
    exact hr.content hx
  · cases h

theorem tagged (hr : r.Finite) {c : Category} {tag : String} {t : Tree c}
    (h : r.tagged c tag = some t) : t.finite = true := by
  unfold Reading.tagged at h
  split at h
  · split at h
    · next read =>
      cases h
      rw [Tree.finite_inclusion]
      exact hr.field read
    · cases h
  · obtain ⟨k, -, h⟩ := Option.bind_eq_some_iff.1 h
    exact hr.node? h

end Finite

theorem finite_nothing : nothing.Finite where
  field := nofun
  members := nofun
  items := nofun

theorem finite_of_wordTree {c : Category} {tag : String} {t : Tree c}
    (h : wordTree c tag = some t) : t.finite = true := by
  obtain ⟨k, -, h⟩ := Option.bind_eq_some_iff.1 h
  split at h
  · exact finite_nothing.node? h
  · cases h

theorem finite_ofScalar (j : Json) : (ofScalar j).Finite where
  field := finite_of_fieldOf
    (fun _ _ h => by
      split at h
      · exact finite_of_wordTree h
      · cases h)
    (fun _ _ h => by cases h)
  members := nofun
  items := nofun

theorem finite_ofArray (j : Json) {parts : List Reading} (hp : ∀ r ∈ parts, r.Finite) :
    (ofArray j parts).Finite where
  field := finite_of_fieldOf
    (fun _ _ h => by
      obtain ⟨k, -, h⟩ := Option.bind_eq_some_iff.1 h
      split at h
      · obtain ⟨x, hx, rfl⟩ := Option.map_eq_some_iff.1 h
        rw [Tree.finite_node]
        exact finite_of_recordOfItems hp hx
      · cases h)
    (fun _ _ h => finite_of_listOfItems hp h)
  members := nofun
  items := finite_of_recordOfItems hp

theorem finite_ofObject (j : Json) {parts : List (String × Reading)}
    (hp : ∀ p ∈ parts, p.2.Finite) : (ofObject j parts).Finite where
  field := finite_of_fieldOf
    (fun _ _ h => by
      split at h
      · split at h
        · obtain ⟨x, hx, rfl⟩ := Option.map_eq_some_iff.1 h
          rw [Tree.finite_node]
          exact finite_of_recordOfMembers hp hx
        · cases h
      · exact (hp _ List.mem_cons_self).tagged h
      · cases h)
    (fun _ _ h => by cases h)
  members := finite_of_recordOfMembers hp
  items := nofun

end Reading

mutual

theorem Json.finite_reading : (j : Json) → j.reading.Finite
  | .arr items => by
    rw [Json.reading]
    exact Reading.finite_ofArray _ (finite_readings items)
  | .obj members => by
    rw [Json.reading]
    exact Reading.finite_ofObject _ (finite_memberReadings members)
  | .null | .bool _ | .int _ | .double _ | .str _ => Reading.finite_ofScalar _

theorem finite_readings : (items : List Json) → ∀ r ∈ readings items, r.Finite
  | [] => nofun
  | j :: rest => by
    rw [readings]
    exact List.forall_mem_cons.2 ⟨j.finite_reading, finite_readings rest⟩

theorem finite_memberReadings : (members : List (String × Json)) →
    ∀ p ∈ memberReadings members, p.2.Finite
  | [] => nofun
  | (_, j) :: rest => by
    rw [memberReadings]
    exact List.forall_mem_cons.2 ⟨j.finite_reading, finite_memberReadings rest⟩

end

theorem Tree.finite_of_ofJson? {c : Category} {j : Json} {t : Tree c} (h : ofJson? c j = some t) :
    t.finite = true := by
  obtain ⟨f, hf, rfl⟩ := Option.map_eq_some_iff.1 h
  cases f
  exact j.finite_reading.field hf

theorem Node.finite_of_ofJson? {j : Json} {n : Node} (h : ofJson? j = some n) :
    n.finite = true := by
  unfold ofJson? at h
  split at h
  · obtain ⟨c, -, h⟩ := Option.bind_eq_some_iff.1 h
    split at h
    · obtain ⟨t, ht, rfl⟩ := Option.map_eq_some_iff.1 h
      rw [Node.finite_eq]
      exact Tree.finite_of_ofJson? ht
    · cases h
  · cases h

/-! ## Faithful formats -/

/-- A written form and its reader belong together, for values with doubles at known places. -/
structure Faithful {α : Type} (write : α → Json) (read? : Json → Option α)
    (doubles : α → List Placed) : Prop where
  /-- A value whose doubles are all finite is read back as it was. -/
  reads : ∀ v, (∀ x ∈ doubles v, x.double.isFinite = true) → read? (write v) = some v
  /-- Any other double is written as null in its place, and then nothing is read back. -/
  refuses : ∀ v, ∀ x ∈ doubles v, x.double.isFinite = false →
    (write v).at? x.path = some .null ∧ read? (write v) = none
  /-- Values whose doubles are all finite are not written alike. -/
  distinguishes : ∀ v w, (∀ x ∈ doubles v, x.double.isFinite = true) →
    (∀ x ∈ doubles w, x.double.isFinite = true) → write v = write w → v = w
  /-- What is read from any spelling at all, is read again from the written form. -/
  rereads : ∀ j v, read? j = some v → read? (write v) = some v

theorem allFinite_iff {xs : List Placed} :
    allFinite xs = true ↔ ∀ x ∈ xs, x.double.isFinite = true := List.all_eq_true

theorem Faithful.of_read_write {α : Type} {write : α → Json} {read? : Json → Option α}
    {doubles : α → List Placed}
    (read_write : ∀ v, read? (write v) = if allFinite (doubles v) then some v else none)
    (shows : ∀ v, ∀ x ∈ doubles v, (write v).Shows x)
    (finite : ∀ j v, read? j = some v → allFinite (doubles v) = true) :
    Faithful write read? doubles where
  reads v hv := by
    rw [read_write, if_pos (allFinite_iff.2 hv)]
  refuses v x hx infinite := by
    have notAll : ¬allFinite (doubles v) = true := fun h => by
      rw [allFinite_iff.1 h x hx] at infinite
      cases infinite
    exact ⟨Double.toJson_of_not_finite infinite ▸ shows v x hx, by rw [read_write, if_neg notAll]⟩
  distinguishes v w hv hw same := by
    have first : read? (write v) = some v := by rw [read_write, if_pos (allFinite_iff.2 hv)]
    have second : read? (write w) = some w := by rw [read_write, if_pos (allFinite_iff.2 hw)]
    rw [same, second] at first
    exact (Option.some.inj first).symm
  rereads j v h := by
    rw [read_write, if_pos (finite j v h)]

/-- The JSON format of every sort of value: scalars, trees of any category, and nodes. -/
theorem json_round_trip :
    (∀ a : Atom, Faithful a.encode a.decode a.doubles) ∧
    (∀ c : Category, Faithful (fun t : Tree c => t.toJson) (Tree.ofJson? c) Tree.doubles) ∧
    Faithful Node.toJson Node.ofJson? Node.doubles :=
  ⟨fun a => .of_read_write (fun v => by rw [a.decode_encode, a.allFinite_doubles])
      (fun _ _ => Atom.shows) (fun _ v h => by rw [a.allFinite_doubles, a.finite_of_decode h]),
    fun _ => .of_read_write Tree.ofJson?_toJson Tree.shows fun _ _ => Tree.finite_of_ofJson?,
    .of_read_write Node.ofJson?_toJson (fun _ _ => Node.shows) fun _ _ => Node.finite_of_ofJson?⟩

end SqlTrees
