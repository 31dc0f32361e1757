import Mathlib.Data.List.Nodup
import SqlTrees.Pipeline

/-! # What is stored in a pipeline

* `Pipeline.Holds`, `Pipeline.Registered`: a transform is in some slot; an id is that of one that is.
* `Pipeline.Gained`, `Pipeline.Lost`: all that adding and removing change, apart from the list of
  free slots.
* `Pipeline.Arrived`: what holds of a pipeline whose transforms were registered in a given order of
  ids. Slots, free slots and edges agree with each other, and an edge leads from an earlier arrival
  to a later one that lists it as a dependency. The slots say nothing about that order, since the
  slot of a removed transform is used again.
* `Pipeline.Arrived.add`, `Pipeline.Arrived.remove`: registering a transform puts its id last in the
  order, removing one takes its id out.
* `Pipeline.Arrived.slotOf?_of_add`, `Pipeline.Arrived.slotOf?_of_remove`: all other ids are found
  where they were.
-/

namespace SqlTrees.Pipeline
set_option autoImplicit false

variable {ε : Type} {p q : Pipeline ε} {t u : Transform ε} {id : String}

/-- A transform is in some slot. -/
def Holds (p : Pipeline ε) (t : Transform ε) : Prop :=
  ∃ slot, p.at? slot = some t

/-- An id is that of a transform in some slot. -/
def Registered (p : Pipeline ε) (id : String) : Prop :=
  ∃ t, p.Holds t ∧ t.id = id

/-! ## Pairs in a list -/

section Pairs
variable {α : Type} {a b c : α} {l before after : List α}

theorem pair_sublist_of_concat (h : [a, b].Sublist (l ++ [c])) (hne : b ≠ c) :
    [a, b].Sublist l := by
  obtain ⟨left, right, hlr, hl, hr⟩ := List.sublist_append_iff.mp h
  rcases List.sublist_singleton.mp hr with rfl | rfl
  · rw [List.append_nil] at hlr
    rw [hlr]
    exact hl
  · have hlast := congrArg List.getLast? hlr
    simp at hlast
    exact absurd hlast hne

/-- In a list without repetitions, what has a given entry after it stands before that entry. -/
theorem mem_of_pair_sublist (hn : (before ++ b :: after).Nodup)
    (h : [a, b].Sublist (before ++ b :: after)) : a ∈ before := by
  induction before with
  | nil =>
    have hb : b ∉ after := (List.nodup_cons.mp hn).1
    cases h with
    | cons _ h => exact absurd (h.subset (by simp)) hb
    | cons_cons _ h => exact absurd (h.subset (by simp)) hb
  | cons c before ih =>
    cases h with
    | cons _ h => exact List.mem_cons_of_mem c (ih (List.nodup_cons.mp hn).2 h)
    | cons_cons _ h => exact List.mem_cons_self

theorem pair_sublist_erase [BEq α] [LawfulBEq α] (ha : a ≠ c) (hb : b ≠ c)
    (h : [a, b].Sublist l) : [a, b].Sublist (l.erase c) := by
  have herase := h.erase c
  rwa [List.erase_of_not_mem (by simp [ha.symm, hb.symm])] at herase

theorem idxOf_lt_of_pair_sublist [BEq α] [LawfulBEq α] (hn : l.Nodup) (h : [a, b].Sublist l) :
    l.idxOf a < l.idxOf b := by
  have hb : b ∈ l := h.subset (by simp)
  obtain ⟨before, after, rfl⟩ := List.append_of_mem hb
  have ha : a ∈ before := mem_of_pair_sublist hn h
  have hb : b ∉ before := fun hb => (List.nodup_append.mp hn).2.2 b hb b List.mem_cons_self rfl
  rw [List.idxOf_append_of_mem ha, List.idxOf_append_of_notMem hb]
  have := List.idxOf_lt_length_of_mem ha
  omega

/-- A pair among the values of a function comes from a pair of entries. -/
theorem pair_sublist_map {β : Type} {f : β → α} {l : List β} (h : [a, b].Sublist (l.map f)) :
    ∃ xs x ys y zs, l = xs ++ x :: ys ++ y :: zs ∧ f x = a ∧ f y = b := by
  obtain ⟨left, right, hlr, ha, hb⟩ := List.cons_sublist_iff.mp h
  obtain ⟨left, right, rfl, rfl, rfl⟩ := List.map_eq_append_iff.mp hlr
  obtain ⟨x, hx, rfl⟩ := List.mem_map.mp ha
  obtain ⟨y, hy, rfl⟩ := List.mem_map.mp (List.singleton_sublist.mp hb)
  obtain ⟨xs, ys, rfl⟩ := List.append_of_mem hx
  obtain ⟨us, zs, rfl⟩ := List.append_of_mem hy
  exact ⟨xs, x, ys ++ us, y, zs, by simp, rfl, rfl⟩

end Pairs

/-! ## Slots -/

theorem lt_of_at?_eq_some {slot : Nat} (h : p.at? slot = some t) : slot < p.slots.length := by
  by_contra hlt
  rw [at?, List.getElem?_eq_none (by omega)] at h
  cases h

theorem at?_of_slots_set {slot : Nat} {x : Option (Transform ε)} (hlt : slot < p.slots.length)
    (hq : q.slots = p.slots.set slot x) (i : Nat) :
    q.at? i = if i = slot then x else p.at? i := by
  rw [at?, at?, hq]
  by_cases hi : i = slot
  · subst hi
    rw [if_pos rfl, List.getElem?_set_self hlt, Option.join_some]
  · rw [if_neg hi, List.getElem?_set_ne (Ne.symm hi)]

theorem at?_of_slots_append {x : Option (Transform ε)} (hq : q.slots = p.slots ++ [x]) (i : Nat) :
    q.at? i = if i = p.slots.length then x else p.at? i := by
  rw [at?, at?, hq]
  by_cases hi : i = p.slots.length
  · subst hi
    rw [if_pos rfl, List.getElem?_concat_length, Option.join_some]
  · rw [if_neg hi]
    rcases Nat.lt_or_gt_of_ne hi with hlt | hgt
    · rw [List.getElem?_append_left hlt]
    · rw [List.getElem?_eq_none (by simp; omega), List.getElem?_eq_none (by omega)]

theorem at?_of_slotOf? {slot : Nat} (h : p.slotOf? id = some slot) :
    ∃ t, p.at? slot = some t ∧ t.id = id := by
  obtain ⟨hlt, ht, -⟩ := List.findIdx?_eq_some_iff_getElem.mp h
  obtain ⟨t, hs, hid⟩ : ∃ t, p.slots[slot] = some t ∧ t.id = id := by
    simpa [Option.any_eq_true] using ht
  exact ⟨t, by rw [at?, List.getElem?_eq_getElem hlt, hs, Option.join_some], hid⟩

theorem slotOf?_eq_none_iff : p.slotOf? id = none ↔ ¬ p.Registered id := by
  rw [slotOf?, List.findIdx?_eq_none_iff]
  constructor
  · rintro h ⟨t, ⟨slot, hs⟩, hid⟩
    have hm : some t ∈ p.slots := by
      rw [at?, Option.join_eq_some_iff] at hs
      exact List.mem_of_getElem? hs
    have := h (some t) hm
    simp [hid] at this
  · intro h x hx
    cases x with
    | none => rfl
    | some t =>
      obtain ⟨slot, hs⟩ := List.getElem?_of_mem hx
      have hid : t.id ≠ id := fun e => h ⟨t, ⟨slot, by rw [at?, hs, Option.join_some]⟩, e⟩
      simpa using hid

theorem registered_iff : p.Registered id ↔ (p.slotOf? id).isSome = true := by
  rw [Option.isSome_iff_ne_none, ne_eq, slotOf?_eq_none_iff, not_not]

instance (p : Pipeline ε) (id : String) : Decidable (p.Registered id) :=
  decidable_of_iff _ registered_iff.symm

theorem resolve_eq_ok {ids : List String} {sources : List Nat} (h : p.resolve ids = .ok sources) :
    ids.map p.slotOf? = sources.map some := by
  induction ids generalizing sources with
  | nil =>
    cases h
    rfl
  | cons id ids ih =>
    cases hs : p.slotOf? id with
    | none =>
      simp only [resolve, hs] at h
      cases h
    | some slot =>
      cases hr : p.resolve ids with
      | error d =>
        simp only [resolve, hs, hr] at h
        cases h
      | ok rest =>
        simp only [resolve, hs, hr] at h
        cases h
        rw [List.map_cons, hs, ih hr, List.map_cons]

/-! ## What adding and removing do -/

theorem add_eq_ok (h : p.add t = .ok q) :
    ¬ p.Registered t.id ∧ ∃ sources : List Nat,
      t.dependencies.map p.slotOf? = sources.map some ∧ q = { (p.place t).2 with
        edges := (sources.map fun source => ⟨source, (p.place t).1⟩).reverse ++
          (p.place t).2.edges } := by
  rw [add] at h
  by_cases hs : (p.slotOf? t.id).isSome = true
  · rw [if_pos hs] at h
    cases h
  · rw [if_neg hs] at h
    refine ⟨fun hr => hs (registered_iff.mp hr), ?_⟩
    cases hd : p.resolve t.dependencies with
    | error d =>
      rw [hd] at h
      cases h
    | ok sources =>
      rw [hd] at h
      cases h
      exact ⟨sources, resolve_eq_ok hd, rfl⟩

theorem remove_eq_some (h : p.remove id = some (t, q)) :
    ∃ slot, p.at? slot = some t ∧ t.id = id ∧
      q = { slots := p.slots.set slot none
            free := slot :: p.free
            edges := p.edges.filter fun e => e.source ≠ slot && e.target ≠ slot } := by
  cases hs : p.slotOf? id with
  | none =>
    rw [remove, hs] at h
    cases h
  | some slot =>
    obtain ⟨u, hu, hid⟩ := at?_of_slotOf? hs
    rw [remove, hs, Option.bind_eq_bind, Option.bind_some, hu] at h
    cases h
    exact ⟨slot, hu, hid, rfl⟩

/-- What a pipeline gains with a transform. -/
structure Gained (p : Pipeline ε) (t : Transform ε) (slot : Nat) (q : Pipeline ε) : Prop where
  fresh : ¬ p.Registered t.id
  known : ∀ d ∈ t.dependencies, p.Registered d
  at_iff : ∀ i u, q.at? i = some u ↔ i = slot ∧ u = t ∨ p.at? i = some u
  edge_iff : ∀ e, e ∈ q.edges ↔
    e.target = slot ∧ (∃ d ∈ t.dependencies, p.slotOf? d = some e.source) ∨ e ∈ p.edges

theorem Gained.holds_iff {slot : Nat} (g : Gained p t slot q) :
    q.Holds u ↔ u = t ∨ p.Holds u := by
  constructor
  · rintro ⟨i, hi⟩
    rcases (g.at_iff i u).mp hi with ⟨-, rfl⟩ | hi
    · exact Or.inl rfl
    · exact Or.inr ⟨i, hi⟩
  · rintro (rfl | ⟨i, hi⟩)
    · exact ⟨slot, (g.at_iff slot u).mpr (Or.inl ⟨rfl, rfl⟩)⟩
    · exact ⟨i, (g.at_iff i u).mpr (Or.inr hi)⟩

theorem Gained.id_ne {slot i : Nat} (g : Gained p t slot q) (hi : p.at? i = some u) :
    u.id ≠ t.id :=
  fun e => g.fresh ⟨u, ⟨i, hi⟩, e⟩

/-- What a pipeline loses with the transform of a given id. -/
structure Lost (p : Pipeline ε) (id : String) (slot : Nat) (q : Pipeline ε) : Prop where
  at_iff : ∀ i u, q.at? i = some u ↔ p.at? i = some u ∧ i ≠ slot
  id_iff : ∀ i u, p.at? i = some u → (u.id = id ↔ i = slot)
  edge_iff : ∀ e, e ∈ q.edges ↔ e ∈ p.edges ∧ e.source ≠ slot ∧ e.target ≠ slot

theorem Lost.holds_iff {slot : Nat} (l : Lost p id slot q) :
    q.Holds u ↔ p.Holds u ∧ u.id ≠ id := by
  constructor
  · rintro ⟨i, hi⟩
    obtain ⟨hi, hs⟩ := (l.at_iff i u).mp hi
    exact ⟨⟨i, hi⟩, fun e => hs ((l.id_iff i u hi).mp e)⟩
  · rintro ⟨⟨i, hi⟩, hne⟩
    exact ⟨i, (l.at_iff i u).mpr ⟨hi, fun e => hne ((l.id_iff i u hi).mpr e)⟩⟩

/-! ## Pipelines with an order of arrival -/

/-- The transforms of a pipeline arrived in the order of `ids`, and its parts agree. -/
structure Arrived (p : Pipeline ε) (ids : List String) : Prop where
  nodup : ids.Nodup
  mem_iff : ∀ id, id ∈ ids ↔ p.Registered id
  unique : ∀ i j t u, p.at? i = some t → p.at? j = some u → t.id = u.id → i = j
  mem_free : ∀ i, i ∈ p.free ↔ i < p.slots.length ∧ p.at? i = none
  nodup_free : p.free.Nodup
  /-- Every edge is a dependency, and leads to a later arrival. -/
  edge : ∀ e ∈ p.edges, ∃ t u, p.at? e.source = some t ∧ p.at? e.target = some u ∧
    t.id ∈ u.dependencies ∧ [t.id, u.id].Sublist ids
  /-- Every dependency on an earlier arrival is an edge. -/
  lasting : ∀ i j t u, p.at? i = some t → p.at? j = some u → t.id ∈ u.dependencies →
    [t.id, u.id].Sublist ids → (⟨i, j⟩ : Edge) ∈ p.edges

theorem arrived_empty : (empty : Pipeline ε).Arrived [] := by
  have hat : ∀ i, (empty : Pipeline ε).at? i = none := fun i => by simp [at?, empty]
  refine ⟨List.nodup_nil, ?_, ?_, ?_, List.nodup_nil, ?_, ?_⟩
  · intro id
    simp [Registered, Holds, hat]
  · intro i j t u h
    rw [hat] at h
    cases h
  · intro i
    simp [empty]
  · intro e he
    cases he
  · intro i j t u h
    rw [hat] at h
    cases h

namespace Arrived
variable {ids : List String} (h : p.Arrived ids)
include h

theorem slotOf?_of_at? {slot : Nat} (ht : p.at? slot = some t) : p.slotOf? t.id = some slot := by
  cases hs : p.slotOf? t.id with
  | none => exact absurd ⟨t, ⟨slot, ht⟩, rfl⟩ (slotOf?_eq_none_iff.mp hs)
  | some i =>
    obtain ⟨u, hu, hid⟩ := at?_of_slotOf? hs
    rw [h.unique i slot u t hu ht hid]

theorem slotOf?_eq_some_iff {slot : Nat} (ht : p.at? slot = some t) (id : String) :
    p.slotOf? id = some slot ↔ id = t.id := by
  constructor
  · intro found
    obtain ⟨u, hu, rfl⟩ := at?_of_slotOf? found
    rw [ht] at hu
    rw [Option.some.inj hu]
  · rintro rfl
    exact h.slotOf?_of_at? ht

theorem holds_unique (ht : p.Holds t) (hu : p.Holds u) (hid : t.id = u.id) : t = u := by
  obtain ⟨i, hi⟩ := ht
  obtain ⟨j, hj⟩ := hu
  obtain rfl := h.unique i j t u hi hj hid
  rw [hi] at hj
  exact Option.some.inj hj

theorem free_head {slot : Nat} {rest : List Nat} (hf : p.free = slot :: rest) :
    slot < p.slots.length ∧ p.at? slot = none := by
  rw [← h.mem_free slot, hf]
  exact List.mem_cons_self

/-! ## Registering a transform -/

/-- The slot that a transform is put into, and the pipeline with the transform in it. -/
theorem place_spec (t : Transform ε) :
    p.at? (p.place t).1 = none ∧
      (∀ i, (p.place t).2.at? i = if i = (p.place t).1 then some t else p.at? i) ∧
      (p.place t).2.edges = p.edges ∧
      (∀ i, i ∈ (p.place t).2.free ↔
        i < (p.place t).2.slots.length ∧ (p.place t).2.at? i = none) ∧
      (p.place t).2.free.Nodup := by
  cases hf : p.free with
  | nil =>
    have hat := at?_of_slots_append (p := p)
      (q := { p with slots := p.slots ++ [some t], free := [] }) rfl
    have hnone : p.at? p.slots.length = none := by
      rw [at?, List.getElem?_eq_none (Nat.le_refl _), Option.join_none]
    simp only [place, hf]
    refine ⟨hnone, hat, trivial, ?_, hf ▸ List.nodup_nil⟩
    intro i
    have hi := h.mem_free i
    rw [hf] at hi
    rw [hat i, List.length_append, List.length_singleton]
    by_cases he : i = p.slots.length
    · simp [he]
    · rw [if_neg he, hi]
      constructor
      · rintro ⟨hlt, hn⟩
        exact ⟨by omega, hn⟩
      · rintro ⟨hlt, hn⟩
        exact ⟨by omega, hn⟩
  | cons slot free =>
    obtain ⟨hlt, hnone⟩ := h.free_head hf
    have hat := at?_of_slots_set (p := p)
      (q := { p with slots := p.slots.set slot (some t), free := free }) hlt rfl
    have hnd := h.nodup_free
    rw [hf, List.nodup_cons] at hnd
    simp only [place, hf]
    refine ⟨hnone, hat, trivial, ?_, hnd.2⟩
    intro i
    have hi := h.mem_free i
    rw [hf, List.mem_cons] at hi
    rw [hat i, List.length_set]
    by_cases he : i = slot
    · subst he
      simp [hnd.1]
    · rw [if_neg he, ← hi]
      simp [he]

theorem gained (ha : p.add t = .ok q) :
    (∃ slot, Gained p t slot q) ∧ (∀ i, i ∈ q.free ↔ i < q.slots.length ∧ q.at? i = none) ∧
      q.free.Nodup := by
  obtain ⟨hnew, sources, hsources, rfl⟩ := add_eq_ok ha
  obtain ⟨hnone, hat, hedges, hfree, hnodup⟩ := h.place_spec t
  have hmem : ∀ i, i ∈ sources ↔ ∃ d ∈ t.dependencies, p.slotOf? d = some i := by
    intro i
    have hi : some i ∈ sources.map some ↔ i ∈ sources := by simp
    rw [← hi, ← hsources, List.mem_map]
  refine ⟨⟨(p.place t).1, hnew, ?_, ?_, ?_⟩, hfree, hnodup⟩
  · intro d hd
    have hd : p.slotOf? d ∈ sources.map some := by
      rw [← hsources]
      exact List.mem_map_of_mem hd
    obtain ⟨i, -, hi⟩ := List.mem_map.mp hd
    rw [registered_iff, ← hi]
    rfl
  · intro i u
    have hi := hat i
    rw [at?] at hi ⊢
    rw [hi]
    by_cases he : i = (p.place t).1
    · rw [if_pos he, he, hnone]
      simp [eq_comm]
    · rw [if_neg he]
      simp [he]
  · rintro ⟨i, j⟩
    rw [hedges, List.mem_append, List.mem_reverse, List.mem_map]
    constructor
    · rintro (⟨k, hk, he⟩ | he)
      · cases he
        exact Or.inl ⟨rfl, (hmem i).mp hk⟩
      · exact Or.inr he
    · rintro (⟨rfl, hd⟩ | he)
      · exact Or.inl ⟨i, (hmem i).mpr hd, rfl⟩
      · exact Or.inr he

theorem add (ha : p.add t = .ok q) : q.Arrived (ids ++ [t.id]) := by
  obtain ⟨⟨slot, g⟩, hfree, hnodup⟩ := h.gained ha
  have hslot : q.at? slot = some t := (g.at_iff slot t).mpr (Or.inl ⟨rfl, rfl⟩)
  have hold : ∀ {i u}, p.at? i = some u → q.at? i = some u :=
    fun hi => (g.at_iff _ _).mpr (Or.inr hi)
  refine ⟨?_, ?_, ?_, hfree, hnodup, ?_, ?_⟩
  · rw [List.nodup_append_comm, List.singleton_append, List.nodup_cons, h.mem_iff]
    exact ⟨g.fresh, h.nodup⟩
  · intro id
    rw [List.mem_append, List.mem_singleton, h.mem_iff]
    constructor
    · rintro (⟨u, hu, hid⟩ | rfl)
      · exact ⟨u, g.holds_iff.mpr (Or.inr hu), hid⟩
      · exact ⟨t, ⟨slot, hslot⟩, rfl⟩
    · rintro ⟨u, hu, rfl⟩
      rcases g.holds_iff.mp hu with rfl | hu
      · exact Or.inr rfl
      · exact Or.inl ⟨u, hu, rfl⟩
  · intro i j a b hi hj hid
    rcases (g.at_iff i a).mp hi with ⟨rfl, rfl⟩ | hi <;>
      rcases (g.at_iff j b).mp hj with ⟨rfl, rfl⟩ | hj
    · rfl
    · exact absurd hid.symm (g.id_ne hj)
    · exact absurd hid (g.id_ne hi)
    · exact h.unique i j a b hi hj hid
  · rintro ⟨i, j⟩ he
    rcases (g.edge_iff _).mp he with ⟨rfl, d, hd, hs⟩ | he
    · obtain ⟨a, ha, rfl⟩ := at?_of_slotOf? hs
      have hm : a.id ∈ ids := (h.mem_iff a.id).mpr ⟨a, ⟨i, ha⟩, rfl⟩
      exact ⟨a, t, hold ha, hslot, hd, (List.singleton_sublist.mpr hm).append_right [t.id]⟩
    · obtain ⟨a, b, hi, hj, hd, hab⟩ := h.edge _ he
      exact ⟨a, b, hold hi, hold hj, hd, hab.trans (List.sublist_append_left ids [t.id])⟩
  · intro i j a b hi hj hd hab
    rcases (g.at_iff j b).mp hj with ⟨rfl, rfl⟩ | hj
    · rcases (g.at_iff i a).mp hi with ⟨-, rfl⟩ | hi
      · exact absurd (g.known a.id hd) g.fresh
      · exact (g.edge_iff _).mpr (Or.inl ⟨rfl, a.id, hd, h.slotOf?_of_at? hi⟩)
    · have hab : [a.id, b.id].Sublist ids := pair_sublist_of_concat hab (g.id_ne hj)
      rcases (g.at_iff i a).mp hi with ⟨-, ha⟩ | hi
      · have hr : p.Registered a.id := (h.mem_iff a.id).mp (hab.subset List.mem_cons_self)
        rw [ha] at hr
        exact absurd hr g.fresh
      · exact (g.edge_iff _).mpr (Or.inr (h.lasting i j a b hi hj hd hab))

/-! ## Removing a transform -/

theorem lost (hr : p.remove id = some (t, q)) :
    (∃ slot, Lost p id slot q) ∧ (∀ i, i ∈ q.free ↔ i < q.slots.length ∧ q.at? i = none) ∧
      q.free.Nodup := by
  obtain ⟨slot, hslot, hid, hq⟩ := remove_eq_some hr
  have hlt : slot < p.slots.length := lt_of_at?_eq_some hslot
  have hat : ∀ i, q.at? i = if i = slot then none else p.at? i :=
    at?_of_slots_set hlt (by rw [hq])
  have hfree : q.free = slot :: p.free := by rw [hq]
  have hlen : q.slots.length = p.slots.length := by rw [hq, List.length_set]
  refine ⟨⟨slot, ?_, ?_, ?_⟩, ?_, ?_⟩
  · intro i u
    rw [hat]
    by_cases hi : i = slot
    · simp [hi]
    · simp [hi]
  · intro i u hi
    constructor
    · exact fun e => h.unique i slot u t hi hslot (e.trans hid.symm)
    · rintro rfl
      rw [hslot] at hi
      rw [← Option.some.inj hi, hid]
  · intro e
    simp [hq]
  · intro i
    rw [hfree, List.mem_cons, h.mem_free, hlen, hat]
    by_cases hi : i = slot
    · simp [hi, hlt]
    · simp [hi]
  · rw [hfree, List.nodup_cons, h.mem_free, hslot]
    exact ⟨by simp, h.nodup_free⟩

theorem remove (hr : p.remove id = some (t, q)) : q.Arrived (ids.erase id) := by
  obtain ⟨⟨slot, l⟩, hfree, hnodup⟩ := h.lost hr
  refine ⟨h.nodup.erase id, ?_, ?_, hfree, hnodup, ?_, ?_⟩
  · intro a
    rw [h.nodup.mem_erase_iff, h.mem_iff]
    constructor
    · rintro ⟨hne, u, hu, rfl⟩
      exact ⟨u, l.holds_iff.mpr ⟨hu, hne⟩, rfl⟩
    · rintro ⟨u, hu, rfl⟩
      obtain ⟨hu, hne⟩ := l.holds_iff.mp hu
      exact ⟨hne, u, hu, rfl⟩
  · intro i j a b hi hj
    exact h.unique i j a b ((l.at_iff i a).mp hi).1 ((l.at_iff j b).mp hj).1
  · intro e he
    obtain ⟨he, hs, ht⟩ := (l.edge_iff e).mp he
    obtain ⟨a, b, hi, hj, hd, hab⟩ := h.edge e he
    have ha : a.id ≠ id := fun e => hs ((l.id_iff _ a hi).mp e)
    have hb : b.id ≠ id := fun e => ht ((l.id_iff _ b hj).mp e)
    exact ⟨a, b, (l.at_iff _ a).mpr ⟨hi, hs⟩, (l.at_iff _ b).mpr ⟨hj, ht⟩, hd,
      pair_sublist_erase ha hb hab⟩
  · intro i j a b hi hj hd hab
    obtain ⟨hi, hsi⟩ := (l.at_iff i a).mp hi
    obtain ⟨hj, hsj⟩ := (l.at_iff j b).mp hj
    exact (l.edge_iff _).mpr
      ⟨h.lasting i j a b hi hj hd (hab.trans List.erase_sublist), hsi, hsj⟩

/-! ## Where ids are found afterwards -/
theorem slotOf?_of_add (added : p.add t = .ok q) (id : String) :
    q.slotOf? id = if id = t.id then some (p.place t).1 else p.slotOf? id := by
  have hq : q.Arrived (ids ++ [t.id]) := h.add added
  obtain ⟨⟨slot, gained⟩, -⟩ := h.gained added
  by_cases hid : id = t.id
  · subst hid
    obtain ⟨-, sources, -, rfl⟩ := add_eq_ok added
    have placed := (h.place_spec t).2.1 (p.place t).1
    rw [if_pos rfl] at placed ⊢
    exact hq.slotOf?_of_at? placed
  · rw [if_neg hid]
    cases hs : p.slotOf? id with
    | some i =>
      obtain ⟨u, hu, rfl⟩ := at?_of_slotOf? hs
      exact hq.slotOf?_of_at? ((gained.at_iff i u).2 (.inr hu))
    | none =>
      rw [slotOf?_eq_none_iff] at hs ⊢
      rintro ⟨u, hu, rfl⟩
      rcases gained.holds_iff.1 hu with rfl | hu
      · exact hid rfl
      · exact hs ⟨u, hu, rfl⟩

theorem slotOf?_of_remove {d : String} (removed : p.remove d = some (t, q)) (id : String) :
    q.slotOf? id = if id = d then none else p.slotOf? id := by
  have hq : q.Arrived (ids.erase d) := h.remove removed
  obtain ⟨⟨slot, lost⟩, -⟩ := h.lost removed
  by_cases hid : id = d
  · subst hid
    rw [if_pos rfl, slotOf?_eq_none_iff]
    rintro ⟨u, hu, hid⟩
    exact (lost.holds_iff.1 hu).2 hid
  · rw [if_neg hid]
    cases hs : p.slotOf? id with
    | some i =>
      obtain ⟨u, hu, rfl⟩ := at?_of_slotOf? hs
      have other : i ≠ slot := mt (lost.id_iff i u hu).2 hid
      exact hq.slotOf?_of_at? ((lost.at_iff i u).2 ⟨hu, other⟩)
    | none =>
      rw [slotOf?_eq_none_iff] at hs ⊢
      rintro ⟨u, hu, rfl⟩
      exact hs ⟨u, (lost.holds_iff.1 hu).1, rfl⟩

end Arrived
end SqlTrees.Pipeline
