import Mathlib.Logic.Relation
import SqlTrees.Proofs.Pipeline.Registry

/-! # How the parts of a registry fit together

Slots are used again, so their numbers say nothing about the age of what is in them. What orders the
edges is when the transforms were added.

* `Pipeline.Parallel`: as many edges lead from one slot to another as the second transform names the
  first.
* `Registry.AddedAt`: a transform was added by the call at a given place of a sequence, and has been
  registered since. One that is added again has the later place.
* `Registry.Dated`: every transform has such a place, and edges lead from earlier places to later
  ones. Each call keeps it so (`Registry.Dated.concat`).
* `Registry.Coherent`: all that holds between index, slots, free slots, edges and places.
* `Registry.coherent_after`: it holds after any calls.
-/

namespace SqlTrees
set_option autoImplicit false

/-! ## Parallel edges -/

namespace Pipeline
variable {ε : Type} {p q : Pipeline ε} {t a : Transform ε} {ids : List String}

/-- There are as many edges from one slot to another as the transform in the second names that in
the first, if there are any. -/
def Parallel (p : Pipeline ε) : Prop :=
  ∀ e ∈ p.edges, ∀ t u, p.at? e.source = some t → p.at? e.target = some u →
    p.edges.count e = u.dependencies.count t.id

/-- A slot is found as often as its transform is named. -/
theorem Arrived.count_sources (h : p.Arrived ids) {names : List String} {sources : List Nat}
    (found : names.map p.slotOf? = sources.map some) {i : Nat} (hi : p.at? i = some a) :
    sources.count i = names.count a.id := by
  calc sources.count i
      = (names.map p.slotOf?).count (some i) := by
        rw [found, List.count_map_of_injective sources some (Option.some_injective Nat)]
    _ = names.count a.id := by
        rw [List.count, List.countP_map, List.count]
        refine List.countP_congr ?_
        intro d _
        simp [h.slotOf?_eq_some_iff hi]

theorem count_edges_into (sources : List Nat) (slot : Nat) (e : Edge) :
    (sources.map fun source => (⟨source, slot⟩ : Edge)).count e =
      if e.target = slot then sources.count e.source else 0 := by
  obtain ⟨i, j⟩ := e
  by_cases hj : j = slot
  · subst hj
    have injective : Function.Injective fun source => (⟨source, j⟩ : Edge) := by
      intro a b hab
      cases hab
      rfl
    rw [if_pos rfl]
    exact List.count_map_of_injective sources _ injective i
  · rw [if_neg hj, List.count_eq_zero]
    intro mem
    obtain ⟨source, -, he⟩ := List.mem_map.1 mem
    cases he
    exact hj rfl

/-- The new edges lead into a slot that was free, from where the dependencies are found. -/
theorem Arrived.edges_of_add (h : p.Arrived ids) (added : p.add t = .ok q) :
    ∃ (slot : Nat) (sources : List Nat), p.at? slot = none ∧
      (∀ i, q.at? i = if i = slot then some t else p.at? i) ∧
      t.dependencies.map p.slotOf? = sources.map some ∧
      q.edges = (sources.map fun source => ⟨source, slot⟩).reverse ++ p.edges := by
  obtain ⟨-, sources, found, rfl⟩ := add_eq_ok added
  obtain ⟨vacant, held, edges, -⟩ := h.place_spec t
  exact ⟨(p.place t).1, sources, vacant, held, found, by rw [edges]⟩

theorem Arrived.parallel_of_add (h : p.Arrived ids) (parallel : p.Parallel)
    (added : p.add t = .ok q) : q.Parallel := by
  obtain ⟨slot, sources, vacant, held, found, edges⟩ := h.edges_of_add added
  have apart : ∀ {i b}, p.at? i = some b → i ≠ slot := by
    rintro i b hb rfl
    rw [vacant] at hb
    cases hb
  intro e he a u ha hu
  have count : q.edges.count e =
      (if e.target = slot then sources.count e.source else 0) + p.edges.count e := by
    rw [edges, List.count_append, List.count_reverse, count_edges_into]
  rw [count]
  rw [held] at ha hu
  rw [edges, List.mem_append, List.mem_reverse, List.mem_map] at he
  rcases he with ⟨source, mem, rfl⟩ | he
  · -- nothing led into the slot before, so its edges are those for the names
    have none_before : p.edges.count ⟨source, slot⟩ = 0 := by
      rw [List.count_eq_zero]
      intro he
      obtain ⟨-, b, -, hb, -⟩ := h.edge _ he
      exact apart hb rfl
    obtain ⟨d, -, hd⟩ : ∃ d ∈ t.dependencies, p.slotOf? d = some source := by
      rw [← List.mem_map, found]
      exact List.mem_map_of_mem mem
    obtain ⟨b, hb, -⟩ := at?_of_slotOf? hd
    rw [if_neg (apart hb)] at ha
    rw [if_pos rfl] at hu ⊢
    rw [none_before, Nat.add_zero, h.count_sources found ha, Option.some.inj hu]
  · obtain ⟨b, c, hb, hc, -⟩ := h.edge e he
    rw [if_neg (apart hb)] at ha
    rw [if_neg (apart hc)] at hu ⊢
    rw [Nat.zero_add]
    exact parallel e he a u ha hu

theorem Arrived.parallel_of_remove (h : p.Arrived ids) (parallel : p.Parallel) {id : String}
    (removed : p.remove id = some (t, q)) : q.Parallel := by
  obtain ⟨⟨slot, lost⟩, -⟩ := h.lost removed
  obtain ⟨taken, -, -, left⟩ := remove_eq_some removed
  have edges : q.edges = p.edges.filter fun e => e.source ≠ taken && e.target ≠ taken :=
    congrArg Pipeline.edges left
  intro e he a u ha hu
  rw [edges, List.mem_filter] at he
  have kept : q.edges.count e = p.edges.count e := by
    rw [edges]
    exact List.count_filter he.2
  rw [kept]
  exact parallel e he.1 a u ((lost.at_iff _ a).1 ha).1 ((lost.at_iff _ u).1 hu).1

/-! ## Slots and paths -/

theorem Arrived.used_append_free (h : p.Arrived ids) :
    (p.used ++ p.free).Perm (List.range p.slots.length) := by
  have disjoint : ∀ i ∈ p.used, ∀ j ∈ p.free, i ≠ j := by
    rintro i used i free rfl
    obtain ⟨t, ht⟩ := mem_used.1 used
    rw [((h.mem_free i).1 free).2] at ht
    cases ht
  have nodup : (p.used ++ p.free).Nodup := List.nodup_append.2 ⟨nodup_used, h.nodup_free, disjoint⟩
  rw [List.perm_ext_iff_of_nodup nodup List.nodup_range]
  intro i
  rw [List.mem_append, mem_used, h.mem_free, List.mem_range]
  constructor
  · rintro (⟨t, ht⟩ | free)
    · exact lt_of_at?_eq_some ht
    · exact free.1
  · intro lt
    cases ht : p.at? i with
    | some t => exact .inl ⟨t, rfl⟩
    | none => exact .inr ⟨lt, rfl⟩

theorem Arrived.acyclic (h : p.Arrived ids) (slot : Nat) :
    ¬ Relation.TransGen (fun i j => ⟨i, j⟩ ∈ p.edges) slot slot := by
  have later : ∀ {i j}, Relation.TransGen (fun i j => ⟨i, j⟩ ∈ p.edges) i j →
      ids.idxOf ((p.at? i).elim "" Transform.id) < ids.idxOf ((p.at? j).elim "" Transform.id) := by
    intro i j path
    induction path with
    | single edge => exact h.rank_lt (mem_successors.2 edge)
    | tail _ edge ih => exact ih.trans (h.rank_lt (mem_successors.2 edge))
  exact fun path => lt_irrefl _ (later path)

end Pipeline

namespace Registry
variable {ε : Type} {t u : Transform ε} {calls : List (Call ε)} {call : Call ε} {n m : Nat}

theorem mem_index_of_at? {slot : Nat} (h : (after calls).pipeline.at? slot = some t) :
    t.id ∈ (after calls).index :=
  (mem_index_iff calls t.id).2 ⟨t, ⟨slot, h⟩, rfl⟩

/-! ## When a transform was added -/

/-- The call at a place of a sequence added a transform, whose id was new, and the id has been
registered since. -/
structure AddedAt (calls : List (Call ε)) (t : Transform ε) (n : Nat) : Prop where
  call : calls[n]? = some (.add t)
  fresh : t.id ∉ (after (calls.take n)).index
  since : ∀ m, n < m → m ≤ calls.length → t.id ∈ (after (calls.take m)).index

theorem AddedAt.lt_length (h : AddedAt calls t n) : n < calls.length :=
  (List.getElem?_eq_some_iff.1 h.call).1

/-- One id has not been added at two places and registered since the first. -/
theorem AddedAt.le (h : AddedAt calls t n) (hu : AddedAt calls u m) (same : t.id = u.id) :
    m ≤ n := by
  by_contra later
  refine hu.fresh ?_
  rw [← same]
  exact h.since m (by omega) hu.lt_length.le

theorem AddedAt.concat (h : AddedAt calls t n)
    (held : t.id ∈ (after (calls ++ [call])).index) : AddedAt (calls ++ [call]) t n where
  call := by rw [List.getElem?_append_left h.lt_length, h.call]
  fresh := by
    rw [List.take_append_of_le_length h.lt_length.le]
    exact h.fresh
  since m hn hm := by
    rw [List.length_append, List.length_singleton] at hm
    rcases Nat.lt_or_ge calls.length m with last | earlier
    · rw [List.take_of_length_le (by simp; omega)]
      exact held
    · rw [List.take_append_of_le_length earlier]
      exact h.since m hn earlier

theorem addedAt_of_added
    (added : (after calls).pipeline.add t = .ok (after (calls ++ [.add t])).pipeline) :
    AddedAt (calls ++ [.add t]) t calls.length where
  call := List.getElem?_concat_length
  fresh := by
    rw [List.take_left, mem_index_iff]
    exact (Pipeline.add_eq_ok added).1
  since m hn hm := by
    obtain ⟨ids, indexed⟩ := indexed_after calls
    rw [List.length_append, List.length_singleton] at hm
    rw [List.take_of_length_le (by simp; omega), mem_index_iff,
      ← (indexed.arrived.add added).mem_iff]
    simp

/-- Every transform was added by one of the calls, and edges lead from earlier additions to later
ones. -/
structure Dated (calls : List (Call ε)) : Prop where
  since : ∀ slot t, (after calls).pipeline.at? slot = some t → ∃ n, AddedAt calls t n
  edge : ∀ e ∈ (after calls).pipeline.edges, ∃ t u n m,
    (after calls).pipeline.at? e.source = some t ∧ (after calls).pipeline.at? e.target = some u ∧
      AddedAt calls t n ∧ AddedAt calls u m ∧ n < m

/-- What is in a slot after one more call was there before, or the call has put it there. -/
theorem at?_concat_cases {slot : Nat}
    (h : (after (calls ++ [call])).pipeline.at? slot = some t) :
    (after calls).pipeline.at? slot = some t ∨ AddedAt (calls ++ [call]) t calls.length := by
  obtain ⟨ids, indexed⟩ := indexed_after calls
  rcases pipeline_concat_cases calls call with ⟨u, rfl, added⟩ | ⟨id, u, removed⟩ | same
  · obtain ⟨⟨i, gained⟩, -⟩ := indexed.arrived.gained added
    rcases (gained.at_iff slot t).1 h with ⟨-, rfl⟩ | before
    · exact .inr (addedAt_of_added added)
    · exact .inl before
  · obtain ⟨⟨i, lost⟩, -⟩ := indexed.arrived.lost removed
    exact .inl ((lost.at_iff slot t).1 h).1
  · exact .inl (same ▸ h)

/-- An edge after one more call was there before, with the same ends, or the call has added what it
leads to. -/
theorem edge_concat_cases {e : Edge} (he : e ∈ (after (calls ++ [call])).pipeline.edges) :
    (e ∈ (after calls).pipeline.edges ∧
      (∀ t, (after calls).pipeline.at? e.source = some t →
        (after (calls ++ [call])).pipeline.at? e.source = some t) ∧
      ∀ u, (after calls).pipeline.at? e.target = some u →
        (after (calls ++ [call])).pipeline.at? e.target = some u) ∨
    ∃ t u, (after calls).pipeline.at? e.source = some t ∧
      (after (calls ++ [call])).pipeline.at? e.source = some t ∧
      (after (calls ++ [call])).pipeline.at? e.target = some u ∧
      AddedAt (calls ++ [call]) u calls.length := by
  obtain ⟨ids, indexed⟩ := indexed_after calls
  rcases pipeline_concat_cases calls call with ⟨u, rfl, added⟩ | ⟨id, u, removed⟩ | same
  · obtain ⟨⟨i, gained⟩, -⟩ := indexed.arrived.gained added
    rcases (gained.edge_iff e).1 he with ⟨target, d, -, hd⟩ | before
    · obtain ⟨t, ht, -⟩ := Pipeline.at?_of_slotOf? hd
      exact .inr ⟨t, u, ht, (gained.at_iff _ t).2 (.inr ht),
        (gained.at_iff _ u).2 (.inl ⟨target, rfl⟩), addedAt_of_added added⟩
    · exact .inl ⟨before, fun t ht => (gained.at_iff _ t).2 (.inr ht),
        fun u hu => (gained.at_iff _ u).2 (.inr hu)⟩
  · obtain ⟨⟨i, lost⟩, -⟩ := indexed.arrived.lost removed
    obtain ⟨before, source, target⟩ := (lost.edge_iff e).1 he
    exact .inl ⟨before, fun t ht => (lost.at_iff _ t).2 ⟨ht, source⟩,
      fun u hu => (lost.at_iff _ u).2 ⟨hu, target⟩⟩
  · rw [same] at he ⊢
    exact .inl ⟨he, fun _ => id, fun _ => id⟩

theorem Dated.concat (dated : Dated calls) (call : Call ε) : Dated (calls ++ [call]) where
  since slot t h := by
    rcases at?_concat_cases h with before | added
    · obtain ⟨n, hn⟩ := dated.since slot t before
      exact ⟨n, hn.concat (mem_index_of_at? h)⟩
    · exact ⟨calls.length, added⟩
  edge e he := by
    rcases edge_concat_cases he with ⟨before, source, target⟩ | ⟨t, u, ht, source, target, added⟩
    · obtain ⟨t, u, n, m, ht, hu, hn, hm, earlier⟩ := dated.edge e before
      exact ⟨t, u, n, m, source t ht, target u hu, hn.concat (mem_index_of_at? (source t ht)),
        hm.concat (mem_index_of_at? (target u hu)), earlier⟩
    · -- the source was there when the call came
      obtain ⟨n, hn⟩ := dated.since e.source t ht
      exact ⟨t, u, n, calls.length, source, target, hn.concat (mem_index_of_at? source), added,
        hn.lt_length⟩

theorem dated_after (calls : List (Call ε)) : Dated calls := by
  induction calls using List.reverseRecOn with
  | nil =>
    refine ⟨?_, fun e he => absurd he List.not_mem_nil⟩
    intro slot t h
    exact absurd (Pipeline.lt_of_at?_eq_some h) (Nat.not_lt_zero slot)
  | append_singleton calls call ih => exact ih.concat call

theorem parallel_after (calls : List (Call ε)) : (after calls).pipeline.Parallel := by
  induction calls using List.reverseRecOn with
  | nil => exact fun e he => absurd he List.not_mem_nil
  | append_singleton calls call ih =>
    obtain ⟨ids, indexed⟩ := indexed_after calls
    rcases pipeline_concat_cases calls call with ⟨t, -, added⟩ | ⟨id, t, removed⟩ | same
    · exact indexed.arrived.parallel_of_add ih added
    · exact indexed.arrived.parallel_of_remove ih removed
    · rw [same]
      exact ih

/-! ## All parts together -/

/-- The parts of the registry after a sequence of calls agree with each other and with the calls. -/
structure Coherent (calls : List (Call ε)) : Prop where
  /-- The index leads from an id to the slot of the transform with that id. -/
  found : ∀ id slot, (after calls).index.lookup id = some slot →
    ∃ t, (after calls).pipeline.at? slot = some t ∧ t.id = id
  /-- The index leads to each slot in use from exactly one id. -/
  owned : ∀ slot ∈ (after calls).pipeline.used, ∃! id, (after calls).index.lookup id = some slot
  /-- Each slot there is stands once among those in use or once among the free ones. -/
  slots : ((after calls).pipeline.used ++ (after calls).pipeline.free).Perm
    (List.range (after calls).pipeline.slots.length)
  /-- A transform in a slot has been there since one call, which added it. -/
  since : ∀ slot t, (after calls).pipeline.at? slot = some t → ∃! n, AddedAt calls t n
  /-- An edge leads from one slot in use to another, whose transform was added later and names the
  first as often as there are such edges. -/
  edge : ∀ e ∈ (after calls).pipeline.edges, ∃ t u n m,
    (after calls).pipeline.at? e.source = some t ∧ (after calls).pipeline.at? e.target = some u ∧
      t.id ∈ u.dependencies ∧
      (after calls).pipeline.edges.count e = u.dependencies.count t.id ∧
      AddedAt calls t n ∧ AddedAt calls u m ∧ n < m
  /-- No path of edges comes back to where it began. -/
  acyclic : ∀ slot,
    ¬ Relation.TransGen (fun i j => ⟨i, j⟩ ∈ (after calls).pipeline.edges) slot slot

theorem coherent_after (calls : List (Call ε)) : Coherent calls := by
  obtain ⟨ids, indexed⟩ := indexed_after calls
  have arrived : (after calls).pipeline.Arrived ids := indexed.arrived
  have dated : Dated calls := dated_after calls
  refine ⟨?_, ?_, arrived.used_append_free, ?_, ?_, arrived.acyclic⟩
  · intro id slot found
    rw [indexed.finds] at found
    exact Pipeline.at?_of_slotOf? found
  · intro slot mem
    obtain ⟨t, ht⟩ := Pipeline.mem_used.1 mem
    refine ⟨t.id, (indexed.finds t.id).trans (arrived.slotOf?_of_at? ht), ?_⟩
    intro id found
    rw [indexed.finds] at found
    exact (arrived.slotOf?_eq_some_iff ht id).1 found
  · intro slot t ht
    obtain ⟨n, hn⟩ := dated.since slot t ht
    exact ⟨n, hn, fun m hm => Nat.le_antisymm (hn.le hm rfl) (hm.le hn rfl)⟩
  · intro e he
    obtain ⟨t, u, n, m, ht, hu, hn, hm, earlier⟩ := dated.edge e he
    obtain ⟨a, b, ha, hb, named, -⟩ := arrived.edge e he
    rw [ht] at ha
    rw [hu] at hb
    cases ha
    cases hb
    exact ⟨t, u, n, m, ht, hu, named, parallel_after calls e he t u ht hu, hn, hm, earlier⟩

/-- A slot that was left is taken by a later transform, and edges lead to it from a higher slot. -/
example :
    let rebuild : Run Empty := Pipeline.runAll []
    let p := (after [.add ⟨"a", [], rebuild⟩, .add ⟨"b", [], rebuild⟩, .remove "a",
      .add ⟨"c", ["b", "b"], rebuild⟩]).pipeline
    p.used = [0, 1] ∧ p.free = [] ∧ p.edges = [⟨1, 0⟩, ⟨1, 0⟩] := by decide

end Registry
end SqlTrees
