import SqlTrees.Passes.Substitute
import SqlTrees.Proofs.Pipeline.History
import SqlTrees.Proofs.Pipeline.Order

/-! # Removing a transform undoes adding it

A transform that takes a free slot and is removed again gives the slot back, and the pipeline is
what it was. One that needs a new slot leaves that slot behind, free.

* `Pipeline.withSpare`: a pipeline with more free slots, behind all others and to be taken after all
  other free ones.
* `Pipeline.Arrived.execute_withSpare`: every call answers the same with spare slots as without, and
  the two pipelines still differ in spare slots only.
* `Pipeline.Arrived.sorted?_withSpare`: spare slots do not show in the order.
* `Pipeline.Arrived.remove_of_add`: adding and removing leaves spare slots and nothing else.
* `Pipeline.remove_undoes_add`: no later call can tell.
-/

namespace SqlTrees.Pipeline
set_option autoImplicit false

variable {ε : Type} {p q : Pipeline ε} {t : Transform ε} {id : String} {ids : List String}

/-- The pipeline with `k` more free slots, to be taken last. -/
def withSpare (p : Pipeline ε) (k : Nat) : Pipeline ε where
  slots := p.slots ++ List.replicate k none
  free := p.free ++ List.range' p.slots.length k
  edges := p.edges

/-! ## What can be seen of spare slots -/

theorem withSpare_zero (p : Pipeline ε) : p.withSpare 0 = p := by
  simp [withSpare]

theorem at?_withSpare (p : Pipeline ε) (k i : Nat) : (p.withSpare k).at? i = p.at? i := by
  rw [at?, at?, withSpare]
  by_cases hi : i < p.slots.length
  · rw [List.getElem?_append_left hi]
  · rw [List.getElem?_append_right (by omega), List.getElem?_eq_none (l := p.slots) (by omega),
      List.getElem?_replicate]
    split <;> rfl

theorem slotOf?_withSpare (p : Pipeline ε) (k : Nat) (id : String) :
    (p.withSpare k).slotOf? id = p.slotOf? id := by
  simp [slotOf?, withSpare, List.findIdx?_append]

theorem resolve_withSpare (p : Pipeline ε) (k : Nat) (ids : List String) :
    (p.withSpare k).resolve ids = p.resolve ids := by
  induction ids with
  | nil => rfl
  | cons id ids ih => simp only [resolve, slotOf?_withSpare, ih]

theorem used_withSpare (p : Pipeline ε) (k : Nat) : (p.withSpare k).used = p.used := by
  have length : (p.withSpare k).slots.length = p.slots.length + k := by simp [withSpare]
  have behind : ∀ i, p.at? (p.slots.length + i) = none := by
    intro i
    rw [at?, List.getElem?_eq_none (by omega)]
    rfl
  simp [used, length, List.range_add, at?_withSpare, behind]

theorem misplaced?_withSpare (p : Pipeline ε) (k : Nat) (earlier order : List Nat) :
    (p.withSpare k).misplaced? earlier order = p.misplaced? earlier order := by
  induction order generalizing earlier with
  | nil => rfl
  | cons slot order ih => simp only [misplaced?, ih]; rfl

/-- A search has more steps than it needs, with spare slots or without. -/
theorem Arrived.finishingOrder_withSpare (h : p.Arrived ids) (k : Nat) :
    (p.withSpare k).finishingOrder = p.finishingOrder := by
  have more : 2 * p.slots.length + p.edges.length + 1 ≤
      2 * (p.withSpare k).slots.length + p.edges.length + 1 := by
    simp only [withSpare, List.length_append]
    omega
  have ends := (h.searchEnds _ more p.used (List.prefix_refl p.used)).2
  rw [finishingOrder, used_withSpare, finishingOrder]
  exact congrArg Search.finished ends

theorem Arrived.sorted?_withSpare (h : p.Arrived ids) (k : Nat) :
    (p.withSpare k).sorted? = p.sorted? := by
  have slots : (p.withSpare k).at? = p.at? := funext (p.at?_withSpare k)
  simp only [sorted?, h.finishingOrder_withSpare, misplaced?_withSpare, slots]

/-! ## Calls on a pipeline with spare slots -/

/-- A spare slot is taken where the pipeline alone would have made a new one. -/
theorem Arrived.place_withSpare (h : p.Arrived ids) (t : Transform ε) (k : Nat) :
    ∃ l, (p.withSpare k).place t = ((p.place t).1, (p.place t).2.withSpare l) := by
  cases hf : p.free with
  | cons slot free =>
    have hlt : slot < p.slots.length := (h.free_head hf).1
    refine ⟨k, ?_⟩
    simp [place, withSpare, hf, List.set_append_left _ _ hlt]
  | nil =>
    cases k with
    | zero => exact ⟨0, by rw [withSpare_zero, withSpare_zero]⟩
    | succ l =>
      refine ⟨l, ?_⟩
      simp [place, withSpare, hf, List.range'_succ, List.replicate_succ]

theorem Arrived.add_withSpare (h : p.Arrived ids) (t : Transform ε) (k : Nat) :
    ∃ l, (p.withSpare k).add t = (p.add t).map (·.withSpare l) := by
  obtain ⟨l, hl⟩ := h.place_withSpare t k
  refine ⟨l, ?_⟩
  rw [Pipeline.add, Pipeline.add, slotOf?_withSpare, resolve_withSpare, hl]
  split
  · rfl
  · cases p.resolve t.dependencies <;> rfl

theorem remove_withSpare (p : Pipeline ε) (id : String) (k : Nat) :
    (p.withSpare k).remove id = (p.remove id).map fun r => (r.1, r.2.withSpare k) := by
  rw [remove, remove, slotOf?_withSpare]
  cases hs : p.slotOf? id with
  | none => rfl
  | some slot =>
    obtain ⟨t, ht, -⟩ := at?_of_slotOf? hs
    have hlt : slot < p.slots.length := lt_of_at?_eq_some ht
    rw [Option.bind_eq_bind, Option.bind_some, at?_withSpare, ht]
    simp [ht, withSpare, List.set_append_left _ _ hlt]

/-- What a call answers: why a transform was not added, or the transform that was removed. -/
def answer (p : Pipeline ε) : Operation ε → Except PipelineError (Option (Transform ε))
  | .add t => (p.add t).map fun _ => none
  | .remove id => .ok ((p.remove id).map Prod.fst)

theorem Arrived.execute_withSpare (h : p.Arrived ids) (op : Operation ε) (k : Nat) :
    (p.withSpare k).answer op = p.answer op ∧
      ∃ l, (p.withSpare k).execute op = (p.execute op).withSpare l := by
  cases op with
  | add t =>
    obtain ⟨l, hl⟩ := h.add_withSpare t k
    rw [answer, answer, Pipeline.execute, Pipeline.execute, hl]
    cases p.add t with
    | error e => exact ⟨rfl, k, rfl⟩
    | ok q => exact ⟨rfl, l, rfl⟩
  | remove id =>
    rw [answer, answer, Pipeline.execute, Pipeline.execute, remove_withSpare]
    cases p.remove id with
    | none => exact ⟨rfl, k, rfl⟩
    | some r => exact ⟨rfl, k, rfl⟩

theorem Arrived.foldl_execute_withSpare (h : p.Arrived ids) (ops : List (Operation ε)) (k : Nat) :
    ∃ l, ops.foldl Pipeline.execute (p.withSpare k) =
      (ops.foldl Pipeline.execute p).withSpare l := by
  induction ops generalizing p ids k with
  | nil => exact ⟨k, rfl⟩
  | cons op ops ih =>
    obtain ⟨-, l, hl⟩ := h.execute_withSpare op k
    rw [List.foldl_cons, List.foldl_cons, hl]
    exact ih (h.execute op) l

/-! ## Adding and then removing -/

/-- Edges out of a slot or into it are those that were made with its transform. -/
theorem Arrived.filter_edges (h : p.Arrived ids) {slot : Nat} (hs : p.at? slot = none)
    (sources : List Nat) :
    ((sources.map fun source => (⟨source, slot⟩ : Edge)).reverse ++ p.edges).filter
      (fun e => e.source ≠ slot && e.target ≠ slot) = p.edges := by
  have new : (sources.map fun source => (⟨source, slot⟩ : Edge)).reverse.filter
      (fun e => e.source ≠ slot && e.target ≠ slot) = [] := by
    rw [List.filter_eq_nil_iff]
    intro e he
    obtain ⟨source, -, rfl⟩ := List.mem_map.mp (List.mem_reverse.mp he)
    simp
  have old : p.edges.filter (fun e => e.source ≠ slot && e.target ≠ slot) = p.edges := by
    rw [List.filter_eq_self]
    intro e he
    obtain ⟨a, b, ha, hb, -⟩ := h.edge e he
    have hsource : e.source ≠ slot := by
      intro heq
      rw [heq, hs] at ha
      cases ha
    have htarget : e.target ≠ slot := by
      intro heq
      rw [heq, hs] at hb
      cases hb
    simp [hsource, htarget]
  rw [List.filter_append, new, old, List.nil_append]

/-- Taking the transform out of its slot again gives the slots and the free slots back. -/
theorem Arrived.place_undone (h : p.Arrived ids) (t : Transform ε) :
    ∃ k, (p.place t).2.slots.set (p.place t).1 none = (p.withSpare k).slots ∧
      (p.place t).1 :: (p.place t).2.free = (p.withSpare k).free := by
  cases hf : p.free with
  | cons slot free =>
    obtain ⟨hlt, hnone⟩ := h.free_head hf
    have hslot : p.slots[slot] = none := by
      rw [at?, List.getElem?_eq_getElem hlt] at hnone
      exact hnone
    have hset : p.slots.set slot none = p.slots := by
      rw [← hslot, List.set_getElem_self]
    refine ⟨0, ?_⟩
    simp [place, hf, withSpare, hset]
  | nil =>
    refine ⟨1, ?_⟩
    simp [place, hf, withSpare]

theorem Arrived.remove_of_add (h : p.Arrived ids) (ha : p.add t = .ok q) :
    ∃ k, q.remove t.id = some (t, p.withSpare k) := by
  have hq : q.Arrived (ids ++ [t.id]) := h.add ha
  obtain ⟨-, sources, -, rfl⟩ := add_eq_ok ha
  obtain ⟨hnone, hat, hedges, -⟩ := h.place_spec t
  obtain ⟨k, hslots, hfree⟩ := h.place_undone t
  generalize hp : p.place t = placed at *
  obtain ⟨slot, r⟩ := placed
  have held := hat slot
  rw [if_pos rfl] at held
  have found := hq.slotOf?_of_at? held
  refine ⟨k, ?_⟩
  rw [Pipeline.remove, found, Option.bind_eq_bind, Option.bind_some, hedges, h.filter_edges hnone]
  change ((slot, r).2.at? slot).bind _ = _
  rw [held, Option.bind_some]
  simp only [hslots, hfree]
  rfl

/-! ## No later call can tell -/

/-- Two pipelines look the same now, and answer the next call in the same way. -/
structure Indistinguishable (p q : Pipeline ε) : Prop where
  size : p.size = q.size
  isEmpty : p.isEmpty = q.isEmpty
  order : p.order? = q.order?
  apply : p.apply = q.apply
  answer : p.answer = q.answer

theorem Arrived.indistinguishable_withSpare (h : p.Arrived ids) (k : Nat) :
    Indistinguishable p (p.withSpare k) where
  size := by rw [Pipeline.size, Pipeline.size, used_withSpare]
  isEmpty := by
    rw [Pipeline.isEmpty, Pipeline.isEmpty, Pipeline.size, Pipeline.size, used_withSpare]
  order := by rw [order?, order?, h.sorted?_withSpare]
  apply := by
    funext n
    rw [Pipeline.apply, Pipeline.apply, h.sorted?_withSpare]
  answer := by
    funext op
    exact (h.execute_withSpare op k).1.symm

/-- A transform that was added and is removed comes back as it was, and no calls that follow can
tell that it was there. -/
theorem remove_undoes_add (ops : List (Operation ε)) (added : (after ops).add t = .ok q) :
    ∃ r, q.remove t.id = some (t, r) ∧
      ∀ more : List (Operation ε),
        Indistinguishable (more.foldl execute (after ops)) (more.foldl execute r) := by
  have h : (after ops).Arrived (arrivals ops) := arrived_after ops
  obtain ⟨k, removed⟩ := h.remove_of_add added
  refine ⟨(after ops).withSpare k, removed, ?_⟩
  intro more
  obtain ⟨l, hl⟩ := h.foldl_execute_withSpare more k
  have later : (more.foldl execute (after ops)).Arrived (arrivals (ops ++ more)) := by
    have := arrived_after (ops ++ more)
    rwa [after, List.foldl_append] at this
  rw [hl]
  exact later.indistinguishable_withSpare l

/-- A free slot is all that is left of a second transform. -/
theorem second_transform_undone :
    let rebuild : Run UnsupportedKind := Pass.identity.toRun () fun e => e
    let first : Transform UnsupportedKind := ⟨"first", [], rebuild⟩
    let second : Transform UnsupportedKind := ⟨"second", ["first"], rebuild⟩
    let p := after [.add first]
    ∃ q r, p.add second = .ok q ∧ q.order? = .ok ["first", "second"] ∧
      q.remove "second" = some (second, r) ∧ p.free = [] ∧ r.free = [1] ∧
      ∀ more : List (Operation UnsupportedKind),
        Indistinguishable (more.foldl execute p) (more.foldl execute r) := by
  intro rebuild first second p
  have added : p.add second = .ok (after [.add first, .add second]) := rfl
  obtain ⟨r, removed, unseen⟩ := remove_undoes_add [.add first] added
  refine ⟨_, r, added, by decide, removed, rfl, ?_, unseen⟩
  cases removed
  rfl

end SqlTrees.Pipeline
