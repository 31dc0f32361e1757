import Mathlib.Algebra.BigOperators.Group.Finset.Piecewise
import SqlTrees.Proofs.Pipeline.Arrival
import SqlTrees.Proofs.Pipeline.Search

/-! # The order in which a pipeline runs

* `Pipeline.Respects`: a list of ids holds every registered id once and agrees with the edges.
* `Pipeline.Arrived.sorted_eq`: where the edges lead from earlier arrivals to later ones, the slots
  are put in order without a cycle, and the order respects the edges.
-/

namespace SqlTrees.Pipeline
set_option autoImplicit false

variable {ε : Type} {p : Pipeline ε} {t u : Transform ε}

/-- Every registered id stands in the list once, and before the ids that an edge leads to. -/
structure Respects (p : Pipeline ε) (ids : List String) : Prop where
  nodup : ids.Nodup
  mem_iff : ∀ id, id ∈ ids ↔ p.Registered id
  edge : ∀ e ∈ p.edges, ∀ t u, p.at? e.source = some t → p.at? e.target = some u →
    [t.id, u.id].Sublist ids

/-- The search for an order comes to rest after each slot that it starts from, with the steps it is
given, and more steps change nothing. -/
def SearchEnds (p : Pipeline ε) : Prop :=
  ∀ fuel, 2 * p.slots.length + p.edges.length + 1 ≤ fuel → ∀ roots, roots <+: p.used →
    (Search.exploreAll p.successors fuel roots).stack = [] ∧
      Search.exploreAll p.successors fuel roots =
        Search.exploreAll p.successors (2 * p.slots.length + p.edges.length + 1) roots

/-! ## The graph of slots and edges -/

theorem mem_used {slot : Nat} : slot ∈ p.used ↔ ∃ t, p.at? slot = some t := by
  rw [used, List.mem_filter, List.mem_range, Option.isSome_iff_exists]
  constructor
  · exact fun h => h.2
  · rintro ⟨t, h⟩
    exact ⟨lt_of_at?_eq_some h, t, h⟩

theorem nodup_used : p.used.Nodup :=
  List.nodup_range.filter _

theorem mem_successors {n m : Nat} : m ∈ p.successors n ↔ (⟨n, m⟩ : Edge) ∈ p.edges := by
  rw [successors, List.mem_map]
  constructor
  · rintro ⟨⟨i, j⟩, he, rfl⟩
    obtain ⟨hmem, hi⟩ := List.mem_filter.mp he
    obtain rfl : i = n := by simpa using hi
    exact hmem
  · intro h
    exact ⟨⟨n, m⟩, List.mem_filter.mpr ⟨h, by simp⟩, rfl⟩

theorem mem_predecessors {n m : Nat} : n ∈ p.predecessors m ↔ (⟨n, m⟩ : Edge) ∈ p.edges := by
  rw [predecessors, List.mem_map]
  constructor
  · rintro ⟨⟨i, j⟩, he, rfl⟩
    obtain ⟨hmem, hj⟩ := List.mem_filter.mp he
    obtain rfl : j = m := by simpa using hj
    exact hmem
  · intro h
    exact ⟨⟨n, m⟩, List.mem_filter.mpr ⟨h, by simp⟩, rfl⟩

/-- An edge is a successor of one slot only. -/
theorem sum_successors_le (edges : List Edge) (nodes : Finset Nat) :
    ∑ n ∈ nodes, ((edges.filter fun e => e.source = n).map Edge.target).length ≤ edges.length := by
  induction edges with
  | nil => simp
  | cons e edges ih =>
    have hsplit : ∀ n, (((e :: edges).filter fun e => e.source = n).map Edge.target).length =
        (if e.source = n then 1 else 0) +
          ((edges.filter fun e => e.source = n).map Edge.target).length := by
      intro n
      by_cases h : e.source = n
      · simp [h, Nat.add_comm]
      · simp [h]
    have hone : ∑ n ∈ nodes, (if e.source = n then 1 else 0) ≤ 1 := by
      rw [Finset.sum_ite_eq]
      split <;> omega
    rw [Finset.sum_congr rfl fun n _ => hsplit n, Finset.sum_add_distrib, List.length_cons]
    omega

theorem enough_le (p : Pipeline ε) :
    Search.enough p.successors p.used.toFinset ≤ 2 * p.slots.length + p.edges.length + 1 := by
  have hsum : ∑ n ∈ p.used.toFinset, (p.successors n).length ≤ p.edges.length :=
    sum_successors_le p.edges p.used.toFinset
  have hcard : p.used.toFinset.card ≤ p.slots.length := by
    refine (List.toFinset_card_le p.used).trans ?_
    refine (List.length_filter_le _ _).trans ?_
    rw [List.length_range]
  rw [Search.enough, Finset.sum_add_distrib, ← Finset.card_eq_sum_ones]
  omega

/-- Nothing is misplaced in a list that has the predecessors of each slot before it. -/
theorem misplaced?_eq_none {earlier order : List Nat}
    (h : ∀ before slot after, order = before ++ slot :: after →
      ∀ n ∈ p.predecessors slot, n ∈ before ∨ n ∈ earlier) :
    p.misplaced? earlier order = none := by
  induction order generalizing earlier with
  | nil => rfl
  | cons slot rest ih =>
    have hfind : (p.predecessors slot).reverse.find? (fun n => n ∉ earlier) = none := by
      rw [List.find?_eq_none]
      intro n hn
      have := (h [] slot rest rfl n (List.mem_reverse.mp hn)).resolve_left (by simp)
      simpa using this
    rw [misplaced?, hfind]
    refine ih ?_
    rintro before next after rfl n hn
    rcases h (slot :: before) next after rfl n hn with hb | he
    · rcases List.mem_cons.mp hb with rfl | hb
      · exact Or.inr List.mem_cons_self
      · exact Or.inl hb
    · exact Or.inr (List.mem_cons_of_mem slot he)

theorem holds_of_mem_sorted (ht : t ∈ p.finishingOrder.filterMap p.at?) : p.Holds t := by
  obtain ⟨slot, -, hs⟩ := List.mem_filterMap.mp ht
  exact ⟨slot, hs⟩

namespace Arrived
variable {ids : List String} (h : p.Arrived ids)
include h

theorem respects : p.Respects ids := by
  refine ⟨h.nodup, h.mem_iff, ?_⟩
  intro e he t u ht hu
  obtain ⟨a, b, ha, hb, -, hab⟩ := h.edge e he
  rw [ht] at ha
  rw [hu] at hb
  cases ha
  cases hb
  exact hab

theorem pair_sublist_of_respects {order : List String} (ho : p.Respects order) (ht : p.Holds t)
    {d : String} (hd : d ∈ t.dependencies) (hpair : [d, t.id].Sublist ids) :
    [d, t.id].Sublist order := by
  obtain ⟨j, hj⟩ := ht
  obtain ⟨u, ⟨i, hi⟩, rfl⟩ := (h.mem_iff d).mp (hpair.subset List.mem_cons_self)
  exact ho.edge _ (h.lasting i j u t hi hj hd hpair) u t hi hj

/-- The place of a slot's transform in the order of arrival. -/
theorem rank_lt {n m : Nat} (hm : m ∈ p.successors n) :
    ids.idxOf ((p.at? n).elim "" Transform.id) < ids.idxOf ((p.at? m).elim "" Transform.id) := by
  obtain ⟨t, u, ht, hu, -, htu⟩ := h.edge _ (mem_successors.mp hm)
  simp only at ht hu
  rw [ht, hu]
  exact idxOf_lt_of_pair_sublist h.nodup htu

theorem mem_used_of_mem_successors {n m : Nat} (hm : m ∈ p.successors n) :
    n ∈ p.used ∧ m ∈ p.used := by
  obtain ⟨t, u, ht, hu, -⟩ := h.edge _ (mem_successors.mp hm)
  exact ⟨mem_used.mpr ⟨t, ht⟩, mem_used.mpr ⟨u, hu⟩⟩

theorem successors_inside :
    ∀ n ∈ p.used.toFinset, ∀ m ∈ p.successors n, m ∈ p.used.toFinset :=
  fun _ _ _ hm => List.mem_toFinset.mpr (h.mem_used_of_mem_successors hm).2

/-- The search for an order comes to rest on its way through the slots in use. -/
theorem searchEnds : p.SearchEnds := by
  intro fuel hf roots hroots
  have hin : ∀ n ∈ roots, n ∈ p.used.toFinset :=
    fun n hn => List.mem_toFinset.mpr (hroots.subset hn)
  have hr := fun n m => h.rank_lt (n := n) (m := m)
  refine ⟨(Search.exploreAll_settled hr h.successors_inside (p.enough_le.trans hf) roots hin).1.stack,
    ?_⟩
  rw [Search.exploreAll_of_le hr h.successors_inside (p.enough_le.trans hf) roots hin,
    Search.exploreAll_of_le hr h.successors_inside p.enough_le roots hin]

theorem finishingOrder_spec :
    p.finishingOrder.Nodup ∧ (∀ n, n ∈ p.finishingOrder ↔ n ∈ p.used) ∧
      Search.Closed p.successors p.finishingOrder := by
  obtain ⟨hn, hmem, hc⟩ := Search.finished_exploreAll (fun _ _ => h.rank_lt) h.successors_inside
    p.enough_le p.used (fun _ => List.mem_toFinset.symm)
  exact ⟨hn, fun n => (hmem n).trans List.mem_toFinset, hc⟩

theorem misplaced?_finishingOrder : p.misplaced? [] p.finishingOrder = none := by
  obtain ⟨hn, hmem, hc⟩ := h.finishingOrder_spec
  refine misplaced?_eq_none ?_
  intro before slot after ho n hp
  have hs : slot ∈ p.successors n := mem_successors.mpr (mem_predecessors.mp hp)
  have hf : n ∈ p.finishingOrder := (hmem n).mpr (h.mem_used_of_mem_successors hs).1
  have hpair : [n, slot].Sublist p.finishingOrder := hc.pair_sublist hf hs
  rw [ho] at hn hpair
  exact Or.inl (mem_of_pair_sublist hn hpair)

theorem sorted_eq : p.sorted? = .ok (p.finishingOrder.filterMap p.at?) := by
  simp only [sorted?, h.misplaced?_finishingOrder]

/-- The transforms in the order in which they run. -/
theorem respects_sorted :
    p.Respects ((p.finishingOrder.filterMap p.at?).map Transform.id) ∧
      ((p.finishingOrder.filterMap p.at?).map Transform.id).length = p.size := by
  obtain ⟨hn, hmem, hc⟩ := h.finishingOrder_spec
  rw [List.map_filterMap]
  refine ⟨⟨?_, ?_, ?_⟩, ?_⟩
  · refine hn.filterMap ?_
    intro i j id hi hj
    obtain ⟨t, ht, rfl⟩ := Option.map_eq_some_iff.mp hi
    obtain ⟨u, hu, hid⟩ := Option.map_eq_some_iff.mp hj
    exact h.unique i j t u ht hu hid.symm
  · intro id
    rw [List.mem_filterMap]
    constructor
    · rintro ⟨i, -, hi⟩
      obtain ⟨t, ht, rfl⟩ := Option.map_eq_some_iff.mp hi
      exact ⟨t, ⟨i, ht⟩, rfl⟩
    · rintro ⟨t, ⟨i, ht⟩, rfl⟩
      exact ⟨i, (hmem i).mpr (mem_used.mpr ⟨t, ht⟩), by rw [ht, Option.map_some]⟩
  · intro e he t u ht hu
    have hs : e.target ∈ p.successors e.source := mem_successors.mpr he
    have hf : e.source ∈ p.finishingOrder := (hmem _).mpr (h.mem_used_of_mem_successors hs).1
    have hpair := (hc.pair_sublist hf hs).filterMap fun slot => (p.at? slot).map Transform.id
    simpa [ht, hu] using hpair
  · have hperm : p.finishingOrder.Perm p.used :=
      (List.perm_ext_iff_of_nodup hn nodup_used).mpr hmem
    rw [size, ← hperm.length_eq, List.length_filterMap_eq_countP, List.countP_eq_length]
    intro i hi
    obtain ⟨t, ht⟩ := mem_used.mp ((hmem i).mp hi)
    rw [ht]
    rfl

end Arrived
end SqlTrees.Pipeline
