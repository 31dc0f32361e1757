import SqlTrees.Proofs.Pipeline.History
import SqlTrees.Proofs.Pipeline.Order

/-! # Dependencies in the order of a pipeline

* `Pipeline.order_topological`: whatever calls a pipeline comes from, its transforms can be put in
  order, and what a transform has depended on since it was registered runs before it.
* `Pipeline.lasting_iff_respected`: the edges hold a dependency exactly as long as it has lasted. A
  dependency that was removed and registered again stands in the list of its dependent, but no edge
  leads from it.
-/

namespace SqlTrees
set_option autoImplicit false

variable {ε : Type}

/-- Run one and, unless it fails, another on its result. -/
def Run.andThen (first second : Run ε) : Run ε := fun n =>
  match first n with
  | (.error e, events) => (.error e, events)
  | (.ok m, events) => ((second m).1, events ++ (second m).2)

namespace Pipeline

theorem runAll_append (ts us : List (Transform ε)) :
    runAll (ts ++ us) = (runAll ts).andThen (runAll us) := by
  funext n
  induction ts generalizing n with
  | nil => simp [runAll, Run.andThen]
  | cons t ts ih =>
    rcases hr : t.run n with ⟨result, events⟩
    cases result with
    | error e => simp [runAll, Run.andThen, hr]
    | ok m =>
      simp only [List.cons_append, runAll, Run.andThen, hr, ih]
      cases hs : runAll ts m with
      | mk result more => cases result <;> simp

/-! ## The order exists and respects what has lasted -/

theorem order_topological (ops : List (Operation ε)) :
    (after ops).SearchEnds ∧ ∃ ids, (after ops).order? = .ok ids ∧ ids.Nodup ∧
      (∀ id, id ∈ ids ↔ (after ops).Registered id) ∧ ids.length = (after ops).size ∧
      ∀ t d, (after ops).Holds t → d ∈ t.dependencies → Lasting ops t d →
        [d, t.id].Sublist ids := by
  have h : (after ops).Arrived (arrivals ops) := arrived_after ops
  obtain ⟨hr, hlen⟩ := h.respects_sorted
  refine ⟨h.searchEnds, _, by rw [order?, h.sorted_eq]; rfl, hr.nodup, hr.mem_iff, hlen, ?_⟩
  intro t d ht hd hl
  exact h.pair_sublist_of_respects hr ht hd ((lasting_iff ht hd).mp hl)

/-! ## The dependencies that every order respects -/

theorem lasting_iff_respected {ops : List (Operation ε)} {t : Transform ε} {d : String}
    (ht : (after ops).Holds t) (hd : d ∈ t.dependencies) :
    (Lasting ops t d ↔ ∀ ids, (after ops).Respects ids → [d, t.id].Sublist ids) ∧
      (Lasting ops t d → ∃ ts s us vs, s.id = d ∧
        (after ops).order? = .ok ((ts ++ s :: us ++ t :: vs).map Transform.id) ∧
        ∀ n, (after ops).apply n =
          .ok ((runAll (ts ++ s :: us)).andThen (runAll (t :: vs)) n)) := by
  have h : (after ops).Arrived (arrivals ops) := arrived_after ops
  refine ⟨⟨?_, ?_⟩, ?_⟩
  · intro hl ids hids
    exact h.pair_sublist_of_respects hids ht hd ((lasting_iff ht hd).mp hl)
  · intro hall
    exact (lasting_iff ht hd).mpr (hall (arrivals ops) h.respects)
  · intro hl
    have hpair := h.pair_sublist_of_respects h.respects_sorted.1 ht hd ((lasting_iff ht hd).mp hl)
    obtain ⟨ts, s, us, t', vs, hs, rfl, hid⟩ := pair_sublist_map hpair
    have ht' : (after ops).Holds t' := holds_of_mem_sorted (by rw [hs]; simp)
    obtain rfl : t = t' := h.holds_unique ht ht' hid.symm
    refine ⟨ts, s, us, vs, rfl, by rw [order?, h.sorted_eq, hs]; rfl, ?_⟩
    intro n
    rw [apply, h.sorted_eq, hs, ← runAll_append]
    rfl

/-- One transform, and another that depends on it. -/
def dependent : List (Operation Empty) :=
  [.add ⟨"a", [], runAll []⟩, .add ⟨"b", ["a"], runAll []⟩]

/-- The first of the two is removed and registered again. -/
def readded : List (Operation Empty) :=
  dependent ++ [.remove "a", .add ⟨"a", [], runAll []⟩]

theorem respected_in_dependent :
    (after dependent).Holds ⟨"b", ["a"], runAll []⟩ ∧
      Lasting dependent ⟨"b", ["a"], runAll []⟩ "a" ∧
      ∀ ids, (after dependent).Respects ids → ["a", "b"].Sublist ids := by
  have ht : (after dependent).Holds ⟨"b", ["a"], runAll []⟩ := ⟨1, rfl⟩
  have hd : "a" ∈ ["a"] := List.mem_singleton_self "a"
  have hl : Lasting dependent ⟨"b", ["a"], runAll []⟩ "a" := (lasting_iff ht hd).mpr (by decide)
  exact ⟨ht, hl, (lasting_iff_respected ht hd).1.mp hl⟩

theorem order_of_readded :
    (after readded).Holds ⟨"b", ["a"], runAll []⟩ ∧ (after readded).Registered "a" ∧
      (after readded).order? = .ok ["b", "a"] ∧ ¬ ["a", "b"].Sublist ["b", "a"] :=
  ⟨⟨1, rfl⟩, by decide, by decide, by decide⟩

end Pipeline
end SqlTrees
