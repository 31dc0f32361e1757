import Mathlib.Algebra.BigOperators.Group.Finset.Basic
import Mathlib.Algebra.Order.BigOperators.Group.Finset
import SqlTrees.Pipeline.Search

/-! # Depth-first search ends and finds an order

Everything here is about a graph given by its successor lists and does not mention pipelines.

* `Search.Sound`: what a search keeps from step to step on a graph whose edges lead to higher ranks.
  A node is open from its discovery until it is finished; it waits on the stack, and above it stand
  only nodes of higher rank, among them every successor that is not finished yet. A successor can
  therefore never be open below the node, and a node is finished after its successors.
* `Search.budget`: the height of the stack and what the undiscovered nodes may still put on it. A
  step lowers it, so `Search.run` empties the stack whenever it is given that many steps.
* `Search.exploreAll_settled`, `Search.finished_exploreAll`: exploring from every node of a graph
  comes to rest and finishes exactly its nodes, each once and listed before its successors.
-/

namespace SqlTrees.Search
set_option autoImplicit false

variable {successors : Nat → List Nat}

/-! ## One step -/

theorem step_of_fresh {s : Search} {n : Nat} {rest : List Nat} (hs : s.stack = n :: rest)
    (hd : n ∉ s.discovered) :
    s.step successors =
      { discovered := n :: s.discovered
        stack := ((successors n).filter fun m => m ∉ n :: s.discovered).reverse ++ n :: rest
        finished := s.finished } := by
  rw [step, hs]
  simp only [if_neg hd]

theorem step_of_open {s : Search} {n : Nat} {rest : List Nat} (hs : s.stack = n :: rest)
    (hd : n ∈ s.discovered) (hf : n ∉ s.finished) :
    s.step successors =
      { discovered := s.discovered, stack := rest, finished := n :: s.finished } := by
  rw [step, hs]
  simp only [if_pos hd, if_neg hf]

theorem step_of_finished {s : Search} {n : Nat} {rest : List Nat} (hs : s.stack = n :: rest)
    (hd : n ∈ s.discovered) (hf : n ∈ s.finished) :
    s.step successors =
      { discovered := s.discovered, stack := rest, finished := s.finished } := by
  rw [step, hs]
  simp only [if_pos hd, if_pos hf]

/-! ## Sound searches -/

/-- Each node of the list stands before all its successors, and they are on the list. -/
def Closed (successors : Nat → List Nat) : List Nat → Prop
  | [] => True
  | n :: rest => (∀ m ∈ successors n, m ∈ rest) ∧ Closed successors rest

theorem Closed.pair_sublist {l : List Nat} (h : Closed successors l) {n m : Nat} (hn : n ∈ l)
    (hm : m ∈ successors n) : [n, m].Sublist l := by
  induction l with
  | nil => cases hn
  | cons k l ih =>
    obtain ⟨hk, h⟩ := h
    rcases List.mem_cons.mp hn with rfl | hn
    · exact (List.singleton_sublist.mpr (hk m hm)).cons_cons n
    · exact (ih h hn).cons k

/-- A node is open from its discovery until it is finished. -/
def Open (s : Search) (n : Nat) : Prop :=
  n ∈ s.discovered ∧ n ∉ s.finished

/-- What stands on a stack above the topmost entry of a node. -/
def above (stack : List Nat) (n : Nat) : List Nat :=
  stack.takeWhile (· ≠ n)

theorem above_self (n : Nat) (rest : List Nat) : above (n :: rest) n = [] := by
  simp [above]

theorem above_cons {n m : Nat} (h : m ≠ n) (rest : List Nat) :
    above (m :: rest) n = m :: above rest n := by
  simp [above, h]

theorem above_append {n : Nat} {new : List Nat} (h : ∀ m ∈ new, m ≠ n) (stack : List Nat) :
    above (new ++ stack) n = new ++ above stack n := by
  rw [above, List.takeWhile_append_of_pos (by simpa using h), above]

/-- What a search keeps from step to step. -/
structure Sound (successors : Nat → List Nat) (rank : Nat → Nat) (s : Search) : Prop where
  finished_subset : ∀ n ∈ s.finished, n ∈ s.discovered
  nodup : s.finished.Nodup
  closed : Closed successors s.finished
  open_stacked : ∀ n, s.Open n → n ∈ s.stack
  open_lower : ∀ n, s.Open n → ∀ m ∈ above s.stack n, rank n < rank m
  open_successors : ∀ n, s.Open n → ∀ m ∈ successors n, m ∈ s.finished ∨ m ∈ above s.stack n

section Steps
variable {rank : Nat → Nat} {s : Search} {n : Nat} {rest : List Nat}

/-- Discovering the node on top of the stack. Its discovered successors are finished: one that were
open would have the node above it, and a higher rank than the node at once. -/
theorem Sound.step_fresh (h : Sound successors rank s)
    (hr : ∀ n, ∀ m ∈ successors n, rank n < rank m) (hs : s.stack = n :: rest)
    (hd : n ∉ s.discovered) : Sound successors rank (s.step successors) := by
  rw [step_of_fresh hs hd]
  set fresh := (successors n).filter fun m => m ∉ n :: s.discovered with hfresh
  have hnew : ∀ m ∈ fresh.reverse, m ∈ successors n ∧ m ∉ n :: s.discovered := by
    intro m hm
    simpa [hfresh] using hm
  -- a node that was open keeps its place, with the new entries above it
  have hold : ∀ m, s.Open m →
      n ∈ above s.stack m ∧ above (fresh.reverse ++ n :: rest) m = fresh.reverse ++ above s.stack m := by
    intro m hm
    have hne : n ≠ m := fun e => hd (e ▸ hm.1)
    refine ⟨by rw [hs, above_cons hne]; exact List.mem_cons_self, ?_⟩
    rw [above_append, hs]
    intro x hx e
    exact (hnew x hx).2 (e ▸ List.mem_cons_of_mem n hm.1)
  have hself : above (fresh.reverse ++ n :: rest) n = fresh.reverse := by
    rw [above_append, above_self, List.append_nil]
    intro x hx e
    exact (hnew x hx).2 (e ▸ List.mem_cons_self)
  have hcases : ∀ m, m ∈ n :: s.discovered → m ∉ s.finished → m = n ∨ s.Open m := by
    intro m hm hf
    rcases List.mem_cons.mp hm with e | hm
    · exact Or.inl e
    · exact Or.inr ⟨hm, hf⟩
  refine ⟨fun m hm => List.mem_cons_of_mem n (h.finished_subset m hm), h.nodup, h.closed,
    ?_, ?_, ?_⟩
  · rintro m ⟨hm, hf⟩
    rcases hcases m hm hf with rfl | ho
    · simp
    · have hm' := h.open_stacked m ho
      rw [hs] at hm'
      exact List.mem_append_right _ hm'
  · rintro m ⟨hm, hf⟩ x hx
    rcases hcases m hm hf with rfl | ho
    · rw [hself] at hx
      exact hr m x (hnew x hx).1
    · obtain ⟨hn, ha⟩ := hold m ho
      rw [ha] at hx
      rcases List.mem_append.mp hx with hx | hx
      · exact (h.open_lower m ho n hn).trans (hr n x (hnew x hx).1)
      · exact h.open_lower m ho x hx
  · rintro m ⟨hm, hf⟩ x hx
    rcases hcases m hm hf with rfl | ho
    · rw [hself]
      by_cases hxd : x ∈ m :: s.discovered
      · left
        by_contra hxf
        rcases hcases x hxd hxf with rfl | hxo
        · exact Nat.lt_irrefl _ (hr x x hx)
        · have h1 := h.open_lower x hxo m (hold x hxo).1
          have h2 := hr m x hx
          omega
      · right
        rw [List.mem_reverse, hfresh, List.mem_filter]
        exact ⟨hx, by simpa using hxd⟩
    · rw [(hold m ho).2]
      rcases h.open_successors m ho x hx with hxf | hxa
      · exact Or.inl hxf
      · exact Or.inr (List.mem_append_right _ hxa)

/-- Finishing the node on top of the stack, after all its successors. -/
theorem Sound.step_open (h : Sound successors rank s) (hs : s.stack = n :: rest)
    (hd : n ∈ s.discovered) (hf : n ∉ s.finished) : Sound successors rank (s.step successors) := by
  rw [step_of_open hs hd hf]
  have hold : ∀ m, m ∈ s.discovered → m ∉ n :: s.finished →
      s.Open m ∧ n ≠ m ∧ above s.stack m = n :: above rest m := by
    intro m hm hmf
    rw [List.mem_cons, not_or] at hmf
    have hne : n ≠ m := fun e => hmf.1 e.symm
    exact ⟨⟨hm, hmf.2⟩, hne, by rw [hs, above_cons hne]⟩
  refine ⟨?_, List.nodup_cons.mpr ⟨hf, h.nodup⟩, ⟨?_, h.closed⟩, ?_, ?_, ?_⟩
  · intro m hm
    rcases List.mem_cons.mp hm with rfl | hm
    · exact hd
    · exact h.finished_subset m hm
  · intro m hm
    rcases h.open_successors n ⟨hd, hf⟩ m hm with hmf | hma
    · exact hmf
    · rw [hs, above_self] at hma
      cases hma
  · rintro m ⟨hm, hmf⟩
    obtain ⟨ho, hne, -⟩ := hold m hm hmf
    have hm' := h.open_stacked m ho
    rw [hs] at hm'
    exact (List.mem_cons.mp hm').resolve_left hne.symm
  · rintro m ⟨hm, hmf⟩ x hx
    obtain ⟨ho, -, ha⟩ := hold m hm hmf
    exact h.open_lower m ho x (by rw [ha]; exact List.mem_cons_of_mem n hx)
  · rintro m ⟨hm, hmf⟩ x hx
    obtain ⟨ho, -, ha⟩ := hold m hm hmf
    rcases h.open_successors m ho x hx with hxf | hxa
    · exact Or.inl (List.mem_cons_of_mem n hxf)
    · rw [ha] at hxa
      rcases List.mem_cons.mp hxa with rfl | hxa
      · exact Or.inl List.mem_cons_self
      · exact Or.inr hxa

/-- Taking a finished node off the stack. -/
theorem Sound.step_finished (h : Sound successors rank s) (hs : s.stack = n :: rest)
    (hd : n ∈ s.discovered) (hf : n ∈ s.finished) : Sound successors rank (s.step successors) := by
  rw [step_of_finished hs hd hf]
  have hold : ∀ m, s.Open m → n ≠ m ∧ above s.stack m = n :: above rest m := by
    intro m hm
    have hne : n ≠ m := fun e => hm.2 (e ▸ hf)
    exact ⟨hne, by rw [hs, above_cons hne]⟩
  refine ⟨h.finished_subset, h.nodup, h.closed, ?_, ?_, ?_⟩
  · intro m ho
    have hm' := h.open_stacked m ho
    rw [hs] at hm'
    exact (List.mem_cons.mp hm').resolve_left (hold m ho).1.symm
  · intro m ho x hx
    exact h.open_lower m ho x (by rw [(hold m ho).2]; exact List.mem_cons_of_mem n hx)
  · intro m ho x hx
    rcases h.open_successors m ho x hx with hxf | hxa
    · exact Or.inl hxf
    · rw [(hold m ho).2] at hxa
      rcases List.mem_cons.mp hxa with rfl | hxa
      · exact Or.inl hf
      · exact Or.inr hxa

theorem Sound.step (h : Sound successors rank s)
    (hr : ∀ n, ∀ m ∈ successors n, rank n < rank m) : Sound successors rank (s.step successors) := by
  cases hs : s.stack with
  | nil =>
    rw [Search.step, hs]
    exact h
  | cons n rest =>
    by_cases hd : n ∈ s.discovered
    · by_cases hf : n ∈ s.finished
      · exact h.step_finished hs hd hf
      · exact h.step_open hs hd hf
    · exact h.step_fresh hr hs hd

end Steps

/-! ## The search stays inside the graph -/

/-- A search has met nothing but nodes of the graph. -/
structure Inside (nodes : Finset Nat) (s : Search) : Prop where
  stack : ∀ n ∈ s.stack, n ∈ nodes
  discovered : ∀ n ∈ s.discovered, n ∈ nodes

/-- A node has been discovered or waits for it. -/
def Reached (s : Search) (n : Nat) : Prop :=
  n ∈ s.stack ∨ n ∈ s.discovered

section Graph
variable {nodes : Finset Nat} {s : Search}

theorem Inside.step (h : Inside nodes s) (hn : ∀ n ∈ nodes, ∀ m ∈ successors n, m ∈ nodes) :
    Inside nodes (s.step successors) := by
  cases hs : s.stack with
  | nil =>
    rw [Search.step, hs]
    exact h
  | cons n rest =>
    have htop : n ∈ nodes := h.stack n (by rw [hs]; exact List.mem_cons_self)
    have hrest : ∀ m ∈ rest, m ∈ nodes := fun m hm => h.stack m (by rw [hs]; simp [hm])
    by_cases hd : n ∈ s.discovered
    · by_cases hf : n ∈ s.finished
      · rw [step_of_finished hs hd hf]
        exact ⟨hrest, h.discovered⟩
      · rw [step_of_open hs hd hf]
        exact ⟨hrest, h.discovered⟩
    · rw [step_of_fresh hs hd]
      refine ⟨?_, ?_⟩
      · intro m hm
        rcases List.mem_append.mp hm with hm | hm
        · exact hn n htop m (List.mem_filter.mp (List.mem_reverse.mp hm)).1
        · exact h.stack m (by rw [hs]; exact hm)
      · intro m hm
        rcases List.mem_cons.mp hm with rfl | hm
        · exact htop
        · exact h.discovered m hm

theorem Reached.step {n : Nat} (h : s.Reached n) : (s.step successors).Reached n := by
  cases hs : s.stack with
  | nil =>
    rw [Search.step, hs]
    exact h
  | cons m rest =>
    by_cases hd : m ∈ s.discovered
    · have hr : n ∈ rest ∨ n ∈ s.discovered := by
        rcases h with h | h
        · rw [hs] at h
          rcases List.mem_cons.mp h with rfl | h
          · exact Or.inr hd
          · exact Or.inl h
        · exact Or.inr h
      by_cases hf : m ∈ s.finished
      · rw [step_of_finished hs hd hf]
        exact hr
      · rw [step_of_open hs hd hf]
        exact hr
    · rw [step_of_fresh hs hd]
      rcases h with h | h
      · rw [hs] at h
        exact Or.inl (List.mem_append_right _ h)
      · exact Or.inr (List.mem_cons_of_mem m h)

/-! ## The search ends -/

/-- The height of the stack, with one more entry for each undiscovered node and each of its
successors. -/
def budget (successors : Nat → List Nat) (nodes : Finset Nat) (s : Search) : Nat :=
  s.stack.length + ∑ n ∈ nodes with n ∉ s.discovered, ((successors n).length + 1)

theorem budget_step_lt (h : Inside nodes s) (hs : s.stack ≠ []) :
    budget successors nodes (s.step successors) < budget successors nodes s := by
  obtain ⟨n, rest, hs⟩ := List.exists_cons_of_ne_nil hs
  by_cases hd : n ∈ s.discovered
  · by_cases hf : n ∈ s.finished
    · rw [step_of_finished hs hd hf]
      simp [budget, hs]
    · rw [step_of_open hs hd hf]
      simp [budget, hs]
  · rw [step_of_fresh hs hd]
    have htop : n ∈ nodes.filter (· ∉ s.discovered) :=
      Finset.mem_filter.mpr ⟨h.stack n (by rw [hs]; exact List.mem_cons_self), hd⟩
    have hleft : nodes.filter (· ∉ n :: s.discovered) =
        (nodes.filter (· ∉ s.discovered)).erase n := by
      ext m
      simp only [Finset.mem_filter, Finset.mem_erase, List.mem_cons, not_or]
      tauto
    have hsum := Finset.add_sum_erase _ (fun m => (successors m).length + 1) htop
    have hlen := List.length_filter_le (fun m => decide (m ∉ n :: s.discovered)) (successors n)
    simp only [budget, hs, hleft, List.length_append, List.length_reverse, List.length_cons] at *
    omega

theorem run_of_stack_nil (fuel : Nat) (hs : s.stack = []) : run successors fuel s = s := by
  cases fuel with
  | zero => rfl
  | succ fuel => simp [run, hs]

theorem run_succ (fuel : Nat) (hs : s.stack ≠ []) :
    run successors (fuel + 1) s = run successors fuel (s.step successors) := by
  simp [run, hs]

/-- What every step keeps, a run keeps. -/
theorem run_induction {I : Search → Prop} (hI : ∀ s, I s → I (s.step successors)) (fuel : Nat)
    (h : I s) : I (run successors fuel s) := by
  induction fuel generalizing s with
  | zero => exact h
  | succ fuel ih =>
    by_cases hs : s.stack = []
    · rw [run_of_stack_nil _ hs]
      exact h
    · rw [run_succ fuel hs]
      exact ih (hI s h)

theorem run_stack (hn : ∀ n ∈ nodes, ∀ m ∈ successors n, m ∈ nodes) (h : Inside nodes s)
    {fuel : Nat} (hb : budget successors nodes s ≤ fuel) : (run successors fuel s).stack = [] := by
  induction fuel generalizing s with
  | zero =>
    have hz : s.stack.length = 0 := by
      simp only [budget] at hb
      omega
    exact List.length_eq_zero_iff.mp hz
  | succ fuel ih =>
    by_cases hs : s.stack = []
    · rw [run_of_stack_nil _ hs]
      exact hs
    · rw [run_succ fuel hs]
      have hlt : budget successors nodes (s.step successors) < budget successors nodes s :=
        budget_step_lt h hs
      exact ih (h.step hn) (by omega)

/-- Once the stack is empty, more steps change nothing. -/
theorem run_of_le {n m : Nat} (hs : (run successors n s).stack = []) (hle : n ≤ m) :
    run successors m s = run successors n s := by
  induction n generalizing s m with
  | zero => exact run_of_stack_nil m hs
  | succ n ih =>
    by_cases h : s.stack = []
    · rw [run_of_stack_nil _ h, run_of_stack_nil _ h]
    · obtain ⟨m, rfl⟩ : ∃ k, m = k + 1 := ⟨m - 1, by omega⟩
      rw [run_succ n h] at hs
      rw [run_succ m h, run_succ n h]
      exact ih hs (by omega)

end Graph

/-! ## Exploring from several roots -/

/-- A sound search inside the graph that has come to rest. -/
structure Settled (successors : Nat → List Nat) (rank : Nat → Nat) (nodes : Finset Nat)
    (s : Search) : Prop where
  sound : Sound successors rank s
  inside : Inside nodes s
  stack : s.stack = []

/-- Steps that are enough for an exploration of the graph. -/
def enough (successors : Nat → List Nat) (nodes : Finset Nat) : Nat :=
  1 + ∑ n ∈ nodes, ((successors n).length + 1)

section Explore
variable {rank : Nat → Nat} {nodes : Finset Nat} {s : Search}

theorem settled_start : Settled successors rank nodes {} :=
  ⟨⟨by simp, List.nodup_nil, trivial, by simp [Open], by simp [Open], by simp [Open]⟩,
    ⟨by simp, by simp⟩, rfl⟩

theorem Settled.not_open (h : Settled successors rank nodes s) (n : Nat) : ¬ s.Open n := by
  intro ho
  have hm := h.sound.open_stacked n ho
  rw [h.stack] at hm
  cases hm

/-- Everything that a search at rest has discovered is finished. -/
theorem Settled.mem_finished (h : Settled successors rank nodes s) {n : Nat}
    (hd : n ∈ s.discovered) : n ∈ s.finished := by
  by_contra hf
  exact h.not_open n ⟨hd, hf⟩

theorem Settled.sound_root (h : Settled successors rank nodes s) (root : Nat) :
    Sound successors rank { s with stack := [root] } :=
  ⟨h.sound.finished_subset, h.sound.nodup, h.sound.closed, fun n ho => absurd ho (h.not_open n),
    fun n ho => absurd ho (h.not_open n), fun n ho => absurd ho (h.not_open n)⟩

theorem budget_root_le (root : Nat) :
    budget successors nodes { s with stack := [root] } ≤ enough successors nodes := by
  have h := Finset.sum_le_sum_of_subset (f := fun n => (successors n).length + 1)
    (Finset.filter_subset (· ∉ s.discovered) nodes)
  simp only [budget, enough, List.length_singleton]
  omega

variable (hr : ∀ n, ∀ m ∈ successors n, rank n < rank m)
  (hn : ∀ n ∈ nodes, ∀ m ∈ successors n, m ∈ nodes)
include hn

/-- One exploration ends, whatever it is given beyond the steps that are enough. -/
theorem Settled.explore_of_le (h : Settled successors rank nodes s) {root fuel : Nat}
    (hroot : root ∈ nodes) (hf : enough successors nodes ≤ fuel) :
    (explore successors fuel s root).stack = [] ∧
      explore successors fuel s root = explore successors (enough successors nodes) s root := by
  by_cases hd : root ∈ s.discovered
  · simp only [explore, if_pos hd]
    exact ⟨h.stack, trivial⟩
  · have hin : Inside nodes { s with stack := [root] } :=
      ⟨by simpa using hroot, h.inside.discovered⟩
    have hb : budget successors nodes { s with stack := [root] } ≤ enough successors nodes :=
      budget_root_le root
    have hstack := run_stack hn hin hb
    simp only [explore, if_neg hd]
    have he := run_of_le hstack hf
    exact ⟨by rw [he]; exact hstack, he⟩

include hr

theorem Settled.explore (h : Settled successors rank nodes s) {root fuel : Nat}
    (hroot : root ∈ nodes) (hf : enough successors nodes ≤ fuel) :
    Settled successors rank nodes (explore successors fuel s root) ∧
      root ∈ (explore successors fuel s root).discovered ∧
      ∀ n ∈ s.discovered, n ∈ (explore successors fuel s root).discovered := by
  have hstack := (h.explore_of_le hn hroot hf).1
  by_cases hd : root ∈ s.discovered
  · simp only [Search.explore, if_pos hd]
    exact ⟨h, hd, fun _ h => h⟩
  · simp only [Search.explore, if_neg hd] at hstack ⊢
    have hreach : ∀ n, n = root ∨ n ∈ s.discovered →
        n ∈ (run successors fuel { s with stack := [root] }).discovered := by
      intro n hnr
      have h0 : Reached { s with stack := [root] } n := by
        simpa [Reached] using hnr
      have h1 : Reached (run successors fuel { s with stack := [root] }) n :=
        run_induction (I := (Reached · n)) (fun _ h => h.step) fuel h0
      rw [Reached, hstack] at h1
      exact h1.resolve_left (by simp)
    refine ⟨⟨?_, ?_, hstack⟩, hreach root (Or.inl rfl), fun n h => hreach n (Or.inr h)⟩
    · exact run_induction (fun _ h => h.step hr) fuel (h.sound_root root)
    · exact run_induction (fun _ h => h.step hn) fuel ⟨by simpa using hroot, h.inside.discovered⟩

theorem Settled.foldl_explore (h : Settled successors rank nodes s) {fuel : Nat}
    (hf : enough successors nodes ≤ fuel) (roots : List Nat) (hroots : ∀ n ∈ roots, n ∈ nodes) :
    Settled successors rank nodes (roots.foldl (Search.explore successors fuel) s) ∧
      ∀ n, n ∈ roots ∨ n ∈ s.discovered →
        n ∈ (roots.foldl (Search.explore successors fuel) s).discovered := by
  induction roots generalizing s with
  | nil => exact ⟨h, fun n hn => hn.resolve_left (by simp)⟩
  | cons root roots ih =>
    obtain ⟨h1, hroot, hgrow⟩ := h.explore hr hn (hroots root List.mem_cons_self) hf
    obtain ⟨h2, hall⟩ := ih h1 (fun n hn => hroots n (List.mem_cons_of_mem root hn))
    refine ⟨h2, ?_⟩
    rintro n (hm | hm)
    · rcases List.mem_cons.mp hm with rfl | hm
      · exact hall n (Or.inr hroot)
      · exact hall n (Or.inl hm)
    · exact hall n (Or.inr (hgrow n hm))

/-- Exploring from nodes of the graph comes to rest after each of them, and has then discovered it.
-/
theorem exploreAll_settled {fuel : Nat} (hf : enough successors nodes ≤ fuel) (roots : List Nat)
    (hroots : ∀ n ∈ roots, n ∈ nodes) :
    Settled successors rank nodes (exploreAll successors fuel roots) ∧
      ∀ n ∈ roots, n ∈ (exploreAll successors fuel roots).discovered := by
  obtain ⟨h, hall⟩ := settled_start.foldl_explore hr hn hf roots hroots
  exact ⟨h, fun n hn => hall n (Or.inl hn)⟩

/-- Steps beyond those that are enough change nothing. -/
theorem exploreAll_of_le {fuel : Nat} (hf : enough successors nodes ≤ fuel) (roots : List Nat)
    (hroots : ∀ n ∈ roots, n ∈ nodes) :
    exploreAll successors fuel roots = exploreAll successors (enough successors nodes) roots := by
  induction roots using List.reverseRecOn with
  | nil => rfl
  | append_singleton roots root ih =>
    have hroots' : ∀ n ∈ roots, n ∈ nodes := fun n hn => hroots n (List.mem_append_left _ hn)
    have hs := (exploreAll_settled hr hn (Nat.le_refl _) roots hroots').1
    have ih := ih hroots'
    simp only [exploreAll, List.foldl_append, List.foldl_cons, List.foldl_nil] at ih hs ⊢
    rw [ih]
    exact (hs.explore_of_le hn (hroots root (by simp)) hf).2

/-- Exploring from every node finishes the nodes of the graph, each once and before its
successors. -/
theorem finished_exploreAll {fuel : Nat} (hf : enough successors nodes ≤ fuel) (roots : List Nat)
    (hroots : ∀ n, n ∈ roots ↔ n ∈ nodes) :
    (exploreAll successors fuel roots).finished.Nodup ∧
      (∀ n, n ∈ (exploreAll successors fuel roots).finished ↔ n ∈ nodes) ∧
      Closed successors (exploreAll successors fuel roots).finished := by
  obtain ⟨h, hall⟩ := exploreAll_settled hr hn hf roots (fun n => (hroots n).mp)
  refine ⟨h.sound.nodup, fun n => ⟨?_, ?_⟩, h.sound.closed⟩
  · intro hm
    exact h.inside.discovered n (h.sound.finished_subset n hm)
  · intro hm
    exact h.mem_finished (hall n ((hroots n).mpr hm))

end Explore
end SqlTrees.Search
