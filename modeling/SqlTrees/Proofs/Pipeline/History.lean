import Mathlib.Data.List.Induction
import SqlTrees.Proofs.Pipeline.Arrival

/-! # Histories of a pipeline

* `Pipeline.after`: the pipeline that a sequence of calls leads to from the empty one.
* `Pipeline.arrivals`: the registered ids, each where its transform was registered last.
* `Pipeline.Lasting`: a transform and one of its dependencies have both stayed registered since the
  transform was registered.
* `Pipeline.lasting_iff`: this is so exactly if the dependency is the earlier arrival. A dependency
  that was removed and registered again is the later one.
-/

namespace SqlTrees.Pipeline
set_option autoImplicit false

variable {ε : Type} {p : Pipeline ε} {t : Transform ε} {d : String}

/-- A call that changes a pipeline. -/
inductive Operation (ε : Type)
  | add (t : Transform ε)
  | remove (id : String)

/-- The pipeline after a call. One that fails leaves it as it was. -/
def execute (p : Pipeline ε) : Operation ε → Pipeline ε
  | .add t =>
    match p.add t with
    | .ok q => q
    | .error _ => p
  | .remove id =>
    match p.remove id with
    | some (_, q) => q
    | none => p

/-- The pipeline after a sequence of calls on the empty one. -/
def after (ops : List (Operation ε)) : Pipeline ε :=
  ops.foldl execute empty

/-- The order of arrival after a call. -/
def enlist (p : Pipeline ε) (ids : List String) : Operation ε → List String
  | .add t =>
    match p.add t with
    | .ok _ => ids ++ [t.id]
    | .error _ => ids
  | .remove id => ids.erase id

/-- The registered ids after a sequence of calls, the one registered last at the end. -/
def arrivals (ops : List (Operation ε)) : List String :=
  (ops.foldl (fun s op => (s.1.execute op, s.1.enlist s.2 op)) ((empty : Pipeline ε), [])).2

/-- Since it was registered, a transform has stayed in the pipeline, and so has an id. -/
def Lasting (ops : List (Operation ε)) (t : Transform ε) (d : String) : Prop :=
  ∃ earlier later, ops = earlier ++ .add t :: later ∧ ¬ (after earlier).Registered t.id ∧
    ∀ soFar, soFar <+: later →
      (after (earlier ++ .add t :: soFar)).Registered t.id ∧
        (after (earlier ++ .add t :: soFar)).Registered d

/-! ## One more call -/

theorem after_concat (ops : List (Operation ε)) (op : Operation ε) :
    after (ops ++ [op]) = (after ops).execute op := by
  rw [after, List.foldl_append, List.foldl_cons, List.foldl_nil, after]

theorem arrivals_concat (ops : List (Operation ε)) (op : Operation ε) :
    arrivals (ops ++ [op]) = (after ops).enlist (arrivals ops) op := by
  have hfst : ∀ ops : List (Operation ε),
      (ops.foldl (fun s op => (s.1.execute op, s.1.enlist s.2 op)) ((empty : Pipeline ε), [])).1 =
        after ops := by
    intro ops
    induction ops using List.reverseRecOn with
    | nil => rfl
    | append_singleton ops op ih =>
      rw [after_concat, List.foldl_append, ← ih]
      rfl
  rw [arrivals, List.foldl_append, List.foldl_cons, List.foldl_nil, hfst, arrivals]

/-- A call registers a transform, or removes one, or changes nothing. -/
theorem execute_cases {ids : List String} (h : p.Arrived ids) (op : Operation ε) :
    (∃ u, op = .add u ∧ p.add u = .ok (p.execute op) ∧ p.enlist ids op = ids ++ [u.id]) ∨
      (∃ id u, op = .remove id ∧ p.remove id = some (u, p.execute op) ∧
        p.enlist ids op = ids.erase id) ∨
      p.execute op = p ∧ p.enlist ids op = ids := by
  cases op with
  | add u =>
    cases ha : p.add u with
    | ok q => exact Or.inl ⟨u, rfl, by simp only [execute, ha], by simp only [enlist, ha]⟩
    | error e => exact Or.inr (Or.inr ⟨by simp only [execute, ha], by simp only [enlist, ha]⟩)
  | remove id =>
    cases hr : p.remove id with
    | some r =>
      obtain ⟨u, q⟩ := r
      exact Or.inr (Or.inl ⟨id, u, rfl, by simp only [execute, hr], rfl⟩)
    | none =>
      refine Or.inr (Or.inr ⟨by simp only [execute, hr], ?_⟩)
      have hid : id ∉ ids := by
        rw [h.mem_iff, ← slotOf?_eq_none_iff]
        cases hs : p.slotOf? id with
        | none => rfl
        | some slot =>
          obtain ⟨u, hu, -⟩ := at?_of_slotOf? hs
          rw [remove, hs, Option.bind_eq_bind, Option.bind_some, hu] at hr
          cases hr
      rw [enlist, List.erase_of_not_mem hid]

theorem Arrived.execute {ids : List String} (h : p.Arrived ids) (op : Operation ε) :
    (p.execute op).Arrived (p.enlist ids op) := by
  rcases execute_cases h op with ⟨u, -, ha, he⟩ | ⟨id, u, -, hr, he⟩ | ⟨hx, he⟩
  · rw [he]
    exact h.add ha
  · rw [he]
    exact h.remove hr
  · rw [hx, he]
    exact h

theorem holds_before {ids : List String} (h : p.Arrived ids) {op : Operation ε}
    (ht : (p.execute op).Holds t) : p.Holds t ∨ op = .add t ∧ ¬ p.Registered t.id := by
  rcases execute_cases h op with ⟨u, rfl, ha, -⟩ | ⟨id, u, rfl, hr, -⟩ | ⟨hsame, -⟩
  · obtain ⟨⟨slot, g⟩, -⟩ := h.gained ha
    rcases g.holds_iff.mp ht with rfl | hold
    · exact Or.inr ⟨rfl, g.fresh⟩
    · exact Or.inl hold
  · obtain ⟨⟨slot, l⟩, -⟩ := h.lost hr
    exact Or.inl (l.holds_iff.mp ht).1
  · rw [hsame] at ht
    exact Or.inl ht

/-- A dependency is the earlier arrival if the call registers the transform, or if it has been so and
is left in the pipeline. -/
theorem pair_enlist_iff {ids : List String} (h : p.Arrived ids) {op : Operation ε}
    (ht : (p.execute op).Holds t) (hd : d ∈ t.dependencies) :
    [d, t.id].Sublist (p.enlist ids op) ↔
      (p.execute op).Registered d ∧
        (op = .add t ∧ ¬ p.Registered t.id ∨ [d, t.id].Sublist ids) := by
  have hx : (p.execute op).Arrived (p.enlist ids op) := h.execute op
  have hdr : [d, t.id].Sublist (p.enlist ids op) → (p.execute op).Registered d :=
    fun hp => (hx.mem_iff d).mp (hp.subset List.mem_cons_self)
  rcases execute_cases h op with ⟨u, rfl, ha, he⟩ | ⟨id, u, rfl, hr, he⟩ | ⟨hsame, he⟩
  · obtain ⟨⟨slot, g⟩, -⟩ := h.gained ha
    rw [he] at hdr ⊢
    rcases g.holds_iff.mp ht with rfl | ⟨i, hi⟩
    · have hpair : [d, t.id].Sublist (ids ++ [t.id]) :=
        (List.singleton_sublist.mpr ((h.mem_iff d).mpr (g.known d hd))).append_right [t.id]
      exact ⟨fun hp => ⟨hdr hp, Or.inl ⟨rfl, g.fresh⟩⟩, fun _ => hpair⟩
    · constructor
      · exact fun hp => ⟨hdr hp, Or.inr (pair_sublist_of_concat hp (g.id_ne hi))⟩
      · rintro ⟨-, ⟨hop, -⟩ | hp⟩
        · cases hop
          exact absurd rfl (g.id_ne hi)
        · exact hp.trans (List.sublist_append_left ids [u.id])
  · obtain ⟨⟨slot, l⟩, -⟩ := h.lost hr
    rw [he] at hdr ⊢
    constructor
    · exact fun hp => ⟨hdr hp, Or.inr (hp.trans List.erase_sublist)⟩
    · rintro ⟨⟨v, hv, rfl⟩, ⟨hop, -⟩ | hp⟩
      · cases hop
      · exact pair_sublist_erase (l.holds_iff.mp hv).2 (l.holds_iff.mp ht).2 hp
  · rw [he] at hdr ⊢
    constructor
    · exact fun hp => ⟨hdr hp, Or.inr hp⟩
    · rintro ⟨-, ⟨-, hnew⟩ | hp⟩
      · rw [hsame] at ht
        exact absurd ⟨t, ht, rfl⟩ hnew
      · exact hp

theorem arrived_after (ops : List (Operation ε)) : (after ops).Arrived (arrivals ops) := by
  induction ops using List.reverseRecOn with
  | nil => exact arrived_empty
  | append_singleton ops op ih =>
    rw [after_concat, arrivals_concat]
    exact ih.execute op

/-! ## Lasting dependencies -/

theorem Lasting.registered {ops : List (Operation ε)} (h : Lasting ops t d) :
    (after ops).Registered t.id ∧ (after ops).Registered d := by
  obtain ⟨earlier, later, rfl, -, hall⟩ := h
  exact hall later (List.prefix_refl later)

/-- A dependency lasts over one more call if it has lasted and both are left in the pipeline, or if
the call registers the transform. -/
theorem lasting_concat {ops : List (Operation ε)} {op : Operation ε} :
    Lasting (ops ++ [op]) t d ↔
      (after (ops ++ [op])).Registered t.id ∧ (after (ops ++ [op])).Registered d ∧
        (Lasting ops t d ∨ op = .add t ∧ ¬ (after ops).Registered t.id) := by
  constructor
  · intro h
    refine ⟨h.registered.1, h.registered.2, ?_⟩
    obtain ⟨earlier, later, ho, hnew, hall⟩ := h
    rcases List.eq_nil_or_concat later with rfl | ⟨later, last, rfl⟩
    · obtain ⟨rfl, hop⟩ := List.append_inj' ho rfl
      exact Or.inr ⟨List.singleton_inj.mp hop, hnew⟩
    · rw [List.concat_eq_append] at ho hall
      rw [← List.cons_append, ← List.append_assoc] at ho
      obtain ⟨rfl, -⟩ := List.append_inj' ho rfl
      exact Or.inl ⟨earlier, later, rfl, hnew, fun soFar hs =>
        hall soFar (hs.trans (List.prefix_append _ _))⟩
  · rintro ⟨ht, hd, ⟨earlier, later, rfl, hnew, hall⟩ | ⟨rfl, hnew⟩⟩
    · refine ⟨earlier, later ++ [op], by simp, hnew, ?_⟩
      intro soFar hs
      rcases List.prefix_concat_iff.mp hs with rfl | hs
      · rw [← List.cons_append, ← List.append_assoc]
        exact ⟨ht, hd⟩
      · exact hall soFar hs
    · refine ⟨ops, [], rfl, hnew, ?_⟩
      intro soFar hs
      rw [List.prefix_nil.mp hs]
      exact ⟨ht, hd⟩

theorem lasting_iff {ops : List (Operation ε)} (ht : (after ops).Holds t)
    (hd : d ∈ t.dependencies) : Lasting ops t d ↔ [d, t.id].Sublist (arrivals ops) := by
  induction ops using List.reverseRecOn with
  | nil =>
    obtain ⟨slot, hs⟩ := ht
    simp [after, at?, empty] at hs
  | append_singleton ops op ih =>
    have htr : (after (ops ++ [op])).Registered t.id := ⟨t, ht, rfl⟩
    rw [after_concat] at ht
    have hbefore := holds_before (arrived_after ops) ht
    rw [lasting_concat, arrivals_concat, pair_enlist_iff (arrived_after ops) ht hd, ← after_concat]
    constructor
    · rintro ⟨-, hdr, hl | hadd⟩
      · rcases hbefore with hold | ⟨-, hnew⟩
        · exact ⟨hdr, Or.inr ((ih hold).mp hl)⟩
        · exact absurd hl.registered.1 hnew
      · exact ⟨hdr, Or.inl hadd⟩
    · rintro ⟨hdr, hadd | hpair⟩
      · exact ⟨htr, hdr, Or.inr hadd⟩
      · rcases hbefore with hold | hadd
        · exact ⟨htr, hdr, Or.inl ((ih hold).mpr hpair)⟩
        · exact ⟨htr, hdr, Or.inr hadd⟩

end SqlTrees.Pipeline
