import Mathlib.Control.Basic
import Mathlib.Logic.Relation
import SqlTrees.Proofs.Pipeline.Dependencies
import SqlTrees.Proofs.Rebuild.Fusion

/-! # Orders of transforms that commute

Edges fix only a part of the order in which transforms run. Where the rest of the order could be
told from a result, two transforms without a path of edges between them would not commute.

* `Pipeline.Leads`: a path of edges from one transform to another.
* `Pipeline.runInOrder_eq_of_perm`: two orders that agree with a relation give the same result, if
  transforms that it does not relate commute. The first transform of one order moves to the front of
  the other, past transforms that it is not related to.
* `Pipeline.Respects.pairwise_not_leads`: an order that agrees with the edges agrees with the paths.
* `Pipeline.apply_eq_any_order`: a pipeline of transforms that commute wherever no path relates them
  comes to the result of any order that agrees with its edges.
-/

namespace SqlTrees
set_option autoImplicit false

variable {ε : Type}

/-- The tree or the failure that a run comes to. -/
def Run.result (r : Run ε) (n : Node) : Except ε Node :=
  (r n).1

/-- Whichever of two runs is first, they come to the same tree or the same failure. -/
def Run.Commutes (r s : Run ε) : Prop :=
  r.result >=> s.result = s.result >=> r.result

theorem Run.result_toRun_then {σ τ φ : Type} (P : Pass σ ε) (Q : Pass τ ε) (a : σ) (b : τ)
    (wrap : ε → φ) (n : Node) :
    ((P.toRun a wrap).result >=> (Q.toRun b wrap).result) n =
      ((P.result a >=> Q.result b) n).mapError wrap := by
  change ((P.result a n).mapError wrap >>= fun m => (Q.result b m).mapError wrap) =
    (P.result a n >>= Q.result b).mapError wrap
  cases P.result a n <;> rfl

/-- Passes that commute from contexts of their own do so as runs, whatever form their failures
take. -/
theorem Pass.commutes_toRun {σ τ φ : Type} {P : Pass σ ε} {Q : Pass τ ε} {a : σ} {b : τ}
    (h : P.result a >=> Q.result b = Q.result b >=> P.result a) (wrap : ε → φ) :
    (P.toRun a wrap).Commutes (Q.toRun b wrap) := by
  funext n
  rw [Run.result_toRun_then, Run.result_toRun_then, h]

namespace Pipeline

/-! ## Moving a transform to the front -/

/-- The transforms of a list, each on the tree that the one before came to, up to the first
failure. -/
def runInOrder (ts : List (Transform ε)) (n : Node) : Except ε Node :=
  ts.foldlM (fun m t => t.run.result m) n

theorem runInOrder_cons (t : Transform ε) (ts : List (Transform ε)) :
    runInOrder (t :: ts) = t.run.result >=> runInOrder ts := rfl

theorem fst_runAll (ts : List (Transform ε)) (n : Node) : (runAll ts n).1 = runInOrder ts n := by
  induction ts generalizing n with
  | nil => rfl
  | cons t ts ih =>
    rw [runInOrder_cons]
    change _ = (t.run n).1 >>= runInOrder ts
    rcases hr : t.run n with ⟨result, events⟩
    cases result with
    | error e => simp only [runAll, hr]; rfl
    | ok m => simp only [runAll, hr, ih]; rfl

theorem runInOrder_middle {front : List (Transform ε)} {t : Transform ε}
    (h : ∀ u ∈ front, u.run.Commutes t.run) (back : List (Transform ε)) :
    runInOrder (front ++ t :: back) = runInOrder (t :: (front ++ back)) := by
  induction front with
  | nil => rfl
  | cons u front ih =>
    rw [List.forall_mem_cons] at h
    have swapped : u.run.result >=> t.run.result = t.run.result >=> u.run.result := h.1
    calc runInOrder (u :: (front ++ t :: back))
        = u.run.result >=> (t.run.result >=> runInOrder (front ++ back)) := by
          rw [runInOrder_cons, ih h.2, runInOrder_cons]
      _ = t.run.result >=> (u.run.result >=> runInOrder (front ++ back)) := by
          rw [← fish_assoc, swapped, fish_assoc]
      _ = runInOrder (t :: (u :: front ++ back)) := rfl

/-- `before t u` asks `t` to run before `u`. -/
theorem runInOrder_eq_of_perm {before : Transform ε → Transform ε → Prop}
    {ts us : List (Transform ε)} (perm : ts.Perm us) (hts : ts.Pairwise fun t u => ¬ before u t)
    (hus : us.Pairwise fun t u => ¬ before u t)
    (commute : ∀ t ∈ ts, ∀ u ∈ ts, ¬ before t u → ¬ before u t → t.run.Commutes u.run) :
    runInOrder ts = runInOrder us := by
  induction ts generalizing us with
  | nil => rw [List.nil_perm.mp perm]
  | cons t ts ih =>
    obtain ⟨xs, ys, rfl⟩ := List.append_of_mem (perm.mem_iff.mp List.mem_cons_self)
    have rest : ts.Perm (xs ++ ys) := (perm.trans List.perm_middle).cons_inv
    rw [List.pairwise_cons] at hts
    have hxy : (xs ++ ys).Pairwise fun t u => ¬ before u t :=
      hus.sublist ((List.Sublist.refl xs).append (List.sublist_cons_self t ys))
    -- whatever stands before the first transform of the other order is not related to it
    have pass : ∀ u ∈ xs, u.run.Commutes t.run := by
      intro u hu
      have hm : u ∈ ts := rest.mem_iff.mpr (List.mem_append_left ys hu)
      have hut : ¬ before t u := (List.pairwise_append.mp hus).2.2 u hu t List.mem_cons_self
      exact commute u (List.mem_cons_of_mem t hm) t List.mem_cons_self (hts.1 u hm) hut
    have ih' : runInOrder ts = runInOrder (xs ++ ys) := by
      apply ih rest hts.2 hxy
      intro a ha b hb
      exact commute a (List.mem_cons_of_mem t ha) b (List.mem_cons_of_mem t hb)
    rw [runInOrder_middle pass, runInOrder_cons, runInOrder_cons, ih']

/-! ## Orders that agree with the edges -/

variable {p : Pipeline ε} {t u : Transform ε} {ts : List (Transform ε)}

/-- An edge leads from one transform to another. -/
def Edged (p : Pipeline ε) (t u : Transform ε) : Prop :=
  ∃ e ∈ p.edges, p.at? e.source = some t ∧ p.at? e.target = some u

/-- A path of edges leads from one transform to another. -/
def Leads (p : Pipeline ε) : Transform ε → Transform ε → Prop :=
  Relation.TransGen p.Edged

theorem Respects.idxOf_lt {ids : List String} (h : p.Respects ids) (hl : p.Leads t u) :
    ids.idxOf t.id < ids.idxOf u.id := by
  have edge : ∀ {a b}, p.Edged a b → ids.idxOf a.id < ids.idxOf b.id := by
    rintro a b ⟨e, he, ha, hb⟩
    exact idxOf_lt_of_pair_sublist h.nodup (h.edge e he a b ha hb)
  induction hl with
  | single he => exact edge he
  | tail _ he ih => exact ih.trans (edge he)

theorem Respects.pairwise_not_leads (h : p.Respects (ts.map Transform.id)) :
    ts.Pairwise fun t u => ¬ p.Leads u t := by
  rw [List.pairwise_iff_forall_sublist]
  intro t u htu hl
  have hid : [t.id, u.id].Sublist (ts.map Transform.id) := htu.map Transform.id
  have forth := idxOf_lt_of_pair_sublist h.nodup hid
  have back := h.idxOf_lt hl
  omega

theorem Arrived.mem_iff_holds {ids : List String} (h : p.Arrived ids)
    (ho : p.Respects (ts.map Transform.id)) (held : ∀ t ∈ ts, p.Holds t) :
    t ∈ ts ↔ p.Holds t := by
  refine ⟨held t, ?_⟩
  intro ht
  have hm : t.id ∈ ts.map Transform.id := (ho.mem_iff t.id).mpr ⟨t, ht, rfl⟩
  obtain ⟨u, hu, hid⟩ := List.mem_map.mp hm
  have same : u = t := h.holds_unique (held u hu) ht hid
  rw [← same]
  exact hu

/-- Transforms run in the order that a search finds or in any other that the edges allow: if every
two of them commute that no path of edges leads between, the result is the same tree or the same
failure. -/
theorem apply_eq_any_order (ops : List (Operation ε))
    (commute : ∀ t u, (after ops).Holds t → (after ops).Holds u → ¬ (after ops).Leads t u →
      ¬ (after ops).Leads u t → t.run.Commutes u.run)
    (ts : List (Transform ε)) (held : ∀ t ∈ ts, (after ops).Holds t)
    (respects : (after ops).Respects (ts.map Transform.id)) (n : Node) :
    ((after ops).apply n).map Prod.fst = .ok (ts.foldlM (fun m t => t.run.result m) n) := by
  have h : (after ops).Arrived (arrivals ops) := arrived_after ops
  set sorted := (after ops).finishingOrder.filterMap (after ops).at? with hs
  have sorted_respects : (after ops).Respects (sorted.map Transform.id) := h.respects_sorted.1
  have sorted_held : ∀ t ∈ sorted, (after ops).Holds t := fun _ => holds_of_mem_sorted
  have perm : sorted.Perm ts := by
    rw [List.perm_ext_iff_of_nodup sorted_respects.nodup.of_map respects.nodup.of_map]
    intro t
    rw [h.mem_iff_holds sorted_respects sorted_held, h.mem_iff_holds respects held]
  have same : runInOrder sorted = runInOrder ts := by
    apply runInOrder_eq_of_perm perm sorted_respects.pairwise_not_leads respects.pairwise_not_leads
    intro t ht u hu
    exact commute t u (sorted_held t ht) (sorted_held u hu)
  have applied : ((after ops).apply n).map Prod.fst = .ok (runAll sorted n).1 := by
    rw [apply, h.sorted_eq]
    rfl
  rw [applied, fst_runAll, same]
  rfl

/-- Integers are shifted and then doubled. Tables lose their qualifiers after that, but might as
well do so before. -/
theorem arithmetic_in_order :
    let bare : Transform UnsupportedKind :=
      ⟨"bare", [], (Pass.mapTables fun name => ⟨[name.suffix]⟩).toRun () id⟩
    let shift : Transform UnsupportedKind := ⟨"shift", [], (Pass.shiftIntegers 1).toRun () id⟩
    let double : Transform UnsupportedKind :=
      ⟨"double", ["shift"], (Pass.mapIntegers (· * 2)).toRun () id⟩
    let p := after [.add bare, .add shift, .add double]
    let sample (table : List String) (percentage : Int64) : Node :=
      ⟨Relation.sampled (.table ⟨table⟩) .system (.longLiteral percentage), rfl⟩
    (∀ t u, p.Holds t → p.Holds u → ¬ p.Leads t u → ¬ p.Leads u t → t.run.Commutes u.run) ∧
      (∀ t ∈ [bare, shift, double], p.Holds t) ∧ p.Respects ["bare", "shift", "double"] ∧
      p.order? = .ok ["shift", "double", "bare"] ∧
      (p.apply (sample ["c", "t"] 5)).map Prod.fst = .ok (.ok (sample ["t"] 12)) := by
  intro bare shift double p sample
  have slots : p.slots = [some bare, some shift, some double] := rfl
  have edges : p.edges = [⟨1, 2⟩] := rfl
  have cases : ∀ t, p.Holds t → t = bare ∨ t = shift ∨ t = double := by
    rintro t ⟨slot, ht⟩
    rw [at?, slots] at ht
    rcases slot with _ | _ | _ | slot
    · exact Or.inl (Option.some.inj ht).symm
    · exact Or.inr (Or.inl (Option.some.inj ht).symm)
    · exact Or.inr (Or.inr (Option.some.inj ht).symm)
    · cases ht
  have leads : p.Leads shift double :=
    .single ⟨⟨1, 2⟩, by rw [edges]; exact List.mem_singleton_self _, rfl, rfl⟩
  have commutes : ∀ f : Int64 → Int64, ((Pass.mapIntegers f).toRun () id).Commutes bare.run :=
    fun f => Pass.commutes_toRun (Pass.mapIntegers_comm_mapTables f _) id
  have hc : ∀ t u, p.Holds t → p.Holds u → ¬ p.Leads t u → ¬ p.Leads u t →
      t.run.Commutes u.run := by
    intro t u ht hu htu hut
    rcases cases t ht with rfl | rfl | rfl <;> rcases cases u hu with rfl | rfl | rfl
    · rfl
    · exact (commutes _).symm
    · exact (commutes _).symm
    · exact commutes _
    · rfl
    · exact absurd leads htu
    · exact commutes _
    · exact absurd leads hut
    · rfl
  have held : ∀ t ∈ [bare, shift, double], p.Holds t := by
    simp only [List.forall_mem_cons, List.not_mem_nil, false_implies, implies_true, and_true]
    exact ⟨⟨0, rfl⟩, ⟨1, rfl⟩, ⟨2, rfl⟩⟩
  have respects : p.Respects ["bare", "shift", "double"] := by
    refine ⟨by decide, ?_, ?_⟩
    · intro id
      constructor
      · intro h
        have h : id ∈ [bare, shift, double].map Transform.id := h
        obtain ⟨t, ht, rfl⟩ := List.mem_map.mp h
        exact ⟨t, held t ht, rfl⟩
      · rintro ⟨t, ht, rfl⟩
        rcases cases t ht with rfl | rfl | rfl <;> decide
    · intro e he t u ht hu
      rw [edges, List.mem_singleton] at he
      subst he
      cases ht
      cases hu
      decide
  refine ⟨hc, held, respects, by decide, ?_⟩
  rw [apply_eq_any_order _ hc _ held respects]
  rfl

end Pipeline
end SqlTrees
