import Mathlib.Data.List.Induction
import SqlTrees.Passes.Substitute
import SqlTrees.Pipeline.Registry
import SqlTrees.Proofs.Pipeline.Order

/-! # Refused calls change nothing

* `Pipeline.refusal?`: why a transform cannot be added. `Pipeline.add` fails for this reason and for
  no other (`Pipeline.add_eq_error_iff`).
* `Registry.register_run`, `Registry.unregister_run`: where the index is right, the steps of a call
  come to what `Pipeline.add` and `Pipeline.remove` do at once, and a call that fails has written
  nothing before it does.
* `Registry.respond_cases`: so a call registers a transform, or removes one, or changes nothing.
* `Registry.Indexed`: the index is right. Every call keeps it so (`Registry.Indexed.respond`).
* `Registry.registration_exact_and_atomic`: so it is after any calls, and no later call can tell that
  one was refused.
-/

namespace SqlTrees
set_option autoImplicit false

/-! ## Reasons to refuse a transform -/

namespace Pipeline
variable {ε : Type} {p : Pipeline ε} {t : Transform ε} {id d : String}

/-- Its id is in use, or it names an unknown dependency; the first of them counts. -/
def refusal? (p : Pipeline ε) (t : Transform ε) : Option PipelineError :=
  if p.Registered t.id then some (.duplicateTransform t.id)
  else (t.dependencies.find? fun d => ¬ p.Registered d).map (.unknownDependency t.id)

theorem refusal?_eq_none_iff :
    p.refusal? t = none ↔ ¬ p.Registered t.id ∧ ∀ d ∈ t.dependencies, p.Registered d := by
  by_cases ht : p.Registered t.id
  · simp [refusal?, ht]
  · simp [refusal?, ht]

theorem resolve_eq_error_iff {ids : List String} :
    p.resolve ids = .error d ↔ (ids.find? fun id => ¬ p.Registered id) = some d := by
  induction ids with
  | nil => simp [resolve]
  | cons id ids ih =>
    rw [resolve]
    cases hs : p.slotOf? id with
    | none =>
      have unknown : ¬ p.Registered id := slotOf?_eq_none_iff.1 hs
      rw [List.find?_cons_of_pos (by simpa using unknown)]
      simp
    | some slot =>
      have known : p.Registered id := registered_iff.2 (by rw [hs, Option.isSome_some])
      rw [List.find?_cons_of_neg (by simpa using known), ← ih]
      cases p.resolve ids <;> simp [Except.map]

theorem add_eq_error_iff {e : PipelineError} : p.add t = .error e ↔ p.refusal? t = some e := by
  rw [add, refusal?]
  by_cases ht : p.Registered t.id
  · rw [if_pos (registered_iff.1 ht), if_pos ht, Except.error.injEq, Option.some.injEq]
  · rw [if_neg (mt registered_iff.2 ht), if_neg ht, Option.map_eq_some_iff]
    simp only [← resolve_eq_error_iff]
    cases p.resolve t.dependencies <;> simp

theorem exists_add_eq_ok_iff :
    (∃ q, p.add t = .ok q) ↔ ¬ p.Registered t.id ∧ ∀ d ∈ t.dependencies, p.Registered d := by
  rw [← refusal?_eq_none_iff, Option.eq_none_iff_forall_ne_some]
  simp only [ne_eq, ← add_eq_error_iff]
  cases p.add t <;> simp

theorem remove_eq_none_iff : p.remove id = none ↔ ¬ p.Registered id := by
  rw [← slotOf?_eq_none_iff, remove]
  cases hs : p.slotOf? id with
  | none => simp
  | some slot =>
    obtain ⟨t, ht, -⟩ := at?_of_slotOf? hs
    simp [ht]

theorem Arrived.length_eq_size {ids : List String} (h : p.Arrived ids) : ids.length = p.size := by
  obtain ⟨sorted, length⟩ := h.respects_sorted
  rw [← length]
  refine ((List.perm_ext_iff_of_nodup h.nodup sorted.nodup).2 fun id => ?_).length_eq
  rw [h.mem_iff, sorted.mem_iff]

end Pipeline

/-! ## The steps of a call -/

namespace Registry
variable {ε α β : Type} {s s' : Registry ε} {t : Transform ε} {ids : List String}

theorem bind_of_ok {x : Step ε α} {f : α → Step ε β} {a : α} (h : x s = .ok a s') :
    (x >>= f) s = f a s' := by
  change EStateM.bind x f s = _
  rw [EStateM.bind, h]

theorem bind_of_error {x : Step ε α} {f : α → Step ε β} {e : PipelineError}
    (h : x s = .error e s') : (x >>= f) s = .error e s' := by
  change EStateM.bind x f s = _
  rw [EStateM.bind, h]

/-- The index finds the slots that the transforms are in. -/
def Finds (s : Registry ε) : Prop :=
  ∀ id, s.index.lookup id = s.pipeline.slotOf? id

theorem Finds.mem_index_iff (h : s.Finds) (id : String) :
    id ∈ s.index ↔ s.pipeline.Registered id := by
  rw [Pipeline.registered_iff, ← h id, AList.lookup_isSome]

/-- Looking up writes nothing, up to the first id that is not found. -/
theorem sources_run (h : s.Finds) (t : Transform ε) (ids : List String) :
    ids.mapM (source t) s =
      match s.pipeline.resolve ids with
      | .ok sources => .ok sources s
      | .error d => .error (.unknownDependency t.id d) s := by
  induction ids with
  | nil => rfl
  | cons id ids ih =>
    have found := h id
    rw [List.mapM_cons, Pipeline.resolve]
    cases hs : s.pipeline.slotOf? id with
    | none =>
      rw [hs] at found
      have here : source t id s = .error (.unknownDependency t.id id) s := by rw [source, found]
      exact bind_of_error here
    | some slot =>
      rw [hs] at found
      have here : source t id s = .ok slot s := by rw [source, found]
      rw [bind_of_ok here]
      cases hr : s.pipeline.resolve ids with
      | ok sources =>
        rw [hr] at ih
        rw [bind_of_ok ih]
        rfl
      | error d =>
        rw [hr] at ih
        rw [bind_of_error ih]
        rfl

theorem connects_run (slot : Nat) (sources : List Nat) (s : Registry ε) :
    sources.forM (connect slot) s =
      .ok () { s with pipeline.edges :=
        (sources.map fun source => ⟨source, slot⟩).reverse ++ s.pipeline.edges } := by
  induction sources generalizing s with
  | nil => rfl
  | cons source sources ih =>
    have first : connect slot source s =
        .ok () { s with pipeline.edges := ⟨source, slot⟩ :: s.pipeline.edges } := rfl
    rw [List.forM_eq_forM, List.forM_cons, bind_of_ok first, ← List.forM_eq_forM, ih]
    simp

theorem register_run (h : s.Finds) (t : Transform ε) :
    register t s =
      match s.pipeline.add t with
      | .ok q => .ok () ⟨q, s.index.insert t.id (s.pipeline.place t).1⟩
      | .error e => .error e s := by
  have used : t.id ∈ s.index ↔ (s.pipeline.slotOf? t.id).isSome = true := by
    rw [h.mem_index_iff, Pipeline.registered_iff]
  rw [register, Pipeline.add]
  by_cases ht : t.id ∈ s.index
  · have refused : unused t s = .error (.duplicateTransform t.id) s := by rw [unused, if_pos ht]
    rw [if_pos (used.1 ht)]
    exact bind_of_error refused
  · have allowed : unused t s = .ok () s := by rw [unused, if_neg ht]
    have looked := sources_run h t t.dependencies
    rw [if_neg (mt used.2 ht), bind_of_ok allowed]
    cases hr : s.pipeline.resolve t.dependencies with
    | error d =>
      rw [hr] at looked
      exact bind_of_error looked
    | ok sources =>
      rw [hr] at looked
      have placed : occupy t s =
        .ok (s.pipeline.place t).1 { s with pipeline := (s.pipeline.place t).2 } := rfl
      rw [bind_of_ok looked, bind_of_ok placed, bind_of_ok (connects_run _ _ _)]
      rfl

theorem unregister_run (h : s.Finds) (id : String) :
    (unregister id).run s =
      match s.pipeline.remove id with
      | some (t, q) => (some t, ⟨q, s.index.erase id⟩)
      | none => (none, s) := by
  have found := h id
  change unregister id s = _
  rw [unregister, Pipeline.remove]
  cases hs : s.pipeline.slotOf? id with
  | none =>
    rw [found, hs]
    rfl
  | some slot =>
    obtain ⟨u, hu, -⟩ := Pipeline.at?_of_slotOf? hs
    rw [found, hs, Option.bind_eq_bind, Option.bind_some, hu]
    change (s.pipeline.at? slot, _) = _
    rw [hu]
    rfl

/-- A call registers a transform, or removes one, or changes nothing. -/
theorem respond_cases (h : s.Finds) (call : Call ε) :
    (∃ t q, call = .add t ∧ s.pipeline.add t = .ok q ∧
        (s.respond call).2 = ⟨q, s.index.insert t.id (s.pipeline.place t).1⟩) ∨
      (∃ id t q, call = .remove id ∧ s.pipeline.remove id = some (t, q) ∧
        (s.respond call).2 = ⟨q, s.index.erase id⟩) ∨
      (s.respond call).2 = s := by
  cases call with
  | add t =>
    rw [respond, register_run h]
    cases added : s.pipeline.add t with
    | ok q => exact .inl ⟨t, q, rfl, added, rfl⟩
    | error e => exact .inr (.inr rfl)
  | remove id =>
    have run := unregister_run h id
    cases removed : s.pipeline.remove id with
    | some r =>
      rw [removed] at run
      exact .inr (.inl ⟨id, r.1, r.2, rfl, removed, congrArg Prod.snd run⟩)
    | none =>
      rw [removed] at run
      exact .inr (.inr (congrArg Prod.snd run))
  | size | isEmpty | order | apply n => exact .inr (.inr rfl)

/-! ## The index is right -/

/-- The transforms of the registry arrived in the order of `ids`, the index has these ids, and it
finds them. -/
structure Indexed (s : Registry ε) (ids : List String) : Prop where
  arrived : s.pipeline.Arrived ids
  finds : s.Finds
  keys : s.index.keys.Perm ids

theorem Indexed.length_keys (h : s.Indexed ids) : s.index.keys.length = s.pipeline.size := by
  rw [h.keys.length_eq, h.arrived.length_eq_size]

theorem indexed_empty : ({} : Registry ε).Indexed [] where
  arrived := Pipeline.arrived_empty
  finds _ := rfl
  keys := .nil

theorem Indexed.add (h : s.Indexed ids) {q : Pipeline ε} (added : s.pipeline.add t = .ok q) :
    Indexed ⟨q, s.index.insert t.id (s.pipeline.place t).1⟩ (ids ++ [t.id]) where
  arrived := h.arrived.add added
  finds id := by
    rw [h.arrived.slotOf?_of_add added]
    by_cases hid : id = t.id
    · rw [if_pos hid, hid]
      exact AList.lookup_insert s.index
    · rw [if_neg hid, ← h.finds id]
      exact AList.lookup_insert_ne hid
  keys := by
    have new : t.id ∉ s.index.keys := by
      rw [h.keys.mem_iff, h.arrived.mem_iff]
      exact (Pipeline.add_eq_ok added).1
    rw [AList.keys_insert, List.erase_of_not_mem new]
    exact (h.keys.cons t.id).trans (List.perm_append_singleton t.id ids).symm

theorem Indexed.remove (h : s.Indexed ids) {id : String} {q : Pipeline ε}
    (removed : s.pipeline.remove id = some (t, q)) :
    Indexed ⟨q, s.index.erase id⟩ (ids.erase id) where
  arrived := h.arrived.remove removed
  finds other := by
    rw [h.arrived.slotOf?_of_remove removed]
    by_cases hid : other = id
    · rw [if_pos hid, hid]
      exact AList.lookup_erase id s.index
    · rw [if_neg hid, ← h.finds other]
      exact AList.lookup_erase_ne hid
  keys := by
    rw [AList.keys_erase]
    exact h.keys.erase id

/-- What a call makes of a registry with the right index has the right index again. -/
theorem Indexed.respond (h : s.Indexed ids) (call : Call ε) :
    ∃ later, (s.respond call).2.Indexed later := by
  rcases respond_cases h.finds call with ⟨t, q, -, added, left⟩ | ⟨id, t, q, -, removed, left⟩ | left
  · rw [left]
    exact ⟨ids ++ [t.id], h.add added⟩
  · rw [left]
    exact ⟨ids.erase id, h.remove removed⟩
  · rw [left]
    exact ⟨ids, h⟩

theorem after_concat (calls : List (Call ε)) (call : Call ε) :
    after (calls ++ [call]) = ((after calls).respond call).2 := by
  rw [after, List.foldl_append, List.foldl_cons, List.foldl_nil, after]

theorem indexed_after (calls : List (Call ε)) : ∃ ids, (after calls).Indexed ids := by
  induction calls using List.reverseRecOn with
  | nil => exact ⟨[], indexed_empty⟩
  | append_singleton calls call ih =>
    obtain ⟨ids, indexed⟩ := ih
    rw [after_concat]
    exact indexed.respond call

theorem pipeline_concat_cases (calls : List (Call ε)) (call : Call ε) :
    (∃ t, call = .add t ∧
        (after calls).pipeline.add t = .ok (after (calls ++ [call])).pipeline) ∨
      (∃ id t, (after calls).pipeline.remove id = some (t, (after (calls ++ [call])).pipeline)) ∨
      (after (calls ++ [call])).pipeline = (after calls).pipeline := by
  obtain ⟨ids, indexed⟩ := indexed_after calls
  rw [after_concat]
  rcases respond_cases indexed.finds call with ⟨t, q, rfl, added, left⟩ |
    ⟨id, t, q, rfl, removed, left⟩ | left
  · exact .inl ⟨t, rfl, by rw [left, added]⟩
  · exact .inr (.inl ⟨id, t, by rw [left, removed]⟩)
  · exact .inr (.inr (congrArg Registry.pipeline left))

theorem mem_index_iff (calls : List (Call ε)) (id : String) :
    id ∈ (after calls).index ↔ (after calls).pipeline.Registered id := by
  obtain ⟨ids, indexed⟩ := indexed_after calls
  exact indexed.finds.mem_index_iff id

/-! ## Refused calls -/

theorem exists_register_eq_ok_iff (h : s.Finds) :
    (∃ r, register t s = .ok () r) ↔
      ¬ s.pipeline.Registered t.id ∧ ∀ d ∈ t.dependencies, s.pipeline.Registered d := by
  rw [← Pipeline.exists_add_eq_ok_iff, register_run h]
  cases s.pipeline.add t <;> simp

/-- What a transform comes to, by the reason to refuse it. -/
theorem register_by_refusal (h : s.Finds) (t : Transform ε) :
    match s.pipeline.refusal? t with
    | none => ∃ r, register t s = .ok () r ∧ s.pipeline.add t = .ok r.pipeline
    | some e => register t s = .error e s ∧ s.pipeline.add t = .error e := by
  have run := register_run h t
  cases added : s.pipeline.add t with
  | ok q =>
    have allowed : s.pipeline.refusal? t = none :=
      Pipeline.refusal?_eq_none_iff.2 (Pipeline.exists_add_eq_ok_iff.1 ⟨q, added⟩)
    rw [added] at run
    rw [allowed]
    exact ⟨_, run, rfl⟩
  | error e =>
    rw [added] at run
    rw [Pipeline.add_eq_error_iff.1 added]
    exact ⟨run, rfl⟩

theorem transcript_add_of_error {e : PipelineError} (refused : register t s = .error e s)
    (later : List (Call ε)) :
    s.transcript (.add t :: later) = .refused e :: s.transcript later := by
  rw [transcript, respond, refused]

theorem transcript_remove_of_none {id : String} (absent : (unregister id).run s = (none, s))
    (later : List (Call ε)) :
    s.transcript (.remove id :: later) = .removed none :: s.transcript later := by
  rw [transcript, respond, absent]

theorem unregister_of_not_registered (h : s.Finds) {id : String}
    (absent : ¬ s.pipeline.Registered id) : (unregister id).run s = (none, s) := by
  rw [unregister_run h, Pipeline.remove_eq_none_iff.2 absent]

/-- After any calls, the index and the pipeline agree on what is registered. A transform is registered
exactly if its id is new and all its dependencies are registered. Otherwise it is refused, for an id
that is in use if that is the case, else for the first dependency that is not registered; and that
leaves the whole registry as it was, so all calls that follow answer what they would have answered
anyway. So it is with an id to be removed that is not registered. -/
theorem registration_exact_and_atomic (earlier : List (Call ε)) (t : Transform ε) :
    let s := after earlier
    (∀ id, id ∈ s.index ↔ s.pipeline.Registered id) ∧ s.index.keys.length = s.pipeline.size ∧
    ((∃ r, register t s = .ok () r) ↔
      ¬ s.pipeline.Registered t.id ∧ ∀ d ∈ t.dependencies, s.pipeline.Registered d) ∧
    (match s.pipeline.refusal? t with
      | none => ∃ r, register t s = .ok () r ∧ s.pipeline.add t = .ok r.pipeline
      | some e => register t s = .error e s ∧ s.pipeline.add t = .error e ∧
        ∀ later, s.transcript (.add t :: later) = .refused e :: s.transcript later) ∧
    ∀ id, ¬ s.pipeline.Registered id →
      (unregister id).run s = (none, s) ∧ s.pipeline.remove id = none ∧
        ∀ later, s.transcript (.remove id :: later) = .removed none :: s.transcript later := by
  intro s
  obtain ⟨ids, indexed⟩ := indexed_after earlier
  have finds : s.Finds := indexed.finds
  refine ⟨finds.mem_index_iff, indexed.length_keys, exists_register_eq_ok_iff finds, ?_, ?_⟩
  · have outcome := register_by_refusal finds t
    cases reason : s.pipeline.refusal? t with
    | none =>
      rw [reason] at outcome
      exact outcome
    | some e =>
      rw [reason] at outcome
      exact ⟨outcome.1, outcome.2, transcript_add_of_error outcome.1⟩
  · intro id absent
    have left := unregister_of_not_registered finds absent
    exact ⟨left, Pipeline.remove_eq_none_iff.2 absent, transcript_remove_of_none left⟩

/-- A transform that names itself and an id that is not there is refused for the first of the two. -/
theorem self_dependency_refused :
    let rebuild : Run UnsupportedKind := Pass.identity.toRun () fun e => e
    let a : Transform UnsupportedKind := ⟨"a", [], rebuild⟩
    let b : Transform UnsupportedKind := ⟨"b", ["a", "b", "c"], rebuild⟩
    let s := after [.add a]
    register b s = .error (.unknownDependency "b" "b") s ∧
      (∀ later, s.transcript (.add b :: later) =
        .refused (.unknownDependency "b" "b") :: s.transcript later) ∧
      (unregister "b").run s = (none, s) := by
  intro rebuild a b s
  obtain ⟨-, -, -, refused, removed⟩ := registration_exact_and_atomic [.add a] b
  have reason : s.pipeline.refusal? b = some (.unknownDependency "b" "b") := by decide
  have absent : ¬ s.pipeline.Registered "b" := by decide
  rw [reason] at refused
  exact ⟨refused.1, refused.2.2, (removed "b" absent).1⟩

end Registry
end SqlTrees
