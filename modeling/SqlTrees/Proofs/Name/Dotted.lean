import Mathlib.Algebra.BigOperators.Group.List.Basic
import SqlTrees.Name

/-! # Names and their texts

* `QualifiedName.Undotted`: there is a part, and no part has a dot.
* `QualifiedName.text_parse`: joining undoes cutting, whatever the text.
* `QualifiedName.parts_parse_text`: cutting the text of a name cuts each of its parts.
* `QualifiedName.parse_text_iff`, `QualifiedName.length_parse_text_iff`: so a name comes back exactly
  if it is undotted, and all other names come back with more parts than they had.
-/

namespace SqlTrees.QualifiedName
set_option autoImplicit false

/-! ## Pieces -/

theorem pieces_eq_splitOn (cs : List Char) : pieces cs = cs.splitOn '.' := by
  induction cs with
  | nil => rfl
  | cons c cs ih =>
    have cut := List.splitOn_ne_nil '.' cs
    rw [pieces, ih, List.splitOn_eq_splitOnP, List.splitOn_eq_splitOnP,
      List.splitOnP_cons_eq_if_modifyHead, ← List.splitOn_eq_splitOnP]
    by_cases hc : c = '.'
    · simp [hc]
    · cases hp : cs.splitOn '.' with
      | nil => exact absurd hp cut
      | cons piece more => simp [hc]

theorem pieces_ne_nil (cs : List Char) : pieces cs ≠ [] := by
  rw [pieces_eq_splitOn]
  exact List.splitOn_ne_nil '.' cs

theorem length_pieces (cs : List Char) : (pieces cs).length = cs.count '.' + 1 := by
  induction cs with
  | nil => rfl
  | cons c cs ih =>
    rw [pieces]
    by_cases hc : c = '.'
    · simp [hc, ih]
    · have cut := pieces_ne_nil cs
      cases hp : pieces cs with
      | nil => exact absurd hp cut
      | cons piece more =>
        rw [hp] at ih
        simpa [hc] using ih

theorem dot_notMem_of_mem_pieces {cs piece : List Char} (h : piece ∈ pieces cs) : '.' ∉ piece := by
  induction cs generalizing piece with
  | nil => simp_all [pieces]
  | cons c cs ih =>
    rw [pieces] at h
    by_cases hc : c = '.'
    · rw [if_pos hc] at h
      rcases List.mem_cons.1 h with rfl | h
      · exact List.not_mem_nil
      · exact ih h
    · rw [if_neg hc] at h
      cases hp : pieces cs with
      | nil => exact absurd hp (pieces_ne_nil cs)
      | cons first more =>
        rw [hp] at h ih
        rcases List.mem_cons.1 h with rfl | h
        · have tail := ih List.mem_cons_self
          simp [tail, Ne.symm hc]
        · exact ih (List.mem_cons_of_mem _ h)

/-! ## Cutting a text -/

theorem parts_parse_ne_nil (s : String) : (parse s).parts ≠ [] := by
  simpa [parse] using pieces_ne_nil s.toList

theorem length_parts_parse (s : String) : (parse s).parts.length = s.toList.count '.' + 1 := by
  rw [parse, List.length_map, length_pieces]

theorem dot_notMem_of_mem_parse {s part : String} (h : part ∈ (parse s).parts) :
    '.' ∉ part.toList := by
  obtain ⟨piece, hp, rfl⟩ := List.mem_map.1 h
  rw [String.toList_ofList]
  exact dot_notMem_of_mem_pieces hp

theorem toList_text (q : QualifiedName) :
    q.text.toList = ['.'].intercalate (q.parts.map String.toList) :=
  String.toList_intercalate

theorem text_parse (s : String) : (parse s).text = s := by
  rw [← String.toList_inj, toList_text, parse, List.map_map]
  have same : String.toList ∘ String.ofList = id := funext fun _ => String.toList_ofList
  rw [same, List.map_id, pieces_eq_splitOn, List.intercalate_splitOn]

/-- The suffix of a text has no dot, and is the whole text or what follows a dot. -/
theorem suffix_parse (s : String) :
    '.' ∉ (parse s).suffix.toList ∧
      ((parse s).suffix = s ∨ ∃ before, s = before ++ "." ++ (parse s).suffix) := by
  obtain ⟨front, last, hp⟩ :=
    (List.eq_nil_or_concat' (parse s).parts).resolve_left (parts_parse_ne_nil s)
  have joined := text_parse s
  have found : (parse s).suffix = last := by
    rw [QualifiedName.suffix, hp, List.getLast?_concat, Option.getD_some]
  rw [text, hp] at joined
  have mem : last ∈ (parse s).parts := by simp [hp]
  rw [found]
  refine ⟨dot_notMem_of_mem_parse mem, ?_⟩
  by_cases hf : front = []
  · subst hf
    exact .inl (by simpa using joined)
  · refine .inr ⟨".".intercalate front, ?_⟩
    rw [← joined, String.intercalate_append_of_ne_nil hf (by simp), String.intercalate_singleton]

/-! ## Cutting the text of a name -/

/-- There is a part, and no part has a dot. -/
def Undotted (q : QualifiedName) : Prop :=
  q.parts ≠ [] ∧ ∀ part ∈ q.parts, '.' ∉ part.toList

instance (q : QualifiedName) : Decidable q.Undotted :=
  inferInstanceAs (Decidable (_ ∧ _))

theorem parse_text_of_undotted {q : QualifiedName} (h : q.Undotted) : parse q.text = q := by
  obtain ⟨some, clean⟩ := h
  have cut : (['.'].intercalate (q.parts.map String.toList)).splitOn '.' =
      q.parts.map String.toList :=
    List.splitOn_intercalate '.' (by simpa using clean) (by simpa using some)
  rw [parse, toList_text, pieces_eq_splitOn, cut, List.map_map]
  simp [Function.comp_def]

/-- Cutting the text of a name cuts each part by itself. -/
theorem parts_parse_text {q : QualifiedName} (h : q.parts ≠ []) :
    (parse q.text).parts = q.parts.flatMap fun part => (parse part).parts := by
  obtain ⟨parts⟩ := q
  induction parts with
  | nil => exact absurd rfl h
  | cons part rest ih =>
    cases rest with
    | nil => simp [text]
    | cons next rest =>
      have split : (text ⟨part :: next :: rest⟩).toList =
          part.toList ++ '.' :: (text ⟨next :: rest⟩).toList := by
        simp [text]
      have more := ih (by simp)
      rw [parse, split, pieces_eq_splitOn, List.splitOn_append_cons_self, ← pieces_eq_splitOn,
        ← pieces_eq_splitOn, List.map_append, List.flatMap_cons, ← more]
      rfl

theorem length_parse_text_iff (q : QualifiedName) (h : q.parts ≠ []) :
    (parse q.text).parts.length = q.parts.length ↔ q.Undotted := by
  have counted : (parse q.text).parts.length =
      (q.parts.map fun part => part.toList.count '.').sum + q.parts.length := by
    rw [parts_parse_text h, List.length_flatMap]
    simp [length_parts_parse, List.sum_map_add]
  rw [counted, Nat.add_eq_right, List.sum_eq_zero_iff_forall_eq_nat, Undotted]
  simp [h, List.count_eq_zero]

theorem parse_text_iff (q : QualifiedName) : parse q.text = q ↔ q.Undotted := by
  refine ⟨fun h => ?_, parse_text_of_undotted⟩
  rw [← h]
  exact ⟨parts_parse_ne_nil q.text, fun part => dot_notMem_of_mem_parse⟩

/-! ## Appending to the text of a name -/

theorem text_append (front : List String) (last more : String) :
    text ⟨front ++ [last]⟩ ++ more = text ⟨front ++ [last ++ more]⟩ := by
  by_cases hf : front = []
  · simp [hf, text]
  · simp [text, String.intercalate_append_of_ne_nil hf, String.append_assoc]

theorem undotted_append_iff {front : List String} {last more : String} (h : '.' ∉ more.toList) :
    Undotted ⟨front ++ [last ++ more]⟩ ↔ Undotted ⟨front ++ [last]⟩ := by
  have clean : '.' ∈ (last ++ more).toList ↔ '.' ∈ last.toList := by simp [h]
  simp only [Undotted, List.forall_mem_append, List.forall_mem_singleton, clean]
  simp

end SqlTrees.QualifiedName
