import Mathlib.Data.List.Basic
import SqlTrees.Name.LetterCase

/-! # Lower case, character by character

* `CharacterData.startsCased_iff`: what it is for a text to start with a cased character.
* `CharacterData.lowerBetween_sigma_eq_final_iff`: which capital sigma becomes a final one.
* `CharacterData.toList_lowercase`: every character contributes what it becomes between the text
  before it and the text after it.
* `CharacterData.lowercase_of_notMem`, `CharacterData.lowercase_of_ascii`: without a capital sigma
  these texts do not matter, and on ASCII nor does the version.
-/

namespace SqlTrees.CharacterData
set_option autoImplicit false

variable (data : CharacterData)

theorem startsCased_iff {text : List Char} : data.startsCased text = true ↔
    ∃ skipped c rest, text = skipped ++ c :: rest ∧ (∀ d ∈ skipped, data.ignorable d = true) ∧
      data.ignorable c = false ∧ data.cased c = true := by
  rw [startsCased, Option.any_eq_true]
  constructor
  · rintro ⟨c, found, cased⟩
    obtain ⟨stays, skipped, rest, split, passed⟩ := List.find?_eq_some_iff_append.1 found
    exact ⟨skipped, c, rest, split, by simpa using passed, by simpa using stays, cased⟩
  · rintro ⟨skipped, c, rest, split, passed, stays, cased⟩
    refine ⟨c, List.find?_eq_some_iff_append.2 ⟨?_, skipped, rest, split, ?_⟩, cased⟩
    · simpa using stays
    · simpa using passed

theorem lowerBetween_sigma_eq_final_iff {before after : List Char} :
    data.lowerBetween before 'Σ' after = ['ς'] ↔
      data.startsCased before = true ∧ data.startsCased after = false := by
  rw [lowerBetween, if_pos rfl]
  cases data.startsCased before <;> cases data.startsCased after <;> decide

theorem lowerBetween_of_ne {c : Char} (hc : c ≠ 'Σ') (before after : List Char) :
    data.lowerBetween before c after = data.lower c :=
  if_neg hc

theorem lowerAfter_eq_flatMap (before text : List Char) :
    data.lowerAfter before text = text.zipIdx.flatMap fun x =>
      data.lowerBetween ((text.take x.2).reverse ++ before) x.1 (text.drop (x.2 + 1)) := by
  induction text generalizing before with
  | nil => rfl
  | cons c text ih =>
    rw [lowerAfter, ih, List.zipIdx_cons', List.flatMap_cons, List.flatMap_map]
    simp only [Prod.map, id_eq, List.take_succ_cons, List.take_zero, List.drop_succ_cons,
      List.drop_zero, List.reverse_cons, List.reverse_nil, List.append_assoc, List.nil_append,
      List.cons_append]

/-- Every character of a text contributes what it becomes between the text before it and the text
after it. -/
theorem toList_lowercase (text : String) :
    (data.lowercase text).toList = text.toList.zipIdx.flatMap fun x =>
      data.lowerBetween (text.toList.take x.2).reverse x.1 (text.toList.drop (x.2 + 1)) := by
  rw [lowercase, String.toList_ofList, lowerAfter_eq_flatMap]
  simp only [List.append_nil]

/-- A dot that becomes a character of its own, and sigmas inside and at the end of a word. -/
example : unicode17.lowercase "İÀ ΣΑΣ'" = "i̇à σας'" := by
  decide +kernel

theorem lowercase_of_notMem {text : String} (h : 'Σ' ∉ text.toList) :
    (data.lowercase text).toList = text.toList.flatMap data.lower := by
  have apart : ∀ x ∈ text.toList.zipIdx,
      data.lowerBetween (text.toList.take x.2).reverse x.1 (text.toList.drop (x.2 + 1)) =
        data.lower x.1 := by
    intro x hx
    have occurs : x.1 ∈ text.toList := List.fst_mem_of_mem_zipIdx hx
    exact data.lowerBetween_of_ne (fun same => h (same ▸ occurs)) _ _
  rw [toList_lowercase, List.flatMap_congr apart, ← List.flatMap_map, List.zipIdx_map_fst]

theorem lowercase_of_ascii {text : String} (h : ∀ c ∈ text.toList, c.toNat < 128) :
    (data.lowercase text).toList = text.toList.map Char.toLower := by
  have noSigma : 'Σ' ∉ text.toList := fun hs => absurd (h 'Σ' hs) (by decide)
  have single : text.toList.flatMap data.lower = text.toList.flatMap fun c => [c.toLower] :=
    List.flatMap_congr fun c hc => data.lower_ascii c (h c hc)
  rw [data.lowercase_of_notMem noSigma, single, ← List.map_eq_flatMap]

end SqlTrees.CharacterData
