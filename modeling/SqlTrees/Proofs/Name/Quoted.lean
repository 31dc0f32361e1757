import SqlTrees.Name

/-! # Identifiers between quotes

The text of a delimited identifier has a quote at either end, and every quote of the identifier's
own stands twice in between. Runs of quotes may touch the ends, so nothing in the text says where it
stops; but the quotes inside can be paired off from the left, and that is enough to read it.

* `Ident.Paired`: read from the left, quotes come two at a time.
* `Ident.collapse`: one quote for each pair. On paired texts it undoes `Ident.escape`
  (`Ident.paired_iff`).
* `Ident.QuotedForm`: a text reads as a value that was written between quotes.
* `Ident.quotedForm_iff`: the text of a delimited identifier does so, and no other text does.
-/

namespace SqlTrees.Ident
set_option autoImplicit false

/-- Read from the left, quotes come two at a time. -/
inductive Paired : List Char → Prop
  | nil : Paired []
  | other {c : Char} {cs : List Char} (ne_quote : c ≠ '"') (rest : Paired cs) : Paired (c :: cs)
  | pair {cs : List Char} (rest : Paired cs) : Paired ('"' :: '"' :: cs)

/-- One quote in the place of each pair. -/
def collapse : List Char → List Char
  | [] => []
  | '"' :: '"' :: cs => '"' :: collapse cs
  | c :: cs => c :: collapse cs

/-! ## Doubled quotes -/

theorem escape_quote (cs : List Char) : escape ('"' :: cs) = '"' :: '"' :: escape cs := by
  rw [escape, if_pos rfl]

theorem escape_other {c : Char} (hc : c ≠ '"') (cs : List Char) :
    escape (c :: cs) = c :: escape cs := by
  rw [escape, if_neg hc]

theorem collapse_other {c : Char} (hc : c ≠ '"') (cs : List Char) :
    collapse (c :: cs) = c :: collapse cs := by
  rw [collapse]
  rintro _ rfl
  exact absurd rfl hc

theorem paired_escape (cs : List Char) : Paired (escape cs) := by
  induction cs with
  | nil => exact .nil
  | cons c cs ih =>
    by_cases hc : c = '"'
    · rw [hc, escape_quote]
      exact .pair ih
    · rw [escape_other hc]
      exact .other hc ih

theorem collapse_escape (cs : List Char) : collapse (escape cs) = cs := by
  induction cs with
  | nil => rfl
  | cons c cs ih =>
    by_cases hc : c = '"'
    · rw [hc, escape_quote, collapse, ih]
    · rw [escape_other hc, collapse_other hc, ih]

theorem Paired.escape_collapse {cs : List Char} (h : Paired cs) : escape (collapse cs) = cs := by
  induction h with
  | nil => rfl
  | other hc _ ih => rw [collapse_other hc, escape_other hc, ih]
  | pair _ ih => rw [collapse, escape_quote, ih]

theorem paired_iff {cs : List Char} : Paired cs ↔ escape (collapse cs) = cs :=
  ⟨Paired.escape_collapse, fun h => h ▸ paired_escape (collapse cs)⟩

instance : DecidablePred Paired := fun _ =>
  decidable_of_iff _ paired_iff.symm

/-! ## Texts between quotes -/

/-- A text has a quote at either end and paired quotes in between, and the value is what is between
the ends with one quote for each pair. -/
def QuotedForm (text value : String) : Prop :=
  ∃ inner, text.toList = '"' :: inner ++ ['"'] ∧ Paired inner ∧ collapse inner = value.toList

theorem toList_text_quoted (v : String) :
    (quoted v).text.toList = '"' :: escape v.toList ++ ['"'] := by
  rw [text, quoted, if_pos rfl, String.toList_ofList]

theorem quotedForm_iff {text v : String} : QuotedForm text v ↔ text = (quoted v).text := by
  constructor
  · rintro ⟨inner, shape, paired, value⟩
    rw [← String.toList_inj, shape, toList_text_quoted, ← value, paired.escape_collapse]
  · rintro rfl
    exact ⟨escape v.toList, toList_text_quoted v, paired_escape _, collapse_escape _⟩

theorem QuotedForm.value_unique {text v w : String} (hv : QuotedForm text v)
    (hw : QuotedForm text w) : v = w := by
  obtain ⟨inner, shape, -, value⟩ := hv
  obtain ⟨other, shape', -, value'⟩ := hw
  rw [shape, List.append_left_inj, List.cons_inj_right] at shape'
  rw [← String.toList_inj, ← value, ← value', shape']

/-- The text of a delimited identifier reads as its value. Two delimited identifiers have the same
text only if they are the same; one that is not delimited has the text of one that is exactly if its
value has the form of such a text and reads as the other's value. -/
theorem quoted_text_unambiguous :
    (∀ v, QuotedForm (quoted v).text v) ∧
    (∀ i j : Ident, i.delimited = true → j.delimited = true → (i.text = j.text ↔ i = j)) ∧
    ∀ i j : Ident, i.delimited = true → j.delimited = false →
      (i.text = j.text ↔ QuotedForm j.value i.value) := by
  have reads : ∀ v, QuotedForm (quoted v).text v := fun v => quotedForm_iff.2 rfl
  refine ⟨reads, ?_, ?_⟩
  · rintro ⟨v, -⟩ ⟨w, -⟩ rfl rfl
    constructor
    · intro same
      have hw : QuotedForm (quoted v).text w := by
        rw [quotedForm_iff]
        exact same
      rw [(reads v).value_unique hw]
    · exact congrArg text
  · rintro ⟨v, -⟩ ⟨w, -⟩ rfl rfl
    rw [quotedForm_iff]
    exact eq_comm

/-- Quotes at both ends of the value, next to those around it. -/
theorem quotes_next_to_quotes :
    let i := quoted "\"a\"\""
    let j := plain "\"\"\"a\"\"\"\"\""
    i.delimited = true ∧ j.delimited = false ∧ QuotedForm j.value i.value ∧ i.text = j.text ∧
      i.text ≠ (quoted "\"a\"").text := by
  intro i j
  obtain ⟨-, delimited, mixed⟩ := quoted_text_unambiguous
  have form : QuotedForm j.value i.value :=
    ⟨"\"\"a\"\"\"\"".toList, by decide, by decide, by decide⟩
  have other : i ≠ quoted "\"a\"" := by decide
  exact ⟨rfl, rfl, form, (mixed i j rfl rfl).2 form, mt (delimited i _ rfl rfl).1 other⟩

end SqlTrees.Ident
