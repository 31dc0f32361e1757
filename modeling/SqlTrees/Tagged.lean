/-! # Closed vocabularies and their written words

A `Tagged` type is a finite list of values, each with a written word of its own. Reading a word
back is a search of the list, and `Tagged.ofTag?_eq_some_iff` says that it finds exactly the value
whose word was written.
-/

namespace SqlTrees
set_option autoImplicit false

/-- A finite type whose values are written as words, no two of them as the same word. -/
class Tagged (α : Type) where
  /-- Every value, in the order of declaration. -/
  all : List α
  /-- The word that a value is written as. -/
  tag : α → String
  /-- Searching for a value's word finds that value. -/
  find_tag : ∀ a : α, all.find? (fun b => tag b == tag a) = some a

namespace Tagged

/-- The value written as `word`, if there is one. -/
def ofTag? (α : Type) [Tagged α] (word : String) : Option α :=
  (all : List α).find? fun a => tag a == word

variable {α : Type} [Tagged α]

@[simp]
theorem ofTag?_tag (a : α) : ofTag? α (tag a) = some a :=
  find_tag a

theorem ofTag?_eq_some_iff {word : String} {a : α} : ofTag? α word = some a ↔ tag a = word := by
  constructor
  · intro h
    simpa using List.find?_some h
  · rintro rfl
    exact ofTag?_tag a

theorem mem_all (a : α) : a ∈ (all : List α) :=
  List.mem_of_find?_eq_some (find_tag a)

end Tagged
end SqlTrees
