/-! # Lower case

A text is put in lower case character by character, after the Unicode character database. Only the
capital sigma depends on what stands around it: at the end of a word it becomes the final form of
the letter. The database grows with every version of the standard and the rest stays, so what is
read of it is a parameter (`CharacterData`).
-/

namespace SqlTrees
set_option autoImplicit false

/-- What a version of the database says about single characters, as far as lower-casing reads it. -/
structure CharacterData where
  /-- The lower case of a character by itself; for some it has several characters. -/
  lower : Char → List Char
  /-- Whether a character has a case: lower, upper or title. -/
  cased : Char → Bool
  /-- Whether a character, such as an accent or an apostrophe, is passed over where the end of a
  word is looked for. -/
  ignorable : Char → Bool
  /-- In every version the capitals of ASCII become its small letters, and the rest of ASCII stays
  as it is. -/
  lower_ascii : ∀ c : Char, c.toNat < 128 → lower c = [c.toLower]

namespace CharacterData
variable (data : CharacterData)

/-- Whether the first character that is not passed over has a case. -/
def startsCased (text : List Char) : Bool :=
  (text.find? fun c => !data.ignorable c).any data.cased

/-- What a character becomes between two texts; the one before it is given backwards. A capital
sigma ends a word if, all ignorable characters passed over, a cased one stands before it and none
stands after it. -/
def lowerBetween (before : List Char) (c : Char) (after : List Char) : List Char :=
  if c = 'Σ' then
    if data.startsCased before && !data.startsCased after then ['ς'] else ['σ']
  else data.lower c

/-- The lower case of a text that follows another, which is given backwards. -/
def lowerAfter (before : List Char) : List Char → List Char
  | [] => []
  | c :: after => data.lowerBetween before c after ++ lowerAfter (c :: before) after

def lowercase (text : String) : String :=
  String.ofList (data.lowerAfter [] text.toList)

end CharacterData
end SqlTrees
