import InsertPivot.Text.Letters

/-!
# Letter case of keywords

A statement's keywords are written in one of two letter cases, and a statement that is written back
follows the case its own first keyword had. Only a keyword that is lower case throughout counts as
lower case: one capital, or no letter at all, makes it upper case.
-/

namespace InsertPivot

/-- The letter case of a statement's keywords. -/
inductive LetterCase where
  | upper
  | lower
deriving DecidableEq, Repr

namespace LetterCase

/-- The letter case of a keyword as it was written. -/
def ofWord (word : String) : LetterCase :=
  if word.toList.any Text.isAlphabetic && !word.toList.any Text.isUppercase then .lower else .upper

/-- An upper-case keyword written in this case. Letters beyond ASCII stay as they are. -/
def keyword : LetterCase → String → String
  | .upper, word => word
  | .lower, word => String.ofList (word.toList.map Char.toLower)

end LetterCase

end InsertPivot
