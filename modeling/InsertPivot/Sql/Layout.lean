/-!
# Layout

How the parts of a written statement are put together: a list has a comma and a blank between its items,
and a clause that is missing leaves no blank behind.
-/

namespace InsertPivot.Sql

/-- Texts joined by a comma and a blank. -/
def commas (texts : List String) : String :=
  ", ".intercalate texts

/-- A text in parentheses. -/
def parenthesized (text : String) : String :=
  "(" ++ text ++ ")"

/-- A text behind a lead, where there is one. -/
def behind (lead : String) : Option String → String
  | none => ""
  | some text => lead ++ text

/-- A word, where a condition holds. -/
def wordIf (condition : Bool) (word : String) : String :=
  if condition then word else ""

/-- Clauses, each behind a blank. -/
def trailing (clauses : List String) : String :=
  String.join (clauses.map (" " ++ ·))

end InsertPivot.Sql
