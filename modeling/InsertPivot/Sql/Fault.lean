import InsertPivot.Sql.Lexeme

/-!
# Why a text is refused

The causes for which a text is no sequence of statements. Most name what was expected and show the token
found instead, with its place; a text that ends too early has no place to give.
-/

namespace InsertPivot.Sql

/-- Why a text is refused. -/
inductive Fault where
  /-- The text has no tokens. -/
  | scan (fault : ScanFault)
  /-- Statements, queries and expressions stand in one another too deeply. -/
  | tooDeep
  /-- Something else was expected than what was found, or than the end of the text. -/
  | expected (what : String) (found : Option (String × Text.Position))
  /-- A symbol stands between two expressions but joins none. -/
  | notBetween (symbol : String) (start : Text.Position)
  /-- An interval has no unit before this place. -/
  | noUnit (start : Option Text.Position)
  /-- A `SELECT` list has an unquoted `FROM` where an expression should be. -/
  | noItem (word : String) (next : Option Text.Position)
  /-- A token is required to have another text. -/
  | invalid (message : String) (start : Option Text.Position)
deriving DecidableEq, Repr

namespace Fault

/-- Where a fault was found, as a message gives it. -/
def place (start : Option Text.Position) : String :=
  (start.map Text.Position.message).getD ""

/-- What every message about tokens starts with. -/
def lead : String :=
  "sql parser error: "

/-- The message of a fault. -/
def message : Fault → String
  | scan fault => fault.message
  | tooDeep => lead ++ "recursion limit exceeded"
  | expected what none => lead ++ "Expected: " ++ what ++ ", found: EOF"
  | expected what (some (found, start)) =>
    lead ++ "Expected: " ++ what ++ ", found: " ++ found ++ start.message
  | notBetween symbol start => lead ++ "No infix parser for token " ++ symbol ++ start.message
  | noUnit start => lead ++ "INTERVAL requires a unit after the literal value" ++ place start
  | noItem word next => lead ++ "Expected an expression, found: " ++ word ++ place next
  | invalid message start => lead ++ message ++ place start

end Fault

end InsertPivot.Sql
