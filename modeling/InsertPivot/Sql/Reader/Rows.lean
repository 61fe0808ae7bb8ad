import InsertPivot.Sql.Reader.Nested

/-!
# Reading listed rows

A row is a list of values in parentheses, which may be empty, and may have the word `ROW` before it. The
list of rows does not keep which of them have the word, only whether some have.
-/

namespace InsertPivot.Sql.Reader

/-- One row, and whether it is announced by `ROW`. -/
def row (inner : Nested) : Reader (Bool × List Expr) := do
  let explicit ← acceptKeyword "ROW"
  return (explicit, ← inParens (commaSeparatedBefore .rightParen inner.value))

/-- Listed rows, after their keyword. -/
def restOfValues (inner : Nested) (short : Bool) : Reader Body := do
  let rows ← commaSeparated (row inner)
  return .values short (rows.any (·.1)) (rows.map (·.2))

end InsertPivot.Sql.Reader
