import InsertPivot.Sql.Reader
import InsertPivot.Sql.Statement

/-!
# Reading one level deeper

Expressions, queries and statements stand in one another. The readers of a construct take the readers for
what stands inside it as an argument, so that no reader is recursive but along the lexemes. How deep it may
go is decided where the readers are tied together.
-/

namespace InsertPivot.Sql

/-- The readers for what stands one level deeper. -/
structure Nested where
  /-- An expression, up to the first operator that binds no tighter than this. -/
  expr : Nat → Reader Expr
  query : Reader Query
  statement : Reader Statement

namespace Nested

/-- A whole expression. -/
def value (inner : Nested) : Reader Expr :=
  inner.expr 0

/-- Expressions with commas between them. -/
def values (inner : Nested) : Reader (List Expr) :=
  Reader.commaSeparated inner.value

/-- Expressions with commas between them, in parentheses. -/
def valueList (inner : Nested) : Reader (List Expr) :=
  Reader.inParens inner.values

end Nested

end InsertPivot.Sql
