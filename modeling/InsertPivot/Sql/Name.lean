import InsertPivot.Sql.Expr.Same
import InsertPivot.Sql.Expr.Text

/-!
# Names of tables and columns

A name is a list of parts joined by periods. A part is an identifier or, in names that were built rather
than read, a function that computes the part. The last part is what the name is called by when nothing
qualifies it.
-/

namespace InsertPivot.Sql

/-- One part of a name. -/
inductive NamePart where
  | ident (name : Ident)
  | call (name : Ident) (arguments : List Expr)

/-- The parts of a name, the most general first. -/
abbrev Name := List NamePart

namespace NamePart

/-- What the part is called, without quotes. -/
def base : NamePart → String
  | ident name => name.value
  | call name _ => name.value

/-- A part as it is written. -/
def text : NamePart → String
  | ident name => name.text
  | call name arguments => name.text ++ parenthesized (commas (exprTexts arguments))

/-- Whether two parts agree but for where they were read. -/
def same : NamePart → NamePart → Bool
  | ident a, ident b => a.same b
  | call a as, call b bs => a.same b && sameExprs as bs
  | _, _ => false

end NamePart

namespace Name

/-- A name of identifiers. -/
def ofIdents (parts : List Ident) : Name :=
  parts.map .ident

/-- What the name is called when nothing qualifies it: nothing, if it has no part. -/
def base (name : Name) : String :=
  (name.getLast?.map NamePart.base).getD ""

/-- Whether two names agree but for where they were read. -/
def same : Name → Name → Bool
  | [], [] => true
  | a :: as, b :: bs => a.same b && same as bs
  | _, _ => false

end Name

end InsertPivot.Sql
