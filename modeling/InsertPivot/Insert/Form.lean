import InsertPivot.Insert

/-!
# The two forms of an `INSERT`

A `SET` list becomes a column list and one row: `toValues` always succeeds, and drops only what qualifies
the columns. A column list and rows become a `SET` list: `toSet` pairs the columns with the values of the
first row, in order, and drops the other rows and any values beyond the last column. It needs a column list,
and a value for each column.

A statement that is in the wanted form already stays as it is.
-/

namespace InsertPivot

/-- Why a statement has no `SET` form. -/
inductive FormFault where
  | missingColumns (table : String)
  | columnCountMismatch (table : String) (columns values : Nat)
deriving DecidableEq, Repr

namespace Insert

/-- The statement with a column list and rows. -/
def toValues (statement : Insert) : Insert :=
  match statement.payload with
  | .values _ _ => statement
  | .set items =>
    { statement with payload := .values (items.map (·.column)) [items.map (·.value)] }

/-- The first of some rows; the empty row when there is none. -/
def firstRow (rows : List (List Sql.Expr)) : List Sql.Expr :=
  rows.head?.getD []

/-- The statement with a `SET` list. -/
def toSet (statement : Insert) : Except FormFault Insert :=
  match statement.payload with
  | .set _ => .ok statement
  | .values columns rows =>
    if columns.isEmpty then .error (.missingColumns statement.tableName)
    else if (firstRow rows).length < columns.length then
      .error (.columnCountMismatch statement.tableName columns.length (firstRow rows).length)
    else
      .ok { statement with payload := .set (columns.zipWith (Assignment.mk []) (firstRow rows)) }

/-- The number of rows, and of values of the first row, that a successful `toSet` drops. -/
def droppedByToSet (statement : Insert) : Nat × Nat :=
  match statement.payload with
  | .set _ => (0, 0)
  | .values columns rows => (rows.length - 1, (firstRow rows).length - columns.length)

end Insert

/-- Which form statements are brought into. -/
inductive Direction where
  | toValues
  | toSet
deriving DecidableEq, Repr

namespace Direction

/-- A statement in the form that is wanted. -/
def convert : Direction → Insert → Except FormFault Insert
  | toValues, statement => .ok statement.toValues
  | toSet, statement => statement.toSet

/-- Statements in the form that is wanted, or why the first that cannot be brought into it cannot. -/
def apply (direction : Direction) (statements : List Insert) : Except FormFault (List Insert) :=
  statements.mapM direction.convert

/-- A direction as log lines name it. -/
def label : Direction → String
  | toValues => "ToValues"
  | toSet => "ToSet"

end Direction

end InsertPivot
