import InsertPivot.LetterCase
import InsertPivot.Sql.Statement

/-!
# `INSERT` statements

An `INSERT` in one of its two forms: a `SET` list, which pairs each column with its value, or a column list
and rows of values. A statement has one payload, so it is never in both forms or in neither.
-/

namespace InsertPivot

/-- A column and the value assigned to it. -/
structure Assignment where
  /-- The names before the column, such as its table. -/
  qualifier : List Sql.Ident := []
  column : Sql.Ident
  value : Sql.Expr

/-- What a statement inserts. -/
inductive Payload where
  /-- `SET a = 1, b = 2`. -/
  | set (items : List Assignment)
  /-- `(a, b) VALUES (1, 2), (3, 4)`, where the column list may be missing. -/
  | values (columns : List Sql.Ident) (rows : List (List Sql.Expr))

/-- An `INSERT` statement. -/
structure Insert where
  /-- The letter case of its leading keyword. -/
  keywordCase : LetterCase
  priority : Option Sql.Priority
  ignore : Bool
  table : Sql.Name
  payload : Payload
  /-- What is assigned when a row is there already. -/
  onDuplicateUpdate : List Assignment

/-! ## Equality up to places -/

namespace Assignment

/-- Whether two assignments agree but for where they were read. -/
def same (a b : Assignment) : Bool :=
  Sql.Ident.sameAll a.qualifier b.qualifier && a.column.same b.column && a.value.same b.value

/-- Whether two lists of assignments agree. -/
def sameAll : List Assignment → List Assignment → Bool
  | [], [] => true
  | a :: as, b :: bs => a.same b && sameAll as bs
  | _, _ => false

end Assignment

/-- Whether two payloads are of one form and agree but for where they were read. -/
def Payload.same : Payload → Payload → Bool
  | set a, set b => Assignment.sameAll a b
  | values c r, values d s => Sql.Ident.sameAll c d && Sql.sameRows r s
  | _, _ => false

namespace Insert

/-- What the table of a statement is called when nothing qualifies it. -/
def tableName (statement : Insert) : String :=
  statement.table.base

/-- Whether the statement has a `SET` list. -/
def isSetForm (statement : Insert) : Bool :=
  match statement.payload with
  | .set _ => true
  | .values _ _ => false

/-- Whether two statements agree but for where they were read. -/
def same (a b : Insert) : Bool :=
  a.keywordCase = b.keywordCase && a.priority = b.priority && a.ignore = b.ignore &&
    a.table.same b.table && a.payload.same b.payload &&
    Assignment.sameAll a.onDuplicateUpdate b.onDuplicateUpdate

/-- Whether two lists of statements agree. -/
def sameAll : List Insert → List Insert → Bool
  | [], [] => true
  | a :: as, b :: bs => a.same b && sameAll as bs
  | _, _ => false

end Insert

end InsertPivot
