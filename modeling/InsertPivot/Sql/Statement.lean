import InsertPivot.Sql.Name

/-!
# Statements as they are read

What the reader finds in a text, before anyone asks what of it can be converted. An `Insertion` has a field
for every clause that the language allows in an `INSERT`, also for those that no converted statement can
carry.
-/

namespace InsertPivot.Sql

/-- How urgently a statement is to be carried out. -/
inductive Priority where
  | low
  | delayed
  | high
deriving DecidableEq, Repr

/-- The word for a priority. -/
def Priority.text : Priority → String
  | low => "LOW_PRIORITY"
  | delayed => "DELAYED"
  | high => "HIGH_PRIORITY"

/-- What a value is assigned to. -/
inductive AssignmentTarget where
  | column (name : Name)
  | tuple (names : List Name)

/-- An assignment as it is read. -/
structure SetItem where
  target : AssignmentTarget
  value : Expr

/-- What an `INSERT OR ...` does with a row that is there already. -/
inductive ConflictClause where
  | replace
  | rollback
  | abort
  | fail
  | ignore
deriving DecidableEq, Repr

/-- Where the rows go. -/
inductive Target where
  | table (name : Name)
  /-- A function that yields a table. -/
  | call (name : Name) (arguments : List Expr)

/-- What tells that a row is there already. -/
inductive ConflictTarget where
  | columns (names : List Ident)
  | constraint (name : List Ident)

/-- The new row under a name of its own. -/
structure RowAlias where
  name : List Ident
  columns : List Ident

/-- What is done when a row is there already. -/
inductive OnInsert where
  | duplicateKeyUpdate (items : List SetItem)
  /-- `ON CONFLICT`, with what is set then; nothing is, for `DO NOTHING`. -/
  | conflict (target : Option ConflictTarget) (items : List SetItem) (condition : Option Expr)

/-- An `INSERT`, clause by clause. -/
structure Insertion where
  /-- The leading word as it was written; nothing when the leading token is no word. -/
  lead : Option String
  conflict : Option ConflictClause
  /-- Whether it is a `REPLACE`. -/
  replaces : Bool
  priority : Option Priority
  ignore : Bool
  overwrite : Bool
  /-- Whether the word `INTO` stands before the target. -/
  into : Bool
  /-- Whether the word `TABLE` stands before the target. -/
  tableWord : Bool
  target : Target
  tableAlias : Option Ident
  columns : List Ident
  assignments : List SetItem
  partition : Option (List Expr)
  source : Option Query
  rowAlias : Option RowAlias
  onInsert : Option OnInsert
  returning : Option (List SelectItem)

/-- An `INSERT` that writes the rows of a query to a directory. -/
structure Directory where
  overwrite : Bool
  isLocal : Bool
  path : String
  /-- The format of the files, where it is said. -/
  format : Option String
  source : Query

/-- A statement. -/
inductive Statement where
  | insert (node : Insertion)
  | directory (node : Directory)
  | other

end InsertPivot.Sql
