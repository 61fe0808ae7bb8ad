import InsertPivot.Sql.Statement

/-!
# The text of an `INSERT` as it was read

An `INSERT` that stands inside a query is written clause by clause, with keywords in upper case. Words
that change nothing, such as `LOCAL`, are not written, and a statement with neither data nor columns is
written with `DEFAULT VALUES`.
-/

namespace InsertPivot.Sql

/-- The words for what is done with a row that is there already. -/
def ConflictClause.text : ConflictClause → String
  | replace => "OR REPLACE"
  | rollback => "OR ROLLBACK"
  | abort => "OR ABORT"
  | fail => "OR FAIL"
  | ignore => "OR IGNORE"

/-- A name as it is written. -/
def Name.text (name : Name) : String :=
  ".".intercalate (name.map NamePart.text)

/-- What a value is assigned to. -/
def AssignmentTarget.text : AssignmentTarget → String
  | column name => name.text
  | tuple names => parenthesized (commas (names.map Name.text))

/-- An assignment. -/
def SetItem.text (item : SetItem) : String :=
  item.target.text ++ " = " ++ item.value.text

/-- Assignments with commas between them. -/
def SetItem.listText (items : List SetItem) : String :=
  commas (items.map SetItem.text)

/-- Where the rows go. -/
def Target.text : Target → String
  | table name => name.text
  | call name arguments => "FUNCTION " ++ name.text ++ parenthesized (commas (exprTexts arguments))

/-- Names in parentheses, where there are any. -/
def columnsText : List Ident → String
  | [] => ""
  | names => parenthesized (commas (names.map Ident.text))

/-- What tells that a row is there already. -/
def ConflictTarget.text : ConflictTarget → String
  | columns names => parenthesized (commas (names.map Ident.text))
  | constraint name => " ON CONSTRAINT " ++ dotted name

/-- What is set when a row is there already. -/
def conflictActionText (items : List SetItem) (condition : Option Expr) : String :=
  if items.isEmpty then " DO NOTHING"
  else " DO UPDATE SET " ++ SetItem.listText items ++ optionText " WHERE " condition

/-- What is set when a row with the same key is there already. -/
def duplicateKeyText (items : List SetItem) : String :=
  " ON DUPLICATE KEY UPDATE " ++ SetItem.listText items

/-- What is done when a row is there already. -/
def OnInsert.text : OnInsert → String
  | duplicateKeyUpdate items => duplicateKeyText items
  | conflict target items condition =>
    " ON CONFLICT" ++ behind "" (target.map ConflictTarget.text) ++ conflictActionText items condition

namespace Insertion

/-- What stands before the columns. -/
def leadText (node : Insertion) : String :=
  match node.conflict with
  | some clause => "INSERT " ++ clause.text ++ " INTO " ++ node.target.text
  | none =>
    (if node.replaces then "REPLACE" else "INSERT") ++ behind " " (node.priority.map Priority.text) ++
      wordIf node.ignore " IGNORE" ++ wordIf node.overwrite " OVERWRITE" ++ wordIf node.into " INTO" ++
      wordIf node.tableWord " TABLE" ++ " " ++ node.target.text

/-- The data, behind the columns. -/
def dataText (node : Insertion) : String :=
  match node.source with
  | some query => query.text
  | none =>
    if node.assignments.isEmpty then wordIf node.columns.isEmpty "DEFAULT VALUES"
    else "SET " ++ SetItem.listText node.assignments

/-- The new row under a name of its own. -/
def rowAliasText (node : Insertion) : String :=
  match node.rowAlias with
  | none => ""
  | some label => " AS " ++ dotted label.name ++ wordIf (!label.columns.isEmpty) " " ++ columnsText label.columns

/-- The `INSERT` as it is written. -/
def text (node : Insertion) : String :=
  node.leadText ++ behind " AS " (node.tableAlias.map Ident.text) ++ " " ++
    columnsText node.columns ++ wordIf (!node.columns.isEmpty) " " ++
    behind "" (node.partition.map fun keys => "PARTITION " ++ parenthesized (commas (exprTexts keys)) ++ " ") ++
    node.dataText ++ node.rowAliasText ++ behind "" (node.onInsert.map OnInsert.text) ++
    behind " RETURNING " (node.returning.map fun items => commas (itemTexts items))

end Insertion

/-- An `INSERT` that writes to a directory, as it is written. -/
def Directory.text (node : Directory) : String :=
  "INSERT" ++ wordIf node.overwrite " OVERWRITE" ++ wordIf node.isLocal " LOCAL" ++ " DIRECTORY \x27" ++
    node.path ++ "\x27" ++ behind " STORED AS " node.format ++ " " ++ node.source.text

end InsertPivot.Sql
