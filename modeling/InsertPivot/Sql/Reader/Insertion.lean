import InsertPivot.Sql.Reader.Label
import InsertPivot.Sql.Statement

/-!
# Reading an `INSERT`

The clauses of an `INSERT`, or of a `REPLACE`, in the order in which they may stand, after the leading word.
Each clause but the table and the data may be missing. A word that could start a clause but does not is a
name: the table may be called `or`, `ignore` or `into`.
-/

namespace InsertPivot.Sql.Reader

/-! ## Assignments -/

/-- What is assigned to: a name, or names in parentheses. -/
def assignmentTarget : Reader AssignmentTarget := do
  if ← atSymbol .leftParen then
    let names ← inParens (commaSeparated dottedName)
    return .tuple (names.map Name.ofIdents)
  else
    return .column (.ofIdents (← dottedName))

/-- One assignment. -/
def setItem (inner : Nested) : Reader SetItem := do
  let target ← assignmentTarget
  expectSymbol .equal
  return ⟨target, ← inner.value⟩

/-- Assignments with commas between them. -/
def setItems (inner : Nested) : Reader (List SetItem) :=
  commaSeparated (setItem inner)

/-! ## Before the data -/

/-- What is done about rows that are there already, when it is said before the table. -/
def conflictClause : Reader (Option ConflictClause) := do
  if ← acceptKeywords ["OR", "REPLACE"] then return some .replace
  else if ← acceptKeywords ["OR", "ROLLBACK"] then return some .rollback
  else if ← acceptKeywords ["OR", "ABORT"] then return some .abort
  else if ← acceptKeywords ["OR", "FAIL"] then return some .fail
  else if ← acceptKeywords ["OR", "IGNORE"] then return some .ignore
  else if ← acceptKeyword "REPLACE" then return some .replace
  else return none

/-- The priority of a statement. -/
def priority : Reader (Option Priority) := do
  if ← acceptKeyword "LOW_PRIORITY" then return some .low
  else if ← acceptKeyword "DELAYED" then return some .delayed
  else if ← acceptKeyword "HIGH_PRIORITY" then return some .high
  else return none

/-- The words before the table, up to `INTO`. -/
structure Front where
  conflict : Option ConflictClause
  priority : Option Priority
  ignore : Bool
  overwrite : Bool
  into : Bool
deriving DecidableEq, Repr

/-- Reads the words before the table, up to `INTO`. Each of them may be missing. -/
def front : Reader Front := do
  let conflict ← conflictClause
  let priority ← priority
  let ignore ← acceptKeyword "IGNORE"
  let overwrite ← acceptKeyword "OVERWRITE"
  let into ← acceptKeyword "INTO"
  return { conflict, priority, ignore, overwrite, into }

/-! ## The data -/

/-- Where the data of a statement comes from. -/
structure Source where
  columns : List Ident := []
  partition : Option (List Expr) := none
  assignments : List SetItem := []
  query : Option Query := none

/-- The data of a statement: assignments, a query, or neither. -/
def source (inner : Nested) : Reader Source := do
  if ← acceptKeywords ["DEFAULT", "VALUES"] then
    return {}
  else
    let queryAhead := (← atSymbol .leftParen) && (← peekFurther).1 = some "SELECT"
    let columns ← if queryAhead then pure [] else optionalColumnList true
    let partition ← if queryAhead then pure none else behindKeyword "PARTITION" inner.valueList
    if (← atKeyword "FORMAT") || (← atKeyword "SETTINGS") then
      return { columns, partition }
    else if ← acceptKeyword "SET" then
      return { columns, partition, assignments := ← setItems inner }
    else
      return { columns, partition, query := some (← inner.query) }

/-! ## Behind the data -/

/-- The new row under a name of its own. -/
def rowAlias : Reader (Option RowAlias) :=
  behindKeyword "AS" do
    let name ← dottedName
    return ⟨name, ← optionalColumnList false⟩

/-- What tells that a row is there already. -/
def conflictTarget : Reader (Option ConflictTarget) := do
  if ← acceptKeywords ["ON", "CONSTRAINT"] then return some (.constraint (← dottedName))
  else if ← atSymbol .leftParen then return some (.columns (← columnList false))
  else return none

/-- What is done when a row is there already, after `ON`. -/
def restOfOn (inner : Nested) : Reader OnInsert := do
  if ← acceptKeyword "CONFLICT" then
    let target ← conflictTarget
    expectKeyword "DO"
    if ← acceptKeyword "NOTHING" then
      return .conflict target [] none
    else
      expectKeywords ["UPDATE", "SET"]
      let items ← setItems inner
      return .conflict target items (← behindKeyword "WHERE" inner.value)
  else
    expectKeywords ["DUPLICATE", "KEY", "UPDATE"]
    return .duplicateKeyUpdate (← setItems inner)

/-- The rows that a statement yields. -/
def returning (inner : Nested) : Reader (Option (List SelectItem)) :=
  behindKeyword "RETURNING" (selectItems inner)

/-! ## The whole -/

/-- A format of files. -/
def fileFormat : Reader String := do
  match ← oneOf? ["AVRO", "JSONFILE", "ORC", "PARQUET", "RCFILE", "SEQUENCEFILE", "TEXTFILE"] with
  | some format => return format
  | none => expected "fileformat"

/-- The rows of a query that go to a directory, after that word. -/
def restOfDirectory (inner : Nested) (overwrite isLocal : Bool) : Reader Statement := do
  let path ← textLiteral
  let format ← behindKeywords ["STORED", "AS"] fileFormat
  return .directory ⟨overwrite, isLocal, path, format, ← inner.query⟩

/-- What stands behind the words up to `INTO`. -/
def restOfInsertion (inner : Nested) (lead : Option String) (replaces : Bool) (front : Front) :
    Reader Statement := do
  let isLocal ← acceptKeyword "LOCAL"
  if ← acceptKeyword "DIRECTORY" then
    restOfDirectory inner front.overwrite isLocal
  else
    let tableWord ← acceptKeyword "TABLE"
    let table ← dottedName
    let source ← source inner
    let rowAlias ← rowAlias
    let onInsert ← behindKeyword "ON" (restOfOn inner)
    let returning ← returning inner
    return .insert
      { lead, replaces, tableWord
        conflict := front.conflict
        priority := front.priority
        ignore := front.ignore
        overwrite := front.overwrite
        into := front.into
        target := .table (.ofIdents table)
        tableAlias := none
        columns := source.columns
        assignments := source.assignments
        partition := source.partition
        source := source.query
        rowAlias, onInsert, returning }

/-- An `INSERT` after its leading word, or a `REPLACE`. -/
def insertion (inner : Nested) (lead : Lexeme) (replaces : Bool) : Reader Statement := do
  restOfInsertion inner lead.token.wordText? replaces (← front)

end InsertPivot.Sql.Reader
