import InsertPivot.Sql.Reader.Creation

/-!
# Reading statements that change something created

A table is changed by a list of changes; of most other objects only the name changes. A dropped object may
take those with it that depend on it.
-/

namespace InsertPivot.Sql.Reader

/-! ## Changing -/

/-- What a table may be told to change. -/
def tableChanges : String :=
  "ADD, RENAME, PARTITION, SWAP, DROP, REPLICA IDENTITY, SET, or SET TBLPROPERTIES after ALTER TABLE"

/-- Where a column goes among the others. -/
def columnPlace : Reader Unit := do
  unless ← acceptKeyword "FIRST" do
    clause ["AFTER"] ident

/-- What becomes of things that depend on a dropped one, where it is said. -/
def dropBehavior : Reader Unit :=
  discard (acceptOneOf ["CASCADE", "RESTRICT"])

/-- Partitions that are added to a table, where some are. -/
def addedPartition (inner : Nested) : Reader (Option Unit) :=
  behindKeyword "PARTITION" (discard inner.valueList)

/-- What is added to a table, after the word `ADD`. -/
def restOfAdd (inner : Nested) : Reader Unit := do
  if ← tableConstraint inner then
    optional ["NOT", "VALID"]
  else
    optional ifNotExists
    if (← repeated (addedPartition inner)).isEmpty then
      optional ["COLUMN"]
      discard ident
      restOfColumn inner
      columnPlace

/-- What is dropped from a table, after the word `DROP`. -/
def restOfDropPart (inner : Nested) : Reader Unit := do
  if ← acceptKeywords ["IF", "EXISTS", "PARTITION"] then discard inner.valueList
  else if ← acceptKeyword "PARTITION" then discard inner.valueList
  else if ← acceptKeyword "CONSTRAINT" then
    optional ifExists
    discard ident
    dropBehavior
  else if ← acceptKeywords ["PRIMARY", "KEY"] then dropBehavior
  else if ← acceptKeywords ["FOREIGN", "KEY"] then
    discard ident
    dropBehavior
  else if ← acceptKeyword "INDEX" then discard ident
  else unless ← acceptKeywords ["CLUSTERING", "KEY"] do
    optional ["COLUMN"]
    optional ifExists
    discard ident
    dropBehavior

/-- What is renamed, after the word `RENAME`. -/
def restOfRenamePart : Reader Unit := do
  if ← acceptOneOf ["TO", "AS"] then discard dottedName
  else
    optional ["COLUMN"]
    discard ident
    expectKeyword "TO"
    discard ident

/-- A rule or trigger that comes to be of no effect, after the word `DISABLE`. -/
def restOfDisable : Reader Unit := do
  if ← acceptKeywords ["ROW", "LEVEL", "SECURITY"] then return
  else if ← acceptOneOf ["RULE", "TRIGGER"] then discard ident
  else expected "ROW LEVEL SECURITY, RULE, or TRIGGER after DISABLE"

/-- A rule or trigger that comes to be of effect, after the word `ENABLE`. -/
def restOfEnable : Reader Unit := do
  let objects := [["ALWAYS", "RULE"], ["ALWAYS", "TRIGGER"], ["REPLICA", "RULE"], ["REPLICA", "TRIGGER"],
    ["RULE"], ["TRIGGER"]]
  if ← acceptKeywords ["ROW", "LEVEL", "SECURITY"] then return
  else if ← objects.anyM acceptKeywords then discard ident
  else expected "ALWAYS, REPLICA, ROW LEVEL SECURITY, RULE, or TRIGGER after ENABLE"

/-- What is changed about a column, after its name. -/
def columnChange (inner : Nested) : Reader Unit := do
  let words := [["SET", "NOT", "NULL"], ["DROP", "NOT", "NULL"], ["DROP", "DEFAULT"]]
  if ← words.anyM acceptKeywords then return
  else if ← acceptKeywords ["SET", "DEFAULT"] then discard inner.value
  else if ← acceptKeywords ["SET", "DATA", "TYPE"] then discard dataType
  else if ← acceptKeyword "TYPE" then discard dataType
  else expected "SET/DROP NOT NULL, SET DEFAULT, or SET DATA TYPE after ALTER COLUMN"

/-- The type, the options and the place that a column gets, behind its name. The options have no names. -/
def redefinedColumn (inner : Nested) : Reader Unit := do
  discard dataType
  discard (repeated (columnOption inner))
  columnPlace

/-- The values of a partition that get other values, after the word `PARTITION`. -/
def restOfRenamedPartition (inner : Nested) : Reader Unit := do
  discard inner.valueList
  expectKeywords ["RENAME", "TO", "PARTITION"]
  discard inner.valueList

/-- What identifies a row for those who follow the changes of a table. -/
def rowIdentity : Reader Unit := do
  if ← acceptOneOf ["NONE", "FULL", "DEFAULT"] then return
  else if ← acceptKeywords ["USING", "INDEX"] then discard ident
  else expected "NONE, FULL, DEFAULT, or USING INDEX index_name after REPLICA IDENTITY"

/-- Options that a table is given, after the word `SET`. There must be one. -/
def restOfSetOptions (inner : Nested) : Reader Unit := do
  optional ["TBLPROPERTIES"]
  if (← inParens (commaSeparatedBefore .rightParen (namedValue inner))).isEmpty then
    expected tableChanges

/-- One change of a table. -/
def tableChange (inner : Nested) : Reader Unit := do
  if ← acceptKeyword "ADD" then restOfAdd inner
  else if ← acceptKeyword "RENAME" then restOfRenamePart
  else if ← acceptKeyword "DISABLE" then restOfDisable
  else if ← acceptKeyword "ENABLE" then restOfEnable
  else if ← acceptKeyword "DROP" then restOfDropPart inner
  else if ← acceptKeyword "PARTITION" then restOfRenamedPartition inner
  else if ← acceptKeyword "CHANGE" then
    optional ["COLUMN"]
    discard ident
    discard ident
    redefinedColumn inner
  else if ← acceptKeyword "MODIFY" then
    optional ["COLUMN"]
    discard ident
    redefinedColumn inner
  else if ← acceptKeyword "ALTER" then
    optional ["COLUMN"]
    discard ident
    columnChange inner
  else if ← acceptKeyword "SWAP" then
    expectKeyword "WITH"
    discard dottedName
  else if ← acceptKeywords ["CLUSTER", "BY"] then discard inner.valueList
  else if ← [["SUSPEND", "RECLUSTER"], ["RESUME", "RECLUSTER"]].anyM acceptKeywords then return
  else if (← indexChange).isSome then return
  else if ← acceptKeyword "AUTO_INCREMENT" then
    optionalEqual
    discard numberText
  else if ← acceptKeywords ["REPLICA", "IDENTITY"] then rowIdentity
  else if ← acceptKeywords ["VALIDATE", "CONSTRAINT"] then discard ident
  else if ← acceptKeyword "SET" then restOfSetOptions inner
  else expected tableChanges

/-- Changes of a table, after its keyword. -/
def restOfAlterTable (inner : Nested) : Reader Unit := do
  optional ifExists
  optional ["ONLY"]
  discard dottedName
  onCluster
  discard (commaSeparated (tableChange inner))
  clause ["LOCATION"] ident
  clause ["SET", "LOCATION"] ident

/-- A change of an index, after its keyword. -/
def restOfAlterIndex : Reader Unit := do
  discard dottedName
  unless ← acceptKeyword "RENAME" do
    expected "RENAME after ALTER INDEX"
  unless ← acceptKeyword "TO" do
    expected "TO after RENAME"
  discard dottedName

/-- A change of a view, after its keyword. -/
def restOfAlterView (inner : Nested) : Reader Unit := do
  discard dottedName
  discard (optionalColumnList false)
  optionList inner "WITH"
  expectKeyword "AS"
  discard inner.query

/-- A change of a schema, after its keyword. -/
def restOfAlterSchema (inner : Nested) : Reader Unit := do
  optional ifExists
  discard dottedName
  if ← acceptKeyword "SET" then
    if ← acceptKeywords ["DEFAULT", "COLLATE"] then
      discard inner.value
    else
      expectKeyword "OPTIONS"
      discard (inParens (commaSeparatedBefore .rightParen (namedValue inner)))
  else if ← acceptKeywords ["ADD", "REPLICA"] then
    discard ident
    optionList inner "OPTIONS"
  else if ← acceptKeywords ["DROP", "REPLICA"] then discard ident
  else if ← acceptKeywords ["RENAME", "TO"] then discard dottedName
  else if ← acceptKeywords ["OWNER", "TO"] then discard ident
  else expected "ALTER SCHEMA operation"

/-- A change of another object, after the words for its kind. -/
def restOfAlterObject : Reader Unit := do
  optional ifExists
  discard dottedName
  throughStatement

/-- An `ALTER`, after its keyword. -/
def restOfAlter (inner : Nested) : Reader Unit := do
  match ← expectOneOf ["VIEW", "TYPE", "TABLE", "INDEX", "ROLE", "POLICY", "CONNECTOR", "ICEBERG", "SCHEMA",
      "USER", "OPERATOR"] with
  | "TABLE" => restOfAlterTable inner
  | "ICEBERG" =>
    expectKeyword "TABLE"
    restOfAlterTable inner
  | "INDEX" => restOfAlterIndex
  | "VIEW" => restOfAlterView inner
  | "SCHEMA" => restOfAlterSchema inner
  | "ROLE" => throw (.invalid "ALTER ROLE is only support for PostgreSqlDialect, MsSqlDialect" none)
  | _ => restOfAlterObject

/-! ## Dropping -/

/-- Objects of one kind that are dropped, after the words for the kind. -/
def restOfDropped (role : Bool) : Reader Unit := do
  optional ifExists
  discard (commaSeparated dottedName)
  let place ← place?
  let cascades ← acceptKeyword "CASCADE"
  let restricts ← acceptKeyword "RESTRICT"
  let purges ← acceptKeyword "PURGE"
  if cascades && restricts then
    throw (.invalid "Cannot specify both CASCADE and RESTRICT in DROP" place)
  if role && (cascades || restricts || purges) then
    throw (.invalid "Cannot specify CASCADE, RESTRICT, or PURGE in DROP ROLE" place)
  clause ["ON"] dottedName

/-- A parameter of a routine: a type, perhaps behind a name. -/
def routineParameter (inner : Nested) : Reader Unit := do
  discard (acceptOneOf ["IN", "OUT", "INOUT"])
  discard dataType
  unless ← atKeyword "DEFAULT" do
    discard (attempt dataType)
  if ← acceptKeyword "DEFAULT" then discard inner.value
  else if ← acceptSymbol .equal then discard inner.value

/-- Routines that are dropped, after the word for them. -/
def restOfDroppedRoutines (inner : Nested) : Reader Unit := do
  optional ifExists
  discard <| commaSeparated do
    discard dottedName
    inOptionalParens (commaSeparatedBefore .rightParen (routineParameter inner))
  dropBehavior

/-- An object that belongs to a table and is dropped, after the word for its kind. -/
def restOfDroppedPart : Reader Unit := do
  optional ifExists
  discard dottedName
  clause ["ON"] dottedName
  dropBehavior

/-- Another object that is dropped, after the word for its kind. -/
def restOfDroppedObject : Reader Unit := do
  optional ifExists
  discard dottedName
  throughStatement

/-- A `DROP`, after its keyword. -/
def restOfDrop (inner : Nested) : Reader Unit := do
  optional ["TEMPORARY"]
  if ← acceptKeyword "ROLE" then restOfDropped true
  else if ← acceptOneOf ["TABLE", "VIEW", "INDEX", "SCHEMA", "DATABASE", "SEQUENCE", "STAGE", "TYPE", "USER",
      "STREAM"] then restOfDropped false
  else if ← acceptKeywords ["MATERIALIZED", "VIEW"] then restOfDropped false
  else if ← acceptOneOf ["FUNCTION", "PROCEDURE"] then restOfDroppedRoutines inner
  else if ← acceptKeyword "TRIGGER" then restOfDroppedPart
  else if ← acceptKeyword "DOMAIN" then
    optional ifExists
    discard dottedName
    dropBehavior
  else if ← acceptKeyword "EXTENSION" then
    optional ifExists
    discard (commaSeparated ident)
    dropBehavior
  else if ← acceptKeyword "CONNECTOR" then
    optional ifExists
    discard ident
  else if ← acceptOneOf ["POLICY", "SECRET", "OPERATOR"] then restOfDroppedObject
  else
    expected ("CONNECTOR, DATABASE, EXTENSION, FUNCTION, INDEX, OPERATOR, POLICY, PROCEDURE, ROLE, " ++
      "SCHEMA, SECRET, SEQUENCE, STAGE, TABLE, TRIGGER, TYPE, VIEW, MATERIALIZED VIEW or USER after DROP")

/-- A `TRUNCATE`, after its keyword. -/
def restOfTruncate (inner : Nested) : Reader Unit := do
  optional ["TABLE"]
  optional ifExists
  discard <| commaSeparated do
    optional ["ONLY"]
    dottedName
  clause ["PARTITION"] inner.valueList
  onCluster

/-- A `RENAME`, after its keyword. -/
def restOfRename : Reader Unit := do
  unless ← acceptKeyword "TABLE" do
    expected "KEYWORD `TABLE` after RENAME"
  discard <| commaSeparated do
    discard dottedName
    expectKeyword "TO"
    dottedName

end InsertPivot.Sql.Reader
