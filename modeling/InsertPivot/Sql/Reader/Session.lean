import InsertPivot.Sql.Reader.Change
import InsertPivot.Sql.Reader.Transaction

/-!
# Reading session statements

Statements that set or show variables, choose a database, lock tables for the session or end another one.
-/

namespace InsertPivot.Sql.Reader

/-! ## Setting variables -/

/-- Where a variable is set: in the session or for all. -/
def variableScopes : List String :=
  ["SESSION", "LOCAL", "GLOBAL"]

/-- The sign between a variable and its value, if it stands here. -/
def acceptAssignment : Reader Bool := do
  if ← acceptSymbol .equal then return true else acceptKeyword "TO"

/-- A variable and its value. -/
def variableAssignment (inner : Nested) : Reader Unit := do
  discard (acceptOneOf variableScopes)
  discard dottedName
  unless ← acceptAssignment do
    expected "assignment operator"
  discard inner.value

/-- The values of a variable. -/
def variableValues (inner : Nested) : Reader Unit :=
  discard <| commaSeparated do
    if (← attempt inner.value).isNone then
      skip
      expected "variable value"

/-- The role that is taken on, if one is. -/
def setRole : Reader Bool := do
  let found ← attempt do
    expectKeyword "ROLE"
    unless ← acceptKeyword "NONE" do
      discard ident
  return found.isSome

/-- The time zone of the session, after the words for it. -/
def restOfTimeZone (inner : Nested) : Reader Unit := do
  if ← acceptAssignment then variableValues inner else discard inner.value

/-- The character set of the session, after the word `NAMES`. -/
def restOfNames : Reader Unit := do
  unless ← acceptKeyword "DEFAULT" do
    discard ident
    clause ["COLLATE"] textLiteral

/-- What transactions are like, after the word `TRANSACTION`. -/
def restOfSetTransaction : Reader Unit := do
  if ← acceptKeyword "SNAPSHOT" then discard literal else transactionModes

/-- Variables and their values; `start` is where their scope stands. -/
def assignedVariables (inner : Nested) (start : List Lexeme) : Reader Unit := do
  set start
  if (← attempt (commaSeparated (variableAssignment inner))).isNone then
    discard dottedName
    if ← acceptAssignment then variableValues inner else expected "equals sign or TO"

/-- A `SET`, after its keyword. -/
def restOfSetStatement (inner : Nested) : Reader Unit := do
  let hive ← acceptKeyword "HIVEVAR"
  if hive then
    expectSymbol .colon
  let start ← get
  let inScope ← if hive then pure false else acceptOneOf variableScopes
  if ← setRole then return
  else if ← acceptKeywords ["TIME", "ZONE"] then restOfTimeZone inner
  else if ← acceptKeyword "TIMEZONE" then restOfTimeZone inner
  else if ← acceptKeyword "NAMES" then restOfNames
  else if ← acceptKeyword "CHARACTERISTICS" then
    expectKeywords ["AS", "TRANSACTION"]
    transactionModes
  else if ← acceptKeyword "TRANSACTION" then restOfSetTransaction
  else
    let named ← peek?
    if ← acceptKeyword "AUTHORIZATION" then
      unless inScope do
        expectedAt "SESSION, LOCAL, or other scope modifier before AUTHORIZATION" named
      unless ← acceptKeyword "DEFAULT" do
        discard ident
    else
      assignedVariables inner start

/-! ## Showing -/

/-- Which of many things are shown. -/
def showFilter (inner : Nested) : Reader Unit := do
  if ← acceptOneOf ["LIKE", "ILIKE"] then discard textLiteral
  else if ← acceptKeyword "WHERE" then discard inner.value
  else discard (attempt textLiteral)

/-- Where the things are that are shown. -/
def showPlace : Reader Unit := do
  if ← acceptOneOf ["FROM", "IN"] then
    match ← oneOf? ["ACCOUNT", "DATABASE", "SCHEMA", "TABLE", "VIEW"] with
    | some kind =>
      let bare := (kind = "DATABASE" || kind = "SCHEMA") &&
        ((← atKeywords ["STARTS", "WITH"]) || (← atKeyword "LIMIT"))
      unless bare do
        discard (attempt dottedName)
    | none =>
      discard dottedName
      if ← acceptOneOf ["FROM", "IN"] then
        discard ident

/-- What is said about the things that are shown. -/
def showOptions (inner : Nested) : Reader Unit := do
  showPlace
  showFilter inner
  clause ["STARTS", "WITH"] literal
  clause ["LIMIT"] (restOfLimit inner)
  clause ["FROM"] literal

/-- Takes lexemes up to the end of the statement, or to an equals sign. -/
def shownVariable : Reader Unit :=
  modify fun ls => ls.dropWhile fun l => l.token != .symbol .semicolon && l.token != .symbol .equal

/-- A `SHOW`, after its keyword. -/
def restOfShow (inner : Nested) : Reader Unit := do
  optional ["TERSE"]
  let extended ← acceptKeyword "EXTENDED"
  let full ← acceptKeyword "FULL"
  optional ["SESSION"]
  optional ["GLOBAL"]
  optional ["EXTERNAL"]
  if ← acceptOneOf ["COLUMNS", "FIELDS", "TABLES"] then showOptions inner
  else if ← acceptKeywords ["MATERIALIZED", "VIEWS"] then showOptions inner
  else if ← acceptKeyword "VIEWS" then showOptions inner
  else if ← acceptKeyword "FUNCTIONS" then showFilter inner
  else if extended || full then
    throw (.invalid "EXTENDED/FULL are not supported with this type of SHOW query" none)
  else if ← acceptKeyword "CREATE" then
    discard (expectOneOf ["TABLE", "TRIGGER", "FUNCTION", "PROCEDURE", "EVENT", "VIEW"])
    discard dottedName
  else if ← acceptOneOf ["COLLATION", "VARIABLES", "STATUS", "CHARSET"] then showFilter inner
  else if ← acceptOneOf ["DATABASES", "SCHEMAS"] then showOptions inner
  else if ← acceptKeywords ["CHARACTER", "SET"] then showFilter inner
  else shownVariable

/-! ## Servers and caches -/

/-- A `KILL`, after its keyword. -/
def restOfKill : Reader Unit := do
  let kind ← oneOf? ["CONNECTION", "QUERY", "MUTATION"]
  discard wholeNumber
  if kind = some "MUTATION" then
    expected "Unsupported type for KILL, allowed: CONNECTION | QUERY"

/-- Which tables are flushed and how, at most one word for each lexeme of `bound`. The token behind the last
word is taken too. -/
def flushedTables : (bound : List Lexeme) → Reader Unit
  | [] => return
  | _ :: bound => do
    let start ← get
    match ← next? with
    | some found =>
      if found.token.isWord then
        if found.token.keyword? = some "WITH" then optional ["READ", "LOCK"]
        else if found.token.keyword? = some "FOR" then optional ["EXPORT"]
        else if found.token.isFreeWord then
          set start
          discard (commaSeparated dottedName)
        flushedTables bound
    | none => return

/-- A `FLUSH`, after its keyword. -/
def restOfFlush : Reader Unit := do
  discard (acceptOneOf ["NO_WRITE_TO_BINLOG", "LOCAL"])
  if ← acceptKeywords ["RELAY", "LOGS"] then
    clause ["FOR", "CHANNEL"] dottedName
  else if ← acceptKeyword "TABLES" then
    flushedTables (← get)
  else
    let kinds := [["BINARY", "LOGS"], ["ENGINE", "LOGS"], ["ERROR", "LOGS"], ["GENERAL", "LOGS"], ["HOSTS"],
      ["PRIVILEGES"], ["OPTIMIZER_COSTS"], ["SLOW", "LOGS"], ["STATUS"], ["USER_RESOURCES"], ["LOGS"]]
    unless ← kinds.anyM acceptKeywords do
      expected ("BINARY LOGS, ENGINE LOGS, ERROR LOGS, GENERAL LOGS, HOSTS, LOGS, PRIVILEGES, " ++
        "OPTIMIZER_COSTS,RELAY LOGS [FOR CHANNEL channel], SLOW LOGS, STATUS, USER_RESOURCES")

/-- A `DISCARD`, after its keyword. -/
def restOfDiscard : Reader Unit := do
  unless ← acceptOneOf ["ALL", "PLANS", "SEQUENCES", "TEMP", "TEMPORARY"] do
    expected "ALL, PLANS, SEQUENCES, TEMP or TEMPORARY after DISCARD"

/-- The value of a setting. -/
def settingValue : Reader Unit := do
  let start ← get
  match (← literal).1 with
  | .single _ | .double _ | .number _ _ | .placeholder _ => return
  | _ => expectedAt "number or string or ? placeholder" start.head?

/-- A `PRAGMA`, after its keyword. -/
def restOfPragma : Reader Unit := do
  discard dottedName
  if ← atSymbol .leftParen then inParens settingValue
  else if ← acceptSymbol .equal then settingValue

/-! ## Locks -/

/-- A table that is locked, and how. -/
def lockedTable : Reader Unit := do
  discard ident
  discard (label? ["READ", "WRITE", "LOW_PRIORITY"])
  if ← acceptKeyword "READ" then optional ["LOCAL"]
  else if ← acceptKeyword "WRITE" then return
  else
    unless ← acceptKeywords ["LOW_PRIORITY", "WRITE"] do
      expected "an lock type in LOCK TABLES"

/-- A `RESET`, after its keyword. -/
def restOfReset : Reader Unit := do
  unless ← acceptKeyword "ALL" do
    discard dottedName

end InsertPivot.Sql.Reader
