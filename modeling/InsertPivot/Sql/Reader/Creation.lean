import InsertPivot.Sql.Reader.Block
import InsertPivot.Sql.Reader.Column

/-!
# Reading statements that create something

A statement that creates a table says what the table is made of and how it is stored; one that creates
another object says less. Of objects that a server seldom has, such as operators, only the start of the
statement is read for its form, and then the statement is passed over to its end.
-/

namespace InsertPivot.Sql.Reader

/-- Takes all lexemes up to the next semicolon. -/
def throughStatement : Reader Unit :=
  modify fun ls => ls.dropWhile fun l => l.token != .symbol .semicolon

/-- The words that let a statement go when its object is there already. -/
def ifNotExists : List String :=
  ["IF", "NOT", "EXISTS"]

/-- The words that let a statement go when its object is not there. -/
def ifExists : List String :=
  ["IF", "EXISTS"]

/-! ## Options -/

/-- An option: a name and its value. -/
def namedValue (inner : Nested) : Reader Unit := do
  discard ident
  expectSymbol .equal
  discard inner.value

/-- Options in parentheses behind a keyword, where it stands. -/
def optionList (inner : Nested) (keyword : String) : Reader Unit :=
  clause [keyword] (inParens (commaSeparatedBefore .rightParen (namedValue inner)))

/-- The options of a table that have one value, by their words. -/
def valueOptions : List (List String) :=
  [["DEFAULT", "CHARSET"], ["CHARSET"], ["DEFAULT", "CHARACTER", "SET"], ["CHARACTER", "SET"],
    ["DEFAULT", "COLLATE"], ["COLLATE"], ["DATA", "DIRECTORY"], ["INDEX", "DIRECTORY"], ["KEY_BLOCK_SIZE"],
    ["ROW_FORMAT"], ["PACK_KEYS"], ["STATS_AUTO_RECALC"], ["STATS_PERSISTENT"], ["STATS_SAMPLE_PAGES"],
    ["DELAY_KEY_WRITE"], ["COMPRESSION"], ["ENCRYPTION"], ["MAX_ROWS"], ["MIN_ROWS"], ["AUTOEXTEND_SIZE"],
    ["AVG_ROW_LENGTH"], ["CHECKSUM"], ["CONNECTION"], ["ENGINE_ATTRIBUTE"], ["PASSWORD"],
    ["SECONDARY_ENGINE_ATTRIBUTE"], ["INSERT_METHOD"], ["AUTO_INCREMENT"]]

/-- Takes an equals sign, where one stands. -/
def optionalEqual : Reader Unit :=
  discard (acceptSymbol .equal)

/-- The word or string that names a place for the tables of a server, and how they are stored there. -/
def tablespace : Reader Unit := do
  optionalEqual
  match ← next? with
  | some ⟨.word _ _, _, _⟩ | some ⟨.string .single _, _, _⟩ =>
    if ← acceptKeyword "STORAGE" then
      optionalEqual
      let found ← next?
      match found.map Lexeme.token with
      | some (.word text _) =>
        unless ["DISK", "MEMORY"].contains (fold text) do
          expectedAt "Storage type (DISK or MEMORY)" found
      | _ => expectedAt "Token::Word" found
  | found => expectedAt "Token::Word" found

/-- One option of a table. -/
def tableOption : Reader (Option Unit) := do
  if ← acceptKeywords ["START", "TRANSACTION"] then pure ()
  else if ← acceptKeyword "COMMENT" then
    optionalEqual
    match ← next? with
    | some ⟨.string .single _, _, _⟩ => pure ()
    | found => expectedAt "Token::SingleQuotedString" (found.map fun l => { l with span := .none })
  else if ← acceptKeyword "ENGINE" then
    optionalEqual
    match ← next? with
    | some ⟨.word _ _, _, _⟩ => discard (inOptionalParens (commaSeparated ident))
    | found => expectedAt "Token::Word" found
  else if ← acceptKeyword "TABLESPACE" then tablespace
  else if ← acceptKeyword "UNION" then
    optionalEqual
    unless ← atSymbol .leftParen do
      expected "Token::LParen"
    discard (inParens (commaSeparatedBefore .rightParen ident))
  else if ← valueOptions.anyM acceptKeywords then
    optionalEqual
    if (← attempt literal).isNone then
      discard ident
  else return none
  discard (acceptSymbol .comma)
  return some ()

/-! ## Creating tables -/

/-- The keys in parentheses, or one key, by which the rows of a table are sorted. -/
def tableOrder (inner : Nested) : Reader Unit := do
  if ← atSymbol .leftParen then
    discard (inParens (commaSeparatedBefore .rightParen inner.value))
  else
    discard inner.value

/-- What becomes of the rows of a table when a transaction ends. -/
def commitAction : Reader Unit := do
  if ← acceptKeyword "DROP" then return
  else if ← acceptKeywords ["DELETE", "ROWS"] then return
  else if ← acceptKeywords ["PRESERVE", "ROWS"] then return
  else throw (.invalid "Expecting DELETE ROWS, PRESERVE ROWS or DROP" none)

/-- The table whose columns a new one has, where one is named. -/
def likeTable : Reader Unit := do
  let found ← attempt <| inParens do
    expectKeyword "LIKE"
    discard dottedName
    discard ([["INCLUDING", "DEFAULTS"], ["EXCLUDING", "DEFAULTS"]].anyM acceptKeywords)
  if found.isNone then
    clause ["LIKE"] dottedName

/-- The place of a table in a group of servers. -/
def onCluster : Reader Unit :=
  clause ["ON", "CLUSTER"] ident

/-- A table to be created, after its keyword. -/
def restOfNewTable (inner : Nested) : Reader Unit := do
  optional ifNotExists
  discard dottedName
  onCluster
  likeTable
  clause ["CLONE"] (attempt dottedName)
  columnDefinitions inner
  optional ["WITHOUT", "ROWID"]
  optionList inner "WITH"
  optionList inner "TBLPROPERTIES"
  discard (repeated tableOption)
  clause ["ORDER", "BY"] (tableOrder inner)
  clause ["ON", "COMMIT"] commitAction
  optional ["STRICT"]
  if ← acceptKeyword "AS" then discard inner.query
  else if ← atKeyword "SELECT" then discard inner.query

/-! ## Creating other objects -/

/-- What else is said about a view, before its keyword. -/
def viewLead : Reader Unit := do
  if ← acceptKeyword "ALGORITHM" then
    expectSymbol .equal
    discard (expectOneOf ["UNDEFINED", "MERGE", "TEMPTABLE"])
  if ← acceptKeyword "DEFINER" then
    expectSymbol .equal
    let name ← dottedName
    if name.length = 1 && (← acceptSymbol .atSign) then
      discard ident
  clause ["SQL", "SECURITY"] (expectOneOf ["DEFINER", "INVOKER"])

/-- A view to be created, from its keyword on. -/
def newView (inner : Nested) : Reader Unit := do
  optional ["SECURE"]
  optional ["MATERIALIZED"]
  expectKeyword "VIEW"
  let first ← acceptKeywords ifNotExists
  discard dottedName
  unless first do
    optional ifNotExists
  discard <| inOptionalParens <| commaSeparatedBefore .rightParen do
    discard ident
    repeated (columnOption inner)
  optionList inner "WITH"
  if ← acceptKeyword "CLUSTER" then
    expectKeyword "BY"
    discard (optionalColumnList false)
  expectKeyword "AS"
  discard inner.query

/-- How a change of an index is carried out. -/
def indexChange : Reader (Option Unit) := do
  if ← acceptKeyword "ALGORITHM" then
    optionalEqual
    discard (expectOneOf ["DEFAULT", "INSTANT", "INPLACE", "COPY"])
    return some ()
  else if ← acceptKeyword "LOCK" then
    optionalEqual
    discard (expectOneOf ["DEFAULT", "EXCLUSIVE", "NONE", "SHARED"])
    return some ()
  else
    return none

/-- An index to be created, after its keyword. -/
def restOfNewIndex (inner : Nested) : Reader Unit := do
  optional ["CONCURRENTLY"]
  let guarded ← acceptKeywords ifNotExists
  let unnamed ← if guarded then pure false else acceptKeyword "ON"
  unless unnamed do
    discard dottedName
    discard indexType
    expectKeyword "ON"
  discard dottedName
  discard indexType
  indexColumns inner
  clause ["INCLUDE"] (columnList false)
  nullsDistinct
  clause ["WHERE"] inner.value
  discard (repeated indexOption)
  discard (repeated indexChange)

/-- A schema to be created, after its keyword. -/
def restOfNewSchema (inner : Nested) : Reader Unit := do
  optional ifNotExists
  unless ← atKeyword "AUTHORIZATION" do
    discard dottedName
  clause ["AUTHORIZATION"] ident
  clause ["DEFAULT", "COLLATE"] inner.value
  optionList inner "WITH"
  optionList inner "OPTIONS"
  clause ["CLONE"] dottedName

/-- A character set or collation of a database. -/
def databaseOption : Reader (Option Unit) := do
  let words := [["CHARACTER", "SET"], ["CHARSET"], ["COLLATE"], ["DEFAULT", "CHARACTER", "SET"],
    ["DEFAULT", "CHARSET"], ["DEFAULT", "COLLATE"]]
  if ← words.anyM acceptKeywords then
    optionalEqual
    discard ident
    return some ()
  else
    return none

/-- A database to be created, after its keyword. -/
def restOfNewDatabase : Reader Unit := do
  optional ifNotExists
  discard dottedName
  discard <| repeated do
    if ← acceptOneOf ["LOCATION", "MANAGEDLOCATION"] then some <$> textLiteral else return none
  clause ["CLONE"] dottedName
  discard (repeated databaseOption)

/-- What a trigger waits for. -/
def triggerEvent : Reader Unit := do
  if (← expectOneOf ["INSERT", "UPDATE", "DELETE", "TRUNCATE"]) = "UPDATE" then
    clause ["OF"] (commaSeparated ident)

/-- A trigger to be created, after its keyword. -/
def restOfNewTrigger (inner : Nested) : Reader Unit := do
  discard dottedName
  discard ([["FOR"], ["BEFORE"], ["AFTER"], ["INSTEAD", "OF"]].anyM acceptKeywords)
  triggerEvent
  discard (repeated (behindKeyword "OR" triggerEvent))
  expectKeyword "ON"
  discard dottedName
  clause ["FROM"] (attempt dottedName)
  characteristics
  if ← acceptKeyword "FOR" then
    optional ["EACH"]
    discard (expectOneOf ["ROW", "STATEMENT"])
  clause ["WHEN"] inner.value
  if ← acceptKeyword "EXECUTE" then
    discard (expectOneOf ["FUNCTION", "PROCEDURE"])
    discard dottedName
    discard (inOptionalParens (commaSeparatedBefore .rightParen inner.value))
  else
    block inner ["END"]

/-- A parameter of a procedure. -/
def parameter (inner : Nested) : Reader Unit := do
  discard (acceptOneOf ["IN", "OUT", "INOUT"])
  discard ident
  discard dataType
  if ← acceptSymbol .equal then
    discard inner.value

/-- The parameters of a procedure and the closing parenthesis, at most one for each lexeme of `bound`. -/
def parameterSteps (inner : Nested) : (bound : List Lexeme) → Reader Unit
  | [] => expected "',' or ')' after parameter definition"
  | _ :: bound => do
    if (← peekToken?).any Token.isWord then
      parameter inner
    let more ← acceptSymbol .comma
    if ← acceptSymbol .rightParen then return
    else if more then parameterSteps inner bound
    else expected "',' or ')' after parameter definition"

/-- A procedure to be created, after its keyword. -/
def restOfNewProcedure (inner : Nested) : Reader Unit := do
  discard dottedName
  if ← acceptSymbol .leftParen then
    unless ← acceptSymbol .rightParen do
      parameterSteps inner (← get)
  clause ["LANGUAGE"] ident
  expectKeyword "AS"
  block inner ["END"]

/-- The value of one thing that is said about a user, after its name. -/
def restOfUserOption : Reader Unit := do
  expectSymbol .equal
  match ← peekToken? with
  | some (.string .single _) | some (.number _ _) => discard literal
  | some (.word _ _) => skip
  | some (.symbol .leftParen) => discard (inParens (commaSeparatedBefore .rightParen literal))
  | _ => expected "expected option value"

/-- What is said about a user, up to the word `WITH` or `TAG` or the end; at most one item for each lexeme of
`bound`. -/
def userOptions : (bound : List Lexeme) → Reader Unit
  | [] => return
  | _ :: bound => do
    match ← peekToken? with
    | none | some (.symbol .semicolon) => return
    | some (.symbol .comma) =>
      skip
      userOptions bound
    | some (.word _ _) =>
      unless ← atOneOf ["WITH", "TAG"] do
        skip
        restOfUserOption
        userOptions bound
    | some _ =>
      skip
      expected "another option, EOF, SemiColon, Comma or ')'"

/-- A user to be created, after the keyword. -/
def restOfNewUser : Reader Unit := do
  optional ifNotExists
  discard ident
  userOptions (← get)
  optional ["WITH"]
  if ← acceptKeyword "TAG" then
    throughStatement

/-- Roles to be created, after the keyword. -/
def restOfNewRole : Reader Unit := do
  optional ifNotExists
  discard (commaSeparated dottedName)
  optional ["WITH"]

/-- A sequence to be created, after its keyword. -/
def restOfNewSequence : Reader Unit := do
  optional ifNotExists
  discard dottedName
  clause ["AS"] dataType
  sequenceOptions
  if ← acceptKeywords ["OWNED", "BY"] then
    unless ← acceptKeyword "NONE" do
      discard dottedName

/-- A domain to be created, after its keyword. -/
def restOfNewDomain (inner : Nested) : Reader Unit := do
  discard dottedName
  expectKeyword "AS"
  discard dataType
  clause ["COLLATE"] ident
  clause ["DEFAULT"] inner.value
  discard <| repeated do
    return if ← tableConstraint inner then some () else none

/-- An extension of the server, after its keyword. -/
def restOfNewExtension : Reader Unit := do
  optional ifNotExists
  discard ident
  if ← acceptKeyword "WITH" then
    clause ["SCHEMA"] ident
    clause ["VERSION"] ident
    optional ["CASCADE"]

/-- Another object to be created, after the words for its kind. -/
def restOfNewObject : Reader Unit := do
  optional ifNotExists
  discard dottedName
  throughStatement

/-- Whether a view is to be created here. -/
def atView : Reader Bool := do
  return (← atOneOf ["MATERIALIZED", "VIEW"]) || (← atKeywords ["SECURE", "VIEW"]) ||
    (← atKeywords ["SECURE", "MATERIALIZED", "VIEW"])

/-- A `CREATE`, after its keyword. -/
def restOfCreate (inner : Nested) : Reader Unit := do
  let replaces ← acceptKeywords ["OR", "REPLACE"]
  optional ["OR", "ALTER"]
  optional ["LOCAL"]
  optional ["GLOBAL"]
  optional ["TRANSIENT"]
  discard (acceptOneOf ["TEMP", "TEMPORARY"])
  viewLead
  let others := [["TYPE"], ["CONNECTOR"], ["SERVER"], ["OPERATOR", "FAMILY"], ["OPERATOR", "CLASS"],
    ["OPERATOR"]]
  if ← acceptKeyword "TABLE" then restOfNewTable inner
  else if ← atView then newView inner
  else if ← acceptKeyword "EXTERNAL" then
    expectKeyword "TABLE"
    restOfNewObject
  else if ← acceptKeywords ["CONSTRAINT", "TRIGGER"] then restOfNewTrigger inner
  else if ← acceptKeyword "TRIGGER" then restOfNewTrigger inner
  else if ← acceptKeyword "POLICY" then restOfNewObject
  else if ← acceptKeyword "DOMAIN" then restOfNewDomain inner
  else if ← acceptKeyword "USER" then restOfNewUser
  else if ← acceptKeyword "SECRET" then throughStatement
  else if ← atOneOf ["FUNCTION", "MACRO"] then expected "an object type after CREATE"
  else if replaces then
    expected "[EXTERNAL] TABLE or [MATERIALIZED] VIEW or FUNCTION after CREATE OR REPLACE"
  else if ← acceptKeyword "INDEX" then restOfNewIndex inner
  else if ← acceptKeywords ["UNIQUE", "INDEX"] then restOfNewIndex inner
  else if ← acceptKeyword "VIRTUAL" then
    expectKeyword "TABLE"
    restOfNewObject
  else if ← acceptKeyword "SCHEMA" then restOfNewSchema inner
  else if ← acceptKeyword "DATABASE" then restOfNewDatabase
  else if ← acceptKeyword "PROCEDURE" then restOfNewProcedure inner
  else if ← acceptKeyword "EXTENSION" then restOfNewExtension
  else if ← acceptKeyword "ROLE" then restOfNewRole
  else if ← acceptKeyword "SEQUENCE" then restOfNewSequence
  else if ← others.anyM acceptKeywords then restOfNewObject
  else expected "an object type after CREATE"

end InsertPivot.Sql.Reader
