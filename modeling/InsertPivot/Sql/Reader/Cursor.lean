import InsertPivot.Sql.Reader.Change

/-!
# Reading statements about cursors and prepared statements

A cursor goes through the rows of a query. A prepared statement or a routine is carried out by its name.
-/

namespace InsertPivot.Sql.Reader

/-! ## Cursors -/

/-- The declaration of a cursor, after the word `DECLARE`. -/
def restOfDeclare (inner : Nested) : Reader Unit := do
  discard ident
  optional ["BINARY"]
  discard (acceptOneOf ["INSENSITIVE", "ASENSITIVE"])
  unless ← acceptKeyword "SCROLL" do
    optional ["NO", "SCROLL"]
  expectKeyword "CURSOR"
  if ← acceptOneOf ["WITH", "WITHOUT"] then
    expectKeyword "HOLD"
  expectKeyword "FOR"
  discard inner.query

/-- Which rows a cursor goes to. -/
def fetchedRows : Reader Unit := do
  match ← oneOf? ["NEXT", "PRIOR", "FIRST", "LAST", "ABSOLUTE", "RELATIVE", "FORWARD", "BACKWARD", "ALL"] with
  | none | some "ABSOLUTE" | some "RELATIVE" => discard numberText
  | some "FORWARD" | some "BACKWARD" =>
    unless ← acceptKeyword "ALL" do
      discard numberText
  | some _ => return

/-- A `FETCH` that is a statement, after its keyword. -/
def restOfFetchStatement : Reader Unit := do
  fetchedRows
  unless ← acceptOneOf ["FROM", "IN"] do
    refuse "Expected FROM or IN"
  discard ident
  clause ["INTO"] dottedName

/-- A `CLOSE`, after its keyword. -/
def restOfClose : Reader Unit := do
  unless ← acceptKeyword "ALL" do
    discard ident

/-! ## Prepared statements and routines -/

/-- A `PREPARE`, after its keyword. -/
def restOfPrepare (inner : Nested) : Reader Unit := do
  discard ident
  discard (inOptionalParens (commaSeparated dataType))
  expectKeyword "AS"
  discard inner.statement

/-- An `EXECUTE`, after its keyword. -/
def restOfExecute (inner : Nested) : Reader Unit := do
  discard dottedName
  if ← atSymbol .leftParen then
    discard (inParens (commaSeparatedBefore .rightParen inner.value))
  else
    let ended := (← get).isEmpty || (← atSymbol .semicolon) || (← atOneOf ["USING", "OUTPUT", "DEFAULT"])
    unless ended do
      discard inner.values
  clause ["INTO"] (commaSeparated ident)
  clause ["USING"] (commaSeparated (labelledText inner))
  optional ["OUTPUT"]
  optional ["DEFAULT"]

/-- A `DEALLOCATE`, after its keyword. -/
def restOfDeallocate : Reader Unit := do
  optional ["PREPARE"]
  discard ident

/-- A `CALL`, after its keyword. -/
def restOfCallStatement (inner : Nested) : Reader Unit := do
  let name ← dottedName
  if ← atSymbol .leftParen then
    discard (restOfCall inner name)

end InsertPivot.Sql.Reader
