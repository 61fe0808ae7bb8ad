import InsertPivot.Sql.Reader.Change

/-!
# Reading statements that hold statements

A block is a list of statements with a semicolon behind each, up to a word that ends it. Choices and loops
hold blocks, and so do the bodies of routines.
-/

namespace InsertPivot.Sql.Reader

/-! ## Blocks -/

/-- Statements with a semicolon behind each, up to one of these words or the end of the text; at most one for
each lexeme of `bound`. -/
def statementList (inner : Nested) (ends : List String) : (bound : List Lexeme) → Reader Unit
  | [] => return
  | _ :: bound => do
    if (← get).isEmpty || (← atOneOf ends) then
      return
    else
      discard inner.statement
      expectSymbol .semicolon
      statementList inner ends bound

/-- A block, which may stand between `BEGIN` and `END`. -/
def block (inner : Nested) (ends : List String) : Reader Unit := do
  if ← acceptKeyword "BEGIN" then
    statementList inner ends (← get)
    expectKeyword "END"
  else
    statementList inner ends (← get)

/-- A condition and the block that is carried out where it holds. -/
def conditionalBlock (inner : Nested) (ends : List String) : Reader Unit := do
  discard inner.value
  expectKeyword "THEN"
  block inner ends

/-- Further conditions with their blocks, each behind this keyword. -/
def furtherBlocks (inner : Nested) (keyword : String) (ends : List String) : Reader Unit :=
  discard (repeated (behindKeyword keyword (conditionalBlock inner ends)))

/-! ## Choices and loops -/

/-- A `CASE` that holds statements, after its keyword. -/
def restOfCaseStatement (inner : Nested) : Reader Unit := do
  let ends := ["WHEN", "ELSE", "END"]
  unless ← atKeyword "WHEN" do
    discard inner.value
  expectKeyword "WHEN"
  conditionalBlock inner ends
  furtherBlocks inner "WHEN" ends
  clause ["ELSE"] (block inner ["END"])
  expectKeyword "END"
  optional ["CASE"]

/-- An `IF`, after its keyword. -/
def restOfIf (inner : Nested) : Reader Unit := do
  let ends := ["ELSE", "ELSEIF", "END"]
  conditionalBlock inner ends
  furtherBlocks inner "ELSEIF" ends
  clause ["ELSE"] (block inner ["END"])
  expectKeywords ["END", "IF"]

/-- A `WHILE`, after its keyword. What ends its block is left. -/
def restOfWhile (inner : Nested) : Reader Unit := do
  discard inner.value
  block inner ["END"]

/-! ## Failures -/

/-- A `RAISE`, after its keyword. -/
def restOfRaise (inner : Nested) : Reader Unit := do
  if ← acceptKeywords ["USING", "MESSAGE"] then
    expectSymbol .equal
    discard inner.value
  else
    discard (attempt inner.value)

/-- A `RAISERROR`, after its keyword. -/
def restOfRaiserror (inner : Nested) : Reader Unit := do
  inParens do
    discard inner.value
    expectSymbol .comma
    discard inner.value
    expectSymbol .comma
    discard inner.values
  clause ["WITH"] (commaSeparated (expectOneOf ["LOG", "NOWAIT", "SETERROR"]))

/-- An `ASSERT`, after its keyword. -/
def restOfAssert (inner : Nested) : Reader Unit := do
  discard inner.value
  clause ["AS"] inner.value

end InsertPivot.Sql.Reader
