import InsertPivot.Sql.Reader

/-!
# Reading transaction statements

How a transaction starts, what it is like, the points in it that can be returned to, and how it ends.
-/

namespace InsertPivot.Sql.Reader

/-- How far a transaction is kept apart from others. -/
def isolationLevel : Reader Unit := do
  let levels := [["READ", "UNCOMMITTED"], ["READ", "COMMITTED"], ["REPEATABLE", "READ"], ["SERIALIZABLE"],
    ["SNAPSHOT"]]
  unless ← levels.anyM acceptKeywords do
    expected "isolation level"

/-- What a transaction is like, if it is said. -/
def transactionMode : Reader Bool := do
  if ← acceptKeywords ["ISOLATION", "LEVEL"] then
    isolationLevel
    return true
  else if ← acceptKeywords ["READ", "ONLY"] then
    return true
  else
    acceptKeywords ["READ", "WRITE"]

/-- What a transaction is like, with commas or without, at most one mode for each lexeme of `bound`. Behind a
comma a mode must stand. -/
def modeSteps (required : Bool) : (bound : List Lexeme) → Reader Unit
  | [] => return
  | _ :: bound => do
    if ← transactionMode then
      modeSteps (← acceptSymbol .comma) bound
    else if required then
      expected "transaction mode"

/-- What a transaction is like. -/
def transactionModes : Reader Unit := do
  modeSteps false (← get)

/-- The start of a transaction, after the word `START`. -/
def restOfStart : Reader Unit := do
  expectKeyword "TRANSACTION"
  transactionModes

/-- The start of a transaction, after the word `BEGIN`. -/
def restOfBegin : Reader Unit := do
  discard (acceptOneOf ["TRANSACTION", "WORK", "TRAN"])
  transactionModes

/-- How a transaction ends, after the keyword that ends it. -/
def restOfCommit : Reader Unit := do
  discard (acceptOneOf ["TRANSACTION", "WORK", "TRAN"])
  clause ["AND"] do
    optional ["NO"]
    expectKeyword "CHAIN"

/-- A `ROLLBACK`, after its keyword. -/
def restOfRollback : Reader Unit := do
  restOfCommit
  clause ["TO"] do
    optional ["SAVEPOINT"]
    ident

/-- A `RELEASE`, after its keyword. -/
def restOfRelease : Reader Unit := do
  optional ["SAVEPOINT"]
  discard ident

end InsertPivot.Sql.Reader
