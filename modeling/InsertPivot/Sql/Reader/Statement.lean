import InsertPivot.Sql.Reader.Cursor
import InsertPivot.Sql.Reader.Maintenance
import InsertPivot.Sql.Reader.Privilege
import InsertPivot.Sql.Reader.Query
import InsertPivot.Sql.Reader.Session

/-!
# Reading statements

A text is a list of statements with semicolons between them, any number of them at each place. Only an
`INSERT` or a `REPLACE` is kept. Other statements are read to find out whether they are well formed and
where they end.

`Nested.upTo` ties the readers together: an expression, query or statement reads what stands in it with one
level less, and with no level left nothing can be read. All statements of a text have to be well formed
before any is looked at.
-/

namespace InsertPivot.Sql

namespace Reader

/-! ## Explanations -/

/-- The words that ask for an explanation. -/
def explainWords : List String :=
  ["EXPLAIN", "DESC", "DESCRIBE"]

/-- How an explanation is written, after the word `FORMAT`. -/
def explainFormat : Reader Unit := do
  discard (acceptSymbol .equal)
  unless ← acceptOneOf ["TEXT", "GRAPHVIZ", "JSON", "TREE", "TRADITIONAL"] do
    expected "fileformat"

/-- An explanation of a statement or of a table, after its keyword. -/
def restOfExplain (inner : Nested) : Reader Unit := do
  if ← acceptKeywords ["QUERY", "PLAN"] then pure ()
  else if ← acceptKeyword "ESTIMATE" then pure ()
  else
    optional ["ANALYZE"]
    optional ["VERBOSE"]
    clause ["FORMAT"] explainFormat
  let again ← atOneOf explainWords
  match ← attempt inner.statement with
  | some _ =>
    if again then
      throw (.invalid "Explain must be root of the plan" none)
  | none =>
    discard (acceptOneOf ["EXTENDED", "FORMATTED"])
    discard dottedName

/-! ## All statements -/

/-- What goes on behind the keyword of a statement that is neither an `INSERT` nor a query; nothing where no
statement has the keyword. -/
def restOfOther? (inner : Nested) (keyword : String) : Option (Reader Unit) :=
  match keyword with
  | "KILL" => restOfKill
  | "FLUSH" => restOfFlush
  | "DESC" | "DESCRIBE" | "EXPLAIN" => restOfExplain inner
  | "ANALYZE" => restOfAnalyze inner
  | "CASE" => restOfCaseStatement inner
  | "IF" => restOfIf inner
  | "WHILE" => restOfWhile inner
  | "RAISE" => restOfRaise inner
  | "TRUNCATE" => restOfTruncate inner
  | "ATTACH" => restOfAttach inner
  | "MSCK" => restOfRepair
  | "CREATE" => restOfCreate inner
  | "CACHE" => restOfCache inner
  | "DROP" => restOfDrop inner
  | "DISCARD" => restOfDiscard
  | "DECLARE" => restOfDeclare inner
  | "FETCH" => restOfFetchStatement
  | "DELETE" => some (discard (restOfDelete inner))
  | "UNCACHE" => restOfUncache
  | "UPDATE" => some (discard (restOfUpdate inner))
  | "ALTER" => restOfAlter inner
  | "CALL" => restOfCallStatement inner
  | "COPY" => restOfCopy inner
  | "OPEN" => some (discard ident)
  | "CLOSE" => restOfClose
  | "SET" => restOfSetStatement inner
  | "SHOW" => restOfShow inner
  | "USE" => some (discard dottedName)
  | "GRANT" => restOfGrant
  | "DENY" => restOfDeny
  | "REVOKE" => restOfRevoke
  | "START" => restOfStart
  | "BEGIN" => restOfBegin
  | "END" | "COMMIT" => restOfCommit
  | "SAVEPOINT" => some (discard ident)
  | "RELEASE" => restOfRelease
  | "RAISERROR" => restOfRaiserror inner
  | "ROLLBACK" => restOfRollback
  | "ASSERT" => restOfAssert inner
  | "DEALLOCATE" => restOfDeallocate
  | "EXECUTE" | "EXEC" => restOfExecute inner
  | "PREPARE" => restOfPrepare inner
  | "MERGE" => some (discard (restOfMerge inner))
  | "PRAGMA" => restOfPragma
  | "UNLOAD" => restOfUnload inner
  | "RENAME" => restOfRename
  | "LOAD" => restOfLoad
  | "PRINT" => some (discard inner.value)
  | "RETURN" => some (discard (attempt inner.value))
  | "EXPORT" => restOfExport inner
  | "VACUUM" => restOfVacuum
  | "RESET" => restOfReset
  | _ => none

/-- A statement that starts with this lexeme, which has not been taken. -/
def statementFrom (inner : Nested) (lead : Lexeme) : Reader Statement := do
  match lead.token.keyword? with
  | some "INSERT" => skip; insertion inner lead false
  | some "REPLACE" => skip; insertion inner lead true
  | some "SELECT" | some "WITH" | some "VALUES" | some "FROM" => discard inner.query; return .other
  | some keyword =>
    match restOfOther? inner keyword with
    | some rest => skip; rest; return .other
    | none => expected "an SQL statement"
  | none =>
    if lead.token = .symbol .leftParen then
      discard inner.query
      return .other
    else
      expected "an SQL statement"

/-- One statement. -/
def statement (inner : Nested) : Reader Statement := do
  if ← acceptKeywords ["LOCK", "TABLES"] then
    discard (commaSeparated lockedTable)
    return .other
  else if ← acceptKeywords ["UNLOCK", "TABLES"] then
    return .other
  else
    match ← peek? with
    | none => expected "an SQL statement"
    | some lead => statementFrom inner lead

end Reader

/-- The readers for what stands inside something else, as many levels deep as `levels`. -/
def Nested.upTo : (levels : Nat) → Nested
  | 0 => ⟨fun _ => throw .tooDeep, throw .tooDeep, throw .tooDeep⟩
  | levels + 1 =>
    let inner := upTo levels
    ⟨Reader.expression inner, Reader.query inner, Reader.statement inner⟩

namespace Reader

/-- How many levels of statements, queries and expressions may stand in one another. -/
def depthLimit : Nat := 50

/-! ## Texts -/

/-- A statement, unless a semicolon or nothing stands here. -/
def statement? : Reader (Option Statement) := do
  if (← atSymbol .semicolon) || (← peek?).isNone then
    return none
  else
    return some (← (Nested.upTo depthLimit).statement)

/-- Whether more statements may follow, behind a semicolon, which is taken. -/
def goesOn : Reader Bool := do
  if ← acceptSymbol .semicolon then
    return true
  else
    match ← peek? with
    | none => return false
    | some next => if next.token.keyword? = some "END" then return false else expected "end of statement"

/-- The statements of a text, with any number of semicolons before, between and behind them: what stands
between two semicolons is at most one statement, and `bound` bounds the number of such stretches. -/
def statementSteps : (bound : Nat) → Reader (List Statement)
  | 0 => return []
  | bound + 1 => do
    let found ← statement?
    if ← goesOn then
      return found.toList ++ (← statementSteps bound)
    else
      return found.toList

/-- Whether a lexeme is a semicolon. -/
def isSemicolon (l : Lexeme) : Bool :=
  l.token = .symbol .semicolon

end Reader

/-- The statements of some lexemes. Between any two of them stands a semicolon, so the semicolons bound their
number. -/
def Statement.ofLexemes (ls : List Lexeme) : Except Fault (List Statement) :=
  ((Reader.statementSteps (ls.countP Reader.isSemicolon + 1)).run ls).map (·.1)

end InsertPivot.Sql
