import InsertPivot.Sql.Reader.Alteration

/-!
# Reading statements that tend tables

Statements that gather statistics, repair and cache tables, and bring their rows in and out.
-/

namespace InsertPivot.Sql.Reader

/-- One thing that is said about an analysis. -/
def analysisOption (inner : Nested) : Reader (Option Unit) := do
  match ← oneOf? ["PARTITION", "FOR", "CACHE", "NOSCAN", "COMPUTE"] with
  | none => return none
  | some "PARTITION" => some <$> discard inner.valueList
  | some "FOR" =>
    expectKeyword "COLUMNS"
    some <$> discard (attempt (commaSeparated ident))
  | some "CACHE" => some <$> expectKeyword "METADATA"
  | some "COMPUTE" => some <$> expectKeyword "STATISTICS"
  | some _ => return some ()

/-- An `ANALYZE`, after its keyword. -/
def restOfAnalyze (inner : Nested) : Reader Unit := do
  optional ["TABLE"]
  discard dottedName
  discard (repeated (analysisOption inner))

/-- An `ATTACH`, after its keyword. -/
def restOfAttach (inner : Nested) : Reader Unit := do
  optional ["DATABASE"]
  discard inner.value
  expectKeyword "AS"
  discard ident

/-- An `MSCK`, after its keyword. -/
def restOfRepair : Reader Unit := do
  optional ["REPAIR"]
  expectKeyword "TABLE"
  discard dottedName
  discard <| attempt do
    discard (acceptOneOf ["ADD", "DROP", "SYNC"])
    expectKeyword "PARTITIONS"

/-- A `CACHE`, after its keyword. -/
def restOfCache (inner : Nested) : Reader Unit := do
  unless ← acceptKeyword "TABLE" do
    let last := (← get).head?
    discard dottedName
    unless ← acceptKeyword "TABLE" do
      if (← get).isEmpty then expectedAt "a `TABLE` keyword" last else expected "a `TABLE` keyword"
  discard dottedName
  optionList inner "OPTIONS"
  unless (← get).isEmpty do
    unless (← peekToken?).any Token.isWord do
      expected "a QUERY statement"
    optional ["AS"]
    discard inner.query

/-- An `UNCACHE`, after its keyword. -/
def restOfUncache : Reader Unit := do
  expectKeyword "TABLE"
  optional ifExists
  discard dottedName

/-- A `VACUUM`, after its keyword. -/
def restOfVacuum : Reader Unit := do
  optional ["FULL"]
  optional ["SORT", "ONLY"]
  optional ["DELETE", "ONLY"]
  optional ["REINDEX"]
  optional ["RECLUSTER"]
  if (← attempt dottedName).isSome then
    if ← acceptKeyword "TO" then
      discard literal
      expectKeyword "PERCENT"
    optional ["BOOST"]

/-- A `COPY`, after its keyword. -/
def restOfCopy (inner : Nested) : Reader Unit := do
  let ofQuery ← atSymbol .leftParen
  if ofQuery then
    discard (inParens inner.query)
  else
    discard dottedName
    discard (optionalColumnList false)
  match ← oneOf? ["FROM", "TO"] with
  | none => expected "FROM or TO"
  | some word =>
    if word = "FROM" && ofQuery then
      throw (.invalid "COPY ... FROM does not support query as a source" none)
    if ← acceptKeyword "PROGRAM" then discard textLiteral
    else
      unless ← acceptOneOf ["STDIN", "STDOUT"] do
        discard textLiteral
    throughStatement

/-- An `UNLOAD`, after its keyword. -/
def restOfUnload (inner : Nested) : Reader Unit := do
  inParens do
    match ← peekToken? with
    | some (.string .single _) => discard textLiteral
    | _ => discard inner.query
  expectKeyword "TO"
  discard ident
  throughStatement

/-- An `EXPORT`, after its keyword. -/
def restOfExport (inner : Nested) : Reader Unit := do
  expectKeyword "DATA"
  clause ["WITH", "CONNECTION"] dottedName
  expectKeyword "OPTIONS"
  discard (inParens (commaSeparated (namedValue inner)))
  expectKeyword "AS"
  discard inner.query

/-- A `LOAD`, after its keyword. There is no such statement. -/
def restOfLoad : Reader Unit := do
  optional ["DATA"]
  expected "`DATA` or an extension name after `LOAD`"

end InsertPivot.Sql.Reader
