import InsertPivot.Sql.Reader.Window

/-!
# Reading definitions of columns

What a table is made of: columns with their types and options, and the constraints and indexes on them. An
option says more about one column; a constraint stands beside the columns and names those that it is about.
-/

namespace InsertPivot.Sql.Reader

/-! ## References -/

/-- What becomes of rows that refer to one that goes away. -/
def referentialAction : Reader Unit := do
  let actions := [["RESTRICT"], ["CASCADE"], ["SET", "NULL"], ["NO", "ACTION"], ["SET", "DEFAULT"]]
  unless ← actions.anyM acceptKeywords do
    expected "one of RESTRICT, CASCADE, SET NULL, NO ACTION or SET DEFAULT"

/-- One thing that is said about a reference. -/
def referenceOption : Reader (Option Unit) := do
  if ← acceptKeyword "MATCH" then
    unless ← acceptOneOf ["FULL", "PARTIAL", "SIMPLE"] do
      expected "one of FULL, PARTIAL or SIMPLE"
    return some ()
  else if (← acceptKeywords ["ON", "DELETE"]) then some <$> referentialAction
  else if (← acceptKeywords ["ON", "UPDATE"]) then some <$> referentialAction
  else return none

/-- When a constraint is checked, one word of it. -/
def characteristic : Reader (Option Unit) := do
  let words := [["NOT", "DEFERRABLE"], ["DEFERRABLE"], ["ENFORCED"], ["NOT", "ENFORCED"]]
  if ← words.anyM acceptKeywords then
    return some ()
  else if ← acceptKeyword "INITIALLY" then
    unless ← acceptOneOf ["DEFERRED", "IMMEDIATE"] do
      expected "DEFERRED or IMMEDIATE"
    return some ()
  else
    return none

/-- When a constraint is checked. -/
def characteristics : Reader Unit :=
  discard (repeated characteristic)

/-- The columns that another table is referred to by, after the word `REFERENCES`. -/
def restOfReferences : Reader Unit := do
  discard dottedName
  discard (optionalColumnList false)
  discard (repeated referenceOption)
  characteristics

/-- Whether a condition is enforced. -/
def enforcement : Reader Unit := do
  unless ← acceptKeyword "ENFORCED" do
    optional ["NOT", "ENFORCED"]

/-- A condition on the rows of a table, after the word `CHECK`. -/
def restOfCheck (inner : Nested) : Reader Unit := do
  discard (inParens inner.value)
  enforcement

/-! ## Sequences -/

/-- The smallest or greatest number of a sequence, where it is said that there is one or none. -/
def sequenceBound (keyword : String) : Reader Unit := do
  if ← acceptKeyword keyword then discard signedText
  else optional ["NO", keyword]

/-- Where a sequence of numbers starts, how it goes on and where it ends. -/
def sequenceOptions : Reader Unit := do
  if ← acceptKeyword "INCREMENT" then
    optional ["BY"]
    discard signedText
  sequenceBound "MINVALUE"
  sequenceBound "MAXVALUE"
  if ← acceptKeyword "START" then
    optional ["WITH"]
    discard signedText
  clause ["CACHE"] signedText
  unless ← acceptKeywords ["NO", "CYCLE"] do
    optional ["CYCLE"]

/-! ## Options of a column -/

/-- How a column is computed, after the words before its parentheses. -/
def restOfComputed (inner : Nested) : Reader Unit := do
  discard (inParens inner.value)
  discard (acceptOneOf ["STORED", "VIRTUAL"])

/-- How the values of a column come about, after the word `GENERATED`; whether it is said. -/
def restOfGenerated (inner : Nested) : Reader (Option Unit) := do
  let counted := [["ALWAYS", "AS", "IDENTITY"], ["BY", "DEFAULT", "AS", "IDENTITY"]]
  if ← counted.anyM acceptKeywords then
    some <$> discard (inOptionalParens sequenceOptions)
  else if ← acceptKeywords ["ALWAYS", "AS"] then
    if ← atSymbol .leftParen then some <$> restOfComputed inner else return none
  else
    return none

/-- One option of a column. -/
def columnOption (inner : Nested) : Reader (Option Unit) := do
  let words := [["NOT", "NULL"], ["NULL"], ["AUTO_INCREMENT"], ["INVISIBLE"]]
  if ← acceptKeywords ["CHARACTER", "SET"] then some <$> discard dottedName
  else if ← acceptKeyword "COLLATE" then some <$> discard dottedName
  else if ← acceptKeyword "COMMENT" then some <$> discard textLiteral
  else if ← words.anyM acceptKeywords then return some ()
  else if ← acceptKeyword "DEFAULT" then some <$> discard inner.value
  else if ← acceptKeywords ["PRIMARY", "KEY"] then some <$> characteristics
  else if ← acceptKeyword "UNIQUE" then
    discard (acceptOneOf ["KEY", "INDEX"])
    some <$> characteristics
  else if ← acceptKeyword "REFERENCES" then some <$> restOfReferences
  else if ← acceptKeyword "CHECK" then some <$> restOfCheck inner
  else if ← acceptKeywords ["ON", "UPDATE"] then some <$> discard inner.value
  else if ← acceptKeyword "GENERATED" then restOfGenerated inner
  else if ← acceptKeyword "AS" then some <$> restOfComputed inner
  else if ← acceptKeyword "SRID" then some <$> discard inner.value
  else return none

/-- One option of a column, which may have a name. -/
def namedOption (inner : Nested) : Reader (Option Unit) := do
  if ← acceptKeyword "CONSTRAINT" then
    discard ident
    if (← columnOption inner).isNone then
      expected "constraint details after CONSTRAINT <name>"
    return some ()
  else
    columnOption inner

/-- The type and the options of a column, behind its name. -/
def restOfColumn (inner : Nested) : Reader Unit := do
  discard dataType
  discard (repeated (namedOption inner))

/-! ## Constraints and indexes -/

/-- How an index is built, where it is said. -/
def indexType : Reader Bool := do
  if ← acceptKeyword "USING" then
    discard ident
    return true
  else
    return false

/-- One thing that is said about an index. -/
def indexOption : Reader (Option Unit) := do
  if ← indexType then return some ()
  else behindKeyword "COMMENT" (discard textLiteral)

/-- The columns of an index, each perhaps with a class of operators. -/
def indexColumns (inner : Nested) : Reader Unit := do
  unless ← atSymbol .leftParen do
    expected "a list of columns in parentheses"
  discard <| inParens <| commaSeparated do
    discard inner.value
    unless ← atOneOf ["ASC", "DESC", "NULLS", "WITH"] do
      discard (attempt dottedName)
    discard (acceptOneOf ["ASC", "DESC"])
    unless ← acceptKeywords ["NULLS", "FIRST"] do
      optional ["NULLS", "LAST"]

/-- A key or index, behind the words for it and its name: the columns and what else is said. -/
def restOfNamedIndex (inner : Nested) : Reader Unit := do
  discard indexType
  indexColumns inner
  discard (repeated indexOption)

/-- A key, behind the words for it. Any word there is its name. -/
def restOfKey (inner : Nested) : Reader Unit := do
  discard (attempt ident)
  restOfNamedIndex inner
  characteristics

/-- An index, behind the word for it. It has no name where its way of building comes first. -/
def restOfIndex (inner : Nested) : Reader Unit := do
  unless ← atKeyword "USING" do
    discard (attempt ident)
  restOfNamedIndex inner

/-- Whether values that are missing count as equal, where it is said. -/
def nullsDistinct : Reader Unit := do
  if ← acceptKeyword "NULLS" then
    optional ["NOT"]
    expectKeyword "DISTINCT"

/-- A constraint, or an index that has no name before it; whether one stands here. -/
def tableConstraint (inner : Nested) : Reader Bool := do
  let named ← behindKeyword "CONSTRAINT" ident
  if ← acceptKeyword "UNIQUE" then
    discard (acceptOneOf ["KEY", "INDEX"])
    nullsDistinct
    restOfKey inner
  else if ← acceptKeyword "PRIMARY" then
    expectKeyword "KEY"
    restOfKey inner
  else if ← acceptKeyword "FOREIGN" then
    expectKeyword "KEY"
    discard (attempt ident)
    unless ← atSymbol .leftParen do
      expected "a list of columns in parentheses"
    discard (columnList false)
    expectKeyword "REFERENCES"
    restOfReferences
  else if ← acceptKeyword "CHECK" then restOfCheck inner
  else if let some name := named then
    if ← atOneOf ["FULLTEXT", "SPATIAL"] then
      throw (.expected "FULLTEXT or SPATIAL option without constraint name"
        ((← place?).map fun place => (name.text, place)))
    else
      expected "PRIMARY, UNIQUE, FOREIGN, or CHECK"
  else if ← acceptOneOf ["INDEX", "KEY"] then
    restOfIndex inner
  else if ← acceptOneOf ["FULLTEXT", "SPATIAL"] then
    discard (acceptOneOf ["KEY", "INDEX"])
    discard (attempt ident)
    indexColumns inner
  else
    return false
  return true

/-! ## All columns -/

/-- The columns and constraints of a table, with the closing parenthesis; at most one for each lexeme of
`bound`. -/
def columnSteps (inner : Nested) : (bound : List Lexeme) → Reader Unit
  | [] => expected "column name or constraint definition"
  | _ :: bound => do
    unless ← tableConstraint inner do
      unless (← peekToken?).any Token.isWord do
        expected "column name or constraint definition"
      discard ident
      restOfColumn inner
    if ← acceptSymbol .comma then
      columnSteps inner bound
    else
      unless ← acceptSymbol .rightParen do
        expected "',' or ')' after column definition"

/-- The columns and constraints of a table, which may be missing. -/
def columnDefinitions (inner : Nested) : Reader Unit := do
  if ← acceptSymbol .leftParen then
    unless ← acceptSymbol .rightParen do
      columnSteps inner (← get)

end InsertPivot.Sql.Reader
