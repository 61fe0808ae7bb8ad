import InsertPivot.Sql.Reader.Document

/-!
# Reading tables

What a query reads from: tables by their names, queries and joined tables in parentheses, functions and
documents. Tables follow one another with commas, and each may have others joined to it.

In parentheses a query is tried first. Otherwise joined tables must stand there: a table alone may not.
-/

namespace InsertPivot.Sql.Reader

/-! ## What may follow the name of a table -/

/-- A hint which indexes to use. -/
def indexHint : Reader (Option String) := do
  match ← oneOf? ["USE", "IGNORE", "FORCE"] with
  | none => return none
  | some word =>
    match ← oneOf? ["INDEX", "KEY"] with
    | none => expected "expected to match index type (INDEX or KEY)"
    | some kind =>
      let scope ← behindKeyword "FOR" do
        if ← acceptKeyword "JOIN" then return "JOIN"
        else if ← acceptKeywords ["ORDER", "BY"] then return "ORDER BY"
        else if ← acceptKeywords ["GROUP", "BY"] then return "GROUP BY"
        else expected "expected to match table hint for clause (JOIN, ORDER BY, GROUP BY)"
      let indexes ← inParens (commaSeparatedBefore .rightParen ident)
      return some (word ++ " " ++ kind ++ behind " FOR " scope ++ " " ++
        parenthesized (commas (indexes.map Ident.text)))

/-- Hints which indexes to use; none, unless all that stand there are well formed. -/
def indexHints : Reader (List String) := do
  return (← attempt (repeated indexHint)).getD []

/-- Hints in parentheses behind `WITH`. -/
def withHints (inner : Nested) : Reader (List String) := do
  let start ← get
  if ← acceptKeyword "WITH" then
    if ← atSymbol .leftParen then
      return ["WITH " ++ parenthesized (commas (exprTexts (← inner.valueList)))]
    else
      set start
      return []
  else
    return []

/-- A number of bytes or rows that is written as a word. -/
def sizeWord : Reader String := do
  match ← next? with
  | some ⟨.word text _, _, _⟩ => return text
  | _ => refuse "Expecting number or byte length e.g. 100M"

/-- The quantity of rows that is drawn, without its unit. -/
def sampleNumber (inner : Nested) : Reader String := do
  match ← attempt inner.value with
  | some value => return value.text
  | none => sizeWord

/-- The share of rows that is drawn, between its parentheses where it has any. -/
def sampleQuantity (inner : Nested) : Reader String := do
  let quantity ← sampleNumber inner
  let unit ← oneOf? ["ROWS", "PERCENT"]
  return quantity ++ behind " " unit

/-- The buckets that rows are drawn from, after the word `BUCKET`. -/
def restOfBuckets (inner : Nested) : Reader String := do
  let bucket ← numberText
  expectKeywords ["OUT", "OF"]
  let total ← numberText
  return "BUCKET " ++ bucket ++ " OUT OF " ++ total ++ optionText " ON " (← behindKeyword "ON" inner.value)

/-- How many rows are drawn, with or without parentheses. -/
def sampleSize (inner : Nested) : Reader String := do
  if ← atSymbol .leftParen then
    parenthesized <$> inParens do
      if ← acceptKeyword "BUCKET" then restOfBuckets inner else sampleQuantity inner
  else
    sampleQuantity inner

/-- What makes a draw repeatable, where it is said. -/
def sampleSeed : Reader (Option String) := do
  match ← oneOf? ["REPEATABLE", "SEED"] with
  | none => return none
  | some keyword => return some (keyword ++ " " ++ parenthesized (← inParens numberText))

/-- Which rows of a table are drawn. -/
def sample (inner : Nested) : Reader (List String) := do
  match ← oneOf? ["TABLESAMPLE", "SAMPLE"] with
  | none => return []
  | some word =>
    let method ← oneOf? ["BERNOULLI", "ROW", "SYSTEM", "BLOCK"]
    let quantity ← sampleSize inner
    let seed ← sampleSeed
    let skipped ← behindKeyword "OFFSET" inner.value
    return [word ++ behind " " method ++ " " ++ quantity ++ behind " " seed ++ optionText " OFFSET " skipped]

/-- The arguments of a function that yields rows, after their opening parenthesis and with the closing
one. -/
def tableArguments (inner : Nested) : Reader (List Argument) := do
  let items ← commaSeparatedBefore .rightParen (argument inner)
  expectSymbol .rightParen
  return items

/-- The arguments of a function that yields rows, where there are any. -/
def optionalArguments (inner : Nested) : Reader (Option (List Argument)) := do
  if ← acceptSymbol .leftParen then
    return some (← tableArguments inner)
  else
    return none

/-! ## Turned tables -/

/-- The keywords that cannot name an aggregate of a turned table without `AS`. -/
def aggregateReserved : List String :=
  "FOR" :: columnReserved

/-- The name of an aggregate, without its quotes. -/
def aggregateName : Reader Ident := do
  match ← next? with
  | some ⟨.word text _, _, _⟩ => return ⟨text, none, .none⟩
  | _ => expected "a function identifier"

/-- An aggregate whose values become the columns of a turned table. -/
def pivotAggregate (inner : Nested) : Reader String := do
  let name ← aggregateName
  let call ← restOfCall inner [name]
  return call.text ++ labelText (← label? aggregateReserved)

/-- The columns whose values become columns of a turned table. -/
def pivotKeys (inner : Nested) : Reader String := do
  if ← atSymbol .leftParen then
    match ← inParens (commaSeparated (inner.expr comparisonStrength)) with
    | [key] => return key.text
    | keys => return parenthesized (commas (exprTexts keys))
  else
    return (← inner.expr comparisonStrength).text

/-- The values that become columns of a turned table. -/
def pivotValues (inner : Nested) : Reader String := do
  if ← acceptKeyword "ANY" then
    let order ← orderings inner
    return "ANY" ++ listText " ORDER BY " (orderingTexts order)
  else if ← atQuery then
    return (← inner.query).text
  else
    return commas (← commaSeparated (labelledText inner))

/-- How a table is turned, without the parentheses. -/
def pivotContent (inner : Nested) : Reader String := do
  let aggregates ← commaSeparated (pivotAggregate inner)
  expectKeyword "FOR"
  let keys ← pivotKeys inner
  expectKeyword "IN"
  let values ← inParens (pivotValues inner)
  let otherwise ← behindKeywords ["DEFAULT", "ON", "NULL"] (inParens inner.value)
  return commas aggregates ++ " FOR " ++ keys ++ " IN " ++ parenthesized values ++
    behind " DEFAULT ON NULL " (otherwise.map (parenthesized ·.text))

/-- How a table is turned, after the word `PIVOT`. -/
def restOfPivot (inner : Nested) : Reader String := do
  return "PIVOT" ++ parenthesized (← inParens (pivotContent inner))

/-- Whether nulls become rows too, where it is said. -/
def unpivotNulls : Reader String := do
  if ← acceptKeywords ["INCLUDE", "NULLS"] then return " INCLUDE NULLS "
  else if ← acceptKeywords ["EXCLUDE", "NULLS"] then return " EXCLUDE NULLS "
  else return ""

/-- How a table is turned back, without the parentheses. -/
def unpivotContent (inner : Nested) : Reader String := do
  let value ← inner.value
  expectKeyword "FOR"
  let name ← ident
  expectKeyword "IN"
  unless ← atSymbol .leftParen do
    expected "a list of columns in parentheses"
  let columns ← inParens (commaSeparated (labelledText inner))
  return value.text ++ " FOR " ++ name.text ++ " IN " ++ parenthesized (commas columns)

/-- How a table is turned back, after the word `UNPIVOT`. -/
def restOfUnpivot (inner : Nested) : Reader String := do
  let nulls ← unpivotNulls
  return "UNPIVOT" ++ nulls ++ parenthesized (← inParens (unpivotContent inner))

/-- A table and the ways in which it is turned, at most one for each lexeme of `bound`. -/
def turned (inner : Nested) : (bound : List Lexeme) → Table → Reader Table
  | [], table => return table
  | _ :: bound, table => do
    if ← acceptKeyword "PIVOT" then
      let text ← restOfPivot inner
      turned inner bound (.special (table.text ++ " " ++ text) (← tableLabel))
    else if ← acceptKeyword "UNPIVOT" then
      let text ← restOfUnpivot inner
      turned inner bound (.special (table.text ++ " " ++ text) (← tableLabel))
    else
      return table

/-! ## One table -/

/-- A table by its name, or a function that yields rows, with all that says more about it. -/
def namedTable (inner : Nested) : Reader Table := do
  let name ← dottedName
  let partitions ← behindKeyword "PARTITION" (inParens (commaSeparated ident))
  let arguments ← optionalArguments inner
  let ordinality ← acceptKeywords ["WITH", "ORDINALITY"]
  let label ← tableLabel
  let indexes ← indexHints
  let hints ← withHints inner
  let drawn ← sample inner
  turned inner (← get)
    (.named name (partitions.getD []) arguments ordinality label (indexes ++ hints ++ drawn))

/-- A query in parentheses, after the opening one. -/
def restOfDerived (inner : Nested) (lateral : Bool) : Reader Table := do
  let query ← inner.query
  expectSymbol .rightParen
  return .derived lateral query (← tableLabel)

/-- A query or function that is computed for each row of the tables before it, after the word `LATERAL`. -/
def restOfLateral (inner : Nested) : Reader Table := do
  if ← acceptSymbol .leftParen then
    restOfDerived inner true
  else
    let name ← dottedName
    expectSymbol .leftParen
    let arguments ← tableArguments inner
    return .computed name arguments (← tableLabel)

/-- Whether a joined table is one table alone, which may not stand in parentheses, unless it is one itself. -/
def isAlone : Joined → Bool
  | ⟨.joined _ _, _⟩ => false
  | ⟨_, joins⟩ => joins.isEmpty

/-- Joined tables in parentheses, after the opening one, where `inside` reads the tables. -/
def restOfJoinedParens (inside : Reader Joined) : Reader Table := do
  let content ← inside
  if isAlone content then
    expected "joined table"
  else
    expectSymbol .rightParen
    return .joined content (← tableLabel)

/-- What stands in parentheses, after the opening one: a query, or tables that are read by `inside`. -/
def restOfTableParens (inner : Nested) (inside : Reader Joined) : Reader Table := do
  match ← attempt (restOfDerived inner false) with
  | some table => turned inner (← get) table
  | none => restOfJoinedParens inside

/-- Takes this keyword if an opening parenthesis follows it, and leaves the parenthesis. -/
def acceptBeforeParen (keyword : String) : Reader Bool := do
  if (← get)[1]?.map Lexeme.token = some (.symbol .leftParen) then
    acceptKeyword keyword
  else
    return false

/-- One table, where joined tables in parentheses are read by `inside`. -/
def table (inner : Nested) (inside : Reader Joined) : Reader Table := do
  if ← acceptKeyword "LATERAL" then
    restOfLateral inner
  else if ← acceptKeyword "TABLE" then
    let value ← inParens inner.value
    return .ofExpr value (← tableLabel)
  else if ← acceptSymbol .leftParen then
    restOfTableParens inner inside
  else if ← acceptBeforeParen "JSON_TABLE" then
    let text ← restOfJsonTable inner
    return .special text (← tableLabel)
  else if ← acceptBeforeParen "OPENJSON" then
    let text ← restOfOpenJson inner
    return .special text (← tableLabel)
  else if ← acceptBeforeParen "XMLTABLE" then
    let text ← restOfXmlTable inner
    return .special text (← tableLabel)
  else
    namedTable inner

/-! ## Joins -/

/-- What has to hold of joined rows. -/
def joinConstraint (inner : Nested) (join : Join) : Reader Join := do
  if join.natural then
    return join
  else if ← acceptKeyword "ON" then
    return { join with on := some (← inner.value) }
  else if ← acceptKeyword "USING" then
    return { join with columns := ← nameList }
  else
    return join

/-- The word `JOIN` behind `LEFT` or `RIGHT`, and the word before it. The kinds are those without such a
word, with `OUTER`, with `SEMI` and with `ANTI`. -/
def sidedKind (word : String) (alone withOuter withSemi withAnti : JoinKind) : Reader JoinKind := do
  match ← oneOf? ["OUTER", "SEMI", "ANTI", "JOIN"] with
  | some "JOIN" => return alone
  | some "OUTER" => expectKeyword "JOIN"; return withOuter
  | some "SEMI" => expectKeyword "JOIN"; return withSemi
  | some "ANTI" => expectKeyword "JOIN"; return withAnti
  | _ => throw (.invalid ("expected OUTER, SEMI, ANTI or JOIN after " ++ word) none)

/-- How a table is joined, by the words before it; nothing where none is. -/
def joinKind? (natural : Bool) : Reader (Option JoinKind) := do
  if ← acceptKeyword "INNER" then expectKeyword "JOIN"; return some .inner
  else if ← acceptKeyword "JOIN" then return some .plain
  else if ← acceptKeyword "LEFT" then return some (← sidedKind "LEFT" .left .leftOuter .leftSemi .leftAnti)
  else if ← acceptKeyword "RIGHT" then
    return some (← sidedKind "RIGHT" .right .rightOuter .rightSemi .rightAnti)
  else if ← acceptKeyword "ANTI" then expectKeyword "JOIN"; return some .anti
  else if ← acceptKeyword "SEMI" then expectKeyword "JOIN"; return some .semi
  else if ← acceptKeyword "FULL" then
    let _ ← acceptKeyword "OUTER"
    expectKeyword "JOIN"
    return some .full
  else if ← acceptKeyword "STRAIGHT_JOIN" then return some .straight
  else if ← atKeyword "OUTER" then expected "LEFT, RIGHT, or FULL"
  else if natural then expected "a join type after NATURAL"
  else return none

/-- A join to the nearest rows, after the word `ASOF`. -/
def restOfNearest (inner : Nested) (inside : Reader Joined) (isGlobal : Bool) : Reader Join := do
  expectKeyword "JOIN"
  let joined ← table inner inside
  expectKeyword "MATCH_CONDITION"
  let nearest ← inParens inner.value
  joinConstraint inner { isGlobal, kind := .asof, table := joined, nearest := some nearest }

/-- A table that is joined by some words before `JOIN`, if one is. -/
def worded? (inner : Nested) (inside : Reader Joined) (isGlobal : Bool) : Reader (Option Join) := do
  let natural ← acceptKeyword "NATURAL"
  match ← joinKind? natural with
  | none => return none
  | some kind =>
    let joined ← table inner inside
    return some (← joinConstraint inner { isGlobal, kind, table := joined, natural })

/-- A table that is joined to those before it, if one is. -/
def join? (inner : Nested) (inside : Reader Joined) : Reader (Option Join) := do
  let isGlobal ← acceptKeyword "GLOBAL"
  if ← acceptKeyword "CROSS" then
    if ← acceptKeyword "JOIN" then
      let joined ← table inner inside
      return some (← joinConstraint inner { isGlobal, kind := .cross, table := joined })
    else if ← acceptKeyword "APPLY" then
      return some { isGlobal, kind := .crossApply, table := ← table inner inside }
    else
      expected "JOIN or APPLY after CROSS"
  else if ← acceptKeyword "OUTER" then
    expectKeyword "APPLY"
    return some { isGlobal, kind := .outerApply, table := ← table inner inside }
  else if ← acceptKeyword "ASOF" then
    return some (← restOfNearest inner inside isGlobal)
  else
    worded? inner inside isGlobal

/-- A table and those that are joined to it, at most one pair of parentheses in another for each lexeme of
`bound`. -/
def joinedWithin (inner : Nested) : (bound : List Lexeme) → Reader Joined
  | [] => expected "identifier"
  | _ :: bound => do
    let inside := joinedWithin inner bound
    let first ← table inner inside
    return ⟨first, ← repeated (join? inner inside)⟩

/-- A table and those that are joined to it. -/
def joinedTable (inner : Nested) : Reader Joined := do
  joinedWithin inner (← get)

/-- A table alone. -/
def singleTable (inner : Nested) : Reader Table := do
  table inner (joinedTable inner)

/-- Tables with commas between them. -/
def tables (inner : Nested) : Reader (List Joined) :=
  commaSeparated (joinedTable inner)

end InsertPivot.Sql.Reader
