import InsertPivot.Sql.Reader.Table

/-!
# Reading a `SELECT`

The clauses of a `SELECT` stand in one order, and each but the list of items may be missing. Only the named
windows and the condition on them may change places.
-/

namespace InsertPivot.Sql.Reader

/-! ## Before and behind the items -/

/-- Which of equal rows are kept, as it stands before the items; all of them, where nothing stands there. -/
def distinctness (inner : Nested) : Reader (List String) := do
  match ← quantifier with
  | some .distinct =>
    if ← acceptKeyword "ON" then
      let keys ← inParens (commaSeparatedBefore .rightParen inner.value)
      return ["DISTINCT ON " ++ parenthesized (commas (exprTexts keys))]
    else
      return ["DISTINCT"]
  | _ => return []

/-- How many rows are wanted, where it is said before the items. -/
def topRows (inner : Nested) : Reader (List String) := do
  if ← acceptKeyword "TOP" then
    let quantity ←
      if ← atSymbol .leftParen then (parenthesized ·.text) <$> inParens inner.value
      else toString <$> wholeNumber
    let percent ← acceptKeyword "PERCENT"
    let ties ← acceptKeywords ["WITH", "TIES"]
    return ["TOP " ++ quantity ++ wordIf percent " PERCENT" ++ wordIf ties " WITH TIES"]
  else
    return []

/-- The table that rows go to, after the word `INTO`. -/
def restOfInto : Reader String := do
  let temporary ← acceptOneOf ["TEMP", "TEMPORARY"]
  let unlogged ← acceptKeyword "UNLOGGED"
  let said ← acceptKeyword "TABLE"
  let name ← dottedName
  return wordIf temporary "TEMPORARY " ++ wordIf unlogged "UNLOGGED " ++ wordIf said "TABLE " ++ dotted name

/-! ## Clauses -/

/-- The keywords that cannot name a column of a computed table without `AS`. -/
def viewReserved : List String :=
  ["WHERE", "GROUP", "CLUSTER", "HAVING", "LATERAL"]

/-- A table that is computed from each row. -/
def lateralView (inner : Nested) : Reader (Option String) :=
  behindKeywords ["LATERAL", "VIEW"] do
    let outer ← acceptKeyword "OUTER"
    let rows ← inner.value
    let name ← dottedName
    let columns := (← commaSeparated (label? viewReserved)).filterMap id
    return "LATERAL VIEW" ++ wordIf outer " OUTER" ++ " " ++ rows.text ++ " " ++ dotted name ++
      listText " AS " (columns.map Ident.text)

/-- A set of keys to group by: keys in parentheses, or one key. -/
def groupingSet (inner : Nested) : Reader (List Expr) := do
  if ← atSymbol .leftParen then
    inParens (commaSeparatedBefore .rightParen inner.value)
  else
    return [← inner.value]

/-- What rows are grouped by. -/
structure Grouping where
  all : Bool := false
  keys : List Expr := []
  sets : List (List Expr) := []

/-- What rows are grouped by, where it is said. -/
def grouping (inner : Nested) : Reader Grouping := do
  if ← acceptKeywords ["GROUP", "BY"] then
    let all ← acceptKeyword "ALL"
    let keys ← if all then pure [] else inner.values
    let sets ← behindKeywords ["GROUPING", "SETS"] (inParens (commaSeparated (groupingSet inner)))
    return ⟨all, keys, sets.getD []⟩
  else
    return {}

/-- How rows are spread and sorted. -/
def spreading (inner : Nested) : Reader (List String) := do
  let clustered ← behindKeywords ["CLUSTER", "BY"] inner.values
  let distributed ← behindKeywords ["DISTRIBUTE", "BY"] inner.values
  let sorted ← behindKeywords ["SORT", "BY"] (commaSeparated (ordering inner))
  return [clustered.map fun keys => "CLUSTER BY " ++ commas (exprTexts keys),
    distributed.map fun keys => "DISTRIBUTE BY " ++ commas (exprTexts keys),
    sorted.map fun keys => "SORT BY " ++ commas (orderingTexts keys)].filterMap id

/-- The windows that have names. -/
def windowList (inner : Nested) : Reader (Option String) :=
  behindKeyword "WINDOW" do
    return "WINDOW " ++ commas (← commaSeparated (namedWindow inner))

/-- What rows have to satisfy in their windows. -/
def windowCondition (inner : Nested) : Reader (Option String) :=
  behindKeyword "QUALIFY" do
    return "QUALIFY " ++ (← inner.value).text

/-- The named windows and what rows have to satisfy in them, in either order. -/
def windows (inner : Nested) : Reader (List String) := do
  match ← windowList inner with
  | some list => return list :: (← windowCondition inner).toList
  | none =>
    match ← windowCondition inner with
    | some condition => return condition :: (← windowList inner).toList
    | none => return []

/-! ## The whole -/

/-- A `SELECT`, after its keyword. -/
def restOfSelect (inner : Nested) : Reader Select := do
  let distinctness ← distinctness inner
  let top ← topRows inner
  let items ← selectItems inner
  let into ← behindKeyword "INTO" restOfInto
  let tables ← behindKeyword "FROM" (tables inner)
  let views ← repeated (lateralView inner)
  let condition ← behindKeyword "WHERE" inner.value
  let grouping ← grouping inner
  let spread ← spreading inner
  let having ← behindKeyword "HAVING" inner.value
  return {
    lead := distinctness ++ top, items, into, tables := tables.getD [], views, condition
    groupAll := grouping.all, groups := grouping.keys, groupSets := grouping.sets
    spread, having, windows := ← windows inner }

end InsertPivot.Sql.Reader
