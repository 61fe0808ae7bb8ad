import InsertPivot.Sql.Expr.Text
import InsertPivot.Sql.Reader.Time

/-!
# Reading orders and windows

An `ORDER BY` list says how rows are sorted. A window says which rows a function looks at: those that agree
in some keys, in an order, and of these the ones in a frame around the row at hand. Nobody asks a window for
its parts, so it is read into its text.
-/

namespace InsertPivot.Sql.Reader

/-! ## Orders -/

/-- Whether smaller keys come first, where it is said. -/
def ascending : Reader (Option Bool) := do
  if ← acceptKeyword "ASC" then return some true
  else if ← acceptKeyword "DESC" then return some false
  else return none

/-- Whether nulls come first, where it is said. -/
def nullsFirst : Reader (Option Bool) := do
  if ← acceptKeywords ["NULLS", "FIRST"] then return some true
  else if ← acceptKeywords ["NULLS", "LAST"] then return some false
  else return none

/-- One item of an `ORDER BY` list. -/
def ordering (inner : Nested) : Reader Ordering := do
  let key ← inner.value
  let ascending ← ascending
  let nullsFirst ← nullsFirst
  return { key, ascending, nullsFirst }

/-- An `ORDER BY` list, which may be missing. -/
def orderings (inner : Nested) : Reader (List Ordering) := do
  return (← behindKeywords ["ORDER", "BY"] (commaSeparated (ordering inner))).getD []

/-! ## Windows -/

/-- An end of a frame. -/
def frameBound (inner : Nested) : Reader String := do
  if ← acceptKeywords ["CURRENT", "ROW"] then
    return "CURRENT ROW"
  else
    let distance ←
      if ← acceptKeyword "UNBOUNDED" then pure "UNBOUNDED"
      else
        match ← peekToken? with
        | some (.string .single _) => Expr.text <$> restOfInterval inner
        | _ => Expr.text <$> inner.value
    if ← acceptKeyword "PRECEDING" then return distance ++ " PRECEDING"
    else if ← acceptKeyword "FOLLOWING" then return distance ++ " FOLLOWING"
    else expected "PRECEDING or FOLLOWING"

/-- The rows of a window around the row at hand. -/
def frame (inner : Nested) : Reader String := do
  match ← oneOf? ["ROWS", "RANGE", "GROUPS"] with
  | none => expected "ROWS, RANGE, GROUPS"
  | some units =>
    if ← acceptKeyword "BETWEEN" then
      let start ← frameBound inner
      expectKeyword "AND"
      return units ++ " BETWEEN " ++ start ++ " AND " ++ (← frameBound inner)
    else
      return units ++ " " ++ (← frameBound inner)

/-- A window, after its opening parenthesis and with the closing one. -/
def restOfWindow (inner : Nested) : Reader String := do
  let base ← if (← peekToken?).any Token.isFreeWord then some <$> ident else pure none
  let keys ← behindKeywords ["PARTITION", "BY"] inner.values
  let order ← orderings inner
  let frame ← if ← atSymbol .rightParen then pure none else some <$> frame inner
  expectSymbol .rightParen
  return parenthesized (" ".intercalate
    ([base.map Ident.text, keys.map fun items => "PARTITION BY " ++ commas (exprTexts items),
      if order.isEmpty then none else some ("ORDER BY " ++ commas (orderingTexts order)),
      frame].filterMap id))

/-- The window of a function, after the word `OVER`. -/
def functionWindow (inner : Nested) : Reader String := do
  if ← acceptSymbol .leftParen then
    restOfWindow inner
  else
    return (← ident).text

/-- A window under a name of its own. -/
def namedWindow (inner : Nested) : Reader String := do
  let name ← ident
  expectKeyword "AS"
  if ← acceptSymbol .leftParen then
    return name.text ++ " AS " ++ (← restOfWindow inner)
  else
    expected "("

end InsertPivot.Sql.Reader
