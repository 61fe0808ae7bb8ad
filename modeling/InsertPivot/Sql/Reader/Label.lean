import InsertPivot.Sql.Reader.Operators

/-!
# Reading labels and `SELECT` lists

A column or a table may be given another name, behind `AS` or alone. Alone it must be no keyword that could
go on with the query, and fewer keywords can follow a column than a table.
-/

namespace InsertPivot.Sql.Reader

/-- The keywords that cannot name a column without `AS`. -/
def columnReserved : List String :=
  ["WITH", "EXPLAIN", "ANALYZE", "SELECT", "WHERE", "GROUP", "SORT", "HAVING", "ORDER", "TOP", "LATERAL",
    "VIEW", "LIMIT", "OFFSET", "FETCH", "UNION", "EXCEPT", "EXCLUDE", "INTERSECT", "MINUS", "CLUSTER",
    "DISTRIBUTE", "RETURNING", "FROM", "INTO", "END"]

/-- The keywords that cannot name a table without `AS`. -/
def tableReserved : List String :=
  ["WITH", "EXPLAIN", "ANALYZE", "SELECT", "WHERE", "GROUP", "SORT", "HAVING", "WINDOW", "ORDER", "PIVOT",
    "UNPIVOT", "TOP", "LATERAL", "VIEW", "LIMIT", "OFFSET", "FETCH", "UNION", "EXCEPT", "INTERSECT", "MINUS",
    "ON", "JOIN", "INNER", "CROSS", "FULL", "LEFT", "RIGHT", "NATURAL", "USING", "CLUSTER", "DISTRIBUTE",
    "GLOBAL", "ANTI", "SEMI", "RETURNING", "ASOF", "MATCH_CONDITION", "OUTER", "SET", "QUALIFY", "END",
    "FOR", "PARTITION", "PREWHERE", "SETTINGS", "FORMAT", "START", "CONNECT", "MATCH_RECOGNIZE", "SAMPLE",
    "TABLESAMPLE", "FROM", "OPEN", "USE", "IGNORE", "FORCE", "STRAIGHT_JOIN"]

/-- A label, behind `AS` or alone. Without `AS` a reserved keyword is no label. -/
def label? (reserved : List String) : Reader (Option Ident) := do
  let explicit ← acceptKeyword "AS"
  match ← peek? with
  | some ⟨.word text quote, span, _⟩ =>
    if explicit || !((← peekKeyword?).any reserved.contains) then
      skip
      return some ⟨text, quote, span⟩
    else
      return none
  | some ⟨.string .single body, _, _⟩ =>
    skip
    return some ⟨body, some '\x27', .none⟩
  | some ⟨.string .double body, _, _⟩ =>
    skip
    return some ⟨body, some '\x22', .none⟩
  | found => if explicit then expectedAt "an identifier after AS" found else return none

/-- A column of a labelled table, with its type where one is given. -/
def columnLabel : Reader ColumnLabel := do
  let name ← ident
  return ⟨name, ← attempt dataType⟩

/-- The columns of a labelled table, where they are given. -/
def columnLabels : Reader (List ColumnLabel) := do
  return (← inOptionalParens (commaSeparated columnLabel)).getD []

/-- What a table is called. -/
def tableLabel : Reader (Option TableLabel) := do
  let explicit ← atKeyword "AS"
  match ← label? tableReserved with
  | none => return none
  | some name => return some ⟨explicit, name, ← columnLabels⟩

/-- One item of a `SELECT` list. -/
def selectItem (inner : Nested) : Reader SelectItem := do
  match ← starOr inner with
  | .wildcard qualifier => return .wildcard qualifier
  | .value (.column name) =>
    if name.quote = none && fold name.value = "FROM" then
      throw (.noItem name.value (← place?))
    else
      return .value (.column name) (← label? columnReserved)
  | .value value => return .value value (← label? columnReserved)
  | .named name _ _ => return .value (.column name) none

/-- A `SELECT` list. -/
def selectItems (inner : Nested) : Reader (List SelectItem) :=
  commaSeparated (selectItem inner)

/-- An expression that may have a label, which must stand behind `AS`. -/
def labelledText (inner : Nested) : Reader String := do
  let value ← inner.value
  return value.text ++ labelText (← behindKeyword "AS" ident)

end InsertPivot.Sql.Reader
