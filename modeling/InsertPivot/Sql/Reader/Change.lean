import InsertPivot.Sql.Reader.Insertion
import InsertPivot.Sql.Reader.Rows
import InsertPivot.Sql.Reader.Select
import InsertPivot.Sql.Statement.Text

/-!
# Reading statements that change data

An `UPDATE`, a `DELETE` and a `MERGE` may stand where a query may. Nobody asks for their parts, so each is
read into its text.
-/

namespace InsertPivot.Sql.Reader

/-! ## Clauses that these statements share -/

/-- A condition, as the clause that it is written as. -/
def whereText (inner : Nested) : Reader String := do
  return optionText " WHERE " (← behindKeyword "WHERE" inner.value)

/-- The rows that a statement yields, as the clause that they are written as. -/
def returningText (inner : Nested) : Reader String := do
  return behind " RETURNING " ((← returning inner).map fun items => commas (itemTexts items))

/-- Tables behind a keyword, as the clause that they are written as. -/
def tablesText (inner : Nested) (keyword : String) : Reader String := do
  let found ← behindKeyword keyword (tables inner)
  return behind (" " ++ keyword ++ " ") (found.map fun found => commas (joinedTexts found))

/-! ## One table -/

/-- An `UPDATE`, after its keyword. -/
def restOfUpdate (inner : Nested) : Reader String := do
  let conflict ← conflictClause
  let table ← joinedTable inner
  let before ← tablesText inner "FROM"
  expectKeyword "SET"
  let items ← setItems inner
  let after ← if before.isEmpty then tablesText inner "FROM" else pure ""
  let condition ← whereText inner
  let returning ← returningText inner
  let limit ← behindKeyword "LIMIT" inner.value
  return "UPDATE " ++ behind "" (conflict.map (·.text ++ " ")) ++ table.text ++ before ++ " SET " ++
    SetItem.listText items ++ after ++ condition ++ returning ++ optionText " LIMIT " limit

/-- How many rows are wanted, behind the keyword `LIMIT`: nothing, where all are. -/
def restOfLimit (inner : Nested) : Reader (Option Expr) := do
  if ← acceptKeyword "ALL" then return none else some <$> inner.value

/-- The tables that a `DELETE` empties, where they stand before the word `FROM`, and that word. -/
def deletedNames : Reader (List (List Ident)) := do
  if ← acceptKeyword "FROM" then
    return []
  else
    let names ← commaSeparated dottedName
    expectKeyword "FROM"
    return names

/-- A `DELETE`, after its keyword. -/
def restOfDelete (inner : Nested) : Reader String := do
  let names ← deletedNames
  let from_ ← tables inner
  let using_ ← tablesText inner "USING"
  let condition ← whereText inner
  let returning ← returningText inner
  let order ← orderings inner
  let limit ← behindKeyword "LIMIT" (restOfLimit inner)
  return "DELETE" ++ listText " " (names.map dotted) ++ " FROM " ++ commas (joinedTexts from_) ++ using_ ++
    condition ++ returning ++ listText " ORDER BY " (orderingTexts order) ++
    optionText " LIMIT " limit.join

/-! ## Two tables -/

/-- Which pairs of rows a clause of a `MERGE` is for. -/
inductive Matching where
  | matched
  | notMatched
  | notMatchedBySource
  | notMatchedByTarget
deriving DecidableEq, Repr

/-- The words for pairs of rows. -/
def Matching.text : Matching → String
  | matched => "MATCHED"
  | notMatched => "NOT MATCHED"
  | notMatchedBySource => "NOT MATCHED BY SOURCE"
  | notMatchedByTarget => "NOT MATCHED BY TARGET"

/-- Whether there is no row yet that could be changed. -/
def Matching.lacksTarget : Matching → Bool
  | notMatched | notMatchedByTarget => true
  | _ => false

/-- Which pairs of rows a clause is for, after the word `WHEN`. -/
def matching : Reader Matching := do
  if ← acceptKeyword "NOT" then
    expectKeyword "MATCHED"
    if ← acceptKeywords ["BY", "SOURCE"] then return .notMatchedBySource
    else if ← acceptKeywords ["BY", "TARGET"] then return .notMatchedByTarget
    else return .notMatched
  else
    expectKeyword "MATCHED"
    return .matched

/-- The row that a clause inserts, after the word `INSERT`. -/
def mergedRow (inner : Nested) : Reader String := do
  let columns ← optionalColumnList true
  expectKeyword "VALUES"
  return "INSERT " ++ columnsText columns ++ wordIf (!columns.isEmpty) " " ++
    (← restOfValues inner false).text

/-- Fails for a word that a clause for these pairs of rows cannot start with. -/
def refuseWord (matching : Matching) (word : String) (place : Option Text.Position) : Reader String :=
  throw (.invalid (word ++ " is not allowed in a " ++ matching.text ++ " merge clause") place)

/-- What a clause does with its pairs of rows. -/
def mergeAction (inner : Nested) (matching : Matching) : Reader String := do
  let place ← place?
  match ← oneOf? ["UPDATE", "INSERT", "DELETE"] with
  | some "UPDATE" =>
    if matching.lacksTarget then
      refuseWord matching "UPDATE" place
    else
      expectKeyword "SET"
      return "UPDATE SET " ++ SetItem.listText (← setItems inner)
  | some "INSERT" => if matching.lacksTarget then mergedRow inner else refuseWord matching "INSERT" place
  | some _ => if matching.lacksTarget then refuseWord matching "DELETE" place else return "DELETE"
  | none => refuse "expected UPDATE, DELETE or INSERT in merge clause"

/-- A clause of a `MERGE`, after the word `WHEN`. -/
def mergeClause (inner : Nested) : Reader String := do
  let matching ← matching
  let condition ← behindKeyword "AND" inner.value
  expectKeyword "THEN"
  return "WHEN " ++ matching.text ++ optionText " AND " condition ++ " THEN " ++ (← mergeAction inner matching)

/-- What a `MERGE` yields, as it is written. -/
def mergeOutput (inner : Nested) : Reader String := do
  match ← oneOf? ["OUTPUT", "RETURNING"] with
  | none => return ""
  | some word =>
    let items ← selectItems inner
    let into ← if word = "OUTPUT" then behindKeyword "INTO" restOfInto else pure none
    return " " ++ word ++ " " ++ commas (itemTexts items) ++ behind " INTO " into

/-- A `MERGE`, after its keyword. -/
def restOfMerge (inner : Nested) : Reader String := do
  let into ← acceptKeyword "INTO"
  let target ← singleTable inner
  expectKeyword "USING"
  let source ← singleTable inner
  expectKeyword "ON"
  let condition ← inner.value
  let clauses ← repeated (behindKeyword "WHEN" (mergeClause inner))
  let output ← mergeOutput inner
  return "MERGE" ++ wordIf into " INTO" ++ " " ++ target.text ++ " USING " ++ source.text ++ " ON " ++
    condition.text ++ " " ++ " ".intercalate clauses ++ output

end InsertPivot.Sql.Reader
