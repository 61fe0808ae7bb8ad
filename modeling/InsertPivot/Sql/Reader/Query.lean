import InsertPivot.Sql.Reader.Change

/-!
# Reading queries

A query is a `SELECT`, a list of rows, a table or a query in parentheses, perhaps combined with others,
between the queries that `WITH` names and the clauses that order and limit the rows. A statement that
changes data may stand where a query may.
-/

namespace InsertPivot.Sql.Reader

/-! ## Behind the body -/

/-- How many rows are passed over, and the word behind their number. -/
def skippedRows (inner : Nested) : Reader (Option Expr × Option String) := do
  match ← behindKeyword "OFFSET" inner.value with
  | none => return (none, none)
  | some skipped => return (some skipped, ← oneOf? ["ROW", "ROWS"])

/-- How many rows are wanted, if it is said. The rows that are passed over may stand on either side. -/
def limit (inner : Nested) : Reader (Option Limit) := do
  let (before, unit) ← skippedRows inner
  match ← behindKeyword "LIMIT" (restOfLimit inner) with
  | none => return before.map fun skipped => .words none (some skipped) unit
  | some count =>
    match before, count with
    | some skipped, _ => return some (.words count (some skipped) unit)
    | none, some first =>
      if ← acceptSymbol .comma then
        return some (.comma first (← inner.value))
      else
        let (after, unit) ← skippedRows inner
        return some (.words (some first) after unit)
    | none, none =>
      let (after, unit) ← skippedRows inner
      return after.map fun skipped => .words none (some skipped) unit

/-- The first rows that are wanted, after the word `FETCH`. -/
def restOfFetch : Reader Fetch := do
  let _ ← acceptOneOf ["FIRST", "NEXT"]
  let (quantity, percent) ←
    if ← acceptOneOf ["ROW", "ROWS"] then pure (none, false)
    else
      let (quantity, _) ← literal
      let percent ← acceptKeyword "PERCENT"
      let _ ← acceptOneOf ["ROW", "ROWS"]
      pure (some quantity, percent)
  let ties ← if ← acceptKeyword "ONLY" then pure false else acceptKeywords ["WITH", "TIES"]
  return { quantity, percent, ties }

/-! ## Documents -/

/-- A string in parentheses, as it is written there. -/
def enclosedText : Reader String := do
  return "(\x27" ++ (← inParens textLiteral) ++ "\x27)"

/-- A string in parentheses, where there is one. -/
def optionalText : Reader String := do
  if ← atSymbol .leftParen then enclosedText else return ""

/-- An option of a document that is one of some phrases, or nothing. -/
def documentPhrase (phrases : List (List String)) : Reader (List String) := do
  let next ← peekKeyword?
  match phrases.find? fun phrase => phrase.head? = next with
  | none => return []
  | some phrase =>
    expectKeywords phrase
    return phrase

/-- An option of a document, behind its comma: some words or the root. Behind the comma may be nothing. -/
def documentOption (phrases : List (List String)) : Reader (Option (List String × String)) := do
  if ← acceptSymbol .comma then
    if ← acceptKeyword "ROOT" then
      return some (["ROOT"], ← enclosedText)
    else
      return some (← documentPhrase phrases, "")
  else
    return none

/-- The options of a document in the order in which they are written, each as it was said last. -/
def documentOptions (readable written : List (List String)) : Reader String := do
  let found ← repeated (documentOption readable)
  return String.join <| written.filterMap fun phrase =>
    (found.reverse.lookup phrase).map fun text => ", " ++ " ".intercalate phrase ++ text

/-- The shape of an XML document. -/
def xmlShape : Reader String := do
  match ← oneOf? ["RAW", "AUTO", "EXPLICIT", "PATH"] with
  | some word =>
    if word = "RAW" || word = "PATH" then return word ++ (← optionalText) else return word
  | none => throw (.invalid "Expected FOR XML [RAW | AUTO | EXPLICIT | PATH ]" none)

/-- An XML document that rows are written as, after its keyword. -/
def restOfXml : Reader String := do
  let shape ← xmlShape
  let binary := ["BINARY", "BASE64"]
  let options ← documentOptions [["ELEMENTS"], binary, ["TYPE"]] [binary, ["TYPE"], ["ROOT"], ["ELEMENTS"]]
  return "FOR XML " ++ shape ++ options

/-- The shape of a JSON document. -/
def jsonShape : Reader String := do
  match ← oneOf? ["AUTO", "PATH"] with
  | some word => return word
  | none => throw (.invalid "Expected FOR JSON [AUTO | PATH ]" none)

/-- A JSON document that rows are written as, after its keyword. -/
def restOfJson : Reader String := do
  let shape ← jsonShape
  let words := [["INCLUDE_NULL_VALUES"], ["WITHOUT_ARRAY_WRAPPER"]]
  return "FOR JSON " ++ shape ++ (← documentOptions words (["ROOT"] :: words))

/-- The document that rows are written as, after the word `FOR`. -/
def document? : Reader (Option String) := do
  match ← oneOf? ["XML", "JSON", "BROWSE"] with
  | some "XML" => some <$> restOfXml
  | some "JSON" => some <$> restOfJson
  | some _ => return some "FOR BROWSE"
  | none => return none

/-! ## Locks -/

/-- What is done with rows that others have locked, where it is said. -/
def lockWait : Reader (Option LockWait) := do
  if ← acceptKeyword "NOWAIT" then return some .nowait
  else if ← acceptKeywords ["SKIP", "LOCKED"] then return some .skipLocked
  else return none

/-- How rows are locked, after the word `FOR`. -/
def lock : Reader Lock := do
  let share := (← expectOneOf ["UPDATE", "SHARE"]) = "SHARE"
  let table ← behindKeyword "OF" dottedName
  let wait ← lockWait
  return ⟨share, table, wait⟩

/-- How rows are locked and the document that they are written as, which comes last; at most one of them for
each lexeme of `bound`. -/
def locks : (bound : List Lexeme) → Reader (List Lock × Option String)
  | [] => return ([], none)
  | _ :: bound => do
    if ← acceptKeyword "FOR" then
      match ← document? with
      | some text => return ([], some text)
      | none =>
        let first ← lock
        let (rest, output) ← locks bound
        return (first :: rest, output)
    else
      return ([], none)

/-! ## Bodies -/

/-- The word that a lexeme is, which was taken for a name. -/
def wordOf (what : String) (found : Option Lexeme) : Reader String :=
  match found with
  | some ⟨.word text _, _, _⟩ => return text
  | _ => expectedAt what found

/-- A table by its name, after its keyword. Three tokens are taken, also where the name has only one. -/
def restOfTable : Reader Body := do
  let first ← next?
  let second ← next?
  let third ← next?
  if second.any fun l => l.token = .symbol .period then
    let schema ← wordOf "Schema name" first
    return .table (some schema) (← wordOf "Table name" third)
  else
    return .table none (← wordOf "Table name" first)

/-- The body of a query, without what it is combined with. -/
def simpleBody (inner : Nested) : Reader Body := do
  if ← acceptKeyword "SELECT" then return .select (← restOfSelect inner)
  else if ← atSymbol .leftParen then return .nested (← inParens inner.query)
  else if ← acceptKeyword "VALUES" then restOfValues inner false
  else if ← acceptKeyword "VALUE" then restOfValues inner true
  else if ← acceptKeyword "TABLE" then restOfTable
  else expected "SELECT, VALUES, or a subquery in the query body"

/-- The word that combines two bodies, and how tightly it does. -/
def setOp? : Reader (Option (SetOp × Nat)) := do
  match ← peekKeyword? with
  | some "UNION" => return some (.union, 10)
  | some "EXCEPT" => return some (.except, 10)
  | some "MINUS" => return some (.minus, 10)
  | some "INTERSECT" => return some (.intersect, 20)
  | _ => return none

/-- How duplicates are treated where bodies are combined, and whether columns are matched by their names. -/
def setMode : Reader SetMode := do
  let byName := ["BY", "NAME"]
  if ← acceptKeywords ("DISTINCT" :: byName) then return ⟨some .distinct, true⟩
  else if ← acceptKeywords byName then return ⟨none, true⟩
  else if ← acceptKeyword "ALL" then return ⟨some .all, ← acceptKeywords byName⟩
  else if ← acceptKeyword "DISTINCT" then return ⟨some .distinct, false⟩
  else return {}

/-- A body and the bodies that are combined with it, by words that bind tighter than `least`; at most one
such word for each lexeme of `bound`. -/
def bodies (inner : Nested) (least : Nat) : (bound : List Lexeme) → Body → Reader Body
  | [], left => return left
  | _ :: bound, left => do
    match ← setOp? with
    | none => return left
    | some (op, tightness) =>
      if tightness ≤ least then
        return left
      else
        skip
        let mode ← setMode
        let right ← bodies inner tightness bound (← simpleBody inner)
        bodies inner least bound (.combined left op mode right)

/-! ## Before the body -/

/-- A query that `WITH` names. -/
def binding (inner : Nested) : Reader Binding := do
  let name ← ident
  let columns ← if ← atKeyword "AS" then pure [] else columnLabels
  expectKeyword "AS"
  let query ← inParens inner.query
  return { name, columns, query, source := ← behindKeyword "FROM" ident }

/-- An `INSERT` that stands where a query may, after its keyword. -/
def insertionText (inner : Nested) (lead : Lexeme) : Reader String := do
  match ← insertion inner lead false with
  | .insert node => return node.text
  | .directory node => return node.text
  | .other => return ""

/-- A statement that changes data and stands where a query may, if one starts here. -/
def change? (inner : Nested) : Reader (Option Body) := do
  match ← peek? with
  | none => return none
  | some lead =>
    match ← oneOf? ["INSERT", "UPDATE", "DELETE", "MERGE"] with
    | some "INSERT" => return some (.change (← insertionText inner lead))
    | some "UPDATE" => return some (.change (← restOfUpdate inner))
    | some "DELETE" => return some (.change (← restOfDelete inner))
    | some "MERGE" => return some (.change (← restOfMerge inner))
    | _ => return none

/-- The queries that `WITH` names, and whether they may name themselves. -/
def bindings (inner : Nested) : Reader (Bool × List Binding) := do
  if ← acceptKeyword "WITH" then
    let isRecursive ← acceptKeyword "RECURSIVE"
    return (isRecursive, ← commaSeparated (binding inner))
  else
    return (false, [])

/-! ## Queries -/

/-- A query, after the queries that `WITH` names. -/
def restOfQuery (inner : Nested) (isRecursive : Bool) (bindings : List Binding) : Reader Query := do
  let first ← simpleBody inner
  let body ← bodies inner 0 (← get) first
  let order ← orderings inner
  let limit ← limit inner
  let fetch ← behindKeyword "FETCH" restOfFetch
  let (locks, output) ← locks (← get)
  return { isRecursive, bindings, body, order, limit, fetch, locks, output }

/-- A query. -/
def query (inner : Nested) : Reader Query := do
  let (isRecursive, bindings) ← bindings inner
  match ← change? inner with
  | some body => return { isRecursive, bindings, body }
  | none => restOfQuery inner isRecursive bindings

end InsertPivot.Sql.Reader
