import InsertPivot.Sql.Reader.Label

/-!
# Reading tables that are taken out of documents

A JSON or XML document can be read as a table whose columns are found by paths. Nobody asks such a table for
its parts, so it is read into its text.
-/

namespace InsertPivot.Sql.Reader

/-! ## JSON -/

/-- What stands in for what a path does not find, where it is said. -/
def fallbackValue : Reader (Option String) := do
  if ← acceptKeyword "NULL" then return some "NULL"
  else if ← acceptKeyword "ERROR" then return some "ERROR"
  else if ← acceptKeyword "DEFAULT" then
    let (value, _) ← literal
    return some ("DEFAULT " ++ value.text)
  else return none

/-- What a column holds where its path finds nothing or fails. -/
def pathFallback : Reader (Option String) := do
  let what ← fallbackValue
  if what.isSome then
    expectKeyword "ON"
  return what

/-- The fallbacks of a column: the last that is given for an empty place and the last for a failure. At most
one for each lexeme of `bound`. -/
def pathFallbacks : (bound : List Lexeme) → (empty failure : Option String) → Reader String
  | [], empty, failure => return behind " " empty ++ behind " " failure
  | _ :: bound, empty, failure => do
    match ← pathFallback with
    | none => return behind " " empty ++ behind " " failure
    | some what =>
      if ← acceptKeyword "EMPTY" then
        pathFallbacks bound (some (what ++ " ON EMPTY")) failure
      else
        expectKeyword "ERROR"
        pathFallbacks bound empty (some (what ++ " ON ERROR"))

/-- A column of a JSON table that holds no columns of its own. -/
def plainJsonColumn : Reader String := do
  let name ← ident
  if ← acceptKeyword "FOR" then
    expectKeyword "ORDINALITY"
    return name.text ++ " FOR ORDINALITY"
  else
    let type ← dataType
    let only ← acceptKeyword "EXISTS"
    expectKeyword "PATH"
    let (path, _) ← literal
    return name.text ++ " " ++ type.text ++ wordIf only " EXISTS" ++ " PATH " ++ path.text ++
      (← pathFallbacks (← get) none none)

/-- A column of a JSON table, which may hold columns of its own, at most one in another for each lexeme of
`bound`. -/
def jsonColumn (bound : List Lexeme) : Reader String :=
  match bound with
  | [] => plainJsonColumn
  | _ :: bound => do
    if ← acceptKeyword "NESTED" then
      let _ ← acceptKeyword "PATH"
      let (path, _) ← literal
      expectKeyword "COLUMNS"
      let columns ← inParens (commaSeparated (jsonColumn bound))
      return "NESTED PATH " ++ path.text ++ " COLUMNS " ++ parenthesized (commas columns)
    else
      plainJsonColumn

/-- A table out of a JSON document, after its keyword. -/
def restOfJsonTable (inner : Nested) : Reader String :=
  inParens do
    let document ← inner.value
    expectSymbol .comma
    let (path, _) ← literal
    expectKeyword "COLUMNS"
    let columns ← inParens (commaSeparated (jsonColumn (← get)))
    return "JSON_TABLE" ++
      parenthesized (document.text ++ ", " ++ path.text ++ " COLUMNS" ++ parenthesized (commas columns))

/-- A path that stands as a string, where one does. -/
def pathText : Reader (Option String) := do
  match ← peekToken? with
  | some (.string .single body) =>
    skip
    return some (enclose '\x27' body)
  | _ => return none

/-- A column of an opened JSON document. -/
def openColumn : Reader String := do
  let name ← ident
  let type ← dataType
  let path ← pathText
  let document ← acceptKeyword "AS"
  if document then
    expectKeyword "JSON"
  return name.text ++ " " ++ type.text ++ behind " " path ++ wordIf document " AS JSON"

/-- A JSON document and the path into it, without the parentheses. -/
def openDocument (inner : Nested) : Reader String := do
  let document ← inner.value
  if ← acceptSymbol .comma then
    let (path, _) ← literal
    return document.text ++ ", " ++ path.text
  else
    return document.text

/-- An opened JSON document, after its keyword. -/
def restOfOpenJson (inner : Nested) : Reader String := do
  let content ← inParens (openDocument inner)
  let columns ← behindKeyword "WITH" (inParens (commaSeparated openColumn))
  return "OPENJSON" ++ parenthesized content ++
    behind " WITH " (columns.map fun texts => parenthesized (commas texts))

/-! ## XML -/

/-- A name for the tags of a document. -/
def xmlNamespace (inner : Nested) : Reader String := do
  let uri ← inner.value
  expectKeyword "AS"
  return uri.text ++ " AS " ++ (← ident).text

/-- A document that is passed to an XML table. -/
def passedDocument (inner : Nested) : Reader String := do
  let byValue ← acceptKeywords ["BY", "VALUE"]
  return wordIf byValue "BY VALUE " ++ (← labelledText inner)

/-- A column of an XML table. -/
def xmlColumn (inner : Nested) : Reader String := do
  let name ← ident
  if ← acceptKeyword "FOR" then
    expectKeyword "ORDINALITY"
    return name.text ++ " FOR ORDINALITY"
  else
    let type ← dataType
    let path ← behindKeyword "PATH" inner.value
    let otherwise ← behindKeyword "DEFAULT" inner.value
    let filled ← acceptKeywords ["NOT", "NULL"]
    unless filled do
      let _ ← acceptKeyword "NULL"
    return name.text ++ " " ++ type.text ++ optionText " PATH " path ++ optionText " DEFAULT " otherwise ++
      wordIf filled " NOT NULL"

/-- A table out of an XML document, after its keyword. -/
def restOfXmlTable (inner : Nested) : Reader String :=
  inParens do
    let names ← behindKeyword "XMLNAMESPACES" do
      let names ← inParens (commaSeparated (xmlNamespace inner))
      expectSymbol .comma
      return "XMLNAMESPACES" ++ parenthesized (commas names) ++ ", "
    let row ← inner.value
    let passed ← behindKeyword "PASSING" (commaSeparated (passedDocument inner))
    expectKeyword "COLUMNS"
    let columns ← commaSeparated (xmlColumn inner)
    return "XMLTABLE" ++
      parenthesized
        (behind "" names ++ row.text ++ behind " PASSING " (passed.map commas) ++ " COLUMNS " ++ commas columns)

end InsertPivot.Sql.Reader
