import InsertPivot.Insert

/-!
# Writing an `INSERT`

The skeleton of a statement is written in one letter case, with single blanks and a comma and a blank
between items. Names of tables and columns are quoted as they were or, if wanted, all of them. Values are
written by the rules of their own, whatever the options say.

`Style` is what the text of one statement depends on: the letter case that its keywords get, and whether
names are quoted. `Format` is what a caller chooses; it may leave the letter case to the statement.
-/

namespace InsertPivot

/-- The letter case that keywords are written in. -/
inductive KeywordCase where
  | upper
  | lower
  /-- That of the statement's own leading keyword. -/
  | preserve
deriving DecidableEq, Repr

/-- How statements are written. -/
structure Format where
  keywordCase : KeywordCase := .preserve
  /-- Whether names of tables and columns that have no quotes get backticks. -/
  quoteIdentifiers : Bool := false
deriving DecidableEq, Repr

/-- How one statement is written. -/
structure Style where
  letterCase : LetterCase
  quoteIdentifiers : Bool
deriving DecidableEq, Repr

/-- The style of a statement whose leading keyword has this letter case. -/
def Format.style (format : Format) (source : LetterCase) : Style where
  letterCase :=
    match format.keywordCase with
    | .upper => .upper
    | .lower => .lower
    | .preserve => source
  quoteIdentifiers := format.quoteIdentifiers

namespace Style

/-- An upper-case keyword. -/
def keyword (style : Style) (word : String) : String :=
  style.letterCase.keyword word

/-- The name of a table or column. -/
def ident (style : Style) (name : Sql.Ident) : String :=
  if style.quoteIdentifiers && name.quote.isNone then name.backticked.text else name.text

/-- A part of a name. A part that is computed is written like a value. -/
def namePart (style : Style) : Sql.NamePart → String
  | .ident name => style.ident name
  | .call name arguments => (Sql.NamePart.call name arguments).text

/-- A name of several parts. -/
def name (style : Style) (parts : Sql.Name) : String :=
  ".".intercalate (parts.map style.namePart)

/-- Names with commas between them. -/
def idents (style : Style) (names : List Sql.Ident) : String :=
  Sql.commas (names.map style.ident)

/-- Values with commas between them. -/
def values (values : List Sql.Expr) : String :=
  Sql.commas (Sql.exprTexts values)

/-- An assignment. -/
def assignment (style : Style) (item : Assignment) : String :=
  String.join (item.qualifier.map fun part => style.ident part ++ ".") ++
    style.ident item.column ++ " = " ++ item.value.text

/-- Assignments with commas between them. -/
def assignments (style : Style) (items : List Assignment) : String :=
  Sql.commas (items.map style.assignment)

/-- What a statement inserts. -/
def payload (style : Style) : Payload → String
  | .set items => " " ++ style.keyword "SET" ++ " " ++ style.assignments items
  | .values columns rows =>
    (if columns.isEmpty then "" else " (" ++ style.idents columns ++ ")") ++
      " " ++ style.keyword "VALUES" ++ " " ++
      Sql.commas (rows.map fun row => "(" ++ values row ++ ")")

/-- A statement, without a semicolon. -/
def insert (style : Style) (statement : Insert) : String :=
  style.keyword "INSERT" ++
    (match statement.priority with
      | none => ""
      | some priority => " " ++ style.keyword (priority.text)) ++
    (if statement.ignore then " " ++ style.keyword "IGNORE" else "") ++
    " " ++ style.keyword "INTO" ++ " " ++ style.name statement.table ++
    style.payload statement.payload ++
    (if statement.onDuplicateUpdate.isEmpty then ""
      else " " ++ style.keyword "ON DUPLICATE KEY UPDATE" ++ " " ++
        style.assignments statement.onDuplicateUpdate)

end Style

/-- A statement as it is written, without a semicolon. -/
def Insert.text (statement : Insert) (format : Format) : String :=
  (format.style statement.keywordCase).insert statement

end InsertPivot
