import InsertPivot.Sql.Reader.Window

/-!
# Reading functions

A function is a name and arguments in parentheses. Clauses that say how the arguments are gathered may
follow the last argument, and clauses that say over which rows the function goes may follow the
parentheses.

An argument may be a star, for all columns or for those of one table. `SELECT` lists use the same reader.
-/

namespace InsertPivot.Sql.Reader

/-! ## Arguments -/

/-- The names before a period and a star, if they end with one; at most one period for each lexeme of
`bound`. -/
def starPath : (bound : List Lexeme) → List Ident → Reader (Option (List Ident))
  | [], _ => return none
  | _ :: bound, names => do
    if ← acceptSymbol .period then
      match ← next? with
      | some ⟨.word text quote, span, _⟩ => starPath bound (names ++ [⟨text, quote, span⟩])
      | some ⟨.string .single body, _, _⟩ => starPath bound (names ++ [⟨body, some '\x27', .none⟩])
      | some ⟨.symbol .times, _, _⟩ => return some names
      | found => expectedAt "an identifier or a '*' after '.'" found
    else
      return none

/-- A star, the star of one table, or an expression. -/
def starOr (inner : Nested) : Reader Argument := do
  let start ← get
  match ← peekToken? with
  | some (.symbol .times) =>
    skip
    return .wildcard []
  | some (.word _ _) | some (.string .single _) =>
    let first ← ident
    match ← starPath start [first] with
    | some names => return .wildcard names
    | none =>
      set start
      return .value (← inner.value)
  | _ => return .value (← inner.value)

/-- An argument of a function: by name, or a star or expression. -/
def argument (inner : Nested) : Reader Argument := do
  let named ← attempt do
    let name ← ident
    let joint ←
      if ← acceptKeyword "VALUE" then pure .value
      else
        expectSymbol .fatArrow
        pure .arrow
    return Argument.named name joint (← starOr inner)
  match named with
  | some found => return found
  | none => starOr inner

/-- How the arguments of a function treat duplicates. -/
def quantifier : Reader (Option Quantifier) := do
  let start ← place?
  let all ← acceptKeyword "ALL"
  let distinct ← acceptKeyword "DISTINCT"
  if all && distinct then
    throw (.invalid "Cannot specify both ALL and DISTINCT" start)
  else
    return if all then some .all else if distinct then some .distinct else none

/-! ## Clauses among the arguments -/

/-- What is written for the part of a gathered text that is cut off, where it is said. -/
def overflowFiller (inner : Nested) : Reader (Option Expr) := do
  match ← peek? with
  | some ⟨.string .single _, _, _⟩ | some ⟨.string .national _, _, _⟩ | some ⟨.string .hex _, _, _⟩ =>
    some <$> inner.value
  | _ =>
    if (← atKeyword "WITH") || (← atKeyword "WITHOUT") then return none
    else expected "either filler, WITH, or WITHOUT in LISTAGG"

/-- What becomes of a text that is gathered and grows too long. -/
def overflow (inner : Nested) : Reader String := do
  if ← acceptKeyword "ERROR" then
    return "ON OVERFLOW ERROR"
  else
    expectKeyword "TRUNCATE"
    let filler ← overflowFiller inner
    match ← oneOf? ["WITH", "WITHOUT"] with
    | none => expected "either WITH or WITHOUT in LISTAGG"
    | some word =>
      expectKeyword "COUNT"
      return "ON OVERFLOW TRUNCATE" ++ optionText " " filler ++ " " ++ word ++ " COUNT"

/-- What becomes of nulls in a document, where it is said. -/
def documentNulls : Reader (List String) := do
  if ← acceptKeywords ["ABSENT", "ON", "NULL"] then return ["ABSENT ON NULL"]
  else if ← acceptKeywords ["NULL", "ON", "NULL"] then return ["NULL ON NULL"]
  else return []

/-- What becomes of nulls in a document, and the type of the document. -/
def documentClauses : Reader (List String) := do
  let nulls ← documentNulls
  let type ← behindKeyword "RETURNING" dataType
  return nulls ++ (type.map ("RETURNING " ++ ·.text)).toList

/-- The clauses behind the last argument. -/
def argumentClauses (inner : Nested) : Reader (List String) := do
  let order ← orderings inner
  let limit ← behindKeyword "LIMIT" inner.value
  let separator ← behindKeyword "SEPARATOR" literal
  let overflow ← behindKeywords ["ON", "OVERFLOW"] (overflow inner)
  let document ← documentClauses
  return (if order.isEmpty then [] else ["ORDER BY " ++ commas (orderingTexts order)]) ++
    (limit.map ("LIMIT " ++ ·.text)).toList ++ (separator.map ("SEPARATOR " ++ ·.1.text)).toList ++
    overflow.toList ++ document

/-- The arguments of a function, after their opening parenthesis and with the closing one. -/
def restOfArguments (inner : Nested) : Reader Arguments := do
  let document ← documentClauses
  if ← acceptSymbol .rightParen then
    return .given none [] document
  else
    let quantifier ← quantifier
    let items ← commaSeparated (argument inner)
    let clauses ← argumentClauses inner
    expectSymbol .rightParen
    return .given quantifier items (document ++ clauses)

/-! ## Clauses behind the arguments -/

/-- What a function does with nulls. -/
def nullTreatment : Reader (Option NullTreatment) := do
  match ← oneOf? ["RESPECT", "IGNORE"] with
  | none => return none
  | some word =>
    expectKeyword "NULLS"
    return some (if word = "RESPECT" then .respect else .ignore)

/-- A function whose name has been taken. -/
def restOfCall (inner : Nested) (name : List Ident) : Reader Call := do
  expectSymbol .leftParen
  let arguments ← restOfArguments inner
  let group ←
    if ← acceptKeywords ["WITHIN", "GROUP"] then
      inParens do
        expectKeywords ["ORDER", "BY"]
        commaSeparated (ordering inner)
    else pure []
  let nulls ← nullTreatment
  let window ← behindKeyword "OVER" (functionWindow inner)
  return { name, arguments, group, nulls, window }

end InsertPivot.Sql.Reader
