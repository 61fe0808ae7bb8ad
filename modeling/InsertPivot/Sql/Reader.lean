import InsertPivot.Sql.Fault
import InsertPivot.Sql.Keyword

/-!
# Reading lexemes

A reader takes lexemes off the front of a list and yields a value, or fails. The readers here are the
small ones from which the grammar is put together: the next token, a symbol, a keyword, a list with
commas.

`attempt` tries a reader and goes back to where it started when the reader fails. Only the limit on depth
is final: no second reading could get by with less of it.
-/

namespace InsertPivot.Sql

/-- What takes lexemes off the front of a list and yields a value, or fails. -/
abbrev Reader := StateT (List Lexeme) (Except Fault)

namespace Reader

/-- The next lexeme, left where it is. -/
def peek? : Reader (Option Lexeme) := do
  return (← get).head?

/-- The token of the next lexeme, left where it is. -/
def peekToken? : Reader (Option Token) := do
  return (← get).head?.map Lexeme.token

/-- The keyword that the next lexeme is, left where it is. -/
def peekKeyword? : Reader (Option String) := do
  return (← get).head?.bind (·.token.keyword?)

/-- The keywords that the second and the third lexeme from here are, left where they are. -/
def peekFurther : Reader (Option String × Option String) := do
  let ls ← get
  return (ls[1]?.bind (·.token.keyword?), ls[2]?.bind (·.token.keyword?))

/-- The place of the next lexeme. -/
def place? : Reader (Option Text.Position) := do
  return (← get).head?.map (·.span.first)

/-- Takes the next lexeme, whatever it is. -/
def skip : Reader Unit :=
  modify List.tail

/-- The next lexeme, taken. -/
def next? : Reader (Option Lexeme) := do
  let found ← peek?
  skip
  return found

/-- Fails for want of something, showing a lexeme. -/
def expectedAt {α : Type} (what : String) (found : Option Lexeme) : Reader α :=
  throw (.expected what (found.map fun l => (l.token.text, l.span.first)))

/-- Fails for want of something, showing the next lexeme. -/
def expected {α : Type} (what : String) : Reader α := do
  expectedAt what (← peek?)

/-- Whether the next token is this symbol. -/
def atSymbol (symbol : Symbol) : Reader Bool := do
  return (← peekToken?) = some (.symbol symbol)

/-- Takes the next token if it is this symbol. -/
def acceptSymbol (symbol : Symbol) : Reader Bool := do
  if ← atSymbol symbol then
    skip
    return true
  else
    return false

/-- Takes this symbol. -/
def expectSymbol (symbol : Symbol) : Reader Unit := do
  unless ← acceptSymbol symbol do
    expected symbol.text

/-- Whether the next token is this keyword. -/
def atKeyword (keyword : String) : Reader Bool := do
  return (← peekKeyword?) = some keyword

/-- Takes the next token if it is this keyword. -/
def acceptKeyword (keyword : String) : Reader Bool := do
  if ← atKeyword keyword then
    skip
    return true
  else
    return false

/-- Whether the next tokens are these keywords. -/
def atKeywords (keywords : List String) : Reader Bool := do
  return ((← get).take keywords.length).map (·.token.keyword?) = keywords.map some

/-- Takes these keywords, all or none. -/
def acceptKeywords (keywords : List String) : Reader Bool := do
  if ← atKeywords keywords then
    modify (List.drop keywords.length)
    return true
  else
    return false

/-- Takes the next token if it is one of these keywords, and yields which. -/
def oneOf? (keywords : List String) : Reader (Option String) := do
  match ← peekKeyword? with
  | some keyword =>
    if keywords.contains keyword then
      skip
      return some keyword
    else
      return none
  | none => return none

/-- Takes the next token if it is one of these keywords. -/
def acceptOneOf (keywords : List String) : Reader Bool := do
  return (← oneOf? keywords).isSome

/-- Takes this keyword. -/
def expectKeyword (keyword : String) : Reader Unit := do
  unless ← acceptKeyword keyword do
    expected keyword

/-- Takes these keywords, one after the other. -/
def expectKeywords : List String → Reader Unit
  | [] => return
  | keyword :: rest => do
    expectKeyword keyword
    expectKeywords rest

/-- Takes one of these keywords. -/
def expectOneOf (keywords : List String) : Reader String := do
  match ← oneOf? keywords with
  | some keyword => return keyword
  | none => expected ("one of " ++ " or ".intercalate keywords)

/-- Whether the next token is one of these keywords. -/
def atOneOf (keywords : List String) : Reader Bool := do
  return (← peekKeyword?).any keywords.contains

/-- Whether a query starts here that needs no parentheses. -/
def atQuery : Reader Bool := do
  return (← atKeyword "SELECT") || (← atKeyword "WITH")

/-- Fails with a message that names the place of the next lexeme. -/
def refuse {α : Type} (message : String) : Reader α := do
  throw (.invalid message (← place?))

/-- What a reader yields, or nothing where it fails, and then no lexeme is taken. -/
def attempt {α : Type} (r : Reader α) : Reader (Option α) := fun ls =>
  match r.run ls with
  | .ok (value, rest) => .ok (some value, rest)
  | .error .tooDeep => .error .tooDeep
  | .error _ => .ok (none, ls)

/-- Values with commas between them, at most one comma for each lexeme of `bound`. -/
def commaSteps {α : Type} (item : Reader α) (bound : List Lexeme) : Reader (List α) :=
  match bound with
  | [] => return [← item]
  | _ :: bound => do
    let first ← item
    if ← acceptSymbol .comma then
      return first :: (← commaSteps item bound)
    else
      return [first]

/-- One or more values, with commas between them. Each comma takes a lexeme, so the lexemes bound their
number. -/
def commaSeparated {α : Type} (item : Reader α) : Reader (List α) := do
  commaSteps item (← get)

/-- Values with commas between them before a closing symbol, or none at all. -/
def commaSeparatedBefore {α : Type} (closing : Symbol) (item : Reader α) : Reader (List α) := do
  if ← atSymbol closing then
    return []
  else
    commaSeparated item

/-- What stands in parentheses. -/
def inParens {α : Type} (r : Reader α) : Reader α := do
  expectSymbol .leftParen
  let value ← r
  expectSymbol .rightParen
  return value

/-- What stands in parentheses, where there are any. -/
def inOptionalParens {α : Type} (r : Reader α) : Reader (Option α) := do
  if ← atSymbol .leftParen then
    return some (← inParens r)
  else
    return none

/-- A reader behind a keyword, where the keyword stands. -/
def behindKeyword {α : Type} (keyword : String) (r : Reader α) : Reader (Option α) := do
  if ← acceptKeyword keyword then
    return some (← r)
  else
    return none

/-- A reader behind some keywords, where all of them stand. -/
def behindKeywords {α : Type} (keywords : List String) (r : Reader α) : Reader (Option α) := do
  if ← acceptKeywords keywords then
    return some (← r)
  else
    return none

/-- Takes these keywords where all of them stand, and otherwise nothing. -/
def optional (keywords : List String) : Reader Unit :=
  discard (acceptKeywords keywords)

/-- Reads what stands behind some keywords, where all of them stand, and keeps nothing of it. -/
def clause {α : Type} (keywords : List String) (r : Reader α) : Reader Unit :=
  discard (behindKeywords keywords r)

/-- What a reader yields as often as it yields something, at most once for each lexeme of `bound`. -/
def many {α : Type} (r : Reader (Option α)) (bound : List Lexeme) : Reader (List α) :=
  match bound with
  | [] => return []
  | _ :: bound => do
    match ← r with
    | none => return []
    | some value => return value :: (← many r bound)

/-- What a reader yields until it yields nothing. The reader must take a lexeme each time that it yields
something, so the lexemes bound their number. -/
def repeated {α : Type} (r : Reader (Option α)) : Reader (List α) := do
  many r (← get)

/-! ## Names -/

/-- A name: a word, keyword or not, or a string in quotes. -/
def ident : Reader Ident := do
  match ← peek? with
  | some ⟨.word text quote, span, _⟩ =>
    skip
    return ⟨text, quote, span⟩
  | some ⟨.string .single body, _, _⟩ =>
    skip
    return ⟨body, some '\x27', .none⟩
  | some ⟨.string .double body, _, _⟩ =>
    skip
    return ⟨body, some '\x22', .none⟩
  | _ => expected "identifier"

/-- Names joined by periods, at most one period for each lexeme of `bound`. -/
def dottedSteps (bound : List Lexeme) : Reader (List Ident) :=
  match bound with
  | [] => return [← ident]
  | _ :: bound => do
    let first ← ident
    if ← acceptSymbol .period then
      return first :: (← dottedSteps bound)
    else
      return [first]

/-- One or more names joined by periods. -/
def dottedName : Reader (List Ident) := do
  dottedSteps (← get)

/-- A list of columns in parentheses; `empty` says whether it may be empty. -/
def columnList (empty : Bool) : Reader (List Ident) :=
  inParens do
    if empty then
      commaSeparatedBefore .rightParen ident
    else
      commaSeparated ident

/-- A list of columns in parentheses, where there is one. -/
def optionalColumnList (empty : Bool) : Reader (List Ident) := do
  if ← atSymbol .leftParen then
    columnList empty
  else
    return []

/-- Names of columns in parentheses, which must be there. -/
def nameList : Reader (List (List Ident)) := do
  unless ← atSymbol .leftParen do
    expected "a list of columns in parentheses"
  inParens (commaSeparated dottedName)

/-- A string, or a word that the language gives no meaning to, without its quotes. -/
def textLiteral : Reader String := do
  match ← next? with
  | some ⟨.string .single body, _, _⟩ | some ⟨.string .double body, _, _⟩ => return body
  | some found =>
    match found.token with
    | .word text _ => if found.token.isFreeWord then return text else expectedAt "literal string" (some found)
    | _ => expectedAt "literal string" (some found)
  | none => expectedAt "literal string" none

end Reader

end InsertPivot.Sql
