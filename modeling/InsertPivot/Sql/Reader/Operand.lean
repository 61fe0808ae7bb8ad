import InsertPivot.Sql.Reader.Construct

/-!
# Reading operands

An operand is what stands between two operators: a literal, a name, a function, something in parentheses,
brackets or braces, or an operand behind a sign. `operand` reads one, with the periods and brackets behind
it.

Expressions and queries inside it are read by the readers of a `Nested`, one level deeper than the operand
itself. So nothing here is recursive but the walk along a row of periods.

Most keywords are names wherever an operand may stand. Those that open a construct of their own are read as
that construct first; when that fails, all but the reserved ones are read again as a name or a function,
and only when that fails too does the first failure count.
-/

namespace InsertPivot.Sql.Reader

/-! ## Words -/

/-- What a word is that opens no construct, after the word: a function, the character set of a string, or a
name. -/
def plainWord (inner : Nested) (word : Ident) : Reader Expr := do
  match ← peekToken? with
  | some (.symbol .leftParen) => return .call (← restOfCall inner [word])
  | some (.string .single _) | some (.string .double _) | some (.string .hex _) =>
    if word.value.toList.head? = some '_' then
      let (value, span) ← introducedString
      return .introduced word value span
    else
      return .column word
  | _ => return .column word

/-- What a construct is, or else what its word is without it, and whether it is the construct. -/
def constructOr (reserved : Bool) (opened plain : Reader Expr) : Reader (Expr × Bool) := fun ls =>
  match opened.run ls with
  | .ok (found, rest) => .ok ((found, true), rest)
  | .error fault =>
    if reserved then .error fault
    else
      match plain.run ls with
      | .ok (found, rest) => .ok ((found, false), rest)
      | .error _ => .error fault

/-- An operand that may go on with the name of a collation. -/
def collated (operand : Expr) : Reader Expr := do
  if ← acceptKeyword "COLLATE" then
    return .collate operand (← dottedName)
  else
    return operand

/-- What a word is, after the word. A word that was first taken for a construct goes on with no
collation. -/
def wordOperand (inner : Nested) (keyword : Option String) (word : Ident) : Reader Expr := do
  let next ← peekToken?
  match keyword.bind fun keyword => construct? inner keyword word next with
  | none => collated (← plainWord inner word)
  | some opened =>
    match ← constructOr (keyword.any isReserved) opened (plainWord inner word) with
    | (found, true) => collated found
    | (found, false) => return found

/-- A literal behind the name of its type, or an interval. -/
def typedLiteral (inner : Nested) : Reader Expr := do
  match ← dataType with
  | .standard "INTERVAL" _ _ => restOfInterval inner
  | .custom _ _ => expected "a data type name"
  | type =>
    let (value, span) ← literal
    return .typed false type value span

/-! ## Parentheses, brackets and braces -/

/-- What stands in parentheses, after the opening one. -/
def restOfParens (inner : Nested) : Reader Expr := do
  let found ←
    if ← atQuery then
      Expr.subquery <$> inner.query
    else
      match ← inner.values with
      | [item] => pure (.nested item)
      | items => pure (.tuple items)
  expectSymbol .rightParen
  return found

/-- A function in braces, after the opening one. -/
def bracedCall (inner : Nested) : Reader Expr := do
  expectKeyword "FN"
  let name ← dottedName
  return .call { ← restOfCall inner name with braced := true }

/-- The type of a time in braces, by the letters for it. -/
def bracedType : Token → Option String
  | .word "d" none => some "DATE"
  | .word "t" none => some "TIME"
  | .word "ts" none => some "TIMESTAMP"
  | _ => none

/-- A time in braces, after the opening one. The letters for its type stand in lower case. -/
def bracedLiteral : Reader Expr := do
  let found ← next?
  match found.bind fun l => bracedType l.token with
  | some name =>
    let (value, span) ← literal
    return .typed true (.standard name) value span
  | none => expectedAt "ODBC datetime keyword (t, d, or ts)" found

/-- What stands in braces, after the opening one, which is shown where nothing that may stand there does. -/
def restOfBraces (inner : Nested) (opening : Lexeme) : Reader Expr := do
  let found ←
    match ← attempt (bracedCall inner) with
    | some found => pure found
    | none =>
      match ← attempt bracedLiteral with
      | some found => pure found
      | none => expectedAt "an expression" (some opening)
  expectSymbol .rightBrace
  return found

/-! ## Operands -/

/-- How tightly a plus or minus sign binds the operand behind it. -/
def signStrength : Nat := 40

/-- How tightly a tilde binds the operand behind it. -/
def tildeStrength : Nat := 30

/-- An operand, without the periods and brackets behind it. -/
def bareOperand (inner : Nested) : Reader Expr := do
  match ← peek? with
  | none => expected "an expression"
  | some found =>
    match found.token with
    | .word text quote =>
      match ← attempt (typedLiteral inner) with
      | some typed => return typed
      | none =>
        skip
        wordOperand inner found.token.keyword? ⟨text, quote, found.span⟩
    | .symbol .minus =>
      skip
      collated (.unary .minus (← inner.expr signStrength))
    | .symbol .plus =>
      skip
      collated (.unary .plus (← inner.expr signStrength))
    | .symbol .tilde =>
      skip
      collated (.unary .bitwiseNot (← inner.expr tildeStrength))
    | .symbol .leftParen =>
      skip
      collated (← restOfParens inner)
    | .symbol .leftBracket =>
      skip
      collated (← restOfArray inner false)
    | .symbol .leftBrace =>
      skip
      collated (← restOfBraces inner found)
    | .number _ _ | .string _ _ | .placeholder _ | .symbol .colon | .symbol .atSign =>
      let (value, span) ← literal
      collated (.literal value span)
    | _ => expected "an expression"

/-! ## Periods and brackets -/

/-- How tightly a period binds what stands behind it. -/
def periodStrength : Nat := 100

/-- How tightly the colon in the bounds of a slice binds. -/
def colonStrength : Nat := 21

/-- The bounds of a slice behind its first colon, and the closing bracket. -/
def restOfSlice (inner : Nested) (lower : Option Expr) : Reader Access := do
  if ← acceptSymbol .rightBracket then
    return .slice lower none none
  else
    let upper ← inner.expr colonStrength
    if ← acceptSymbol .rightBracket then
      return .slice lower (some upper) none
    else
      expectSymbol .colon
      if ← acceptSymbol .rightBracket then
        return .slice lower (some upper) none
      else
        let stride ← inner.value
        expectSymbol .rightBracket
        return .slice lower (some upper) (some stride)

/-- What stands in brackets behind a value, after the opening one and with the closing one. A slice that
starts at the first element has no bound before its colon, and the colon alone is a slice too. -/
def subscript (inner : Nested) : Reader Access := do
  if ← acceptSymbol .colon then
    restOfSlice inner none
  else
    let lower ← inner.expr colonStrength
    if ← acceptSymbol .rightBracket then
      return .index lower
    else
      expectSymbol .colon
      restOfSlice inner (some lower)

/-- What a value yields that is joined by a period to what stands before it: its own periods and brackets
are part of the same row. -/
def pathOf : Expr → List Access
  | .access root path => .dot root :: path
  | .qualified parts => parts.map fun name => .dot (.column name)
  | other => [.dot other]

/-- Whether a period and a star come next. -/
def atQualifiedStar : Reader Bool := do
  return ((← get).take 2).map Lexeme.token = [.symbol .period, .symbol .times]

/-- What is taken by a period, after the period. -/
def restOfPeriod (inner : Nested) : Reader (List Access) := do
  match ← peek? with
  | some ⟨.string .single body, span, _⟩ =>
    skip
    return [.dot (.column ⟨body, some '\x27', span⟩)]
  | _ => return pathOf (← inner.expr periodStrength)

/-- What a row of periods and brackets takes out of what stands before it, at most one step for each lexeme
of `bound`. A period before a star is left. -/
def path (inner : Nested) : (bound : List Lexeme) → Reader (List Access)
  | [] => return []
  | _ :: bound => do
    if ← atQualifiedStar then
      return []
    else if ← acceptSymbol .period then
      let found ← restOfPeriod inner
      return found ++ (← path inner bound)
    else if ← acceptSymbol .leftBracket then
      let found ← subscript inner
      return found :: (← path inner bound)
    else
      return []

/-- The names that the steps of a path are, if they are all names. -/
def names? : List Access → Option (List Ident)
  | [] => some []
  | .dot (.column name) :: rest => (names? rest).map (name :: ·)
  | _ => none

/-- What periods and brackets make of an operand and what they take out of it: a qualified name, a qualified
function, or access to a part of a value. -/
def joined (root : Expr) : List Access → Expr
  | [] => root
  | first :: rest =>
    match root, names? (first :: rest), (first :: rest).getLast?, names? (first :: rest).dropLast with
    | .column name, some names, _, _ => .qualified (name :: names)
    | .column name, none, some (.dot (.call function)), some names =>
      .call { function with name := name :: names ++ function.name }
    | _, _, _, _ => .access root (first :: rest)

/-- An operand, with the periods and brackets behind it. -/
def operand (inner : Nested) : Reader Expr := do
  let root ← bareOperand inner
  return joined root (← path inner (← get))

end InsertPivot.Sql.Reader
