import InsertPivot.Sql.Reader.Call

/-!
# Reading the constructs that a keyword opens

Some functions are written with words between their arguments, such as `CAST(a AS type)`. Each is read from
after its keyword. `construct?` finds the one that a keyword opens.

A keyword whose construct does not follow is a name like any other: see `Reader.wordOperand`.
-/

namespace InsertPivot.Sql.Reader

/-! ## Choices -/

/-- A branch of a `CASE`, after the word `WHEN`. -/
def branch (inner : Nested) : Reader Branch := do
  let condition ← inner.value
  expectKeyword "THEN"
  return ⟨condition, ← inner.value⟩

/-- A `CASE`, after its keyword. -/
def restOfCase (inner : Nested) : Reader Expr := do
  let operand ←
    if ← acceptKeyword "WHEN" then pure none
    else
      let operand ← inner.value
      expectKeyword "WHEN"
      pure (some operand)
  let first ← branch inner
  let others ← repeated (behindKeyword "WHEN" (branch inner))
  let otherwise ← behindKeyword "ELSE" inner.value
  expectKeyword "END"
  return .case operand (first :: others) otherwise

/-! ## Types and character sets -/

/-- The format that a cast follows. -/
def castFormat : Reader (Option CastFormat) :=
  behindKeyword "FORMAT" do
    let (format, _) ← literal
    let zone ← behindKeywords ["AT", "TIME", "ZONE"] literal
    return ⟨format, zone.map (·.1)⟩

/-- A cast, after its keyword. -/
def restOfCast (inner : Nested) (kind : CastKind) : Reader Expr :=
  inParens do
    let operand ← inner.value
    expectKeyword "AS"
    let type ← dataType
    return .cast kind operand type (← castFormat)

/-- A `CONVERT`, after its keyword. -/
def restOfConvert (inner : Nested) : Reader Expr :=
  inParens do
    let operand ← inner.value
    if ← acceptKeyword "USING" then
      return .transcode operand (← dottedName)
    else
      expectSymbol .comma
      let type ← dataType
      return .convert operand type (← behindKeywords ["CHARACTER", "SET"] dottedName)

/-! ## Numbers and times -/

/-- A `CEIL` or `FLOOR`, after its keyword. -/
def restOfRound (inner : Nested) (down : Bool) : Reader Expr :=
  inParens do
    let operand ← inner.value
    if ← acceptKeyword "TO" then
      return .round down operand (.unit (← timeField))
    else if ← acceptSymbol .comma then
      match ← literal with
      | (.number text long, _) => return .round down operand (.digits (.number text long))
      | _ => throw (.invalid "Scale field can only be of number type" none)
    else
      return .round down operand .whole

/-- An `EXTRACT`, after its keyword. -/
def restOfExtract (inner : Nested) : Reader Expr :=
  inParens do
    let field ← timeField
    unless ← acceptKeyword "FROM" do
      throw (.invalid "Expected 'FROM' or ','" none)
    return .extract field (← inner.value)

/-! ## Texts -/

/-- A `SUBSTRING` or `SUBSTR`, after its keyword. -/
def restOfSubstring (inner : Nested) (short : Bool) : Reader Expr :=
  inParens do
    let operand ← inner.value
    let commas ← acceptSymbol .comma
    let start ← if commas then some <$> inner.value else behindKeyword "FROM" inner.value
    let length ←
      match ← behindKeyword "FOR" inner.value with
      | some length => pure (some length)
      | none => if ← acceptSymbol .comma then some <$> inner.value else pure none
    return .substring ⟨commas, short⟩ operand start length

/-- How tightly `BETWEEN`, `IN` and the comparisons bind. -/
def comparisonStrength : Nat := 20

/-- A `POSITION`, after its keyword. Where no `IN` stands between two operands, it is a function. -/
def restOfPosition (inner : Nested) (word : Ident) : Reader Expr := do
  let found ← attempt <| inParens do
    let part ← inner.expr comparisonStrength
    expectKeyword "IN"
    return Expr.position part (← inner.value)
  match found with
  | some found => return found
  | none => return .call (← restOfCall inner [word])

/-- An `OVERLAY`, after its keyword. -/
def restOfOverlay (inner : Nested) : Reader Expr :=
  inParens do
    let operand ← inner.value
    expectKeyword "PLACING"
    let part ← inner.value
    expectKeyword "FROM"
    let start ← inner.value
    return .overlay operand part start (← behindKeyword "FOR" inner.value)

/-- The end of a text that is trimmed, where it is said. -/
def trimSide : Reader (Option TrimSide) := do
  if ← acceptKeyword "BOTH" then return some .both
  else if ← acceptKeyword "LEADING" then return some .leading
  else if ← acceptKeyword "TRAILING" then return some .trailing
  else return none

/-- A `TRIM`, after its keyword. -/
def restOfTrim (inner : Nested) : Reader Expr :=
  inParens do
    let side ← trimSide
    let first ← inner.value
    match ← behindKeyword "FROM" inner.value with
    | some operand => return .trim side (some first) operand
    | none => return .trim side none first

/-- How a text is searched, where it is said. -/
def searchMode : Reader (Option SearchMode) := do
  if ← acceptKeywords ["IN", "NATURAL", "LANGUAGE", "MODE"] then
    if ← acceptKeywords ["WITH", "QUERY", "EXPANSION"] then
      return some .naturalExpanded
    else
      return some .natural
  else if ← acceptKeywords ["IN", "BOOLEAN", "MODE"] then
    return some .boolean
  else if ← acceptKeywords ["WITH", "QUERY", "EXPANSION"] then
    return some .expanded
  else
    return none

/-- A `MATCH`, after its keyword. -/
def restOfMatch : Reader Expr := do
  let columns ← nameList
  expectKeyword "AGAINST"
  inParens do
    let (value, _) ← literal
    return .matchAgainst columns value (← searchMode)

/-! ## Truth -/

/-- An `EXISTS`, after its keyword. -/
def restOfExists (inner : Nested) (negated : Bool) : Reader Expr := do
  return .exists negated (← inParens inner.query)

/-- How tightly the word `NOT` binds the operand behind it. -/
def notStrength : Nat := 15

/-- A `NOT`, after its keyword. -/
def restOfNot (inner : Nested) : Reader Expr := do
  if ← acceptKeyword "EXISTS" then
    restOfExists inner true
  else
    return .unary .not (← inner.expr notStrength)

/-! ## Lists -/

/-- An array, after its opening bracket and with the closing one. -/
def restOfArray (inner : Nested) (said : Bool) : Reader Expr := do
  let items ← commaSeparatedBefore .rightBracket inner.value
  expectSymbol .rightBracket
  return .array said items

/-- The rows of a query as an array, after the keyword `ARRAY`. -/
def restOfRowArray (inner : Nested) (word : Ident) : Reader Expr := do
  return .call { name := [word], arguments := .rows (← inParens inner.query) }

/-! ## All constructs -/

/-- The functions of time, which need no parentheses. -/
def clockWords : List String :=
  ["CURRENT_TIMESTAMP", "CURRENT_DATE", "CURRENT_TIME", "LOCALTIME", "LOCALTIMESTAMP"]

/-- A function of time, after its name. -/
def restOfClock (inner : Nested) (word : Ident) : Reader Expr := do
  if ← acceptSymbol .leftParen then
    return .call { name := [word], arguments := ← restOfArguments inner }
  else
    return .call { name := [word], arguments := .absent }

/-- The construct that a keyword opens, after the keyword; nothing where it opens none before the symbol
that follows it. -/
def construct? (inner : Nested) (keyword : String) (word : Ident) (next : Option Token) :
    Option (Reader Expr) :=
  match keyword with
  | "TRUE" => some (return .literal (.boolean true) word.span)
  | "FALSE" => some (return .literal (.boolean false) word.span)
  | "NULL" => some (return .literal .null word.span)
  | "CASE" => some (restOfCase inner)
  | "CAST" => some (restOfCast inner .cast)
  | "TRY_CAST" => some (restOfCast inner .try)
  | "SAFE_CAST" => some (restOfCast inner .safe)
  | "CONVERT" => some (restOfConvert inner)
  | "CEIL" => some (restOfRound inner false)
  | "FLOOR" => some (restOfRound inner true)
  | "EXTRACT" => some (restOfExtract inner)
  | "SUBSTRING" => some (restOfSubstring inner false)
  | "SUBSTR" => some (restOfSubstring inner true)
  | "OVERLAY" => some (restOfOverlay inner)
  | "TRIM" => some (restOfTrim inner)
  | "INTERVAL" => some (restOfInterval inner)
  | "EXISTS" => some (restOfExists inner false)
  | "NOT" => some (restOfNot inner)
  | "MATCH" => some restOfMatch
  | "POSITION" => if next = some (.symbol .leftParen) then some (restOfPosition inner word) else none
  | "ARRAY" =>
    match next with
    | some (.symbol .leftBracket) => some do
      skip
      restOfArray inner true
    | some (.symbol .leftParen) => some (restOfRowArray inner word)
    | _ => none
  | _ => if clockWords.contains keyword then some (restOfClock inner word) else none

/-- Whether a keyword can be nothing but the construct that it opens. -/
def isReserved (keyword : String) : Bool :=
  ["EXISTS", "INTERVAL", "STRUCT", "TRIM"].contains keyword

end InsertPivot.Sql.Reader
