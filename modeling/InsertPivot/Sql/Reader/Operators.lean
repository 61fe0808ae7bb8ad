import InsertPivot.Sql.Reader.Operand

/-!
# Reading expressions

An expression is an operand and then, as long as they bind tighter than what stands before the operand, the
operators behind it with their own operands. Operators of one strength take what was read so far as their
left side, so `a - b - c` is `(a - b) - c`.

`strength` gives the strength of the operator that comes next; it is zero where none does, and then the
expression ends. A few symbols and keywords have a strength but join nothing, and are refused where they
come next.
-/

namespace InsertPivot.Sql.Reader

/-! ## Strengths -/

/-- How tightly the tests of a text bind. -/
def likeStrength : Nat := 19

/-- How tightly `IS` binds. -/
def isStrength : Nat := 17

/-- How tightly a symbol binds, if it may stand between two expressions. -/
def symbolStrength : Symbol → Nat
  | .bang | .caretAt | .doubleColon | .leftBracket => 50
  | .times | .divide | .percent | .doubleBar => 40
  | .plus | .minus => 30
  | .ampersand => 23
  | .caret | .shiftLeft | .shiftRight => 22
  | .bar | .doubleAmpersand | .atSign => 21
  | .equal | .doubleEqual | .spaceship | .notEqual | .less | .lessEq | .greater | .greaterEq | .assign
  | .tilde | .tildeStar | .doubleTilde | .doubleTildeStar
  | .bangTilde | .bangTildeStar | .bangDoubleTilde | .bangDoubleTildeStar => comparisonStrength
  | .arrow | .longArrow | .atArrow | .arrowAt | .atQuestion | .doubleAt => 16
  | _ => 0

/-- How tightly the keyword behind a `NOT` binds. -/
def deniedStrength : Option String → Nat
  | some "IN" | some "BETWEEN" => comparisonStrength
  | some "LIKE" | some "ILIKE" | some "RLIKE" | some "REGEXP" | some "MATCH" | some "SIMILAR"
  | some "MEMBER" => likeStrength
  | some "NULL" => isStrength
  | _ => 0

/-- How tightly a keyword binds, if it may stand between two expressions. For `NOT` and `AT` the keywords
behind it decide. -/
def keywordStrength (keyword : String) (second third : Option String) : Nat :=
  match keyword with
  | "AT" => if second = some "TIME" && third = some "ZONE" then 41 else 0
  | "DIV" => 40
  | "XOR" => 24
  | "IN" | "BETWEEN" | "OVERLAPS" | "OPERATOR" => comparisonStrength
  | "LIKE" | "ILIKE" | "RLIKE" | "REGEXP" | "MATCH" | "SIMILAR" | "MEMBER" => likeStrength
  | "IS" => isStrength
  | "AND" => 10
  | "OR" => 5
  | "NOT" => deniedStrength second
  | _ => 0

/-- How tightly the operator binds that comes next. -/
def strength : Reader Nat := do
  match ← peekToken? with
  | some (.symbol symbol) => return symbolStrength symbol
  | some token =>
    match token.keyword? with
    | some keyword =>
      let (second, third) ← peekFurther
      return keywordStrength keyword second third
    | none => return 0
  | none => return 0

/-! ## Operators -/

/-- The operator that a symbol is between two expressions. -/
def symbolOp? : Symbol → Option BinaryOp
  | .spaceship => some .spaceship
  | .equal | .doubleEqual => some .equal
  | .assign => some .assign
  | .notEqual => some .notEqual
  | .greater => some .greater
  | .greaterEq => some .greaterEq
  | .less => some .less
  | .lessEq => some .lessEq
  | .plus => some .plus
  | .minus => some .minus
  | .times => some .multiply
  | .divide => some .divide
  | .percent => some .modulo
  | .doubleBar => some .concat
  | .bar => some .bitwiseOr
  | .caret => some .bitwiseXor
  | .ampersand => some .bitwiseAnd
  | .arrow => some .arrow
  | .longArrow => some .longArrow
  | .atArrow => some .contains
  | .arrowAt => some .containedIn
  | .atQuestion => some .pathExists
  | .doubleAt => some .pathMatches
  | .tilde => some (.pattern false false false)
  | .tildeStar => some (.pattern false false true)
  | .doubleTilde => some (.pattern false true false)
  | .doubleTildeStar => some (.pattern false true true)
  | .bangTilde => some (.pattern true false false)
  | .bangTildeStar => some (.pattern true false true)
  | .bangDoubleTilde => some (.pattern true true false)
  | .bangDoubleTildeStar => some (.pattern true true true)
  | _ => none

/-- The operator that a keyword is between two expressions. -/
def keywordOp? : String → Option BinaryOp
  | "AND" => some .and
  | "OR" => some .or
  | "XOR" => some .xor
  | "OVERLAPS" => some .overlaps
  | _ => none

/-- Whether an operator compares, so that it can go to all values of an array. -/
def isComparison : BinaryOp → Bool
  | .greater | .less | .greaterEq | .lessEq | .equal | .notEqual | .pattern _ _ _ => true
  | _ => false

/-- What a symbol is called where it is refused between two expressions. -/
def symbolLabel : Symbol → String
  | .shiftLeft => "ShiftLeft"
  | .shiftRight => "ShiftRight"
  | .doubleAmpersand => "Overlap"
  | .bang => "ExclamationMark"
  | .atSign => "AtSign"
  | .caretAt => "CaretAt"
  | .leftBracket => "LBracket"
  | symbol => symbol.text

/-- What a keyword is called where it is refused between two expressions. -/
def keywordLabel (word keyword : String) : String :=
  "Word(Word \x7b value: \x22" ++ word ++ "\x22, quote_style: None, keyword: " ++ keyword ++ " \x7d)"

/-- A query or an array in parentheses, behind `ANY`, `SOME` or `ALL`. -/
def quantifiedSide (inner : Nested) (tightness : Nat) : Reader Expr := do
  let start ← get
  expectSymbol .leftParen
  if ← atQuery then
    set start
    inner.expr tightness
  else
    let right ← inner.expr tightness
    expectSymbol .rightParen
    return right

/-- The right side of an operator, after it. Behind `ANY`, `SOME` or `ALL` the operator must be a
comparison. -/
def rightSide (inner : Nested) (left : Expr) (op : BinaryOp) (tightness : Nat) (place : Text.Position) :
    Reader Expr := do
  match ← oneOf? ["ANY", "ALL", "SOME"] with
  | none => return .binary left op (← inner.expr tightness)
  | some word =>
    let right ← quantifiedSide inner tightness
    if isComparison op then
      return .compared left op (if word = "ALL" then .all else if word = "ANY" then .any else .some) right
    else
      throw (.invalid ("Expected one of [=, >, <, =>, =<, !=, ~, ~*, !~, !~*, ~~, ~~*, !~~, !~~*] " ++
        "as comparison operator, found: " ++ op.text) (some place))

/-! ## Tests -/

/-- A normal form, where one is named. -/
def normalForm : Reader (Option NormalForm) := do
  if ← acceptKeyword "NFC" then return some .nfc
  else if ← acceptKeyword "NFD" then return some .nfd
  else if ← acceptKeyword "NFKC" then return some .nfkc
  else if ← acceptKeyword "NFKD" then return some .nfkd
  else return none

/-- A test for a normal form, after `IS`. -/
def normalTest (left : Expr) : Reader Expr := do
  let negated ← acceptKeyword "NOT"
  let form ← normalForm
  if ← acceptKeyword "NORMALIZED" then
    return .isNormalized left negated form
  else
    expected "[NOT] NULL | TRUE | FALSE | DISTINCT | [form] NORMALIZED FROM after IS"

/-- The test that `IS` makes of an expression, after that keyword. -/
def restOfIs (inner : Nested) (left : Expr) : Reader Expr := do
  if ← acceptKeyword "NULL" then return .is left false .null
  else if ← acceptKeywords ["NOT", "NULL"] then return .is left true .null
  else if ← acceptKeyword "TRUE" then return .is left false .true
  else if ← acceptKeywords ["NOT", "TRUE"] then return .is left true .true
  else if ← acceptKeyword "FALSE" then return .is left false .false
  else if ← acceptKeywords ["NOT", "FALSE"] then return .is left true .false
  else if ← acceptKeyword "UNKNOWN" then return .is left false .unknown
  else if ← acceptKeywords ["NOT", "UNKNOWN"] then return .is left true .unknown
  else if ← acceptKeywords ["DISTINCT", "FROM"] then return .isDistinct left false (← inner.value)
  else if ← acceptKeywords ["NOT", "DISTINCT", "FROM"] then return .isDistinct left true (← inner.value)
  else normalTest left

/-- The rows of a query or a list that an expression is looked for in, without the parentheses. -/
def inContent (inner : Nested) (left : Expr) (negated : Bool) : Reader Expr := do
  match ← attempt inner.query with
  | some query => return .inQuery left negated query
  | none => return .inList left negated (← inner.values)

/-- What an expression is looked for in, after the keyword `IN`: an array, the rows of a query, or a list. -/
def restOfIn (inner : Nested) (left : Expr) (negated : Bool) : Reader Expr := do
  if ← acceptKeyword "UNNEST" then
    return .inUnnest left negated (← inParens inner.value)
  else
    inParens (inContent inner left negated)

/-- The bounds of an expression, after the keyword `BETWEEN`. -/
def restOfBetween (inner : Nested) (left : Expr) (negated : Bool) : Reader Expr := do
  let low ← inner.expr comparisonStrength
  expectKeyword "AND"
  return .between left negated low (← inner.expr comparisonStrength)

/-- The pattern of an expression, after the keyword for its rules. -/
def restOfLike (inner : Nested) (likeness : Likeness) (left : Expr) (negated : Bool) : Reader Expr := do
  let any ← if likeness = .similar then pure false else acceptKeyword "ANY"
  let pattern ← inner.expr likeStrength
  let escape ← behindKeyword "ESCAPE" literal
  return .like likeness left negated any pattern (escape.map (·.1))

/-- A test of an expression that a keyword makes, perhaps after `NOT`. A `NULL` that stands where no test
needs it is passed over. -/
def wordTest (inner : Nested) (left : Expr) : Reader Expr := do
  let negated ← acceptKeyword "NOT"
  let regexp ← acceptKeyword "REGEXP"
  let rlike ← acceptKeyword "RLIKE"
  let null ← acceptKeyword "NULL"
  if regexp || rlike then
    return .regexp left negated (!regexp) (← inner.expr likeStrength)
  else if negated && null then
    return .is left true .null
  else if ← acceptKeyword "IN" then
    restOfIn inner left negated
  else if ← acceptKeyword "BETWEEN" then
    restOfBetween inner left negated
  else if ← acceptKeyword "LIKE" then
    restOfLike inner .like left negated
  else if ← acceptKeyword "ILIKE" then
    restOfLike inner .ilike left negated
  else if ← acceptKeywords ["SIMILAR", "TO"] then
    restOfLike inner .similar left negated
  else
    expected "IN or BETWEEN after NOT"

/-- A test for an element of an array, after the keyword `MEMBER`. -/
def restOfMember (inner : Nested) (left : Expr) : Reader Expr := do
  if ← acceptKeyword "OF" then
    return .memberOf left (← inParens inner.value)
  else
    expected "OF after MEMBER"

/-! ## Expressions -/

/-- An expression with the symbol behind it, which has been taken, and that symbol's right side. -/
def symbolContinued (inner : Nested) (left : Expr) (tightness : Nat) (symbol : Symbol)
    (place : Text.Position) : Reader Expr :=
  match symbolOp? symbol with
  | some op => rightSide inner left op tightness place
  | none => do
    if symbol = .doubleColon then
      return .cast .colons left (← dataType) none
    else
      throw (.notBetween (symbolLabel symbol) place)

/-- An expression with the operator behind it, which binds this tightly, and that operator's right side. -/
def continued (inner : Nested) (left : Expr) (tightness : Nat) : Reader Expr := do
  match ← peek? with
  | none => return left
  | some found =>
    match found.token with
    | .symbol symbol =>
      skip
      symbolContinued inner left tightness symbol found.span.first
    | token =>
      match token.keyword? with
      | none => return left
      | some keyword =>
        match keywordOp? keyword with
        | some op =>
          skip
          rightSide inner left op tightness found.span.first
        | none =>
          match keyword with
          | "DIV" => skip; return .binary left .integerDivide (← inner.value)
          | "IS" => skip; restOfIs inner left
          | "AT" => skip; expectKeywords ["TIME", "ZONE"]; return .atTimeZone left (← inner.expr tightness)
          | "MEMBER" => skip; restOfMember inner left
          | "MATCH" | "OPERATOR" => throw (.notBetween (keywordLabel token.text keyword) found.span.first)
          | _ => wordTest inner left

/-- An expression with the operators behind it that bind tighter than `least`, at most one for each lexeme
of `bound`. -/
def climb (inner : Nested) (least : Nat) : (bound : List Lexeme) → Expr → Reader Expr
  | [], left => return left
  | _ :: bound, left => do
    let tightness ← strength
    if tightness ≤ least then
      return left
    else
      climb inner least bound (← continued inner left tightness)

/-- An expression up to the first operator that binds no tighter than `least`. Each operator takes a lexeme,
so the lexemes bound their number. -/
def expression (inner : Nested) (least : Nat) : Reader Expr := do
  let first ← operand inner
  climb inner least (← get) first

end InsertPivot.Sql.Reader
