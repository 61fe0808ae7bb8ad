import InsertPivot.Sql.DataType
import InsertPivot.Sql.Reader.Literal
import InsertPivot.Text.Decimal

/-!
# Reading types

The types that a value can be brought into. A type of the language is known by its keyword, which also says
what may stand in its parentheses and which words may follow. Any other name is a type of its own.

`<` and `>` enclose the type of the elements of an array. Two of them that close at once are one symbol, so
a type also says whether the symbol behind it has closed one array more than was open.
-/

namespace InsertPivot.Sql.Reader

/-! ## Numbers -/

/-- The number below a bound that a numeral is, wherever it stands. -/
def numeralBelow (bound : Nat) (label text : String) (place : Text.Position) : Reader Nat :=
  match Text.decimal bound text.toList with
  | .ok n => return n
  | .error fault =>
    throw (.invalid ("Could not parse '" ++ text ++ "' as " ++ label ++ ": " ++ fault.message) (some place))

/-- A whole number of 64 bits. -/
def wholeNumber : Reader Nat := do
  match ← next? with
  | some ⟨.number text _, span, _⟩ => numeralBelow (Text.bitBound 64) "u64" text span.first
  | found => expectedAt "literal int" found

/-- A number of 64 bits behind a sign, which may be missing. -/
def signedNumber : Reader Int := do
  let negative ← acceptSymbol .minus
  unless negative do
    let _ ← acceptSymbol .plus
  match ← peek? with
  | some ⟨.number text _, span, _⟩ =>
    skip
    let size ← numeralBelow (Text.bitBound 63) "i64" text span.first
    return if negative then -size else size
  | _ => expected "number"

/-- A number as it is written, or a place for one. -/
def numberText : Reader String := do
  let start ← get
  match ← literal with
  | (.number text long, _) => return (Literal.number text long).text
  | (.placeholder text, _) => return text
  | _ => expectedAt "literal number" start.head?

/-- A number as it is written, perhaps behind a sign. -/
def signedText : Reader String := do
  if ← acceptSymbol .plus then return "+" ++ (← numberText)
  else if ← acceptSymbol .minus then return "-" ++ (← numberText)
  else numberText

/-! ## Sizes -/

/-- A parenthesized whole number, where there is one. -/
def optionalPrecision : Reader (Option Nat) :=
  inOptionalParens wholeNumber

/-- A length or width in parentheses, where there is one. -/
def countSize : Reader (Option TypeSize) := do
  return (← optionalPrecision).map .count

/-- A number of digits and perhaps a scale, in parentheses, where there are any. -/
def digitSize : Reader (Option TypeSize) :=
  inOptionalParens do
    let precision ← wholeNumber
    if ← acceptSymbol .comma then
      return .digits precision (← signedNumber)
    else
      return .count precision

/-- A number of characters, perhaps with their unit, or the word for no bound at all. -/
def lengthSize : Reader (Option TypeSize) :=
  inOptionalParens do
    if ← acceptKeyword "MAX" then
      return .unbounded
    else
      let length ← wholeNumber
      if ← acceptKeyword "CHARACTERS" then return .length length .characters
      else if ← acceptKeyword "OCTETS" then return .length length .octets
      else return .count length

/-- A number of bytes, or the word for no bound at all. -/
def byteSize : Reader (Option TypeSize) :=
  inOptionalParens do
    if ← acceptKeyword "MAX" then
      return .unbounded
    else
      return .count (← wholeNumber)

/-! ## Types of the language -/

/-- What a type of the language may have after its name. -/
inductive TypeShape where
  | plain
  /-- A precision and a scale, and whether a sign may be denied. -/
  | decimal (unsigned : Bool)
  /-- A display width; whether a sign may be affirmed, too, or only denied. -/
  | integer (signed : Bool)
  /-- A sign that may be denied. -/
  | real
  /-- A length in characters. -/
  | characters
  /-- A length, and before it words for one that varies or has no bound. -/
  | varying
  /-- A length, and before it a word for one that varies. -/
  | varyingBits
  | size
  | bytes
  /-- A precision of seconds and a time zone. -/
  | zoned
deriving DecidableEq, Repr

/-- The types that are written as they are called, and what may stand behind their names. -/
def typeShapes : List (TypeShape × List String) :=
  [(.plain, ["BOOLEAN", "BOOL", "UUID", "DATE", "JSON", "JSONB", "REGCLASS", "TEXT", "TINYTEXT",
      "MEDIUMTEXT", "LONGTEXT", "TINYBLOB", "MEDIUMBLOB", "LONGBLOB", "BYTEA", "FLOAT4", "FLOAT8",
      "FLOAT64", "INT64", "HUGEINT", "UHUGEINT", "UBIGINT", "USMALLINT", "UTINYINT", "INTERVAL",
      "TRIGGER"]),
    (.decimal true, ["FLOAT", "DECIMAL", "DEC"]),
    (.decimal false, ["NUMERIC", "BIGNUMERIC", "BIGDECIMAL"]),
    (.integer true, ["TINYINT", "SMALLINT", "MEDIUMINT", "INT", "INTEGER", "BIGINT"]),
    (.integer false, ["INT2", "INT4", "INT8"]),
    (.real, ["REAL"]),
    (.characters, ["VARCHAR", "NVARCHAR"]),
    (.varying, ["CHARACTER", "CHAR"]),
    (.varyingBits, ["BIT"]),
    (.size, ["CLOB", "BINARY", "BLOB", "BYTES", "VARBIT", "DATETIME", "STRING", "TIMETZ", "TIMESTAMPTZ",
      "TIMESTAMP_NTZ"]),
    (.bytes, ["VARBINARY"]),
    (.zoned, ["TIME", "TIMESTAMP"])]

/-- The names of types that are written with small letters, by their keywords. -/
def mixedNames : List (String × String) :=
  [("INT16", "Int16"), ("INT32", "Int32"), ("INT128", "Int128"), ("INT256", "Int256"), ("UINT8", "UInt8"),
    ("UINT16", "UInt16"), ("UINT32", "UInt32"), ("UINT64", "UInt64"), ("UINT128", "UInt128"),
    ("UINT256", "UInt256"), ("FLOAT32", "Float32"), ("DATE32", "Date32")]

/-- The word for a sign that is denied, where it stands. -/
def denial : Reader (Option String) := do
  return if ← acceptKeyword "UNSIGNED" then some "UNSIGNED" else none

/-- The words for whether a time has a zone, where they stand. -/
def zone : Reader (Option String) := do
  match ← oneOf? ["WITH", "WITHOUT"] with
  | some word =>
    expectKeywords ["TIME", "ZONE"]
    return some (word ++ " TIME ZONE")
  | none => return none

/-- A type of the language whose keyword has been taken. -/
def shapedType (name : String) : TypeShape → Reader DataType
  | .plain => return .standard name
  | .decimal unsigned => do
    let size ← digitSize
    return .standard name size (← if unsigned then denial else pure none)
  | .integer signed => do
    let size ← countSize
    let sign ← denial
    if signed && sign.isNone then
      let _ ← acceptKeyword "SIGNED"
    return .standard name size sign
  | .real => return .standard name none (← denial)
  | .characters => return .standard name (← lengthSize)
  | .varying => do
    if ← acceptKeyword "VARYING" then return .standard (name ++ " VARYING") (← lengthSize)
    else if ← acceptKeywords ["LARGE", "OBJECT"] then
      return .standard (name ++ " LARGE OBJECT") (← countSize)
    else return .standard name (← lengthSize)
  | .varyingBits => do
    if ← acceptKeyword "VARYING" then return .standard (name ++ " VARYING") (← countSize)
    else return .standard name (← countSize)
  | .size => return .standard name (← countSize)
  | .bytes => return .standard name (← byteSize)
  | .zoned => do
    let size ← countSize
    return .standard name size (← zone)

/-- A number of two words or one, after the word `DOUBLE`. -/
def restOfDouble : Reader DataType := do
  if ← acceptKeyword "PRECISION" then
    return .standard "DOUBLE PRECISION" none (← denial)
  else
    let size ← digitSize
    return .standard "DOUBLE" size (← denial)

/-- A time of 64 bits, after its name. -/
def restOfLongTime : Reader DataType :=
  inParens do
    let precision ← wholeNumber
    let size ←
      if ← acceptSymbol .comma then pure (.zoned precision (← textLiteral))
      else pure (.count precision)
    return .standard "DateTime64" (some size)

/-- A value of an enumeration. -/
def enumMember : Reader EnumMember := do
  let body ← textLiteral
  let number ← if ← acceptSymbol .equal then some <$> signedText else pure none
  return ⟨body, number⟩

/-- The values of an enumeration whose size is given, after its name. -/
def restOfEnum (bits : Option Nat) : Reader DataType := do
  return .enumeration bits (← inParens (commaSeparated enumMember))

/-- The strings of a set and its closing parenthesis, at most one string for each lexeme of `bound`. -/
def setMembers (bound : List Lexeme) : Reader (List String) :=
  match bound with
  | [] => expected "a string"
  | _ :: bound => do
    match ← next? with
    | some ⟨.string .single body, _, _⟩ =>
      match ← next? with
      | some ⟨.symbol .comma, _, _⟩ => return body :: (← setMembers bound)
      | some ⟨.symbol .rightParen, _, _⟩ => return [body]
      | found => expectedAt ", or \x7d" found
    | found => expectedAt "a string" found

/-- The values of a set, after its name. -/
def restOfSet : Reader DataType := do
  expectSymbol .leftParen
  return .set (← setMembers (← get))

/-- A type with a sign or without one, after the word that says so. -/
def restOfSigned (word : String) : Reader DataType := do
  return .standard (if ← acceptKeyword "INTEGER" then word ++ " INTEGER" else word)

/-- What stands in the parentheses of a type that is not of the language. Commas may stand anywhere; at most
one item for each lexeme of `bound`. -/
def modifiers (bound : List Lexeme) : Reader (List String) :=
  match bound with
  | [] => expected "type modifiers"
  | _ :: bound => do
    match ← next? with
    | some ⟨.word text quote, _, _⟩ => return (Token.word text quote).text :: (← modifiers bound)
    | some ⟨.number text _, _, _⟩ => return text :: (← modifiers bound)
    | some ⟨.string .single body, _, _⟩ => return body :: (← modifiers bound)
    | some ⟨.symbol .comma, _, _⟩ => modifiers bound
    | some ⟨.symbol .rightParen, _, _⟩ => return []
    | found => expectedAt "type modifiers" found

/-- A type that is not of the language. -/
def customType : Reader DataType := do
  let name ← dottedName
  if ← acceptSymbol .leftParen then
    return .custom name (← modifiers (← get))
  else
    return .custom name

/-- The type that a keyword opens, after the keyword; nothing where it opens none but an array's. -/
def keywordType? (keyword : String) : Option (Reader DataType) :=
  match keyword with
  | "DOUBLE" => some restOfDouble
  | "DATETIME64" => some restOfLongTime
  | "FIXEDSTRING" => some do return .standard "FixedString" (some (.count (← inParens wholeNumber)))
  | "ENUM" => some (restOfEnum none)
  | "ENUM8" => some (restOfEnum (some 8))
  | "ENUM16" => some (restOfEnum (some 16))
  | "SET" => some restOfSet
  | "SIGNED" | "UNSIGNED" => some (restOfSigned keyword)
  | _ =>
    match mixedNames.lookup keyword with
    | some name => some (return .standard name)
    | none => (typeShapes.find? (·.2.contains keyword)).map fun (shape, _) => shapedType keyword shape

/-! ## All types -/

/-- The closing of an array, unless the symbol before it has closed it too. The result says whether the
symbol here closes another array. -/
def closeArray (closed : Bool) : Reader Bool := do
  if closed then return false
  else if ← acceptSymbol .greater then return false
  else if ← acceptSymbol .shiftRight then return true
  else expected ">"

/-- A type, and whether the symbol behind it closes an array that it does not open; at most one array in
another for each lexeme of `bound`. -/
def nestedType : (bound : List Lexeme) → Reader (DataType × Bool)
  | [] => expected "a data type name"
  | _ :: bound => do
    match ← peek? with
    | none => expected "a data type name"
    | some found =>
      match found.token.keyword? with
      | some "ARRAY" =>
        skip
        expectSymbol .less
        let (element, closed) ← nestedType bound
        return (.array element, ← closeArray closed)
      | some "ANY" =>
        if ← acceptKeywords ["ANY", "TYPE"] then
          return (.standard "ANY TYPE", false)
        else
          return (← customType, false)
      | some "TABLE" =>
        skip
        let columns ← inOptionalParens <| commaSeparated do
          let name ← ident
          let (type, _) ← nestedType bound
          return name.text ++ " " ++ type.text
        return (.table (columns.map commas), false)
      | some keyword =>
        match keywordType? keyword with
        | some r =>
          skip
          return (← r, false)
        | none => return (← customType, false)
      | none => if found.token.isWord then return (← customType, false) else expected "a data type name"

/-- A type. -/
def dataType : Reader DataType := do
  match ← nestedType (← get) with
  | (type, false) => return type
  | (type, true) =>
    let next := ((← peekToken?).map Token.text).getD "EOF"
    throw (.invalid ("unmatched > after parsing data type " ++ type.text ++ next) none)

end InsertPivot.Sql.Reader
