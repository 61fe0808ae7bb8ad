import InsertPivot.Json
import InsertPivot.Sql.Expr.Text

/-!
# The leaves of a statement as JSON

Names, literals, types and the words between operands. An object with a single member tells of which kind a
node is, and a kind without parts is its name alone.

Some nodes are written with the places of words that a tree leaves out, or with clauses that a tree holds as
their text. They are left to the library that reads them: `Tree.Part` are these nodes, and `Tree.Encoding`
says how each of them is written where it stands.
-/

namespace InsertPivot.Tree

open Json (tagged ofList ofOption)

/-- A node that is left to others. -/
inductive Part where
  | query (rows : Sql.Query)
  /-- The window of a function. -/
  | window (text : String)
  /-- One key of the order of a group. -/
  | ordering (key : Sql.Ordering)
  /-- A clause behind the last argument of a function. -/
  | clause (text : String)
  /-- A `CASE`. -/
  | choice (operand : Option Sql.Expr) (branches : List Sql.Branch) (otherwise : Option Sql.Expr)
  /-- The columns of a table type. -/
  | columns (text : String)
  /-- A name with a size and words behind it that no type of the language has together. -/
  | type (name : String) (size : Option Sql.TypeSize) (suffix : Option String)

/-- How a part is written at a place of a document. -/
abbrev Encoding := List Nat → Part → Json Empty

/-- A part as it stands in a statement. -/
def Part.text : Part → String
  | query rows => rows.text
  | window text | clause text | columns text => text
  | ordering key => Sql.commas (Sql.orderingTexts [key])
  | choice operand branches otherwise => (Sql.Expr.case operand branches otherwise).text
  | type name size suffix => (Sql.DataType.standard name size suffix).text

/-- Parts written as they stand in a statement, wherever they are. -/
def Encoding.asText : Encoding :=
  fun _ found => .text found.text

/-- A number of things. -/
def count (n : Nat) : Json Part :=
  .number n

/-- A position. -/
def position (p : Text.Position) : Json Part :=
  .object [("line", .number p.line), ("column", .number p.column)]

/-- A place in a text. -/
def span (s : Text.Span) : Json Part :=
  .object [("start", position s.first), ("end", position s.last)]

/-- A name. -/
def ident (name : Sql.Ident) : Json Part :=
  .object [("value", .text name.value), ("quote_style", ofOption (fun c => .text c.toString) name.quote),
    ("span", span name.span)]

/-- The parts of a name of identifiers. -/
def identParts (parts : List Sql.Ident) : Json Part :=
  ofList (fun part => tagged "Identifier" (ident part)) parts

/-- A literal. -/
def literal : Sql.Literal → Json Part
  | .null => .text "Null"
  | .boolean value => tagged "Boolean" (.boolean value)
  | .number text long => tagged "Number" (.array [.text text, .boolean long])
  | .single body => tagged "SingleQuotedString" (.text body)
  | .double body => tagged "DoubleQuotedString" (.text body)
  | .hex digits => tagged "HexStringLiteral" (.text digits)
  | .bits body => tagged "SingleQuotedByteStringLiteral" (.text body)
  | .bitsDouble body => tagged "DoubleQuotedByteStringLiteral" (.text body)
  | .national body => tagged "NationalStringLiteral" (.text body)
  | .placeholder text => tagged "Placeholder" (.text text)

/-- A literal with its place. -/
def placedLiteral (value : Sql.Literal) (place : Text.Span) : Json Part :=
  .object [("value", literal value), ("span", span place)]

/-- What an operator before its operand is called. -/
def unaryOp : Sql.UnaryOp → String
  | .minus => "Minus"
  | .plus => "Plus"
  | .bitwiseNot => "BitwiseNot"
  | .not => "Not"

/-- What an operator between its operands is called. -/
def binaryOp : Sql.BinaryOp → String
  | .plus => "Plus"
  | .minus => "Minus"
  | .multiply => "Multiply"
  | .divide => "Divide"
  | .modulo => "Modulo"
  | .integerDivide => "MyIntegerDivide"
  | .concat => "StringConcat"
  | .greater => "Gt"
  | .less => "Lt"
  | .greaterEq => "GtEq"
  | .lessEq => "LtEq"
  | .spaceship => "Spaceship"
  | .equal => "Eq"
  | .notEqual => "NotEq"
  | .assign => "Assignment"
  | .and => "And"
  | .or => "Or"
  | .xor => "Xor"
  | .overlaps => "Overlaps"
  | .bitwiseOr => "BitwiseOr"
  | .bitwiseAnd => "BitwiseAnd"
  | .bitwiseXor => "BitwiseXor"
  | .arrow => "Arrow"
  | .longArrow => "LongArrow"
  | .contains => "AtArrow"
  | .containedIn => "ArrowAt"
  | .pathExists => "AtQuestion"
  | .pathMatches => "AtAt"
  | .pattern negated like caseless =>
    "PG" ++ (if like then "" else "Regex") ++ (if negated then "Not" else "") ++
      (if caseless then "I" else "") ++ (if like then "LikeMatch" else "Match")

/-- What a test by `IS` is called. -/
def truthTest (negated : Bool) : Sql.Truth → String
  | .null => if negated then "IsNotNull" else "IsNull"
  | .true => if negated then "IsNotTrue" else "IsTrue"
  | .false => if negated then "IsNotFalse" else "IsFalse"
  | .unknown => if negated then "IsNotUnknown" else "IsUnknown"

/-- How duplicates are treated. -/
def quantifier : Option Sql.Quantifier → Json Part
  | none => .null
  | some .all => .text "All"
  | some .distinct => .text "Distinct"

/-- The end of a text that is trimmed. -/
def trimSide : Sql.TrimSide → Json Part
  | .both => .text "Both"
  | .leading => .text "Leading"
  | .trailing => .text "Trailing"

/-- What the parts of a time are called, by their words. -/
def timeKinds : List (String × String) :=
  [("YEAR", "Year"), ("YEARS", "Years"), ("MONTH", "Month"), ("MONTHS", "Months"), ("WEEKS", "Weeks"),
    ("DAY", "Day"), ("DAYS", "Days"), ("DAYOFWEEK", "DayOfWeek"), ("DAYOFYEAR", "DayOfYear"), ("DATE", "Date"),
    ("DATETIME", "Datetime"), ("HOUR", "Hour"), ("HOURS", "Hours"), ("MINUTE", "Minute"),
    ("MINUTES", "Minutes"), ("SECOND", "Second"), ("SECONDS", "Seconds"), ("CENTURY", "Century"),
    ("DECADE", "Decade"), ("DOW", "Dow"), ("DOY", "Doy"), ("EPOCH", "Epoch"), ("ISODOW", "Isodow"),
    ("ISOWEEK", "IsoWeek"), ("ISOYEAR", "Isoyear"), ("JULIAN", "Julian"), ("MICROSECOND", "Microsecond"),
    ("MICROSECONDS", "Microseconds"), ("MILLENIUM", "Millenium"), ("MILLENNIUM", "Millennium"),
    ("MILLISECOND", "Millisecond"), ("MILLISECONDS", "Milliseconds"), ("NANOSECOND", "Nanosecond"),
    ("NANOSECONDS", "Nanoseconds"), ("QUARTER", "Quarter"), ("TIME", "Time"), ("TIMEZONE", "Timezone"),
    ("TIMEZONE_ABBR", "TimezoneAbbr"), ("TIMEZONE_HOUR", "TimezoneHour"),
    ("TIMEZONE_MINUTE", "TimezoneMinute"), ("TIMEZONE_REGION", "TimezoneRegion")]

/-- A part of a time. A week may say on which day it starts, but none that is read does. -/
def timeField (field : String) : Json Part :=
  if field = "WEEK" then tagged "Week" .null
  else
    match timeKinds.lookup field with
    | some kind => .text kind
    | none => tagged "Custom" (ident ⟨field, none, .none⟩)

/-- What a number or time is rounded to. -/
def rounding : Sql.Rounding → Json Part
  | .whole => tagged "DateTimeField" (.text "NoDateTime")
  | .digits scale => tagged "Scale" (literal scale)
  | .unit field => tagged "DateTimeField" (timeField field)

/-- The kind of a cast. -/
def castKind : Sql.CastKind → String
  | .cast => "Cast"
  | .try => "TryCast"
  | .safe => "SafeCast"
  | .colons => "DoubleColon"

/-- The format that a cast follows. -/
def castFormat (format : Sql.CastFormat) : Json Part :=
  match format.zone with
  | none => tagged "Value" (literal format.format)
  | some zone => tagged "ValueAtTimeZone" (.array [literal format.format, literal zone])

/-- What a function does with nulls. -/
def nullTreatment : Sql.NullTreatment → Json Part
  | .ignore => .text "IgnoreNulls"
  | .respect => .text "RespectNulls"

/-- The unit of an interval, as members of its object. -/
def intervalMembers (unit : Sql.IntervalUnit) : List (String × Json Part) :=
  [("leading_field", timeField unit.leading), ("leading_precision", ofOption count unit.precision),
    ("last_field", ofOption timeField unit.last),
    ("fractional_seconds_precision", ofOption count unit.fraction)]

/-- How texts are searched. -/
def searchMode : Sql.SearchMode → Json Part
  | .natural => .text "InNaturalLanguageMode"
  | .naturalExpanded => .text "InNaturalLanguageModeWithQueryExpansion"
  | .boolean => .text "InBooleanMode"
  | .expanded => .text "WithQueryExpansion"

/-- What stands between the name of an argument and its value. -/
def joint : Sql.Joint → Json Part
  | .value => .text "Value"
  | .arrow => .text "RightArrow"

/-- What a match by `LIKE` or its like is called. -/
def likenessKind : Sql.Likeness → String
  | .like => "Like"
  | .ilike => "ILike"
  | .similar => "SimilarTo"

/-! ## Types -/

/-- What is told of the size of a type, and how. -/
inductive SizeForm where
  /-- Nothing. -/
  | plain
  /-- A single number. -/
  | count
  /-- A number of digits. -/
  | digits
  /-- A number of characters. -/
  | length
  /-- A number of bytes. -/
  | bytes
  /-- The precision of a time, and its zone. -/
  | time (zone : String)
  /-- The precision of a moment, and perhaps the name of a zone. -/
  | moment
  /-- The parts of an interval, none of which is read. -/
  | interval
deriving DecidableEq, Repr

/-- A type of the language, by its name and the words behind it. -/
structure TypeKind where
  name : String
  suffix : Option String
  kind : String
  form : SizeForm
deriving DecidableEq, Repr

/-- Types of one form with nothing behind their names. -/
def unmarked (form : SizeForm) (names : List (String × String)) : List TypeKind :=
  names.map fun (name, kind) => ⟨name, none, kind, form⟩

/-- Types of one form with a sign that is denied. -/
def unsigned (form : SizeForm) (names : List (String × String)) : List TypeKind :=
  names.map fun (name, kind) => ⟨name, some "UNSIGNED", kind ++ "Unsigned", form⟩

/-- Whole numbers that may have a width. -/
def integerNames : List (String × String) :=
  [("TINYINT", "TinyInt"), ("SMALLINT", "SmallInt"), ("MEDIUMINT", "MediumInt"), ("INT", "Int"),
    ("INTEGER", "Integer"), ("BIGINT", "BigInt"), ("INT2", "Int2"), ("INT4", "Int4"), ("INT8", "Int8")]

/-- Numbers whose digits may be counted and whose sign may be denied. -/
def decimalNames : List (String × String) :=
  [("FLOAT", "Float"), ("DOUBLE", "Double"), ("DECIMAL", "Decimal"), ("DEC", "Dec")]

/-- Numbers of a fixed precision whose sign may be denied. -/
def realNames : List (String × String) :=
  [("REAL", "Real"), ("DOUBLE PRECISION", "DoublePrecision")]

/-- Times of one kind, with and without a zone. -/
def zoned (name kind : String) : List TypeKind :=
  [⟨name, none, kind, .time "None"⟩, ⟨name, some "WITH TIME ZONE", kind, .time "WithTimeZone"⟩,
    ⟨name, some "WITHOUT TIME ZONE", kind, .time "WithoutTimeZone"⟩, ⟨name ++ "TZ", none, kind, .time "Tz"⟩]

/-- The types of the language. -/
def typeKinds : List TypeKind :=
  unmarked .plain
      [("BOOLEAN", "Boolean"), ("BOOL", "Bool"), ("UUID", "Uuid"), ("DATE", "Date"), ("Date32", "Date32"),
        ("JSON", "JSON"), ("JSONB", "JSONB"), ("REGCLASS", "Regclass"), ("TEXT", "Text"),
        ("TINYTEXT", "TinyText"), ("MEDIUMTEXT", "MediumText"), ("LONGTEXT", "LongText"),
        ("TINYBLOB", "TinyBlob"), ("MEDIUMBLOB", "MediumBlob"), ("LONGBLOB", "LongBlob"), ("BYTEA", "Bytea"),
        ("FLOAT4", "Float4"), ("FLOAT8", "Float8"), ("Float32", "Float32"), ("FLOAT64", "Float64"),
        ("Int16", "Int16"), ("Int32", "Int32"), ("INT64", "Int64"), ("Int128", "Int128"), ("Int256", "Int256"),
        ("UInt8", "UInt8"), ("UInt16", "UInt16"), ("UInt32", "UInt32"), ("UInt64", "UInt64"),
        ("UInt128", "UInt128"), ("UInt256", "UInt256"), ("HUGEINT", "HugeInt"), ("UHUGEINT", "UHugeInt"),
        ("UBIGINT", "UBigInt"), ("USMALLINT", "USmallInt"), ("UTINYINT", "UTinyInt"), ("TRIGGER", "Trigger"),
        ("SIGNED", "Signed"), ("SIGNED INTEGER", "SignedInteger"), ("UNSIGNED", "Unsigned"),
        ("UNSIGNED INTEGER", "UnsignedInteger"), ("ANY TYPE", "AnyType")] ++
    unmarked .plain realNames ++ unsigned .plain realNames ++
    unmarked .digits decimalNames ++ unsigned .digits decimalNames ++
    unmarked .digits [("NUMERIC", "Numeric"), ("BIGNUMERIC", "BigNumeric"), ("BIGDECIMAL", "BigDecimal")] ++
    unmarked .count integerNames ++ unsigned .count integerNames ++
    unmarked .count
      [("CHARACTER LARGE OBJECT", "CharacterLargeObject"), ("CHAR LARGE OBJECT", "CharLargeObject"),
        ("CLOB", "Clob"), ("STRING", "String"), ("FixedString", "FixedString"), ("BINARY", "Binary"),
        ("BLOB", "Blob"), ("BYTES", "Bytes"), ("BIT", "Bit"), ("BIT VARYING", "BitVarying"),
        ("VARBIT", "VarBit"), ("DATETIME", "Datetime"), ("TIMESTAMP_NTZ", "TimestampNtz")] ++
    unmarked .length
      [("VARCHAR", "Varchar"), ("NVARCHAR", "Nvarchar"), ("CHARACTER", "Character"), ("CHAR", "Char"),
        ("CHARACTER VARYING", "CharacterVarying"), ("CHAR VARYING", "CharVarying")] ++
    unmarked .bytes [("VARBINARY", "Varbinary")] ++
    zoned "TIME" "Time" ++ zoned "TIMESTAMP" "Timestamp" ++
    unmarked .moment [("DateTime64", "Datetime64")] ++ unmarked .interval [("INTERVAL", "Interval")]

/-- The unit that a length is counted in. -/
def lengthUnit : Sql.LengthUnit → Json Part
  | .characters => .text "Characters"
  | .octets => .text "Octets"

/-- A type of some kind with its size, if a size of this form is told so. -/
def SizeForm.write? (kind : String) : SizeForm → Option Sql.TypeSize → Option (Json Part)
  | plain, none => some (.text kind)
  | count, none => some (tagged kind .null)
  | count, some (.count n) => some (tagged kind (.number n))
  | digits, none => some (tagged kind (.text "None"))
  | digits, some (.count n) => some (tagged kind (tagged "Precision" (.number n)))
  | digits, some (.digits precision scale) =>
    some (tagged kind (tagged "PrecisionAndScale" (.array [.number precision, .number scale])))
  | length, none | bytes, none => some (tagged kind .null)
  | length, some .unbounded | bytes, some .unbounded => some (tagged kind (.text "Max"))
  | length, some (.count n) =>
    some (tagged kind (tagged "IntegerLength" (.object [("length", .number n), ("unit", .null)])))
  | length, some (.length n unit) =>
    some (tagged kind (tagged "IntegerLength" (.object [("length", .number n), ("unit", lengthUnit unit)])))
  | bytes, some (.count n) => some (tagged kind (tagged "IntegerLength" (.object [("length", .number n)])))
  | time zone, none => some (tagged kind (.array [.null, .text zone]))
  | time zone, some (.count n) => some (tagged kind (.array [.number n, .text zone]))
  | moment, some (.count n) => some (tagged kind (.array [.number n, .null]))
  | moment, some (.zoned n zone) => some (tagged kind (.array [.number n, .text zone]))
  | interval, none => some (tagged kind (.object [("fields", .null), ("precision", .null)]))
  | _, _ => none

/-- A type of the language. -/
def standardType (name : String) (size : Option Sql.TypeSize) (suffix : Option String) : Json Part :=
  let found := (typeKinds.find? fun type => type.name = name && type.suffix = suffix).bind fun type =>
    type.form.write? type.kind size
  found.getD (.part (.type name size suffix))

/-- A value of an enumeration. -/
def enumMember (member : Sql.EnumMember) : Json Part :=
  match member.number with
  | none => tagged "Name" (.text member.body)
  | some number => tagged "NamedValue" (.array [.text member.body, .text number])

/-- A type. -/
def dataType : Sql.DataType → Json Part
  | .standard name size suffix => standardType name size suffix
  | .enumeration bits members => tagged "Enum" (.array [ofList enumMember members, ofOption count bits])
  | .set members => tagged "Set" (ofList .text members)
  | .array element => tagged "Array" (tagged "AngleBracket" (dataType element))
  | .table columns => tagged "Table" (ofOption (fun text => .part (.columns text)) columns)
  | .custom name modifiers => tagged "Custom" (.array [identParts name, ofList .text modifiers])

end InsertPivot.Tree
