import InsertPivot.Sql.DataType
import InsertPivot.Sql.Literal

/-!
# Expressions and queries

The values of a statement, as they were written: brackets, spellings and the order of operands are kept,
and nothing is evaluated. A query can stand inside an expression and an expression inside a query, so the
two are defined together.

A clause whose parts nobody asks about, such as a window or a hint, is held as the text that it is written
as. So is a statement that changes data and stands where a query may.

Names and literals carry the place where they were read. `Expr.same` compares without these places.
-/

namespace InsertPivot.Sql

/-- An operator before its operand. -/
inductive UnaryOp where
  | minus
  | plus
  | bitwiseNot
  | not
deriving DecidableEq, Repr

/-- An operator between its operands. -/
inductive BinaryOp where
  | plus | minus | multiply | divide | modulo | integerDivide | concat
  | greater | less | greaterEq | lessEq | spaceship | equal | notEqual | assign
  | and | or | xor
  | overlaps
  | bitwiseOr | bitwiseAnd | bitwiseXor
  | arrow | longArrow
  | contains | containedIn | pathExists | pathMatches
  /-- A match of a text: whether it is denied, whether it is by `LIKE`'s rules, and whether it ignores the
  letter case. -/
  | pattern (negated like caseless : Bool)
deriving DecidableEq, Repr

/-- What `IS` asks for. -/
inductive Truth where
  | null
  | true
  | false
  | unknown
deriving DecidableEq, Repr

/-- A normal form of a text. -/
inductive NormalForm where
  | nfc
  | nfd
  | nfkc
  | nfkd
deriving DecidableEq, Repr

/-- Of how many values a comparison has to hold. -/
inductive Reach where
  | any
  | some
  | all
deriving DecidableEq, Repr

/-- By which rules a text is matched. -/
inductive Likeness where
  | like
  /-- As `like`, whatever the letter case. -/
  | ilike
  | similar
deriving DecidableEq, Repr

/-- How a value is brought into a type. -/
inductive CastKind where
  | cast
  /-- A value that cannot be brought into the type becomes null. -/
  | try
  /-- As `try`, under the other name that it has. -/
  | safe
  /-- By two colons between the value and the type. -/
  | colons
deriving DecidableEq, Repr

/-- The format that a cast follows. -/
structure CastFormat where
  format : Literal
  zone : Option Literal
deriving DecidableEq, Repr

/-- What a number or a time is rounded to. -/
inductive Rounding where
  /-- A whole number. -/
  | whole
  /-- So many digits. -/
  | digits (scale : Literal)
  /-- A unit of time. -/
  | unit (field : String)
deriving DecidableEq, Repr

/-- The unit of an interval. -/
structure IntervalUnit where
  leading : String
  precision : Option Nat := none
  /-- The unit that a unit of several parts ends with. -/
  last : Option String := none
  /-- The digits behind the point of the seconds. -/
  fraction : Option Nat := none
deriving DecidableEq, Repr

/-- How a substring is asked for. -/
structure SubstringStyle where
  /-- Whether its bounds are arguments rather than introduced by `FROM` and `FOR`. -/
  commas : Bool
  /-- Whether the word is `SUBSTR`. -/
  short : Bool
deriving DecidableEq, Repr

/-- The end of a text that is trimmed. -/
inductive TrimSide where
  | both
  | leading
  | trailing
deriving DecidableEq, Repr

/-- How a list of arguments treats duplicates. -/
inductive Quantifier where
  | all
  | distinct
deriving DecidableEq, Repr

/-- What a function does with nulls. -/
inductive NullTreatment where
  | ignore
  | respect
deriving DecidableEq, Repr

/-- What stands between the name of an argument and its value. -/
inductive Joint where
  | value
  | arrow
deriving DecidableEq, Repr

/-- How texts are searched. -/
inductive SearchMode where
  | natural
  /-- As `natural`, and then once more for what the texts that were found are about. -/
  | naturalExpanded
  | boolean
  | expanded
deriving DecidableEq, Repr

/-- How two sets of rows are combined. -/
inductive SetOp where
  | union
  | except
  | intersect
  | minus
deriving DecidableEq, Repr

/-- How combined sets of rows treat duplicates, and whether columns are matched by their names. -/
structure SetMode where
  quantifier : Option Quantifier := none
  byName : Bool := false
deriving DecidableEq, Repr

/-- A column of a labelled table, with its type where one is given. -/
structure ColumnLabel where
  name : Ident
  type : Option DataType
deriving DecidableEq, Repr

/-- What a table is called in a query. -/
structure TableLabel where
  /-- Whether the word `AS` stands before it. -/
  explicit : Bool
  name : Ident
  columns : List ColumnLabel
deriving DecidableEq, Repr

/-- The first rows that are wanted. -/
structure Fetch where
  quantity : Option Literal
  /-- Whether the quantity is a share of all rows. -/
  percent : Bool
  /-- Whether rows that are equal to the last one count too. -/
  ties : Bool
deriving DecidableEq, Repr

/-- What is done with rows that others have locked. -/
inductive LockWait where
  | nowait
  | skipLocked
deriving DecidableEq, Repr

/-- How the rows of a query are locked. -/
structure Lock where
  share : Bool
  table : Option (List Ident)
  wait : Option LockWait
deriving DecidableEq, Repr

/-- How a table is joined to those before it. -/
inductive JoinKind where
  | plain | inner | cross | straight
  | left | leftOuter | leftSemi | leftAnti
  | right | rightOuter | rightSemi | rightAnti
  | full | semi | anti
  | crossApply | outerApply
  | asof
deriving DecidableEq, Repr

mutual

/-- An expression. -/
inductive Expr where
  | literal (value : Literal) (span : Text.Span)
  | column (name : Ident)
  /-- A column behind the names that qualify it. -/
  | qualified (parts : List Ident)
  /-- What periods and brackets take out of a value. -/
  | access (root : Expr) (path : List Access)
  /-- Values in brackets, behind the word `ARRAY` where it is said. -/
  | array (said : Bool) (items : List Expr)
  /-- An expression in parentheses. -/
  | nested (inner : Expr)
  | tuple (items : List Expr)
  | unary (op : UnaryOp) (operand : Expr)
  | binary (left : Expr) (op : BinaryOp) (right : Expr)
  /-- A comparison with all values of a query or array, or with any of them. -/
  | compared (left : Expr) (op : BinaryOp) (reach : Reach) (right : Expr)
  | is (operand : Expr) (negated : Bool) (truth : Truth)
  | isDistinct (left : Expr) (negated : Bool) (right : Expr)
  | isNormalized (operand : Expr) (negated : Bool) (form : Option NormalForm)
  | inList (operand : Expr) (negated : Bool) (items : List Expr)
  | inQuery (operand : Expr) (negated : Bool) (query : Query)
  | inUnnest (operand : Expr) (negated : Bool) (items : Expr)
  | between (operand : Expr) (negated : Bool) (low high : Expr)
  | like (likeness : Likeness) (operand : Expr) (negated any : Bool) (pattern : Expr)
      (escape : Option Literal)
  /-- A match by `REGEXP`, or by `RLIKE` when `rlike` is set. -/
  | regexp (operand : Expr) (negated : Bool) (rlike : Bool) (pattern : Expr)
  | memberOf (operand items : Expr)
  | atTimeZone (moment zone : Expr)
  | collate (operand : Expr) (collation : List Ident)
  /-- A literal behind the name of its type, or in braces behind a letter for it. -/
  | typed (braced : Bool) (type : DataType) (value : Literal) (span : Text.Span)
  /-- A string behind the name of its character set. -/
  | introduced (charset : Ident) (value : Literal) (span : Text.Span)
  | call (function : Call)
  | case (operand : Option Expr) (branches : List Branch) (otherwise : Option Expr)
  | cast (kind : CastKind) (operand : Expr) (type : DataType) (format : Option CastFormat)
  | convert (operand : Expr) (type : DataType) (charset : Option (List Ident))
  | transcode (operand : Expr) (charset : List Ident)
  /-- `CEIL`, or `FLOOR` when `down` is set. -/
  | round (down : Bool) (operand : Expr) (unit : Rounding)
  | extract (field : String) (operand : Expr)
  | position (part whole : Expr)
  | substring (style : SubstringStyle) (operand : Expr) (start length : Option Expr)
  | overlay (operand part start : Expr) (length : Option Expr)
  | trim (side : Option TrimSide) (what : Option Expr) (operand : Expr)
  /-- A search in the texts of some columns, in the mode that is given. -/
  | matchAgainst (columns : List (List Ident)) (value : Literal) (mode : Option SearchMode)
  | interval (amount : Expr) (unit : IntervalUnit)
  | exists (negated : Bool) (query : Query)
  | subquery (query : Query)

/-- A part of a value. -/
inductive Access where
  /-- What stands behind a period. -/
  | dot (value : Expr)
  | index (value : Expr)
  | slice (lower upper stride : Option Expr)

/-- A function and what it is applied to. -/
structure Call where
  name : List Ident
  arguments : Arguments
  /-- Whether the call stands in braces, behind `fn`. -/
  braced : Bool := false
  /-- The order of the rows of a group. -/
  group : List Ordering := []
  nulls : Option NullTreatment := none
  /-- The window, with its parentheses or by its name. -/
  window : Option String := none

/-- One `WHEN` of a `CASE`. -/
structure Branch where
  condition : Expr
  result : Expr

/-- What a function is applied to. -/
inductive Arguments where
  /-- No parentheses at all. -/
  | absent
  /-- Arguments, with the clauses behind the last one. -/
  | given (quantifier : Option Quantifier) (items : List Argument) (clauses : List String)
  /-- The rows of a query. -/
  | rows (query : Query)

/-- One argument of a function. -/
inductive Argument where
  | value (value : Expr)
  /-- `*`, or the columns of one table. -/
  | wildcard (qualifier : List Ident)
  /-- An argument by name. -/
  | named (name : Ident) (joint : Joint) (value : Argument)

/-- A query with the clauses around its body. -/
structure Query where
  /-- Whether the queries named before the body may name themselves. -/
  isRecursive : Bool := false
  bindings : List Binding := []
  body : Body
  order : List Ordering := []
  limit : Option Limit := none
  fetch : Option Fetch := none
  locks : List Lock := []
  /-- The document that the rows are written as. -/
  output : Option String := none

/-- A query named by `WITH`. -/
structure Binding where
  name : Ident
  columns : List ColumnLabel
  query : Query
  source : Option Ident

/-- What a query yields its rows from. -/
inductive Body where
  | select (parts : Select)
  /-- Rows that are listed, under `VALUES` or `VALUE` and each with the word `ROW` or not. -/
  | values (short explicit : Bool) (rows : List (List Expr))
  /-- A query in parentheses. -/
  | nested (query : Query)
  | combined (left : Body) (op : SetOp) (mode : SetMode) (right : Body)
  /-- All rows of a table, by the bodies of its names. -/
  | table (schema : Option String) (name : String)
  /-- A statement that changes data and stands where a query may, as it is written. -/
  | change (text : String)

/-- A `SELECT`, clause by clause. -/
structure Select where
  /-- What stands before the items, such as `DISTINCT`. -/
  lead : List String := []
  items : List SelectItem
  /-- The table that the rows go to. -/
  into : Option String := none
  tables : List Joined := []
  /-- The tables that are computed from each row. -/
  views : List String := []
  condition : Option Expr := none
  /-- Whether the rows are grouped by all columns that can be grouped by. -/
  groupAll : Bool := false
  groups : List Expr := []
  /-- The sets of columns that the rows are grouped by. -/
  groupSets : List (List Expr) := []
  /-- How the rows are spread and sorted. -/
  spread : List String := []
  having : Option Expr := none
  /-- The named windows, and what the rows have to satisfy in them. -/
  windows : List String := []

/-- One item of a `SELECT` list. -/
inductive SelectItem where
  | value (value : Expr) (label : Option Ident)
  | wildcard (qualifier : List Ident)

/-- A table and those that are joined to it. -/
structure Joined where
  table : Table
  joins : List Join

/-- A table that is joined to those before it. -/
structure Join where
  /-- Whether the word `GLOBAL` stands before it. -/
  isGlobal : Bool
  kind : JoinKind
  table : Table
  /-- What has to hold of the nearest rows. -/
  nearest : Option Expr := none
  natural : Bool := false
  on : Option Expr := none
  columns : List (List Ident) := []

/-- A table that a query reads from. -/
inductive Table where
  | named (name : List Ident) (partitions : List Ident) (arguments : Option (List Argument))
      (ordinality : Bool) (label : Option TableLabel) (hints : List String)
  | derived (lateral : Bool) (query : Query) (label : Option TableLabel)
  /-- A function that yields rows for each row of the tables before it. -/
  | computed (name : List Ident) (arguments : List Argument) (label : Option TableLabel)
  /-- The rows that an expression yields. -/
  | ofExpr (value : Expr) (label : Option TableLabel)
  /-- Joined tables in parentheses. -/
  | joined (content : Joined) (label : Option TableLabel)
  /-- Rows taken out of a document, or turned tables, as they are written. -/
  | special (text : String) (label : Option TableLabel)

/-- One item of an `ORDER BY` list. -/
structure Ordering where
  key : Expr
  /-- `ASC` (`true`) or `DESC`, where it is said. -/
  ascending : Option Bool := none
  nullsFirst : Option Bool := none

/-- How many rows are wanted, and how many are passed over first. -/
inductive Limit where
  /-- `LIMIT count OFFSET skipped`, either part of which may be missing, with the word behind the second. -/
  | words (count skipped : Option Expr) (unit : Option String)
  /-- `LIMIT skipped, count`. -/
  | comma (skipped count : Expr)

end

end InsertPivot.Sql
