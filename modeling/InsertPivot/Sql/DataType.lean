import InsertPivot.Sql.Ident
import InsertPivot.Sql.Layout

/-!
# Types

The types that a value can be brought into. A type of the language has a fixed name, perhaps a size in
parentheses, and perhaps words behind it, such as `UNSIGNED`. Every other name is a type of its own, whose
parentheses may hold anything.
-/

namespace InsertPivot.Sql

/-- What the length of a text is counted in. -/
inductive LengthUnit where
  | characters
  | octets
deriving DecidableEq, Repr

/-- What stands in the parentheses of a type. -/
inductive TypeSize where
  /-- A length, width or precision. -/
  | count (n : Nat)
  /-- A number of digits, and how many of them stand behind the point. -/
  | digits (precision : Nat) (scale : Int)
  /-- A length with the unit that it is counted in. -/
  | length (n : Nat) (unit : LengthUnit)
  /-- No bound at all. -/
  | unbounded
  /-- A precision and the name of a time zone. -/
  | zoned (precision : Nat) (zone : String)
deriving DecidableEq, Repr

/-- One value of an enumeration, and the number that stands for it where one is given. -/
structure EnumMember where
  body : String
  number : Option String
deriving DecidableEq, Repr

/-- A type. -/
inductive DataType where
  /-- A type of the language: its name, its size, and the words behind it. -/
  | standard (name : String) (size : Option TypeSize := none) (suffix : Option String := none)
  /-- One of some values, held in so many bits where their number is given. -/
  | enumeration (bits : Option Nat) (members : List EnumMember)
  /-- Any of some values at once. -/
  | set (members : List String)
  | array (element : DataType)
  /-- The rows of a table, with the columns as they are written. -/
  | table (columns : Option String)
  /-- Any other name, with what stands between its parentheses. -/
  | custom (name : List Ident) (modifiers : List String := [])
deriving DecidableEq, Repr

/-- The word for a unit of length. -/
def LengthUnit.text : LengthUnit → String
  | characters => "CHARACTERS"
  | octets => "OCTETS"

/-- The size of a type, without its parentheses. -/
def TypeSize.text : TypeSize → String
  | count n => toString n
  | digits precision scale => toString precision ++ "," ++ toString scale
  | length n unit => toString n ++ " " ++ unit.text
  | unbounded => "MAX"
  | zoned precision zone => toString precision ++ ", " ++ enclose '\x27' zone

/-- A value of an enumeration as it is written. -/
def EnumMember.text (member : EnumMember) : String :=
  enclose '\x27' member.body ++ behind " = " member.number

/-- A type as it is written. -/
def DataType.text : DataType → String
  | standard name size suffix => name ++ behind "" (size.map (parenthesized ·.text)) ++ behind " " suffix
  | enumeration bits members =>
    "ENUM" ++ behind "" (bits.map toString) ++ parenthesized (commas (members.map EnumMember.text))
  | set members => "SET" ++ parenthesized (commas (members.map (enclose '\x27')))
  | array element => "ARRAY<" ++ element.text ++ ">"
  | table columns => "TABLE" ++ behind "" (columns.map parenthesized)
  | custom name [] => dotted name
  | custom name modifiers => dotted name ++ parenthesized (commas modifiers)

end InsertPivot.Sql
