import InsertPivot.Sql.Ident

/-!
# Literals

A literal keeps its text as it was written: numbers are never evaluated, and the body of a string keeps
its escapes. A hexadecimal literal is written `X'..'` however it was read.
-/

namespace InsertPivot.Sql

/-- A literal value. -/
inductive Literal where
  | null
  | boolean (value : Bool)
  /-- A number as it was written, and whether an `L` follows it. -/
  | number (text : String) (long : Bool)
  /-- A string in single quotes, with its body as written. -/
  | single (body : String)
  /-- A string in double quotes, with its body as written. -/
  | double (body : String)
  | hex (digits : String)
  | bits (body : String)
  | bitsDouble (body : String)
  | national (body : String)
  /-- A place for a value that is bound later, such as `?` or `:name`. -/
  | placeholder (text : String)
deriving DecidableEq, Repr

namespace Literal

/-- A literal as it is written. -/
def text : Literal → String
  | null => "NULL"
  | boolean value => if value then "true" else "false"
  | number text long => if long then text ++ "L" else text
  | single body => enclose '\x27' body
  | double body => enclose '\x22' body
  | hex digits => "X\x27" ++ digits ++ "\x27"
  | bits body => "B\x27" ++ body ++ "\x27"
  | bitsDouble body => "B\x22" ++ body ++ "\x22"
  | national body => "N\x27" ++ body ++ "\x27"
  | placeholder text => text

end Literal

end InsertPivot.Sql
