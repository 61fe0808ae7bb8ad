import InsertPivot.Fragment
import InsertPivot.Heading
import InsertPivot.Insert.Format
import InsertPivot.Refusal

/-!
# Converting a text

A converter brings the statements of a text into one form and copies the rest. Each statement fragment is
converted by itself: its heading is completed, its statements are read, brought into the wanted form and
written, with a semicolon behind each. So what a fragment contributes to the result depends on that fragment
alone.

What the converter knows of the language is its `Codec`, a reader and a writer. A statement that cannot be
converted either refuses the whole text, and then the first such statement says why, or is copied.
-/

namespace InsertPivot

/-- A reader of statements and a writer of one statement. -/
structure Codec where
  parse : String → Except ReadFault (List Insert)
  format : Insert → String

namespace Codec

/-- The codec that reads and writes the language, in a format. -/
def standard (format : Format) : Codec where
  parse := readInserts
  format := (·.text format)

/-- A codec that refuses statements on any table that is not listed. -/
def onlyTables (codec : Codec) (tables : List String) : Codec where
  parse text := do
    let statements ← codec.parse text
    match statements.find? fun s => !tables.contains s.tableName with
    | none => return statements
    | some s => throw (.codec ("unknown table \x60" ++ s.tableName ++ "\x60"))
  format := codec.format

end Codec

/-- What becomes of a statement that cannot be converted. -/
inductive FailurePolicy where
  /-- The whole text is refused. -/
  | abort
  /-- The statement is copied. -/
  | skip
deriving DecidableEq, Repr

/-- What brings the statements of a text into one form. -/
structure Converter where
  codec : Codec
  policy : FailurePolicy := .abort

namespace Converter

/-- The statements of a fragment, in the wanted form. -/
def attempt (c : Converter) (direction : Direction) (fragment : String) :
    Except Refusal (List Insert) := do
  let statements ← (c.codec.parse (Heading.complete fragment)).mapError .read
  (direction.apply statements).mapError .form

/-- Statements as they are written in place of a fragment. -/
def written (c : Converter) (statements : List Insert) : String :=
  ";\n".intercalate (statements.map c.codec.format) ++ ";"

/-- What a fragment contributes to the converted text. -/
def contribution (c : Converter) (direction : Direction) : Fragment → Except Refusal String
  | .passthrough text => .ok text
  | .statement text =>
    match c.attempt direction text, c.policy with
    | .ok statements, _ => .ok (c.written statements)
    | .error _, .skip => .ok text
    | .error refusal, .abort => .error refusal

/-- A text with its statements in the wanted form. -/
def convert (c : Converter) (text : String) (direction : Direction) : Except Refusal String := do
  return String.join (← (Fragment.split text).mapM (c.contribution direction))

/-- The converted statements that a fragment holds. -/
def held (c : Converter) (direction : Direction) : Fragment → Except Refusal (List Insert)
  | .passthrough _ => .ok []
  | .statement text =>
    match c.attempt direction text, c.policy with
    | .ok statements, _ => .ok statements
    | .error _, .skip => .ok []
    | .error refusal, .abort => .error refusal

/-- The statements of a text in the wanted form, without those that are skipped. -/
def statements (c : Converter) (text : String) (direction : Direction) :
    Except Refusal (List Insert) := do
  return (← (Fragment.split text).mapM (c.held direction)).flatten

end Converter

end InsertPivot
