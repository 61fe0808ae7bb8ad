import InsertPivot.Document
import InsertPivot.Text.Quoted

/-!
# The log of a conversion

What a conversion reports besides its result: how many statements a fragment held, which rows and values a
`SET` form drops, which statements stay as they are, and what is replaced. The events follow from the text
and the converter alone, in the order of the text. A conversion that is refused reports what it did up to
the statement that it is refused for.
-/

namespace InsertPivot

/-- How much an event matters. -/
inductive LogLevel where
  | warn
  | info
  | debug
deriving DecidableEq, Repr

/-- Something that a conversion reports. -/
inductive Event where
  | parsed (statements : Nat) (direction : Direction)
  | rowsDropped (table : String) (count : Nat)
  | valuesDropped (table : String) (count : Nat)
  | leftUnconverted (refusal : Refusal) (statement : String)
  | replacing (range : Text.ByteRange) (size : Nat)
  | done (direction : Direction) (range : Text.ByteRange)
deriving DecidableEq, Repr

namespace LogLevel

/-- A level as log lines name it. -/
def label : LogLevel → String
  | warn => "WARN"
  | info => "INFO"
  | debug => "DEBUG"

/-- Whether events of a level are shown when the verbosity is this high. -/
def isShown (verbosity : Nat) : LogLevel → Bool
  | warn => true
  | info => 1 ≤ verbosity
  | debug => 2 ≤ verbosity

end LogLevel

namespace Event

/-- How much an event matters. -/
def level : Event → LogLevel
  | leftUnconverted _ _ => .warn
  | done _ _ => .info
  | _ => .debug

/-- The part of the program that reports an event. -/
def target : Event → String
  | parsed _ _ | leftUnconverted _ _ => "sql_insert_form::pipeline"
  | rowsDropped _ _ | valuesDropped _ _ => "sql_insert_form::convert"
  | replacing _ _ => "sql_insert_form::host"
  | done _ _ => "sql_insert_form"

/-- What an event says. -/
def message : Event → String
  | parsed statements direction =>
    "parsed statement fragment statements=" ++ toString statements ++ " direction=" ++ direction.label
  | rowsDropped table count =>
    "SET form holds a single row; extra VALUES rows dropped table=" ++ Text.quoted table ++
      " dropped=" ++ toString count
  | valuesDropped table count =>
    "values beyond the last column dropped table=" ++ Text.quoted table ++ " dropped=" ++ toString count
  | leftUnconverted refusal statement =>
    "leaving statement unconverted error=" ++ refusal.message ++ " statement=" ++ Text.quoted statement
  | replacing range size =>
    "replacing document span start=" ++ toString range.start ++ " end=" ++ toString range.stop ++
      " replacement=" ++ toString size
  | done direction range =>
    "conversion done direction=" ++ direction.label ++ " replaced=" ++ range.message

/-- An event as a log line. -/
def line (event : Event) : String :=
  event.level.label ++ " " ++ event.target ++ ": " ++ event.message

end Event

/-- What bringing a statement into `SET` form drops. -/
def Insert.dropEvents (statement : Insert) : List Event :=
  let (rows, values) := statement.droppedByToSet
  (if rows = 0 then [] else [.rowsDropped statement.tableName rows]) ++
    (if values = 0 then [] else [.valuesDropped statement.tableName values])

/-- What bringing statements into a form reports, up to the first that cannot be brought into it. -/
def Direction.events (direction : Direction) : List Insert → List Event
  | [] => []
  | statement :: rest =>
    match direction, statement.toSet with
    | .toValues, _ => []
    | .toSet, .error _ => []
    | .toSet, .ok _ => statement.dropEvents ++ direction.events rest

namespace Converter

/-- What the conversion of a fragment's statements reports. -/
def attemptEvents (c : Converter) (direction : Direction) (fragment : String) : List Event :=
  match c.codec.parse (Heading.complete fragment) with
  | .error _ => []
  | .ok statements => .parsed statements.length direction :: direction.events statements

/-- What the conversion of some fragments reports. -/
def fragmentEvents (c : Converter) (direction : Direction) : List Fragment → List Event
  | [] => []
  | .passthrough _ :: rest => c.fragmentEvents direction rest
  | .statement text :: rest =>
    c.attemptEvents direction text ++
      match c.attempt direction text, c.policy with
      | .ok _, _ => c.fragmentEvents direction rest
      | .error refusal, .skip => .leftUnconverted refusal text :: c.fragmentEvents direction rest
      | .error _, .abort => []

/-- What the conversion of a text reports. -/
def events (c : Converter) (text : String) (direction : Direction) : List Event :=
  c.fragmentEvents direction (Fragment.split text)

end Converter

/-- What the conversion of a document in place reports. -/
def Document.events {δ : Type} [Document δ] (converter : Converter) (direction : Direction)
    (document : δ) : List Event :=
  match targetRange document with
  | .error _ => []
  | .ok range =>
    let part := part document range
    converter.events part direction ++
      match converter.convert part direction with
      | .error _ => []
      | .ok new => [.replacing range (textSize new)]

end InsertPivot
