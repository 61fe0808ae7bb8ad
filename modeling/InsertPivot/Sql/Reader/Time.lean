import InsertPivot.Sql.Reader.DataType
import InsertPivot.Sql.Reader.Nested

/-!
# Reading units of time

An interval is an amount and a unit, which may reach from one unit to a smaller one. More words name a part
of a time than can follow the amount of an interval.
-/

namespace InsertPivot.Sql.Reader

/-- The units that can follow the amount of an interval. -/
def intervalUnits : List String :=
  ["YEAR", "YEARS", "MONTH", "MONTHS", "WEEK", "WEEKS", "DAY", "DAYS", "HOUR", "HOURS", "MINUTE", "MINUTES",
    "SECOND", "SECONDS", "CENTURY", "DECADE", "DOW", "DOY", "EPOCH", "ISODOW", "ISOYEAR", "JULIAN",
    "MICROSECOND", "MICROSECONDS", "MILLENIUM", "MILLENNIUM", "MILLISECOND", "MILLISECONDS", "NANOSECOND",
    "NANOSECONDS", "QUARTER", "TIMEZONE", "TIMEZONE_HOUR", "TIMEZONE_MINUTE"]

/-- The words for a part of a time. -/
def timeFields : List String :=
  intervalUnits ++
    ["DATE", "DATETIME", "TIME", "DAYOFWEEK", "DAYOFYEAR", "ISOWEEK", "TIMEZONE_ABBR", "TIMEZONE_REGION"]

/-- A part of a time. -/
def timeField : Reader String := do
  match ← oneOf? timeFields with
  | some field => return field
  | none => expected "date/time field"

/-- What may follow the leading unit of an interval. Seconds have no smaller unit, and so their two
precisions stand together. -/
def restOfUnit (leading : String) : Reader IntervalUnit := do
  if leading = "SECOND" then
    let sizes ← inOptionalParens do
      let precision ← wholeNumber
      return (precision, ← if ← acceptSymbol .comma then some <$> wholeNumber else pure none)
    return { leading, precision := sizes.map (·.1), fraction := sizes.bind (·.2) }
  else
    let precision ← optionalPrecision
    match ← behindKeyword "TO" timeField with
    | none => return { leading, precision }
    | some last =>
      let fraction ← if last = "SECOND" then optionalPrecision else pure none
      return { leading, precision, last := some last, fraction }

/-- An interval, after its keyword. -/
def restOfInterval (inner : Nested) : Reader Expr := do
  let amount ← inner.value
  match ← oneOf? intervalUnits with
  | none => throw (.noUnit (← place?))
  | some leading => return .interval amount (← restOfUnit leading)

end InsertPivot.Sql.Reader
