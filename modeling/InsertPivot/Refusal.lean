import InsertPivot.Insert.Form
import InsertPivot.Insert.Narrow
import InsertPivot.Text.Bytes

/-!
# Why a conversion is refused

The causes for which a text, or the part of a document that is to be converted, is left as it is.
-/

namespace InsertPivot

/-- Why a conversion is refused. -/
inductive Refusal where
  /-- A statement cannot be brought into the wanted form. -/
  | form (fault : FormFault)
  /-- There is no document. -/
  | noTarget
  /-- The selection addresses no part of the document, which has this many bytes. -/
  | invalidSelection (selection : Text.ByteRange) (size : Nat)
  /-- A statement cannot be read. -/
  | read (fault : ReadFault)
deriving DecidableEq, Repr

/-- The message of a fault. -/
def FormFault.message : FormFault → String
  | missingColumns table =>
    "INSERT into \x60" ++ table ++ "\x60 has no column list; cannot convert to SET form"
  | columnCountMismatch table columns values =>
    "INSERT into \x60" ++ table ++ "\x60 lists " ++ toString columns ++
      " columns but its first row has " ++ toString values ++ " values"

namespace Refusal

/-- The message of a refusal. -/
def message : Refusal → String
  | form fault => fault.message
  | noTarget => "No active editing context"
  | invalidSelection selection size =>
    "Selection " ++ selection.message ++ " is not a valid range of a " ++ toString size ++ "-byte document"
  | read fault => fault.message

end Refusal

end InsertPivot
