import InsertPivot.Text.Bytes
import InsertPivot.Text.Decimal

/-!
# Ranges on the command line

A range is written `START..END`. Both ends are byte offsets in decimal, and white space around them does not
matter. The text is cut at its first `..`. Of several faults the missing `..` is named first, then a fault of
the start, then one of the end, and each message shows the part as it was written.
-/

namespace InsertPivot.Command

/-- The characters that are white space. -/
def isWhite (c : Char) : Bool :=
  let n := c.toNat
  (0x09 ≤ n && n ≤ 0x0d) || n = 0x20 || n = 0x85 || n = 0xa0 || n = 0x1680 ||
    (0x2000 ≤ n && n ≤ 0x200a) || n = 0x2028 || n = 0x2029 || n = 0x202f || n = 0x205f || n = 0x3000

/-- A text without the white space at its ends. -/
def trimmed (cs : List Char) : List Char :=
  ((cs.dropWhile isWhite).reverse.dropWhile isWhite).reverse

/-- The first number that is too large to be an offset. -/
def offsetBound : Nat := Text.bitBound 64

/-- Why a text is no range. Each part is shown as it was written. -/
inductive RangeFault where
  | noDots (value : String)
  | start (part : String) (fault : Text.DecimalFault)
  | stop (part : String) (fault : Text.DecimalFault)
deriving DecidableEq, Repr

/-- The message of a fault. -/
def RangeFault.message : RangeFault → String
  | noDots value => "expected START..END, got \x60" ++ value ++ "\x60"
  | start part fault => "invalid start \x60" ++ part ++ "\x60: " ++ fault.message
  | stop part fault => "invalid end \x60" ++ part ++ "\x60: " ++ fault.message

/-- A text cut at its first pair of dots. -/
def cutAtDots? : List Char → Option (List Char × List Char)
  | [] => none
  | c :: cs =>
    if c = '.' && cs.head? = some '.' then some ([], cs.tail)
    else (cutAtDots? cs).map fun (before, after) => (c :: before, after)

/-- The range that a text is. -/
def parseRange (value : String) : Except RangeFault Text.ByteRange :=
  match cutAtDots? value.toList with
  | none => .error (.noDots value)
  | some (before, after) =>
    match Text.decimal offsetBound (trimmed before), Text.decimal offsetBound (trimmed after) with
    | .error fault, _ => .error (.start (String.ofList before) fault)
    | .ok _, .error fault => .error (.stop (String.ofList after) fault)
    | .ok start, .ok stop => .ok ⟨start, stop⟩

end InsertPivot.Command
