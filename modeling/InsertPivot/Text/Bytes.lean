/-!
# Byte offsets

A document addresses its text by byte offsets into its UTF-8 form. An offset can fall inside a character,
and then it addresses nothing: `splitAt?` answers only at the borders of characters, and `ByteRange.cut?`
only when both ends lie on such borders, in order.
-/

namespace InsertPivot.Text

/-- The number of bytes some characters take. -/
def byteSize (cs : List Char) : Nat :=
  cs.foldr (fun c size => c.utf8Size + size) 0

/-- The characters before a byte offset and those from it on. -/
def splitAt? (offset : Nat) : List Char → Option (List Char × List Char)
  | [] => if offset = 0 then some ([], []) else none
  | c :: cs =>
    if offset = 0 then some ([], c :: cs)
    else if offset < c.utf8Size then none
    else (splitAt? (offset - c.utf8Size) cs).map fun (before, after) => (c :: before, after)

/-- A half-open range of byte offsets, possibly reversed or beyond any text. -/
structure ByteRange where
  start : Nat
  stop : Nat
deriving DecidableEq, Repr

namespace ByteRange

/-- A text cut at both ends of a range: what precedes it, what it covers, and what follows. -/
def cut? (range : ByteRange) (cs : List Char) :
    Option (List Char × List Char × List Char) :=
  if range.start ≤ range.stop then do
    let (before, rest) ← splitAt? range.start cs
    let (covered, after) ← splitAt? (range.stop - range.start) rest
    pure (before, covered, after)
  else none

/-- A range as messages write it. -/
def message (range : ByteRange) : String :=
  s!"{range.start}..{range.stop}"

end ByteRange

end InsertPivot.Text
