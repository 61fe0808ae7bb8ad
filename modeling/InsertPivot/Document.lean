import InsertPivot.Converter

/-!
# Converting a document in place

A document has a text and may have a selection. `Document.run` converts what is selected, or the whole text
when nothing is, and puts the result in its place. The document is the state of a run, which stays when a
step is refused: an edit that was made before would not be taken back.

A `Buffer` selects what was last put into it. A `Recorder` keeps a list of its edits and leaves its selection
alone.
-/

namespace InsertPivot

open Text (ByteRange)

/-- A text that can be edited. -/
class Document (δ : Type) where
  text : δ → String
  selection : δ → Option ByteRange
  /-- The document with a range of its text replaced. -/
  replace : δ → ByteRange → String → δ

/-- The number of bytes of a text. -/
def textSize (text : String) : Nat :=
  Text.byteSize text.toList

/-- A text with a range of it replaced; the text itself where the range addresses no part of it. -/
def spliced (text : String) (range : ByteRange) (new : String) : String :=
  match range.cut? text.toList with
  | some (before, _, after) => String.ofList before ++ new ++ String.ofList after
  | none => text

/-- The part of a text that a range addresses; nothing where it addresses none. -/
def slice? (text : String) (range : ByteRange) : Option String :=
  (range.cut? text.toList).map fun (_, covered, _) => String.ofList covered

/-- A document that selects what was last put into it. -/
structure Buffer where
  text : String
  selection : Option ByteRange := none
deriving DecidableEq, Repr

instance : Document Buffer where
  text := Buffer.text
  selection := Buffer.selection
  replace buffer range new :=
    ⟨spliced buffer.text range new, some ⟨range.start, range.start + textSize new⟩⟩

/-- A document that keeps a list of its edits. -/
structure Recorder where
  text : String
  selection : Option ByteRange := none
  edits : List (ByteRange × String) := []
deriving DecidableEq, Repr

instance : Document Recorder where
  text := Recorder.text
  selection := Recorder.selection
  replace recorder range new :=
    ⟨spliced recorder.text range new, recorder.selection, recorder.edits ++ [(range, new)]⟩

namespace Document

variable {δ : Type} [Document δ]

/-- The range that a conversion of a document is for: its selection, or all of it when the selection is
missing or empty. -/
def targetRange (document : δ) : Except Refusal ByteRange :=
  let size := textSize (text document)
  match selection document with
  | none => .ok ⟨0, size⟩
  | some range =>
    if range.start = range.stop && range.stop ≤ size then .ok ⟨0, size⟩
    else if (slice? (text document) range).isNone then .error (.invalidSelection range size)
    else .ok range

/-- The part of a document that a range addresses. -/
def part (document : δ) (range : ByteRange) : String :=
  (slice? (text document) range).getD ""

/-- Steps on a document, which keeps their edits when one of them is refused. -/
abbrev Edits (δ : Type) := ExceptT Refusal (StateM δ)

/-- Converts the target of the document, and answers with the range that the converted text has. -/
def rewrite (converter : Converter) (direction : Direction) : Edits δ ByteRange := do
  let document ← get
  let range ← ofExcept (targetRange document)
  let new ← ofExcept (converter.convert (part document range) direction)
  set (replace document range new)
  return ⟨range.start, range.start + textSize new⟩

/-- The answer of a conversion of a document, and the document that it leaves behind. -/
def rewritten (converter : Converter) (direction : Direction) (document : δ) :
    Except Refusal ByteRange × δ :=
  (rewrite converter direction).run.run document

/-- Converts the target of a document, if there is one. -/
def run (converter : Converter) (direction : Direction) :
    Option δ → Except Refusal ByteRange × Option δ
  | none => (.error .noTarget, none)
  | some document =>
    let (answer, left) := rewritten converter direction document
    (answer, some left)

end Document

end InsertPivot
