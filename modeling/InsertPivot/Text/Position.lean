/-!
# Positions in a text

A position is a line and a column, both counted from one, the column in characters. Only a line feed
starts a new line; a carriage return is a character of its line like any other.

A node that was built rather than read has no place in any text. Its span is `Span.none`, whose lines
and columns are all zero.
-/

namespace InsertPivot.Text

/-- A line and a column, counted from one. -/
structure Position where
  line : Nat
  column : Nat
deriving DecidableEq, Repr

namespace Position

/-- Where a text starts. -/
def start : Position := ⟨1, 1⟩

/-- The position after a character. -/
def after (p : Position) (c : Char) : Position :=
  if c = '\n' then ⟨p.line + 1, 1⟩ else ⟨p.line, p.column + 1⟩

/-- The position after some characters. -/
def afterAll (p : Position) (cs : List Char) : Position :=
  cs.foldl after p

/-- A position as a message gives it; the position of a node that was not read is not given. -/
def message (p : Position) : String :=
  if p.line = 0 then "" else s!" at Line: {p.line}, Column: {p.column}"

end Position

/-- From a token's first character to the character after its last. -/
structure Span where
  first : Position
  last : Position
deriving DecidableEq, Repr

namespace Span

/-- The span of what was not read from a text. -/
def none : Span := ⟨⟨0, 0⟩, ⟨0, 0⟩⟩

end Span

end InsertPivot.Text
