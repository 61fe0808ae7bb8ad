/-!
# Character classes written as ranges

A class of characters is kept the way the Unicode character database prints one: hexadecimal code
points and inclusive ranges of them, in ascending order, with blanks between them. `Ranges.ofLines`
reads that notation once and `Ranges.contains` looks a character up.

ASCII never consults a table. Each class that is built on one decides its ASCII members by a test of
its own, so that a statement about ASCII text does not depend on reading a table.
-/

namespace InsertPivot.Text

/-- A set of code points, as inclusive ranges. -/
structure Ranges where
  spans : List (Nat × Nat)

namespace Ranges

/-- The value of a hexadecimal digit; zero for anything else. -/
def digitValue (c : Char) : Nat :=
  if c.isDigit then c.toNat - 0x30
  else if c.isLower then c.toNat - 0x57
  else 0

/-- The value of a hexadecimal number. -/
def hexValue (digits : List Char) : Nat :=
  digits.foldl (fun n c => n * 16 + digitValue c) 0

/-- One range: `41-5a` is an interval, `aa` a single code point. -/
def ofWord (word : List Char) : Nat × Nat :=
  match word.span (· ≠ '-') with
  | (low, []) => (hexValue low, hexValue low)
  | (low, _ :: high) => (hexValue low, hexValue high)

/-- The words of a text, which are separated by single blanks. -/
def words : List Char → List (List Char)
  | [] => [[]]
  | c :: rest =>
    match words rest with
    | [] => [[c]]
    | word :: more => if c = ' ' then [] :: word :: more else (c :: word) :: more

/-- The ranges that lines in the notation of this module list. -/
def ofLines (lines : List String) : Ranges :=
  ⟨(lines.flatMap fun line => words line.toList).map ofWord⟩

/-- Whether a character lies in one of the ranges. -/
def contains (ranges : Ranges) (c : Char) : Bool :=
  ranges.spans.any fun (low, high) => low ≤ c.toNat && c.toNat ≤ high

end Ranges

/-- What all characters of a list have is decided along the list, also where an instance is at hand that goes through
all characters there are. -/
instance (priority := 2000) decidableForallMem (p : Char → Prop) [DecidablePred p] (cs : List Char) :
    Decidable (∀ c ∈ cs, p c) :=
  List.decidableBAll p cs

end InsertPivot.Text
