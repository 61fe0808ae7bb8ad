/-!
# Decimal numbers

Whole numbers in decimal, below a bound. A text is read from its first digit to its last, so of two faults
the first one in the text counts, and leading zeros never make a number too large.
-/

namespace InsertPivot.Text

/-- The first number that takes more than so many bits. -/
def bitBound (bits : Nat) : Nat :=
  Nat.pow 2 bits

/-- Why a text is no whole number. -/
inductive DecimalFault where
  | empty
  | invalidDigit
  | tooLarge
deriving DecidableEq, Repr

/-- The message of a fault. -/
def DecimalFault.message : DecimalFault → String
  | empty => "cannot parse integer from empty string"
  | invalidDigit => "invalid digit found in string"
  | tooLarge => "number too large to fit in target type"

/-- The number below a bound whose digits so far make `value` and go on with some characters. -/
def decimalFrom (bound value : Nat) : List Char → Except DecimalFault Nat
  | [] => .ok value
  | c :: cs =>
    if c.isDigit then
      let next := 10 * value + (c.toNat - 0x30)
      if next < bound then decimalFrom bound next cs else .error .tooLarge
    else .error .invalidDigit

/-- The number below a bound that a text is: digits, perhaps behind a plus sign. -/
def decimal (bound : Nat) : List Char → Except DecimalFault Nat
  | [] => .error .empty
  | ['+'] => .error .invalidDigit
  | '+' :: digits => decimalFrom bound 0 digits
  | digits => decimalFrom bound 0 digits

end InsertPivot.Text
