import InsertPivot.Text.Decimal

/-!
# Numbers in decimal

A number is read digit by digit, and given up at the first digit that makes it too large. Here it is told which
texts are numbers, apart from how one is read: digits, at least one and as many as one likes, perhaps behind a plus
sign (`IsDecimal`). A text is read as a number below a bound exactly where it is one.

A further digit makes no number smaller (`le_ofDigitChars`). So some of the digits make a number too large only
where all of them do, and zeros before a number cost nothing. Where a text is no number below the bound, the fault
is the first in it (`Breaks`): a character that is no digit, behind digits that are small enough, or digits that
are not, whatever stands behind these.
-/

namespace InsertPivot.Text

variable {bound value n : Nat} {c : Char} {cs digits rest : List Char} {fault : DecimalFault}

/-! ## Digits -/

/-- Whether a text consists of digits. -/
def AreDigits (cs : List Char) : Prop :=
  ∀ c ∈ cs, c.isDigit

/-- What is wrong first with digits that go on from a number and are to stay below a bound: behind some of them
stands no digit, or some of them make the number too large. -/
inductive Breaks (bound value : Nat) (cs : List Char) : DecimalFault → Prop where
  | invalidDigit (digits rest : List Char) (c : Char) :
      cs = digits ++ c :: rest → AreDigits digits → Nat.ofDigitChars 10 digits value < bound → ¬ c.isDigit →
        Breaks bound value cs .invalidDigit
  | tooLarge (digits rest : List Char) :
      cs = digits ++ rest → AreDigits digits → bound ≤ Nat.ofDigitChars 10 digits value →
        Breaks bound value cs .tooLarge

theorem areDigits_nil : AreDigits [] := fun _ h => absurd h List.not_mem_nil

theorem areDigits_cons_iff : AreDigits (c :: cs) ↔ c.isDigit ∧ AreDigits cs := List.forall_mem_cons

/-- Zeros in front of the digits of a number are digits. -/
theorem areDigits_zeros (zeros n : Nat) : AreDigits (List.replicate zeros '0' ++ Nat.toDigits 10 n) := by
  intro c hc
  obtain hzero | hdigit := List.mem_append.mp hc
  · rw [List.eq_of_mem_replicate hzero]
    decide
  · exact Nat.isDigit_of_mem_toDigits (by decide) (by decide) hdigit

/-- Further digits make no number smaller. -/
theorem le_ofDigitChars (cs : List Char) (value : Nat) : value ≤ Nat.ofDigitChars 10 cs value := by
  induction cs generalizing value with
  | nil => exact Nat.le_refl _
  | cons c cs ih =>
    have hstep : value ≤ 10 * value + (c.toNat - 0x30) := by omega
    exact Nat.le_trans hstep (ih _)

/-- A digit is read if the number does not reach the bound with it. -/
theorem decimalFrom_digit (hdigit : c.isDigit) :
    decimalFrom bound value (c :: cs) =
      if Nat.ofDigitChars 10 [c] value < bound then decimalFrom bound (Nat.ofDigitChars 10 [c] value) cs
      else .error .tooLarge :=
  if_pos hdigit

/-- Anything but a digit ends the reading. -/
theorem decimalFrom_of_not_digit (hdigit : ¬ c.isDigit) :
    decimalFrom bound value (c :: cs) = .error .invalidDigit :=
  if_neg hdigit

/-- Digits that make a number below the bound are read, and reading goes on from that number. -/
theorem decimalFrom_append (hdigits : AreDigits digits) (hlt : Nat.ofDigitChars 10 digits value < bound) :
    decimalFrom bound value (digits ++ rest) = decimalFrom bound (Nat.ofDigitChars 10 digits value) rest := by
  induction digits generalizing value with
  | nil => rfl
  | cons d digits ih =>
    obtain ⟨hd, hdigits⟩ := areDigits_cons_iff.mp hdigits
    have hnext : Nat.ofDigitChars 10 [d] value < bound := Nat.lt_of_le_of_lt (le_ofDigitChars digits _) hlt
    rw [List.cons_append, decimalFrom_digit hd, if_pos hnext]
    exact ih hdigits hlt

/-- Digits that make too large a number are not read to their end. -/
theorem decimalFrom_append_of_le (hvalue : value < bound) (hdigits : AreDigits digits)
    (hle : bound ≤ Nat.ofDigitChars 10 digits value) :
    decimalFrom bound value (digits ++ rest) = .error .tooLarge := by
  induction digits generalizing value with
  | nil => exact absurd hvalue (Nat.not_lt.mpr hle)
  | cons d digits ih =>
    obtain ⟨hd, hdigits⟩ := areDigits_cons_iff.mp hdigits
    rw [List.cons_append, decimalFrom_digit hd]
    split
    next hnext => exact ih hnext hdigits hle
    next => rfl

/-- Digits whose value is below the bound are read. -/
theorem decimalFrom_of_areDigits (hdigits : AreDigits cs) (hlt : Nat.ofDigitChars 10 cs value < bound) :
    decimalFrom bound value cs = .ok (Nat.ofDigitChars 10 cs value) := by
  have hread : decimalFrom bound value (cs ++ []) = .ok (Nat.ofDigitChars 10 cs value) := decimalFrom_append hdigits hlt
  rwa [List.append_nil] at hread

namespace Breaks

/-- A text that breaks off is refused with what it breaks off for. -/
theorem decimalFrom_eq (hvalue : value < bound) (h : Breaks bound value cs fault) :
    decimalFrom bound value cs = .error fault := by
  cases h with
  | invalidDigit digits rest c heq hdigits hlt hc =>
    rw [heq, decimalFrom_append hdigits hlt, decimalFrom_of_not_digit hc]
  | tooLarge digits rest heq hdigits hle => rw [heq, decimalFrom_append_of_le hvalue hdigits hle]

/-- A digit in front does not change for what a text breaks off. -/
theorem cons (hdigit : c.isDigit) (h : Breaks bound (Nat.ofDigitChars 10 [c] value) cs fault) :
    Breaks bound value (c :: cs) fault := by
  cases h with
  | invalidDigit digits rest d heq hdigits hlt hd =>
    exact .invalidDigit (c :: digits) rest d (congrArg (c :: ·) heq) (areDigits_cons_iff.mpr ⟨hdigit, hdigits⟩) hlt hd
  | tooLarge digits rest heq hdigits hle =>
    exact .tooLarge (c :: digits) rest (congrArg (c :: ·) heq) (areDigits_cons_iff.mpr ⟨hdigit, hdigits⟩) hle

end Breaks

/-- A text consists of digits that make a number below the bound, or something is wrong with it. -/
theorem areDigits_or_breaks (cs : List Char) (hvalue : value < bound) :
    (AreDigits cs ∧ Nat.ofDigitChars 10 cs value < bound) ∨ ∃ fault, Breaks bound value cs fault := by
  induction cs generalizing value with
  | nil => exact .inl ⟨areDigits_nil, hvalue⟩
  | cons c cs ih =>
    by_cases hdigit : c.isDigit
    · by_cases hnext : Nat.ofDigitChars 10 [c] value < bound
      · obtain ⟨hdigits, hlt⟩ | ⟨fault, hfault⟩ := ih hnext
        · exact .inl ⟨areDigits_cons_iff.mpr ⟨hdigit, hdigits⟩, hlt⟩
        · exact .inr ⟨fault, hfault.cons hdigit⟩
      -- the first digit that is too much ends it, whatever stands behind
      · exact .inr ⟨_, .tooLarge [c] cs rfl (areDigits_cons_iff.mpr ⟨hdigit, areDigits_nil⟩) (Nat.not_lt.mp hnext)⟩
    · exact .inr ⟨_, .invalidDigit [] cs c rfl areDigits_nil hvalue hdigit⟩

/-- A text is read if and only if it consists of digits and their value is below the bound. -/
theorem decimalFrom_eq_ok_iff (hvalue : value < bound) :
    decimalFrom bound value cs = .ok n ↔ AreDigits cs ∧ Nat.ofDigitChars 10 cs value = n ∧ n < bound := by
  constructor
  · intro h
    obtain ⟨hdigits, hlt⟩ | ⟨fault, hfault⟩ := areDigits_or_breaks cs hvalue
    · rw [decimalFrom_of_areDigits hdigits hlt] at h
      cases h
      exact ⟨hdigits, rfl, hlt⟩
    · rw [hfault.decimalFrom_eq hvalue] at h
      cases h
  · rintro ⟨hdigits, rfl, hlt⟩
    exact decimalFrom_of_areDigits hdigits hlt

/-- A text is refused if and only if it breaks off. -/
theorem decimalFrom_eq_error_iff (hvalue : value < bound) :
    decimalFrom bound value cs = .error fault ↔ Breaks bound value cs fault := by
  constructor
  · intro h
    obtain ⟨hdigits, hlt⟩ | ⟨fault', hfault⟩ := areDigits_or_breaks cs hvalue
    · rw [decimalFrom_of_areDigits hdigits hlt] at h
      cases h
    · rw [hfault.decimalFrom_eq hvalue] at h
      cases h
      exact hfault
  · exact Breaks.decimalFrom_eq hvalue

/-! ## Numbers -/

/-- Whether a text is a number in decimal: digits, at least one, perhaps behind a plus sign. -/
def IsDecimal (cs : List Char) (n : Nat) : Prop :=
  ∃ digits, (cs = digits ∨ cs = '+' :: digits) ∧ digits ≠ [] ∧ AreDigits digits ∧ Nat.ofDigitChars 10 digits 0 = n

/-- A text without the plus sign before it. One that stands alone is before nothing, and stays. -/
def unsigned : List Char → List Char
  | '+' :: c :: cs => c :: cs
  | cs => cs

/-- What is wrong first with a text that is no number below a bound: there is nothing, or something is wrong with the
digits behind the sign. -/
inductive Flawed (bound : Nat) (cs : List Char) : DecimalFault → Prop where
  | empty : cs = [] → Flawed bound cs .empty
  | digits {fault : DecimalFault} : Breaks bound 0 (unsigned cs) fault → Flawed bound cs fault

/-- A text that is not empty is read behind its sign. -/
theorem decimal_eq (hne : cs ≠ []) : decimal bound cs = decimalFrom bound 0 (unsigned cs) := by
  fun_cases decimal bound cs with
  | case1 => exact absurd rfl hne
  | case2 => exact (decimalFrom_of_not_digit (by decide)).symm
  | case3 digits hdigits =>
    cases digits with
    | nil => exact absurd rfl hdigits
    | cons c cs => rfl
  | case4 _ _ _ hsign =>
    rw [unsigned]
    rintro c cs rfl
    exact hsign _ rfl

/-- Digits have no sign in front of them. -/
theorem unsigned_of_areDigits (hdigits : AreDigits cs) : unsigned cs = cs := by
  fun_cases unsigned cs with
  | case1 c cs => exact absurd (areDigits_cons_iff.mp hdigits).1 (by decide)
  | case2 => rfl

/-- A numeral is some digits, perhaps behind a sign. -/
theorem isDecimal_iff : IsDecimal cs n ↔
    cs ≠ [] ∧ AreDigits (unsigned cs) ∧ Nat.ofDigitChars 10 (unsigned cs) 0 = n := by
  constructor
  · rintro ⟨digits, rfl | rfl, hne, hdigits, rfl⟩
    · rw [unsigned_of_areDigits hdigits]
      exact ⟨hne, hdigits, rfl⟩
    · cases digits with
      | nil => exact absurd rfl hne
      | cons c digits => exact ⟨List.cons_ne_nil _ _, hdigits, rfl⟩
  · rintro ⟨hne, hdigits, rfl⟩
    refine ⟨unsigned cs, ?_, ?_, hdigits, rfl⟩
    · fun_cases unsigned cs with
      | case1 c cs => exact .inr rfl
      | case2 => exact .inl rfl
    · fun_cases unsigned cs with
      | case1 c cs => exact List.cons_ne_nil _ _
      | case2 => exact hne

/-- A text is read as a number below a bound exactly where it is one, however many digits it has. -/
theorem decimal_eq_ok_iff (hbound : 0 < bound) : decimal bound cs = .ok n ↔ IsDecimal cs n ∧ n < bound := by
  rw [isDecimal_iff]
  by_cases hne : cs = []
  · subst hne
    simp [decimal]
  · rw [decimal_eq hne, decimalFrom_eq_ok_iff hbound]
    simp only [hne, ne_eq, not_false_eq_true, true_and, and_assoc]

/-- A text is refused if and only if it has a flaw, and with that one. -/
theorem decimal_eq_error_iff (hbound : 0 < bound) : decimal bound cs = .error fault ↔ Flawed bound cs fault := by
  by_cases hne : cs = []
  · subst hne
    constructor
    · rintro ⟨⟩
      exact .empty rfl
    · rintro (- | hbreaks)
      · rfl
      · exact absurd (hbreaks.decimalFrom_eq hbound) (by simp [unsigned, decimalFrom])
  · rw [decimal_eq hne, decimalFrom_eq_error_iff hbound]
    constructor
    · exact .digits
    · rintro (hempty | hbreaks)
      · exact absurd hempty hne
      · exact hbreaks

/-- The decimal text of a number is that number, with any number of zeros before it. -/
theorem isDecimal_zeros (zeros n : Nat) : IsDecimal (List.replicate zeros '0' ++ Nat.toDigits 10 n) n := by
  refine ⟨_, .inl rfl, ?_, areDigits_zeros zeros n, ?_⟩
  · exact List.append_ne_nil_of_right_ne_nil _ Nat.toDigits_ne_nil
  · rw [Nat.ofDigitChars_append, Nat.ofDigitChars_replicate_zero, Nat.mul_zero, Nat.ofDigitChars_ten_toDigits]

end InsertPivot.Text
