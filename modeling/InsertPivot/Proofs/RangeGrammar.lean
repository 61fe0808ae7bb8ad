import InsertPivot.Command.Range
import InsertPivot.Proofs.Decimal
import Mathlib.Data.List.DropRight

/-!
# The grammar of ranges

Here it is told which texts are ranges, apart from how one is read. The first two dots that stand side by side part the
text in two, and more dots may follow (`FirstDots`). A part is an offset where it is a number below `2 ^ 64` with white
space around it, of as many digits as one likes (`IsOffset`).

Any other text is refused for one fault (`Blamed`): that there are no two dots, or else what is wrong with the part
before them, or else what is wrong with the part behind them.
-/

namespace InsertPivot.Command

open Text (AreDigits IsDecimal Flawed)

/-! ## White space -/

/-- The code points with the property *White_Space*. -/
def whiteSpace : List Nat :=
  [0x09, 0x0a, 0x0b, 0x0c, 0x0d, 0x20, 0x85, 0xa0, 0x1680, 0x2000, 0x2001, 0x2002, 0x2003, 0x2004, 0x2005, 0x2006,
    0x2007, 0x2008, 0x2009, 0x200a, 0x2028, 0x2029, 0x202f, 0x205f, 0x3000]

/-- Whether a text is another one with white space around it, which neither begins nor ends with white space. -/
structure Surrounds (cs core : List Char) : Prop where
  eq : ∃ leading trailing, cs = leading ++ core ++ trailing ∧ ∀ c ∈ leading ++ trailing, c.toNat ∈ whiteSpace
  first : ∀ c ∈ core.head?, c.toNat ∉ whiteSpace
  last : ∀ c ∈ core.getLast?, c.toNat ∉ whiteSpace

variable {cs core before behind : List Char} {c : Char}

/-- What counts as white space is a list of characters. -/
theorem isWhite_iff : isWhite c ↔ c.toNat ∈ whiteSpace := by
  simp only [isWhite, whiteSpace, Bool.or_eq_true, Bool.and_eq_true, decide_eq_true_eq, List.mem_cons,
    List.not_mem_nil, or_false]
  omega

/-- What is left by trimming has white space around it, and none at its ends. -/
theorem surrounds_trimmed (cs : List Char) : Surrounds cs (trimmed cs) := by
  set rest := cs.dropWhile isWhite with hrest
  have htrimmed : trimmed cs = rest.rdropWhile isWhite := rfl
  rw [htrimmed]
  refine ⟨⟨cs.takeWhile isWhite, rest.rtakeWhile isWhite, ?_, fun c hc => ?_⟩, fun c hc => ?_, fun c hc => ?_⟩
  · rw [List.append_assoc, List.rdropWhile_append_rtakeWhile, hrest, List.takeWhile_append_dropWhile]
  · rw [← isWhite_iff]
    obtain hc | hc := List.mem_append.mp hc
    · exact List.all_eq_true.mp List.all_takeWhile c hc
    · exact List.mem_rtakeWhile_imp hc
  · -- what is left begins as the text does without the white space before it
    rw [← isWhite_iff, Bool.not_eq_true]
    have hhead : rest.head? = some c := by
      obtain ⟨trailing, heq⟩ := List.rdropWhile_prefix isWhite rest
      rw [← heq, List.head?_append, hc, Option.some_or]
    simpa [hrest ▸ hhead] using List.head?_dropWhile_not isWhite cs
  · rw [← isWhite_iff]
    obtain ⟨hne, rfl⟩ := List.mem_getLast?_eq_getLast hc
    exact List.rdropWhile_last_not isWhite rest hne

/-- There is one way to take white space away that leaves none at the ends. -/
theorem Surrounds.trimmed_eq (h : Surrounds cs core) : trimmed cs = core := by
  obtain ⟨⟨leading, trailing, rfl, hwhite⟩, hfirst, hlast⟩ := h
  simp only [← isWhite_iff] at hwhite hfirst hlast
  have hleading : ∀ c ∈ leading, isWhite c := fun c hc => hwhite c (List.mem_append_left _ hc)
  have htrailing : ∀ c ∈ trailing, isWhite c := fun c hc => hwhite c (List.mem_append_right _ hc)
  have hstop (ds : List Char) (hhead : ∀ c ∈ ds.head?, ¬ isWhite c) : ds.dropWhile isWhite = ds := by
    cases ds with
    | nil => rfl
    | cons d ds => exact List.dropWhile_cons_of_neg (hhead d rfl)
  rw [trimmed, List.append_assoc, List.dropWhile_append_of_pos hleading]
  cases core with
  | nil =>
    rw [List.nil_append, List.dropWhile_eq_nil_iff.mpr htrailing]
    rfl
  | cons c core =>
    have hreversed : ∀ c ∈ trailing.reverse, isWhite c := fun c hc => htrailing c (List.mem_reverse.mp hc)
    rw [hstop (c :: core ++ trailing) hfirst, List.reverse_append, List.dropWhile_append_of_pos hreversed,
      hstop (c :: core).reverse (by rwa [List.head?_reverse]), List.reverse_reverse]

/-- Of all texts with white space around them, one is left by trimming. -/
theorem exists_surrounds_iff {p : List Char → Prop} : (∃ core, Surrounds cs core ∧ p core) ↔ p (trimmed cs) := by
  constructor
  · rintro ⟨core, hcore, h⟩
    rwa [hcore.trimmed_eq]
  · exact fun h => ⟨_, surrounds_trimmed cs, h⟩

/-! ## Dots -/

/-- Whether two dots stand between two parts of a text, and no two dots stand side by side before them. -/
structure FirstDots (text before behind : String) : Prop where
  text_eq : text = before ++ ".." ++ behind
  first : ∀ before' behind', text = before' ++ ".." ++ behind' → before.length ≤ before'.length

/-- Two texts with dots between them, told by their characters. -/
theorem eq_dots_iff {text before behind : String} :
    text = before ++ ".." ++ behind ↔ text.toList = before.toList ++ '.' :: '.' :: behind.toList := by
  rw [← String.toList_inj, String.toList_append, String.toList_append, List.append_assoc]
  rfl

/-- A cut at two dots leaves what stands before and behind them. -/
theorem eq_of_cutAtDots? (h : cutAtDots? cs = some (before, behind)) : cs = before ++ '.' :: '.' :: behind := by
  induction cs generalizing before with
  | nil => cases h
  | cons c cs ih =>
    rw [cutAtDots?] at h
    split at h
    next hdots =>
      cases h
      obtain ⟨rfl, hhead⟩ : c = '.' ∧ cs.head? = some '.' := by simpa using hdots
      rw [List.nil_append, List.cons_head?_tail hhead]
    next =>
      obtain ⟨⟨before', behind'⟩, hrest, heq⟩ := Option.map_eq_some_iff.mp h
      cases heq
      rw [ih hrest, List.cons_append]

/-- Where two dots stand side by side, a text is cut, and not behind them. -/
theorem exists_cutAtDots? (before behind : List Char) :
    ∃ before' behind', cutAtDots? (before ++ '.' :: '.' :: behind) = some (before', behind') ∧
      before'.length ≤ before.length := by
  induction before with
  | nil => exact ⟨[], behind, rfl, Nat.le_refl _⟩
  | cons c before ih =>
    rw [List.cons_append, cutAtDots?]
    split
    next => exact ⟨[], _, rfl, Nat.zero_le _⟩
    next =>
      obtain ⟨before', behind', hcut, hle⟩ := ih
      exact ⟨c :: before', behind', by rw [hcut]; rfl, Nat.succ_le_succ hle⟩

/-- No cut is made if and only if two dots stand nowhere. -/
theorem cutAtDots?_eq_none_iff {text : String} :
    cutAtDots? text.toList = none ↔ ∀ before behind, text ≠ before ++ ".." ++ behind := by
  constructor
  · intro h before behind heq
    obtain ⟨_, _, hcut, -⟩ := exists_cutAtDots? before.toList behind.toList
    rw [← eq_dots_iff.mp heq, h] at hcut
    cases hcut
  · intro h
    cases hcut : cutAtDots? text.toList with
    | none => rfl
    | some parts =>
      refine absurd (eq_dots_iff.mpr ?_) (h (String.ofList parts.1) (String.ofList parts.2))
      rw [String.toList_ofList, String.toList_ofList]
      exact eq_of_cutAtDots? hcut

/-- A cut is made at the first two dots. -/
theorem cutAtDots?_eq_some_iff {text before behind : String} :
    cutAtDots? text.toList = some (before.toList, behind.toList) ↔ FirstDots text before behind := by
  constructor
  · intro h
    refine ⟨eq_dots_iff.mpr (eq_of_cutAtDots? h), fun before' behind' heq => ?_⟩
    obtain ⟨_, _, hcut, hle⟩ := exists_cutAtDots? before'.toList behind'.toList
    rw [← eq_dots_iff.mp heq, h] at hcut
    cases hcut
    exact hle
  · rintro ⟨heq, hfirst⟩
    obtain ⟨first, rest, hcut, hle⟩ := exists_cutAtDots? before.toList behind.toList
    rw [← eq_dots_iff.mp heq] at hcut
    have hother := eq_of_cutAtDots? hcut
    have hge : before.length ≤ first.length := by
      have := hfirst (String.ofList first) (String.ofList rest) (eq_dots_iff.mpr (by simpa using hother))
      simpa using this
    have hlength : before.toList.length = first.length := Nat.le_antisymm hge hle
    obtain ⟨rfl, hrest⟩ := List.append_inj ((eq_dots_iff.mp heq).symm.trans hother) hlength
    cases hrest
    exact hcut

/-- Behind a text without dots, two dots are the first ones. -/
theorem firstDots_of_notMem {before : String} (h : '.' ∉ before.toList) (behind : String) :
    FirstDots (before ++ ".." ++ behind) before behind := by
  refine ⟨rfl, fun before' behind' heq => ?_⟩
  have htext : (before ++ ".." ++ behind).toList = before.toList ++ '.' :: '.' :: behind.toList := eq_dots_iff.mp rfl
  obtain ⟨more, hmore, -⟩ | ⟨more, hmore, hdots⟩ :=
    List.append_eq_append_iff.mp (htext.symm.trans (eq_dots_iff.mp heq))
  · rw [← String.length_toList, ← String.length_toList, hmore, List.length_append]
    exact Nat.le_add_right _ _
  · cases more with
    | nil =>
      rw [List.append_nil] at hmore
      rw [← String.length_toList, hmore, String.length_toList]
    | cons c more =>
      -- other dots that come earlier begin in the part before
      obtain ⟨rfl, -⟩ := List.cons.inj hdots
      exact absurd (hmore ▸ List.mem_append_right _ List.mem_cons_self) h

/-! ## Ranges -/

variable {value part : String} {fault : RangeFault} {start stop n : Nat}

/-- Whether a part of a range is an offset: a number that takes no more than 64 bits, with white space around it. -/
def IsOffset (part : String) (n : Nat) : Prop :=
  ∃ core, Surrounds part.toList core ∧ IsDecimal core n ∧ n < Nat.pow 2 64

/-- What is wrong with a part of a range that is no offset. -/
def NoOffset (part : String) (fault : Text.DecimalFault) : Prop :=
  ∃ core, Surrounds part.toList core ∧ Flawed (Nat.pow 2 64) core fault

/-- What a text that is no range is refused for: that no two dots stand side by side in it, or else what is wrong
with the part before the first two, or else what is wrong with the part behind them. -/
inductive Blamed (value : String) : RangeFault → Prop where
  | noDots : (∀ before behind, value ≠ before ++ ".." ++ behind) → Blamed value (.noDots value)
  | start {before behind : String} {fault : Text.DecimalFault} :
      FirstDots value before behind → NoOffset before fault → Blamed value (.start before fault)
  | stop {before behind : String} {start : Nat} {fault : Text.DecimalFault} :
      FirstDots value before behind → IsOffset before start → NoOffset behind fault →
        Blamed value (.stop behind fault)

/-- A part is read as a number if and only if it is an offset. -/
theorem decimal_eq_ok_iff_isOffset : Text.decimal offsetBound (trimmed part.toList) = .ok n ↔ IsOffset part n := by
  rw [Text.decimal_eq_ok_iff (by decide), IsOffset, exists_surrounds_iff]
  rfl

/-- A part is refused if and only if it is no offset, for the reason that is told. -/
theorem decimal_eq_error_iff_noOffset {fault : Text.DecimalFault} :
    Text.decimal offsetBound (trimmed part.toList) = .error fault ↔ NoOffset part fault := by
  rw [Text.decimal_eq_error_iff (by decide), NoOffset, exists_surrounds_iff]
  rfl

/-- Two offsets with dots between them are a range. -/
theorem parseRange_of_isOffset {before behind : String} (hdots : FirstDots value before behind)
    (hstart : IsOffset before start) (hstop : IsOffset behind stop) : parseRange value = .ok ⟨start, stop⟩ := by
  simp only [parseRange, cutAtDots?_eq_some_iff.mpr hdots, decimal_eq_ok_iff_isOffset.mpr hstart,
    decimal_eq_ok_iff_isOffset.mpr hstop]

/-- What is to blame is what is told. -/
theorem Blamed.parseRange_eq (h : Blamed value fault) : parseRange value = .error fault := by
  cases h with
  | noDots hdots => simp only [parseRange, cutAtDots?_eq_none_iff.mpr hdots]
  | start hdots hbefore =>
    simp only [parseRange, cutAtDots?_eq_some_iff.mpr hdots, decimal_eq_error_iff_noOffset.mpr hbefore,
      String.ofList_toList]
  | stop hdots hbefore hbehind =>
    simp only [parseRange, cutAtDots?_eq_some_iff.mpr hdots, decimal_eq_ok_iff_isOffset.mpr hbefore,
      decimal_eq_error_iff_noOffset.mpr hbehind, String.ofList_toList]

/-- Each text is a range, or there is something to refuse it for. -/
theorem isOffset_or_blamed (value : String) :
    (∃ before behind start stop, FirstDots value before behind ∧ IsOffset before start ∧ IsOffset behind stop) ∨
      ∃ fault, Blamed value fault := by
  cases hcut : cutAtDots? value.toList with
  | none => exact .inr ⟨_, .noDots (cutAtDots?_eq_none_iff.mp hcut)⟩
  | some parts =>
    have hdots : FirstDots value (String.ofList parts.1) (String.ofList parts.2) :=
      cutAtDots?_eq_some_iff.mp (by rw [hcut, String.toList_ofList, String.toList_ofList])
    cases hstart : Text.decimal offsetBound (trimmed (String.ofList parts.1).toList) with
    | error fault => exact .inr ⟨_, .start hdots (decimal_eq_error_iff_noOffset.mp hstart)⟩
    | ok start =>
      have hstart := decimal_eq_ok_iff_isOffset.mp hstart
      cases hstop : Text.decimal offsetBound (trimmed (String.ofList parts.2).toList) with
      | error fault => exact .inr ⟨_, .stop hdots hstart (decimal_eq_error_iff_noOffset.mp hstop)⟩
      | ok stop => exact .inl ⟨_, _, start, stop, hdots, hstart, decimal_eq_ok_iff_isOffset.mp hstop⟩

/-- A range is read if and only if the first two dots stand between two offsets. -/
theorem parseRange_eq_ok_iff : parseRange value = .ok ⟨start, stop⟩ ↔
    ∃ before behind, FirstDots value before behind ∧ IsOffset before start ∧ IsOffset behind stop := by
  constructor
  · intro h
    obtain ⟨before, behind, start', stop', hdots, hstart, hstop⟩ | ⟨fault, hfault⟩ := isOffset_or_blamed value
    · rw [parseRange_of_isOffset hdots hstart hstop] at h
      cases h
      exact ⟨before, behind, hdots, hstart, hstop⟩
    · rw [hfault.parseRange_eq] at h
      cases h
  · rintro ⟨before, behind, hdots, hstart, hstop⟩
    exact parseRange_of_isOffset hdots hstart hstop

/-- An error is told if and only if it is the first one to blame. -/
theorem parseRange_eq_error_iff : parseRange value = .error fault ↔ Blamed value fault := by
  constructor
  · intro h
    obtain ⟨before, behind, start, stop, hdots, hstart, hstop⟩ | ⟨fault', hfault⟩ := isOffset_or_blamed value
    · rw [parseRange_of_isOffset hdots hstart hstop] at h
      cases h
    · rw [hfault.parseRange_eq] at h
      cases h
      exact hfault
  · exact Blamed.parseRange_eq

/-! ## Written ranges -/

/-- The decimal text of a number, with any number of zeros before it. -/
def padded (zeros n : Nat) : String :=
  String.ofList (List.replicate zeros '0') ++ toString n

/-- A number with zeros in front of it, as characters. -/
theorem toList_padded (zeros n : Nat) : (padded zeros n).toList = List.replicate zeros '0' ++ Nat.toDigits 10 n := by
  rw [padded, String.toList_append, String.toList_ofList, Nat.toString_eq_repr, Nat.toList_repr]

/-- Zeros and a number are digits. -/
theorem areDigits_padded (zeros n : Nat) : AreDigits (padded zeros n).toList := by
  rw [toList_padded]
  exact Text.areDigits_zeros zeros n

/-- No digit is white space. -/
theorem notMem_whiteSpace_of_isDigit (h : c.isDigit) : c.toNat ∉ whiteSpace := by
  obtain ⟨hlow, hhigh⟩ : 48 ≤ c.toNat ∧ c.toNat ≤ 57 := Char.isDigit_iff_toNat.mp h
  simp only [whiteSpace, List.mem_cons, List.not_mem_nil, or_false]
  omega

/-- Around digits there is no white space. -/
theorem surrounds_of_areDigits (h : AreDigits cs) : Surrounds cs cs where
  eq := ⟨[], [], by simp, by simp⟩
  first := fun c hc => notMem_whiteSpace_of_isDigit (h c (List.mem_of_mem_head? hc))
  last := fun c hc => notMem_whiteSpace_of_isDigit (h c (List.mem_of_mem_getLast? hc))

/-- Zeros in front of a number do not change the offset. -/
theorem isOffset_padded (zeros : Nat) (hn : n < Nat.pow 2 64) : IsOffset (padded zeros n) n := by
  refine ⟨_, surrounds_of_areDigits (areDigits_padded zeros n), ?_, hn⟩
  rw [toList_padded]
  exact Text.isDecimal_zeros zeros n

/-- A range that is written is read back, whatever zeros stand in front of its numbers. -/
theorem parseRange_padded (zeros more : Nat) (hstart : start < Nat.pow 2 64) (hstop : stop < Nat.pow 2 64) :
    parseRange (padded zeros start ++ ".." ++ padded more stop) = .ok ⟨start, stop⟩ := by
  have hdot : '.' ∉ (padded zeros start).toList := fun h => absurd (areDigits_padded _ _ _ h) (by decide)
  exact parseRange_of_isOffset (firstDots_of_notMem hdot _) (isOffset_padded zeros hstart) (isOffset_padded more hstop)

/-- A text is the range of two numbers exactly where the parts before and behind its first dots are these offsets,
and it is refused for a fault exactly where that is the first in it. So two numbers that take no more than 64 bits
can be written down with dots between them, whatever zeros stand before them. -/
theorem parseRange_grammar :
    (∀ value start stop, parseRange value = .ok ⟨start, stop⟩ ↔
      ∃ before behind, FirstDots value before behind ∧ IsOffset before start ∧ IsOffset behind stop) ∧
    (∀ value fault, parseRange value = .error fault ↔ Blamed value fault) ∧
    ∀ start stop zeros more, start < Nat.pow 2 64 → stop < Nat.pow 2 64 →
      parseRange (padded zeros start ++ ".." ++ padded more stop) = .ok ⟨start, stop⟩ := by
  refine ⟨fun value start stop => ?_, fun value fault => ?_, fun start stop zeros more hstart hstop => ?_⟩
  · exact parseRange_eq_ok_iff
  · exact parseRange_eq_error_iff
  · exact parseRange_padded zeros more hstart hstop

/-- The largest offset, behind seven with two zeros before it. In `1...2` the first dots leave one to the end. -/
theorem parseRange_grammar_largest :
    7 < Nat.pow 2 64 ∧ 18446744073709551615 < Nat.pow 2 64 ∧
      parseRange "007..18446744073709551615" = .ok ⟨7, 18446744073709551615⟩ ∧
      Blamed "1...2" (.stop ".2" .invalidDigit) := by
  have hseven : 7 < Nat.pow 2 64 := by decide
  have hlargest : 18446744073709551615 < Nat.pow 2 64 := by decide
  have htext : padded 2 7 ++ ".." ++ padded 0 18446744073709551615 = "007..18446744073709551615" := by decide +kernel
  obtain ⟨-, hblamed, hpadded⟩ := parseRange_grammar
  refine ⟨hseven, hlargest, ?_, (hblamed _ _).mp (by decide +kernel)⟩
  rw [← htext]
  exact hpadded 7 18446744073709551615 2 0 hseven hlargest

end InsertPivot.Command
