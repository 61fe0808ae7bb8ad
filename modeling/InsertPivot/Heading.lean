import InsertPivot.Fragment
import InsertPivot.LetterCase

/-!
# The heading of a statement

The heading is the word `INSERT` at the very start of a text, with the longest run of modifiers after it,
each after white space of its own. `INTO` may follow. Where it does not, `Heading.complete?` writes it in,
in the letter case of the leading word, and leaves every other character as it was.

White space and word ends are ASCII notions here: a word ends where no ASCII letter, digit or underscore
follows, so `IGNORE$` and `INTOé` both end a word.
-/

namespace InsertPivot.Heading

/-- ASCII white space. -/
def isBlank (c : Char) : Bool :=
  c = ' ' || (0x09 ≤ c.toNat && c.toNat ≤ 0x0d)

/-- The characters that an ASCII word is made of. -/
def isWordChar (c : Char) : Bool :=
  c.isAlphanum || c = '_'

/-- Whether a word that stops here has ended. -/
def atWordEnd : List Char → Bool
  | [] => true
  | c :: _ => !isWordChar c

/-- The words that may stand between `INSERT` and `INTO`. -/
def modifiers : List (List Char) :=
  ["LOW_PRIORITY".toList, "DELAYED".toList, "HIGH_PRIORITY".toList, "IGNORE".toList]

/-- A text after one of some words and the white space before it. -/
def afterOneOf? (words : List (List Char)) (cs : List Char) : Option (List Char) :=
  match cs.dropWhile isBlank with
  | rest =>
    if rest.length < cs.length then
      words.findSome? fun word => (Fragment.afterWord? word rest).filter atWordEnd
    else none

theorem afterOneOf?_length {words : List (List Char)} {cs rest : List Char}
    (h : afterOneOf? words cs = some rest) : rest.length < cs.length := by
  unfold afterOneOf? at h
  simp only at h
  split at h
  next hlt =>
    obtain ⟨word, -, hword⟩ := List.exists_of_findSome?_eq_some h
    have := Fragment.afterWord?_length (Option.filter_eq_some_iff.mp hword).1
    omega
  next => simp at h

/-- A text after the longest run of modifiers at its start. -/
def afterModifiers (cs : List Char) : List Char :=
  match h : afterOneOf? modifiers cs with
  | none => cs
  | some rest =>
    have := afterOneOf?_length h
    afterModifiers rest
termination_by cs.length

/-- The text after the heading, when a text starts with one. -/
def rest? (cs : List Char) : Option (List Char) :=
  ((Fragment.afterWord? Fragment.leadWord cs).filter atWordEnd).map afterModifiers

/-- Whether `INTO` follows. -/
def startsInto (cs : List Char) : Bool :=
  (afterOneOf? ["INTO".toList] cs).isSome

/-- The text with `INTO` written in after its heading; nothing when it has no heading or has `INTO`. -/
def complete? (text : String) : Option String :=
  match rest? text.toList with
  | none => none
  | some rest =>
    if startsInto rest then none
    else
      let head := text.toList.take (text.toList.length - rest.length)
      let into := (LetterCase.ofWord (String.ofList (head.take 6))).keyword "INTO"
      some (String.ofList (head ++ ' ' :: into.toList ++ rest))

/-- The text with `INTO` after its heading, whether or not it had to be written in. -/
def complete (text : String) : String :=
  (complete? text).getD text

end InsertPivot.Heading
