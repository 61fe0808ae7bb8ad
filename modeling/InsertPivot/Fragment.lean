/-!
# Fragments of a text

A text is cut into fragments: statement candidates, which are read as SQL, and passthrough text, which is
copied. The cut is purely textual. A candidate is the word `INSERT` in any ASCII case, one space, one
character of any kind, and everything up to the nearest semicolon after that character; it may start
inside a word, a comment or a string. What lies between two candidates, or after the last, is a gap.

Which fragments are statements is a second question, asked of gaps too: a fragment is a statement when its
first six characters are `INSERT` in any case. So a gap that starts with `INSERT` and a tab, or with
`inserting`, is read as a statement although no candidate starts there.

`Fragment.split` is the cut. `opening?` decides whether a candidate opens here, and `seek` finds the first
that also ends.
-/

namespace InsertPivot

/-- A non-empty piece of a text. -/
inductive Fragment where
  /-- Text that starts with the word `INSERT` and is read as SQL. -/
  | statement (text : String)
  /-- Text that is copied. -/
  | passthrough (text : String)
deriving DecidableEq, Repr

namespace Fragment

/-- The keyword that a statement starts with. -/
def leadWord : List Char := ['I', 'N', 'S', 'E', 'R', 'T']

/-- What follows a word at the start of a text, when the word stands there in any ASCII case. -/
def afterWord? : List Char → List Char → Option (List Char)
  | [], cs => some cs
  | _ :: _, [] => none
  | w :: word, c :: cs => if c.toUpper = w then afterWord? word cs else none

/-- Whether a text starts with the word `INSERT`, in any ASCII case. -/
def startsStatement (cs : List Char) : Bool :=
  (afterWord? leadWord cs).isSome

/-- The fragment that a non-empty piece of text is. -/
def ofChars (cs : List Char) : Fragment :=
  if startsStatement cs then .statement (String.ofList cs) else .passthrough (String.ofList cs)

/-- The text of a fragment. -/
def text : Fragment → String
  | .statement text => text
  | .passthrough text => text

/-- A text up to and including its first semicolon, and the rest. -/
def throughSemicolon? : List Char → Option (List Char × List Char)
  | [] => none
  | c :: cs =>
    if c = ';' then some ([c], cs)
    else (throughSemicolon? cs).map fun (found, rest) => (c :: found, rest)

/-- What follows the word `INSERT`, a space and one character of any kind, when a text starts with these. -/
def opening? (cs : List Char) : Option (List Char) :=
  match afterWord? leadWord cs with
  | some (' ' :: _ :: body) => some body
  | _ => none

/-- The number of characters that open a candidate. -/
def openingSize : Nat := 8

/-- The first candidate of a text, with the gap before it and the text after it. Where one opens and no
semicolon follows, no other can end either, so the search ends. -/
def seek : List Char → Option (List Char × List Char × List Char)
  | [] => none
  | c :: cs =>
    match opening? (c :: cs) with
    | some body =>
      (throughSemicolon? body).map fun (found, rest) => ([], (c :: cs).take openingSize ++ found, rest)
    | none => (seek cs).map fun (gap, found, rest) => (c :: gap, found, rest)

theorem afterWord?_length {word cs rest : List Char} (h : afterWord? word cs = some rest) :
    rest.length ≤ cs.length := by
  induction word generalizing cs with
  | nil => simp_all [afterWord?]
  | cons w word ih =>
    cases cs with
    | nil => simp [afterWord?] at h
    | cons c cs =>
      simp only [afterWord?] at h
      split at h
      · have := ih h
        simp only [List.length_cons]
        omega
      · simp at h

theorem throughSemicolon?_length {cs found rest : List Char}
    (h : throughSemicolon? cs = some (found, rest)) : rest.length < cs.length := by
  induction cs generalizing found rest with
  | nil => simp [throughSemicolon?] at h
  | cons c cs ih =>
    simp only [throughSemicolon?] at h
    split at h
    · simp_all
    · obtain ⟨⟨found', rest'⟩, h', heq⟩ := Option.map_eq_some_iff.mp h
      have := ih h'
      simp only [Prod.mk.injEq] at heq
      simp only [List.length_cons, ← heq.2]
      omega

theorem opening?_length {cs body : List Char} (h : opening? cs = some body) :
    body.length < cs.length := by
  unfold opening? at h
  split at h
  next c body' hw =>
    have := afterWord?_length hw
    simp_all only [Option.some.injEq, List.length_cons]
    omega
  next => simp at h

theorem seek_length {cs gap found rest : List Char}
    (h : seek cs = some (gap, found, rest)) : rest.length < cs.length := by
  induction cs generalizing gap found rest with
  | nil => simp [seek] at h
  | cons c cs ih =>
    simp only [seek] at h
    split at h
    next body ho =>
      obtain ⟨⟨found', rest'⟩, h', heq⟩ := Option.map_eq_some_iff.mp h
      have hbody := throughSemicolon?_length h'
      have hopen := opening?_length ho
      simp only [Prod.mk.injEq] at heq
      rw [← heq.2.2]
      omega
    next =>
      obtain ⟨⟨gap', found', rest'⟩, h', heq⟩ := Option.map_eq_some_iff.mp h
      have := ih h'
      simp only [Prod.mk.injEq] at heq
      simp only [List.length_cons, ← heq.2.2]
      omega

/-- A piece of text as a list of fragments: none when it is empty. -/
def ofGap : List Char → List Fragment
  | [] => []
  | c :: cs => [ofChars (c :: cs)]

/-- The fragments of some characters. -/
def splitChars (cs : List Char) : List Fragment :=
  match h : seek cs with
  | none => ofGap cs
  | some (gap, found, rest) =>
    have := seek_length h
    ofGap gap ++ ofChars found :: splitChars rest
termination_by cs.length

/-- The fragments of a text, in order. -/
def split (text : String) : List Fragment :=
  splitChars text.toList

end Fragment

end InsertPivot
