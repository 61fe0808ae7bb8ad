import InsertPivot.Sql.Lexeme

/-!
# Bodies of quoted texts

The body of a quoted text is a row of parts: characters that stand for themselves, doubled quotes and, in a
string, characters behind a backslash. A quoted text is read up to the first quote that is no part of its
body, and what is written around a body that is such a row is this body again.
-/

namespace InsertPivot.Sql

open Lexeme

/-- A part of the body of a quoted text. -/
inductive Part where
  | plain (c : Char)
  /-- The quote itself, written twice. -/
  | doubled
  /-- A character behind a backslash. -/
  | escaped (c : Char)
deriving DecidableEq, Repr

namespace Part

/-- A part as it is written in a text with this quote. -/
def chars (quote : Char) : Part → List Char
  | plain c => [c]
  | doubled => [quote, quote]
  | escaped c => ['\\', c]

/-- Whether a part can stand in a text with this quote, where a backslash escapes or not. -/
def Fits (quote : Char) (escapes : Bool) : Part → Prop
  | plain c => c ≠ quote ∧ (escapes && c = '\\') = false
  | doubled => True
  | escaped _ => escapes = true

end Part

/-- Parts as they are written in a text with this quote. -/
def bodyOf (quote : Char) (parts : List Part) : List Char :=
  parts.flatMap (Part.chars quote)

variable {quote : Char} {escapes : Bool}

@[simp] theorem bodyOf_nil : bodyOf quote [] = [] := rfl

@[simp] theorem bodyOf_cons (part : Part) (parts : List Part) :
    bodyOf quote (part :: parts) = part.chars quote ++ bodyOf quote parts := rfl

@[simp] theorem bodyOf_append (parts parts' : List Part) :
    bodyOf quote (parts ++ parts') = bodyOf quote parts ++ bodyOf quote parts' :=
  List.flatMap_append

/-! ## Reading a body -/

/-- A quote that no quote follows ends a body. -/
theorem quotedBody?_end {rest : List Char} (h : rest.head? ≠ some quote) :
    quotedBody? quote escapes (quote :: rest) = some [] := by
  cases rest with
  | nil => simp [quotedBody?]
  | cons d rest =>
    have hne : d ≠ quote := fun heq => h (congrArg some heq)
    simp [quotedBody?, hne]

/-- A part of a body is taken whole. -/
theorem quotedBody?_part (hquote : quote ≠ '\\') {part : Part} (h : part.Fits quote escapes) (cs : List Char) :
    quotedBody? quote escapes (part.chars quote ++ cs) =
      (quotedBody? quote escapes cs).map (part.chars quote ++ ·) := by
  cases part with
  | plain c =>
    obtain ⟨hne, hslash⟩ := h
    have hescape : ¬((escapes && decide (c = '\\')) = true) := by simp [hslash]
    simp only [Part.chars, List.cons_append, List.nil_append]
    rw [Lexeme.quotedBody?.eq_def]
    simp only [if_neg hne, if_neg hescape]
  | doubled => simp [Part.chars, quotedBody?]
  | escaped c =>
    have hescapes : escapes = true := h
    simp [Part.chars, quotedBody?, hescapes, hquote.symm]

/-- Whether a text goes on with this body and the quote that ends it. -/
def Encloses (quote : Char) (escapes : Bool) (cs body : List Char) : Prop :=
  ∃ parts rest, (∀ part ∈ parts, part.Fits quote escapes) ∧ body = bodyOf quote parts ∧
    cs = body ++ quote :: rest ∧ rest.head? ≠ some quote

/-- A part that fits between quotes can stand in front of what they enclose. -/
theorem Encloses.part {part : Part} (hpart : part.Fits quote escapes) {cs body : List Char}
    (h : Encloses quote escapes cs body) :
    Encloses quote escapes (part.chars quote ++ cs) (part.chars quote ++ body) := by
  obtain ⟨parts, rest, hfits, rfl, rfl, hrest⟩ := h
  exact ⟨part :: parts, rest, List.forall_mem_cons.mpr ⟨hpart, hfits⟩, rfl, by simp, hrest⟩

/-- What is found up to the closing quote is what the quotes enclose. -/
theorem encloses_of_quotedBody? {cs body : List Char} (h : quotedBody? quote escapes cs = some body) :
    Encloses quote escapes cs body := by
  fun_induction quotedBody? quote escapes cs generalizing body with
  | case1 => cases h
  | case2 ds ih =>
    obtain ⟨body', hbody', rfl⟩ := Option.map_eq_some_iff.mp h
    exact Encloses.part (show Part.doubled.Fits quote escapes from trivial) (ih hbody')
  | case3 d ds hne =>
    cases h
    exact ⟨[], d :: ds, by simp, rfl, rfl, by simpa using hne⟩
  | case4 =>
    cases h
    exact ⟨[], [], by simp, rfl, rfl, by simp⟩
  | case5 c hne hescape d ds ih =>
    obtain ⟨hescapes, rfl⟩ : escapes = true ∧ c = '\\' := by simpa using hescape
    obtain ⟨body', hbody', rfl⟩ := Option.map_eq_some_iff.mp h
    exact Encloses.part (show (Part.escaped d).Fits quote escapes from hescapes) (ih hbody')
  | case6 => cases h
  | case7 c cs hne hescape ih =>
    have hfits : (Part.plain c).Fits quote escapes := ⟨hne, by simpa using hescape⟩
    obtain ⟨body', hbody', rfl⟩ := Option.map_eq_some_iff.mp h
    exact Encloses.part hfits (ih hbody')

/-- A body is a row of parts up to the first quote that is no part of it. -/
theorem quotedBody?_eq_some_iff (hquote : quote ≠ '\\') {cs body : List Char} :
    quotedBody? quote escapes cs = some body ↔ Encloses quote escapes cs body := by
  constructor
  · exact encloses_of_quotedBody?
  · rintro ⟨parts, rest, hfits, rfl, rfl, hrest⟩
    induction parts with
    | nil => exact quotedBody?_end hrest
    | cons part parts ih =>
      obtain ⟨hpart, hparts⟩ := List.forall_mem_cons.mp hfits
      rw [bodyOf_cons, List.append_assoc, quotedBody?_part hquote hpart, ih hparts]
      rfl

/-! ## Writing a body -/

/-- Any character but the quote is written as it stands. -/
theorem escapeFrom_of_ne {c : Char} (h : c ≠ quote) (escaped : Bool) (cs : List Char) :
    escapeFrom quote escaped (c :: cs) = c :: escapeFrom quote (c = '\\') cs := by
  rw [escapeFrom.eq_def]
  simp only [if_neg h]

/-- A quote behind a backslash is written as it stands. -/
theorem escapeFrom_escaped (cs : List Char) :
    escapeFrom quote true (quote :: cs) = quote :: escapeFrom quote true cs := by
  rw [escapeFrom.eq_def]
  simp only [if_true]

/-- Two quotes side by side are written as they stand. -/
theorem escapeFrom_pair (cs : List Char) :
    escapeFrom quote false (quote :: quote :: cs) = quote :: quote :: escapeFrom quote false cs := by
  simp [escapeFrom]

/-- A quote alone is doubled. -/
theorem escapeFrom_lone {cs : List Char} (h : cs.head? ≠ some quote) :
    escapeFrom quote false (quote :: cs) = quote :: quote :: escapeFrom quote false cs := by
  cases cs with
  | nil => simp [escapeFrom]
  | cons d cs =>
    have hne : d ≠ quote := fun heq => h (congrArg some heq)
    simp [escapeFrom, hne]

/-- A body that is a row of parts is written as it is. -/
theorem escapeFrom_bodyOf (hquote : quote ≠ '\\') {parts : List Part} (h : ∀ part ∈ parts, part.Fits quote escapes)
    (escaped : Bool) : escapeFrom quote escaped (bodyOf quote parts) = bodyOf quote parts := by
  induction parts generalizing escaped with
  | nil => rfl
  | cons part parts ih =>
    obtain ⟨hpart, hparts⟩ := List.forall_mem_cons.mp h
    cases part with
    | plain c => simp [Part.chars, escapeFrom_of_ne hpart.1, ih hparts]
    | doubled => cases escaped <;> simp [Part.chars, escapeFrom_escaped, escapeFrom_pair, ih hparts]
    | escaped c =>
      by_cases hc : c = quote
      · simp [Part.chars, escapeFrom_of_ne hquote.symm, hc, escapeFrom_escaped, ih hparts]
      · simp [Part.chars, escapeFrom_of_ne hquote.symm, escapeFrom_of_ne hc, ih hparts]

end InsertPivot.Sql
