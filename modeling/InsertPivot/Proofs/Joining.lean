import InsertPivot.Proofs.Seams
import InsertPivot.Proofs.Spelling

/-!
# Joined strings as they are written

What a string denotes is asked of a text: the text must be cut into this one string. So a string is followed from
the text that it stands in to the text that is written for the value it belongs to, alone or joined to the strings
beside it.
-/

namespace InsertPivot.Sql

open Lexeme (Piece kinds kindAt quotedBody? stringPiece)

/-! ## Strings in a text -/

/-- Both kinds of quotes are no backslash, and a backslash means something inside of them. -/
theorem quote_of_kind {kind : StringKind} (h : kind = .single ∨ kind = .double) :
    kind.quote ≠ '\\' ∧ (kind != .bits && kind != .bitsDouble) = true := by
  obtain rfl | rfl := h <;> exact ⟨by decide, by decide⟩

/-- A numeral is no string. -/
theorem numeral_ne_string (previous : Option Token) (cs : List Char) {kind : StringKind}
    (h : kind = .single ∨ kind = .double)
    (body : String) : (Lexeme.numeral previous cs).1 ≠ .string kind body := by
  unfold Lexeme.numeral
  obtain rfl | rfl := h <;> grind

/-- What an at sign starts is no string. -/
theorem atPiece_ne_string (cs : List Char) (kind : StringKind) (body : String) :
    (Lexeme.atPiece cs).1 ≠ .token (.string kind body) := by
  unfold Lexeme.atPiece Lexeme.wordPiece
  grind

/-- What a digit or a period starts is no string. -/
theorem numeralPiece_ne_string (p : Text.Position) (previous : Option Token) (c : Char) (cs : List Char)
    {kind : StringKind}
    (h : kind = .single ∨ kind = .double) (body : String) (more : Nat) :
    Lexeme.numeralPiece p previous c cs ≠ .ok (.token (.string kind body), more) := by
  have hnumeral := numeral_ne_string previous (c :: cs) h body
  unfold Lexeme.numeralPiece
  grind

/-- What a symbol starts is no string. -/
theorem symbolPiece_ne_string (c : Char) (cs : List Char) (kind : StringKind) (body : String) (more : Nat) :
    Lexeme.symbolPiece c cs ≠ (.token (.string kind body), more) := by
  unfold Lexeme.symbolPiece
  grind

/-- A string is cut up to where its quotes close, and its body is what they enclose. -/
theorem stringPiece_eq_ok {p : Text.Position} {kind kind' : StringKind} {quote : Char} {cs : List Char}
    {body : String} {more : Nat}
    (h : stringPiece p kind quote cs = .ok (.token (.string kind' body), more)) :
    kind = kind' ∧ quotedBody? quote (kind != .bits && kind != .bitsDouble) cs = some body.toList ∧
      more = body.toList.length + 1 := by
  unfold stringPiece at h
  split at h
  next => cases h
  next found hfound =>
    cases h
    exact ⟨rfl, by rw [hfound, String.toList_ofList], by rw [String.toList_ofList]⟩

/-- A string is cut only where a quote of its kind opens it. -/
theorem plainPiece_eq_string {p : Text.Position} {previous : Option Token} {c : Char} {cs : List Char}
    {kind : StringKind}
    (hkind : kind = .single ∨ kind = .double) {body : String} {more : Nat}
    (h : Lexeme.plainPiece p previous c cs = .ok (.token (.string kind body), more)) :
    c = kind.quote ∧ quotedBody? c true cs = some body.toList ∧ more = body.toList.length + 1 := by
  have hat := atPiece_ne_string cs kind body
  have hnumeral := numeralPiece_ne_string p previous c cs hkind body more
  have hsymbol := symbolPiece_ne_string c cs kind body more
  by_cases hsingle : c = '\x27'
  · subst hsingle
    obtain ⟨rfl, hbody, hmore⟩ := stringPiece_eq_ok (h : stringPiece p .single _ cs = _)
    exact ⟨rfl, hbody, hmore⟩
  by_cases hdouble : c = '\x22'
  · subst hdouble
    obtain ⟨rfl, hbody, hmore⟩ := stringPiece_eq_ok (h : stringPiece p .double _ cs = _)
    exact ⟨rfl, hbody, hmore⟩
  unfold Lexeme.plainPiece Lexeme.wordPiece Lexeme.namePiece Lexeme.linePiece Lexeme.commentPiece
    Lexeme.placeholderPiece at h
  grind

/-- A string is read from its quote on. -/
theorem string_of_kindAt {previous : Option Token} {kind : StringKind} (hkind : kind = .single ∨ kind = .double)
    {body : String}
    {c : Char} {cs : List Char} {more : Nat} (h : kindAt previous c cs = some (.token (.string kind body), more)) :
    c = kind.quote ∧ quotedBody? c true cs = some body.toList ∧ more = body.toList.length + 1 := by
  have hpiece : Lexeme.pieceAt .start previous c cs = .ok (.token (.string kind body), more) := by
    unfold kindAt at h
    cases hpiece : Lexeme.pieceAt .start previous c cs with
    | error fault =>
      rw [hpiece] at h
      cases h
    | ok found =>
      rw [hpiece] at h
      exact congrArg Except.ok (Option.some.inj h)
  unfold Lexeme.pieceAt at hpiece
  split at hpiece
  next announced quote rest hannounced =>
    have hother : announced ≠ .single ∧ announced ≠ .double := by
      unfold Lexeme.announced? at hannounced
      grind
    cases hstring : stringPiece (Text.Position.start.after c) announced quote rest with
    | error fault =>
      rw [hstring] at hpiece
      cases hpiece
    | ok found =>
      obtain ⟨piece, size⟩ := found
      rw [hstring] at hpiece
      cases hpiece
      obtain ⟨rfl, -⟩ := stringPiece_eq_ok hstring
      obtain rfl | rfl := hkind
      · exact absurd rfl hother.1
      · exact absurd rfl hother.2
  next => exact plainPiece_eq_string hkind hpiece

/-- A text that can be cut has a first piece, and behind it more pieces. -/
theorem exists_of_kinds_cons {previous : Option Token} {c : Char} {cs : List Char} {ps : List Piece}
    (h : kinds previous 0 (c :: cs) = some ps) :
    ∃ piece more qs, kindAt previous c cs = some (piece, more) ∧ kinds piece.token? more cs = some qs ∧
      ps = piece :: qs := by
  rw [kinds] at h
  cases hkind : kindAt previous c cs with
  | none =>
    rw [hkind] at h
    cases h
  | some found =>
    obtain ⟨piece, more⟩ := found
    rw [hkind] at h
    cases hqs : kinds piece.token? more cs with
    | none => simp [hqs] at h
    | some qs => exact ⟨piece, more, qs, rfl, hqs, by simpa [hqs, eq_comm] using h⟩

/-- A string that is cut from a text stands in it as it is written, and has a body that a string can have. -/
theorem string_of_kinds {previous : Option Token} {taken : Nat} {cs : List Char} {ps : List Piece}
    (h : kinds previous taken cs = some ps) {kind : StringKind} (hkind : kind = .single ∨ kind = .double)
    {body : String}
    (hmem : .token (.string kind body) ∈ ps) :
    (Token.string kind body).Whole ∧ (Token.string kind body).text.toList <:+: cs := by
  induction cs generalizing previous taken ps with
  | nil =>
    cases taken <;> cases h <;> cases hmem
  | cons c cs ih =>
    cases taken with
    | succ taken =>
      obtain ⟨hwhole, hinfix⟩ := ih h hmem
      exact ⟨hwhole, hinfix.trans (List.suffix_cons c cs).isInfix⟩
    | zero =>
      obtain ⟨piece, more, qs, hpiece, hqs, rfl⟩ := exists_of_kinds_cons h
      obtain heq | hmem := List.mem_cons.mp hmem
      · subst heq
        obtain ⟨rfl, hbody, -⟩ := string_of_kindAt hkind hpiece
        obtain ⟨parts, rest, hfits, hparts, rfl, -⟩ := encloses_of_quotedBody? hbody
        have hescapes : kind.escapes = true := by
          obtain rfl | rfl := hkind <;> rfl
        have htext : (Token.string kind body).text.toList = kind.quote :: (body.toList ++ [kind.quote]) := by
          obtain rfl | rfl := hkind <;> simp [Token.text, StringKind.quote]
        refine ⟨⟨parts, by rwa [hescapes], hparts⟩, [], rest, ?_⟩
        rw [htext]
        simp
      · obtain ⟨hwhole, hinfix⟩ := ih hqs hmem
        exact ⟨hwhole, hinfix.trans (List.suffix_cons c cs).isInfix⟩

/-! ## What a text denotes -/

/-- A string in double quotes or in single ones, with its body. -/
structure Quoted where
  inDouble : Bool
  body : String
deriving DecidableEq, Repr

namespace Quoted

variable (q : Quoted)

def kind : StringKind :=
  if q.inDouble then .double else .single

/-- The quote that stands before and behind the string. -/
def quote : Char :=
  q.kind.quote

def token : Token :=
  .string q.kind q.body

/-- The string as it stands in a text. -/
def text : String :=
  q.token.text

/-- The parts of the body, each with the quote of the string. -/
def parts : List (Char × Part) :=
  (partsOf q.quote q.body.toList).map (q.quote, ·)

/-- What the string denotes. -/
def meaning : List Char :=
  meant q.parts

theorem kind_eq : q.kind = .single ∨ q.kind = .double := by
  unfold kind
  cases q.inDouble
  · exact .inl rfl
  · exact .inr rfl

theorem quote_ne : q.quote ≠ '\\' :=
  (quote_of_kind q.kind_eq).1

theorem toList_text : q.text.toList = q.quote :: (q.body.toList ++ [q.quote]) := by
  unfold text token quote
  obtain h | h := q.kind_eq <;> simp [h, Token.text, StringKind.quote]

end Quoted

/-- Whether a text is one string, which denotes these characters. -/
def Denotes (text : String) (s : List Char) : Prop :=
  ∃ q : Quoted, kinds none 0 text.toList = some [.token q.token] ∧ denoted? q.quote q.body.toList = some s

theorem eq_nil_of_kinds {previous : Option Token} {cs : List Char} (h : kinds previous 0 cs = some []) : cs = [] := by
  cases cs with
  | nil => rfl
  | cons c cs =>
    obtain ⟨piece, more, qs, -, -, hps⟩ := exists_of_kinds_cons h
    cases hps

/-- A text between quotes is one string exactly where its body denotes something. -/
theorem denotes_iff (q : Quoted) {s : List Char} : Denotes q.text s ↔ denoted? q.quote q.body.toList = some s := by
  constructor
  · rintro ⟨found, hkinds, hdenoted⟩
    rw [q.toList_text] at hkinds
    obtain ⟨piece, more, qs, hpiece, hqs, hps⟩ := exists_of_kinds_cons hkinds
    cases hps
    obtain ⟨hquote, hbody, rfl⟩ := string_of_kindAt found.kind_eq hpiece
    obtain ⟨parts, rest, hfits, hparts, hcs, -⟩ := encloses_of_quotedBody? hbody
    rw [Lexeme.kinds_drop] at hqs
    have hrest : rest = [] := by
      have hdrop := eq_nil_of_kinds hqs
      rw [hcs, List.drop_append] at hdrop
      simpa using hdrop
    subst hrest
    have hsame : found.body.toList = q.body.toList := (List.append_cancel_right hcs).symm
    rwa [← hsame, hquote]
  · intro h
    refine ⟨q, ?_, h⟩
    obtain ⟨parts, hfits, hparts⟩ := exists_parts_of_denoted? h
    have hwhole : q.token.Whole := by
      refine ⟨parts, ?_, hparts⟩
      obtain hkind | hkind := q.kind_eq <;> rw [Quoted.quote, hkind] at hfits <;> rw [hkind] <;> exact hfits
    have hcut : Piece.IsCut none (.token q.token) [] := Lexeme.isCut_string hwhole (by simp)
    have hkinds := Lexeme.kinds_isCut hcut
    rw [List.append_nil] at hkinds
    exact hkinds

/-! ## Strings that are joined -/

namespace Quoted

variable {q : Quoted}

/-- The literal that the string is. -/
def literal (q : Quoted) : Literal :=
  if q.inDouble then .double q.body else .single q.body

/-- The string that some strings are read as, where they stand side by side. -/
def joined (first : Quoted) (others : List Quoted) : Quoted :=
  ⟨first.inDouble, String.join (first.body :: others.map (·.body))⟩

/-- A whole string consists of parts that fit between its quotes. -/
theorem exists_parts (h : q.token.Whole) :
    ∃ parts : List Part, (∀ part ∈ parts, part.Fits q.quote true) ∧ q.body.toList = bodyOf q.quote parts ∧
      q.parts = parts.map (q.quote, ·) := by
  obtain ⟨parts, hfits, hbody⟩ := h
  have hescapes : q.kind.escapes = true := by
    obtain hkind | hkind := q.kind_eq <;> rw [hkind] <;> rfl
  rw [hescapes] at hfits
  have hparts : partsOf q.quote q.body.toList = parts := by
    rw [hbody]
    exact partsOf_bodyOf q.quote_ne hfits
  exact ⟨parts, hfits, hbody, by rw [Quoted.parts, hparts]⟩

/-- The parts of a whole string are its body. -/
theorem written_parts (h : q.token.Whole) : written q.parts = q.body.toList := by
  obtain ⟨parts, -, hbody, hparts⟩ := exists_parts h
  rw [hparts, hbody, written, List.flatMap_map]
  rfl

/-- A string that is cut from a text denotes what its parts denote. -/
theorem denotes (h : q.token.Whole) : Denotes q.text q.meaning := by
  obtain ⟨parts, hfits, hbody, hparts⟩ := exists_parts h
  rw [denotes_iff, hbody, denoted?_bodyOf q.quote_ne hfits, meaning, hparts, meant, List.flatMap_map]

/-- A literal is written between the quotes of its string, with quotes doubled where they would end it. -/
theorem text_literal (q : Quoted) : q.literal.text = (⟨q.inDouble, escape q.quote q.body⟩ : Quoted).text := by
  obtain ⟨inDouble, body⟩ := q
  cases inDouble <;> rfl

/-- A string alone is written as it stands in the text. -/
theorem text_literal_of_whole (h : q.token.Whole) : q.literal.text = q.text := by
  obtain ⟨parts, hfits, hbody, -⟩ := exists_parts h
  have hescape : escape q.quote q.body = q.body := by
    rw [escape, hbody, escapeFrom_bodyOf q.quote_ne hfits, ← hbody, String.ofList_toList]
  rw [text_literal, hescape]

end Quoted

/-- Whether strings that stand side by side are written as what they denote, when they are joined. -/
def Seamless : List Quoted → Prop
  | [] => True
  | first :: others => Joins first.quote true ((first :: others).flatMap Quoted.parts)

/-- The body of joined strings is their bodies, one behind the other. -/
theorem toList_joined (first : Quoted) (others : List Quoted) :
    (first.joined others).body.toList = (first :: others).flatMap (·.body.toList) := by
  simp [Quoted.joined, String.toList_join, List.flatMap_map]

/-- Strings that are joined denote what they denoted one by one exactly where no quote meets another at a seam. -/
theorem denotes_joined_iff {first : Quoted} {others : List Quoted} (h : ∀ q ∈ first :: others, q.token.Whole) :
    Denotes (first.joined others).literal.text ((first :: others).flatMap Quoted.meaning) ↔
      Seamless (first :: others) := by
  -- each string stands in quotes of the first one's kind or of the other kind, so `AllFit` speaks of two quotes
  obtain ⟨other, hother, hslash, hquotes⟩ : ∃ other, other ≠ first.quote ∧ other ≠ '\\' ∧
      ∀ q : Quoted, q.quote = first.quote ∨ q.quote = other := by
    have hother (q : Quoted) : q.quote = '\x27' ∨ q.quote = '\x22' := by
      unfold Quoted.quote
      obtain hkind | hkind := q.kind_eq <;> rw [hkind] <;> decide
    obtain hfirst | hfirst := hother first
    · exact ⟨'\x22', by rw [hfirst]; decide, by decide, fun q => by rw [hfirst]; exact hother q⟩
    · exact ⟨'\x27', by rw [hfirst]; decide, by decide, fun q => by rw [hfirst]; exact (hother q).symm⟩
  have hfit : AllFit first.quote other ((first :: others).flatMap Quoted.parts) := by
    intro part hmem
    obtain ⟨q, hq, hmem⟩ := List.mem_flatMap.mp hmem
    obtain ⟨parts, hfits, -, hparts⟩ := Quoted.exists_parts (h q hq)
    rw [hparts] at hmem
    obtain ⟨part, hpart, rfl⟩ := List.mem_map.mp hmem
    exact ⟨hquotes q, hfits part hpart⟩
  have hwritten : (first.joined others).body.toList = written ((first :: others).flatMap Quoted.parts) := by
    rw [toList_joined, written, List.flatMap_assoc, List.flatMap_def, List.flatMap_def]
    exact congrArg List.flatten (List.map_congr_left fun q hq => (Quoted.written_parts (h q hq)).symm)
  have hmeant : (first :: others).flatMap Quoted.meaning = meant ((first :: others).flatMap Quoted.parts) := by
    rw [meant, List.flatMap_assoc]
    rfl
  have hjoins : rewritten? first.quote false (written ((first :: others).flatMap Quoted.parts)) =
      some (meant ((first :: others).flatMap Quoted.parts)) ↔ Seamless (first :: others) :=
    rewritten?_eq_iff_joins first.quote_ne hslash hother hfit false false rfl
  have hquote : (first.joined others).quote = first.quote := rfl
  rw [Quoted.text_literal, denotes_iff, hmeant, ← hjoins, rewritten?, ← hwritten, hquote]
  have hescape : (escape first.quote (first.joined others).body).toList =
      escapeFrom first.quote false (first.joined others).body.toList := by
    rw [escape, String.toList_ofList]
  exact iff_of_eq (congrArg (denoted? first.quote · = _) hescape)

end InsertPivot.Sql
