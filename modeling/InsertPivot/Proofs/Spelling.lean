import InsertPivot.Proofs.Heading
import InsertPivot.Proofs.Quoting
import Mathlib.Data.List.Chain
import Mathlib.Data.List.Find

/-!
# Cutting what was put together

A text that is put together from tokens and blanks is cut into these again, if every token is one that can
be written (`Token.Whole`) and no two pieces that stand side by side run into each other (`Piece.Meets`).
Both are conditions on single pieces and on neighbours, so they are carried over where pieces are put
together: `Block` collects what that takes.
-/

namespace InsertPivot.Sql

/-! ## Symbols -/

namespace Symbol

/-- The characters that make a longer symbol of a symbol, or a comment, when they follow it. -/
def extensions (symbol : Symbol) : List Char :=
  (if symbol = .minus then ['-'] else if symbol = .divide then ['*'] else []) ++
    spellings.filterMap fun entry =>
      if symbol.text.toList.isPrefixOf entry.1 then (entry.1.drop symbol.text.toList.length).head? else none

/-- Whether a symbol is read by its spelling alone. -/
def isPlain (symbol : Symbol) : Bool :=
  leading? symbol.text.toList = some (symbol, symbol.text.toList.length)

/-- Where a text goes on with nothing that makes a symbol longer, only the symbol decides which spellings it
starts with. -/
theorem isPrefixOf_append {symbol : Symbol} {entry : List Char × Symbol} (hentry : entry ∈ spellings)
    {rest : List Char} (hrest : ∀ c ∈ rest.head?, c ∉ symbol.extensions) :
    entry.1.isPrefixOf (symbol.text.toList ++ rest) = entry.1.isPrefixOf symbol.text.toList := by
  rw [Bool.eq_iff_iff, List.isPrefixOf_iff_prefix, List.isPrefixOf_iff_prefix]
  constructor
  · intro hprefix
    obtain h | ⟨more, hmore⟩ := List.prefix_or_prefix_of_prefix hprefix (List.prefix_append symbol.text.toList rest)
    · exact h
    · cases more with
      | nil =>
        have hsame : symbol.text.toList = entry.1 := by simpa using hmore
        exact hsame ▸ List.prefix_rfl
      | cons c more =>
        -- the spelling is longer than the symbol, so the next character makes the symbol longer
        rw [← hmore, List.prefix_append_right_inj] at hprefix
        obtain ⟨tail, rfl⟩ := hprefix
        refine absurd (List.mem_append_right _ (List.mem_filterMap.mpr ⟨entry, hentry, ?_⟩)) (hrest c rfl)
        rw [← hmore, if_pos (by simp), List.drop_left]
        rfl
  · exact fun h => h.trans (List.prefix_append _ _)

/-- A symbol that is read by its spelling is read before whatever does not make it longer. -/
theorem leading?_append {symbol : Symbol} (h : symbol.isPlain) {rest : List Char}
    (hrest : ∀ c ∈ rest.head?, c ∉ symbol.extensions) :
    leading? (symbol.text.toList ++ rest) = some (symbol, symbol.text.toList.length) := by
  have hfind : (spellings.find? fun entry => entry.1.isPrefixOf (symbol.text.toList ++ rest)) =
      spellings.find? fun entry => entry.1.isPrefixOf symbol.text.toList :=
    List.find?_congr fun _ hmem => isPrefixOf_append hmem hrest
  have hplain : leading? symbol.text.toList = some (symbol, symbol.text.toList.length) := by
    simpa [isPlain] using h
  rw [← hplain, leading?, leading?]
  exact congrArg _ hfind

/-- The characters that symbols start with which are read by their spelling. -/
def heads : List Char :=
  spellings.filterMap (·.1.head?)

/-- A plain symbol starts with one of the characters that symbols start with. -/
theorem exists_head {symbol : Symbol} (h : symbol.isPlain) :
    ∃ c cs, symbol.text.toList = c :: cs ∧ c ∈ heads := by
  cases symbol <;> first | exact ⟨_, _, rfl, by decide⟩ | exact absurd h (by decide)

end Symbol

/-- What a symbol starts with starts no comment, unless the text behind the symbol goes on so. -/
theorem Symbol.not_comment {symbol : Symbol} {c d : Char} {cs : List Char} (htext : symbol.text.toList = c :: cs)
    (hcomment : (c = '-' ∧ d = '-') ∨ (c = '/' ∧ d = '*')) :
    cs.head? ≠ some d ∧ (cs = [] → d ∈ symbol.extensions) := by
  obtain ⟨rfl, rfl⟩ | ⟨rfl, rfl⟩ := hcomment <;> cases symbol <;> simp [Symbol.text] at htext <;> subst htext <;>
    decide

/-! ## Tokens that can be written -/

namespace StringKind

/-- The quote that a string of this kind stands in. -/
def quote : StringKind → Char
  | single | hex | bits | national => '\x27'
  | double | bitsDouble => '\x22'

/-- Whether a backslash escapes in a string of this kind. -/
def escapes (kind : StringKind) : Bool :=
  kind != .bits && kind != .bitsDouble

end StringKind

open Lexeme (startsWord continuesWord numeral kindAt kinds)

/-- Whether a row of characters is a word. -/
def IsName : List Char → Prop
  | [] => False
  | c :: cs => startsWord c ∧ c ≠ '@' ∧ ∀ d ∈ cs, continuesWord d

instance : DecidablePred IsName
  | [] => inferInstanceAs (Decidable False)
  | c :: cs => inferInstanceAs (Decidable (startsWord c ∧ c ≠ '@' ∧ ∀ d ∈ cs, continuesWord d))

/-- A name starts as a word does, but not with an at sign, and goes on as a word does. -/
theorem isName_iff {w : List Char} :
    IsName w ↔ ∃ c cs, w = c :: cs ∧ startsWord c ∧ c ≠ '@' ∧ ∀ d ∈ cs, continuesWord d := by
  cases w <;> simp [IsName]

/-- A row of characters that is the body of a quoted text. -/
def IsBody (quote : Char) (escapes : Bool) (body : List Char) : Prop :=
  ∃ parts : List Part, (∀ part ∈ parts, part.Fits quote escapes) ∧ body = bodyOf quote parts

/-- Whether a token is read as it is written, where nothing around it interferes. -/
def Token.Whole : Token → Prop
  | word text none => IsName text.toList
  | word text (some quote) => quote = '\x60' ∧ IsBody quote false text.toList
  | number text long =>
    (∃ c ∈ text.toList.head?, c.isDigit || c = '.') ∧
      numeral none (number text long).text.toList = (number text long, (number text long).text.toList.length)
  | string kind body => IsBody kind.quote kind.escapes body.toList
  | placeholder text => ∃ digits, text.toList = '?' :: digits ∧ ∀ d ∈ digits, Text.isNumeral d
  | symbol s => s = .period ∨ s.isPlain
  | char _ => False

namespace Lexeme.Piece

/-- A piece as it is written. -/
def chars : Piece → List Char
  | token t => t.text.toList
  | blank b => b.text.toList

/-- Whether a piece is read as it is written, where nothing around it interferes: a token that can be
written, a blank or a line end. -/
def Whole : Piece → Prop
  | token t => t.Whole
  | blank b => b = .space ' ' ∨ b = .space '\n'

/-- Whether a piece ends where a text goes on with this character. -/
def EndsBefore (c : Char) : Piece → Prop
  | token (.word _ none) => ¬continuesWord c ∧ c ≠ '\x27' ∧ c ≠ '\x22'
  | token (.word _ (some quote)) => c ≠ quote
  | token (.number _ _) => ¬continuesWord c ∧ c ≠ '.'
  | token (.string kind _) => c ≠ kind.quote
  | token (.placeholder _) => ¬Text.isNumeral c
  | token (.symbol s) => c ∉ s.extensions
  | token (.char _) => True
  | blank _ => True

/-- Whether a piece is read alike behind this token and behind none. -/
def GoesBehind (previous : Option Token) : Piece → Prop
  | token (.symbol .period) => previous.any Token.isWord
  | token (.number _ _) => ¬previous.any Token.isWord ∧ previous ≠ some (.symbol .period)
  | _ => True

/-- Whether a piece is cut off a text that goes on behind it, with the token before it. -/
def IsCut (previous : Option Token) (piece : Piece) (rest : List Char) : Prop :=
  ∃ c cs, piece.chars = c :: cs ∧ kindAt previous c (cs ++ rest) = some (piece, cs.length)

end Lexeme.Piece

namespace Lexeme

variable {previous : Option Token} {rest : List Char}

open Piece (IsCut EndsBefore GoesBehind)

/-- Without a quote behind it, no letter announces a string. -/
theorem not_announced {c : Char} {cs : List Char} (h : ∀ d ∈ cs.head?, d ≠ '\x27' ∧ d ≠ '\x22') :
    cs.head?.bind (announced? c) = none := by
  cases cs with
  | nil => rfl
  | cons d cs =>
    obtain ⟨hsingle, hdouble⟩ := h d rfl
    simp [announced?, hsingle, hdouble]

/-- A piece that is cut off leaves what follows it. -/
theorem kinds_isCut {piece : Piece} (h : IsCut previous piece rest) :
    kinds previous 0 (piece.chars ++ rest) = (kinds piece.token? 0 rest).map (piece :: ·) := by
  obtain ⟨c, cs, hchars, hkind⟩ := h
  rw [hchars, List.cons_append, kinds_cons hkind, List.drop_left]

/-! ## Piece by piece -/

/-- White space is cut off. -/
theorem isCut_blank {b : Blank} (h : (Piece.blank b).Whole) : IsCut previous (.blank b) rest := by
  obtain rfl | rfl := h
  · exact ⟨' ', [], rfl, by rw [kindAt, pieceAt_plain (head_announced_blank (by decide) _)]; rfl⟩
  · exact ⟨'\n', [], rfl, by rw [kindAt, pieceAt_plain (head_announced_blank (by decide) _)]; rfl⟩

theorem takeWhile_append_of_head {p : Char → Bool} {cs : List Char} (hcs : ∀ c ∈ cs, p c)
    (hrest : ∀ c ∈ rest.head?, ¬p c) : (cs ++ rest).takeWhile p = cs := by
  rw [List.takeWhile_append_of_pos hcs]
  cases rest with
  | nil => simp
  | cons c rest => simp [hrest c rfl]

/-- A word is cut off, up to what ends it. -/
theorem isCut_word {text : String} (h : (Token.word text none).Whole)
    (hrest : ∀ c ∈ rest.head?, (Piece.token (.word text none)).EndsBefore c) :
    IsCut previous (.token (.word text none)) rest := by
  obtain ⟨c, cs, htext, hc, hat, hcs⟩ := isName_iff.mp h
  refine ⟨c, cs, htext, ?_⟩
  have hannounced : (cs ++ rest).head?.bind (announced? c) = none := by
    refine not_announced fun d hd => ?_
    cases cs with
    | nil => exact (hrest d hd).2
    | cons d' cs =>
      cases hd
      have := hcs d List.mem_cons_self
      constructor <;> rintro rfl <;> revert this <;> decide
  have htail : (cs ++ rest).takeWhile continuesWord = cs :=
    takeWhile_append_of_head hcs fun c hc => (hrest c hc).1
  rw [kindAt_word hc hat hannounced, htail, ← htext, String.ofList_toList]

/-- A quoted name is cut off. -/
theorem isCut_name {text : String} {quote : Char} (h : (Token.word text (some quote)).Whole)
    (hrest : ∀ c ∈ rest.head?, (Piece.token (.word text (some quote))).EndsBefore c) :
    IsCut previous (.token (.word text (some quote))) rest := by
  obtain ⟨rfl, parts, hfits, hbody⟩ := h
  have hread : quotedBody? '\x60' false (text.toList ++ '\x60' :: rest) = some text.toList :=
    (quotedBody?_eq_some_iff (by decide)).mpr
      ⟨parts, rest, hfits, hbody, rfl, fun heq => hrest '\x60' heq rfl⟩
  have hannounced : (text.toList ++ ['\x60'] ++ rest).head?.bind (announced? '\x60') = none := by
    cases text.toList <;> simp [announced?]
  refine ⟨'\x60', text.toList ++ ['\x60'], by simp [Piece.chars, Token.text], ?_⟩
  rw [kindAt, pieceAt_plain hannounced, List.append_assoc, List.singleton_append]
  change (namePiece .start '\x60' (text.toList ++ '\x60' :: rest)).toOption = _
  simp [namePiece, hread, Except.toOption]

/-- A string that no letter announces is cut off from its quote on. -/
theorem isCut_plainString {kind : StringKind} (hkind : kind = .single ∨ kind = .double) {body : String}
    (hread : quotedBody? kind.quote true (body.toList ++ kind.quote :: rest) = some body.toList) :
    IsCut previous (.token (.string kind body)) rest := by
  have hannounced (cs : List Char) : cs.head?.bind (announced? kind.quote) = none := by
    obtain rfl | rfl := hkind <;> cases cs <;> simp [announced?, StringKind.quote]
  refine ⟨kind.quote, body.toList ++ [kind.quote], ?_, ?_⟩
  · obtain rfl | rfl := hkind <;> simp [Piece.chars, Token.text, StringKind.quote]
  · rw [kindAt, pieceAt_plain (hannounced _), List.append_assoc, List.singleton_append]
    have hpiece : plainPiece .start previous kind.quote (body.toList ++ kind.quote :: rest) =
        stringPiece .start kind kind.quote (body.toList ++ kind.quote :: rest) := by
      obtain rfl | rfl := hkind <;> rfl
    have hescapes : (kind != .bits && kind != .bitsDouble) = true := by
      obtain rfl | rfl := hkind <;> rfl
    rw [hpiece, stringPiece, hescapes, hread]
    simp [Except.toOption]

/-- A string is cut off, up to what is no further quote. -/
theorem isCut_string {kind : StringKind} {body : String} (h : (Token.string kind body).Whole)
    (hrest : ∀ c ∈ rest.head?, (Piece.token (.string kind body)).EndsBefore c) :
    IsCut previous (.token (.string kind body)) rest := by
  obtain ⟨parts, hfits, hbody⟩ := h
  have hread : quotedBody? kind.quote kind.escapes (body.toList ++ kind.quote :: rest) = some body.toList :=
    (quotedBody?_eq_some_iff (by cases kind <;> decide)).mpr
      ⟨parts, rest, hfits, hbody, rfl, fun heq => hrest kind.quote heq rfl⟩
  -- a letter and a quote are read together, so the letter takes two characters
  have hannounced {lead : Char} (htext : (Token.string kind body).text.toList =
        lead :: kind.quote :: (body.toList ++ [kind.quote])) (hlead : announced? lead kind.quote = some kind) :
      IsCut previous (.token (.string kind body)) rest := by
    refine ⟨lead, kind.quote :: (body.toList ++ [kind.quote]), htext, ?_⟩
    have hread' := hread
    simp only [StringKind.escapes] at hread'
    simp [kindAt, pieceAt, hlead, stringPiece, hread', Except.map, Except.toOption]
  cases kind with
  | single => exact isCut_plainString (.inl rfl) hread
  | double => exact isCut_plainString (.inr rfl) hread
  | hex => exact hannounced (by simp [Token.text, StringKind.quote]; exact rfl) rfl
  | bits => exact hannounced (by simp [Token.text, StringKind.quote]; exact rfl) rfl
  | bitsDouble => exact hannounced (by simp [Token.text, StringKind.quote]; exact rfl) rfl
  | national => exact hannounced (by simp [Token.text, StringKind.quote]; exact rfl) rfl

/-- A placeholder is cut off. -/
theorem isCut_placeholder {text : String} (h : (Token.placeholder text).Whole)
    (hrest : ∀ c ∈ rest.head?, (Piece.token (.placeholder text)).EndsBefore c) :
    IsCut previous (.token (.placeholder text)) rest := by
  obtain ⟨digits, htext, hdigits⟩ := h
  refine ⟨'?', digits, htext, ?_⟩
  have hannounced : (digits ++ rest).head?.bind (announced? '?') = none := by
    cases (digits ++ rest) <;> simp [announced?]
  have htake : (digits ++ rest).takeWhile Text.isNumeral = digits := takeWhile_append_of_head hdigits hrest
  rw [kindAt, pieceAt_plain hannounced]
  change some (placeholderPiece '?' (digits ++ rest)) = _
  rw [placeholderPiece, htake, ← htext, String.ofList_toList]

/-- What a symbol starts with starts nothing else. -/
theorem plainPiece_of_mem_heads {c : Char} (hc : c ∈ Symbol.heads) {cs : List Char}
    (hminus : c = '-' → cs.head? ≠ some '-') (hdivide : c = '/' → cs.head? ≠ some '*') :
    plainPiece .start previous c cs = .ok (symbolPiece c cs) := by
  have hother : ∀ c ∈ Symbol.heads, c ≠ ' ' ∧ c ≠ '\t' ∧ c ≠ '\n' ∧ c ≠ '\r' ∧ c ≠ '@' ∧ ¬startsWord c ∧
      c ≠ '\x27' ∧ c ≠ '\x22' ∧ c ≠ '\x60' ∧ ¬c.isDigit ∧ c ≠ '.' ∧ c ≠ '#' ∧ c ≠ '?' := by decide
  obtain ⟨h1, h2, h3, h4, h5, h6, h7, h8, h9, h10, h11, h12, h13⟩ := hother c hc
  have hcomment : ¬(c = '-' ∧ ['-', ' '] <+: cs) := by
    rintro ⟨rfl, tail, rfl⟩
    exact hminus rfl rfl
  have hopen : ¬(c = '/' ∧ cs.head? = some '*') := fun h => hdivide h.1 h.2
  simp [plainPiece, h1, h2, h3, h4, h5, h6, h7, h8, h9, h10, h11, h12, h13, hcomment, hopen]

/-- A symbol is cut off, up to what does not prolong it. -/
theorem isCut_symbol {symbol : Symbol} (h : symbol.isPlain)
    (hrest : ∀ c ∈ rest.head?, (Piece.token (.symbol symbol)).EndsBefore c) :
    IsCut previous (.token (.symbol symbol)) rest := by
  obtain ⟨c, cs, htext, hc⟩ := Symbol.exists_head h
  refine ⟨c, cs, htext, ?_⟩
  have hhead : ∀ d ∈ Symbol.heads, (∀ quote, announced? d quote = none) := by
    intro d hd quote
    have hletters : ∀ d ∈ Symbol.heads, d ≠ 'b' ∧ d ≠ 'B' ∧ d ≠ 'n' ∧ d ≠ 'N' ∧ d ≠ 'x' ∧ d ≠ 'X' := by decide
    obtain ⟨h1, h2, h3, h4, h5, h6⟩ := hletters d hd
    simp [announced?, h1, h2, h3, h4, h5, h6]
  have hannounced : (cs ++ rest).head?.bind (announced? c) = none := by
    cases (cs ++ rest) <;> simp [hhead c hc]
  have hcomment (d : Char) (hd : (c = '-' ∧ d = '-') ∨ (c = '/' ∧ d = '*')) : (cs ++ rest).head? ≠ some d := by
    obtain ⟨hnext, hlast⟩ := Symbol.not_comment htext hd
    cases cs with
    | nil => exact fun heq => hrest d heq (hlast rfl)
    | cons _ _ => exact hnext
  have hleading := Symbol.leading?_append h hrest
  rw [htext, List.cons_append] at hleading
  have hplain : plainPiece .start previous c (cs ++ rest) = .ok (symbolPiece c (cs ++ rest)) :=
    plainPiece_of_mem_heads hc (fun heq => hcomment '-' (.inl ⟨heq, rfl⟩))
      (fun heq => hcomment '*' (.inr ⟨heq, rfl⟩))
  rw [kindAt, pieceAt_plain hannounced, hplain]
  simp [symbolPiece, hleading, Except.toOption]

/-- A period behind a word is cut off, because no number starts there. -/
theorem isCut_period (h : previous.any Token.isWord) : IsCut previous (.token (.symbol .period)) rest := by
  refine ⟨'.', [], rfl, ?_⟩
  have hannounced : rest.head?.bind (announced? '.') = none := by
    cases rest <;> simp [announced?]
  rw [List.nil_append, kindAt, pieceAt_plain hannounced]
  change (numeralPiece .start previous '.' rest).toOption = _
  by_cases hunderscore : rest.head? = some '_'
  · simp [numeralPiece, hunderscore, h, Except.toOption]
  · simp [numeralPiece, hunderscore, numeral, h, Except.toOption, Char.isDigit]

/-! ### Numbers -/

theorem takeWhile_append_of_not_head {p : Char → Bool} (hrest : ∀ c ∈ rest.head?, ¬p c) (cs : List Char) :
    (cs ++ rest).takeWhile p = cs.takeWhile p := by
  induction cs with
  | nil => exact takeWhile_append_of_head (by simp) hrest
  | cons c cs ih => by_cases hc : p c <;> simp [hc, ih]

/-- What does not start with a character does not bring it to the front of what it is appended to. -/
theorem head?_append_eq_iff {x : Char} (hrest : rest.head? ≠ some x) (cs : List Char) :
    (cs ++ rest).head? = some x ↔ cs.head? = some x := by
  cases cs <;> simp [hrest]

theorem take_one_append {p : Char → Bool} (hrest : ∀ c ∈ rest.head?, ¬p c) (cs : List Char) :
    ((cs ++ rest).take 1).filter p = (cs.take 1).filter p := by
  cases cs with
  | nil =>
    cases rest with
    | nil => rfl
    | cons c rest => simp [hrest c rfl]
  | cons _ _ => rfl

/-- An exponent ends with its digits. -/
theorem exponent_append (hrest : ∀ c ∈ rest.head?, ¬continuesWord c) {cs : List Char}
    (hcs : cs.length ≠ 1) : exponent (cs ++ rest) = exponent cs := by
  match cs with
  | [] =>
    cases rest with
    | nil => rfl
    | cons c rest =>
      have hc : c ≠ 'e' ∧ c ≠ 'E' := by
        constructor <;> rintro rfl <;> exact hrest _ rfl (by decide)
      simp [exponent, hc]
  | [_] => exact absurd rfl hcs
  | e :: c :: cs =>
    have hdigit : ∀ c ∈ rest.head?, ¬c.isDigit := fun c hc hdigit => hrest c hc (by simp [continuesWord, hdigit])
    by_cases hc : c = '+' ∨ c = '-'
    · simp [exponent, hc, takeWhile_append_of_not_head hdigit]
    · have htake := takeWhile_append_of_not_head hdigit (c :: cs)
      rw [List.cons_append] at htake
      simp [exponent, hc, htake]

theorem drop_takeWhile_append {p : Char → Bool} (cs : List Char) :
    (cs ++ rest).drop (cs.takeWhile p).length = cs.drop (cs.takeWhile p).length ++ rest :=
  List.drop_append_of_le_length (List.takeWhile_prefix p).length_le

theorem exponent_singleton (c : Char) : exponent [c] = [] := by
  simp [exponent]

/-- An exponent is no longer than the text it is read from. -/
theorem exponent_length (cs : List Char) : (exponent cs).length ≤ cs.length := by
  cases cs with
  | nil => simp [exponent]
  | cons e rest =>
    have hsign : ((rest.take 1).filter fun c => c = '+' || c = '-').length ≤ rest.length :=
      (List.length_filter_le _ _).trans (List.length_take_le' _ _)
    have hdigits (n : Nat) : ((rest.drop n).takeWhile Char.isDigit).length ≤ rest.length - n := by
      rw [← List.length_drop]
      exact (List.takeWhile_prefix _).length_le
    have := hdigits ((rest.take 1).filter fun c => c = '+' || c = '-').length
    simp only [exponent]
    split
    · split
      · simp
      · simp only [List.length_append, List.length_cons]
        omega
    · simp

/-- A number that is one alone is the same number before a text that it does not go on in. -/
theorem numeral_append {cs : List Char} {text : String} {long : Bool}
    (h : numeral none cs = (.number text long, cs.length)) (hprevious : ¬previous.any Token.isWord)
    (hperiod : previous ≠ some (.symbol .period)) (hrest : ∀ c ∈ rest.head?, ¬continuesWord c ∧ c ≠ '.') :
    numeral previous (cs ++ rest) = (.number text long, cs.length) := by
  have hhead {x : Char} (hx : continuesWord x) : rest.head? ≠ some x := fun heq => (hrest x heq).1 hx
  have hdigit : ∀ c ∈ rest.head?, ¬c.isDigit := fun c hc hdigit => (hrest c hc).1 (by simp [continuesWord, hdigit])
  have hpoint : ∀ c ∈ rest.head?, ¬decide (c = '.') := fun c hc => by simpa using (hrest c hc).2
  have hword : ∀ c ∈ rest.head?, ¬continuesWord c := fun c hc => (hrest c hc).1
  simp only [numeral] at h ⊢
  rw [takeWhile_append_of_not_head hdigit cs, drop_takeWhile_append]
  set whole := cs.takeWhile Char.isDigit
  set rest₁ := cs.drop whole.length
  simp only [head?_append_eq_iff (hhead (x := 'x') (by decide))]
  split at h
  · cases h
  next hx =>
  rw [if_neg hx]
  simp only [take_one_append hpoint]
  set point := (rest₁.take 1).filter (· = '.')
  have hpoint : point.length ≤ rest₁.length :=
    (List.length_filter_le _ _).trans ((List.length_take_le' _ _))
  rw [List.drop_append_of_le_length hpoint]
  set rest₂ := rest₁.drop point.length
  rw [takeWhile_append_of_not_head hdigit rest₂, drop_takeWhile_append]
  set fraction := rest₂.takeWhile Char.isDigit
  set rest₃ := rest₂.drop fraction.length
  set mantissa := whole ++ point ++ fraction
  simp only [Option.any_none, Bool.and_false, Bool.false_eq_true, if_false] at h ⊢
  have hlength : mantissa.length + rest₃.length = cs.length := by
    have h₁ : whole.length + rest₁.length = cs.length := by
      simp only [rest₁, List.length_drop]
      have hwhole : whole.length ≤ cs.length := (List.takeWhile_prefix _).length_le
      omega
    have h₃ : fraction.length + rest₃.length = rest₂.length := by
      simp only [rest₃, List.length_drop]
      have hfraction : fraction.length ≤ rest₂.length := (List.takeWhile_prefix _).length_le
      omega
    simp only [mantissa, rest₂, List.length_append, List.length_drop] at h₃ ⊢
    omega
  simp only [hprevious, Bool.and_false, Bool.false_eq_true, if_false]
  split at h
  · cases h
  next hmantissa =>
  rw [if_neg hmantissa]
  -- one character behind the digits is part of no number
  have hone : rest₃.length ≠ 1 := by
    intro hone
    obtain ⟨c, hc⟩ := List.length_eq_one_iff.mp hone
    simp only [hc, exponent_singleton] at h hlength
    simp only [List.isEmpty_nil, if_true, List.head?_cons, Option.some.injEq, List.length_singleton] at h hlength
    split at h
    · have hsize := congrArg Prod.snd h
      simp only at hsize
      omega
    · by_cases hcontinues : continuesWord c
      · simp [hcontinues] at h
      · simp [hcontinues] at h
        omega
  have hhead₃ {x : Char} (hx : continuesWord x) : (rest₃ ++ rest).head? = some x ↔ rest₃.head? = some x :=
    head?_append_eq_iff (hhead hx) rest₃
  have hlast : (rest₃.drop (exponent rest₃).length ++ rest).head? = some 'L' ↔
      (rest₃.drop (exponent rest₃).length).head? = some 'L' :=
    head?_append_eq_iff (hhead (by decide)) _
  simp only [exponent_append hword hone, hhead₃ (x := 'e') (by decide), hhead₃ (x := 'E') (by decide),
    takeWhile_append_of_not_head hword, List.drop_append_of_le_length (exponent_length _), hlast, hperiod]
  simpa using h

/-- A number starts nothing but a number. -/
theorem mem_of_startsNumber {c : Char} (hc : c.isDigit || c = '.') :
    c ∈ ['0', '1', '2', '3', '4', '5', '6', '7', '8', '9', '.'] := by
  obtain hc | rfl : c.isDigit ∨ c = '.' := by simpa using hc
  · obtain ⟨hlow, hhigh⟩ : 48 ≤ c.toNat ∧ c.toNat ≤ 57 := by
      simpa [Char.isDigit, UInt32.le_iff_toNat_le] using hc
    have hof : c = Char.ofNat c.toNat := (Char.ofNat_toNat c).symm
    generalize c.toNat = n at hof hlow hhigh
    subst hof
    obtain rfl | rfl | rfl | rfl | rfl | rfl | rfl | rfl | rfl | rfl : n = 48 ∨ n = 49 ∨ n = 50 ∨ n = 51 ∨ n = 52 ∨
      n = 53 ∨ n = 54 ∨ n = 55 ∨ n = 56 ∨ n = 57 := by omega
    all_goals decide
  · decide

/-- A number is cut off, up to what does not prolong it. -/
theorem isCut_number {text : String} {long : Bool} (h : (Token.number text long).Whole)
    (hprevious : (Piece.token (.number text long)).GoesBehind previous)
    (hrest : ∀ c ∈ rest.head?, (Piece.token (.number text long)).EndsBefore c) :
    IsCut previous (.token (.number text long)) rest := by
  obtain ⟨⟨c, htext, hc⟩, hnumeral⟩ := h
  obtain ⟨cs, hcs⟩ : ∃ cs, (Token.number text long).text.toList = c :: cs := by
    cases hlist : text.toList with
    | nil =>
      rw [hlist] at htext
      cases htext
    | cons d ds =>
      rw [hlist] at htext
      cases htext
      cases long <;> simp [Token.text, hlist]
  refine ⟨c, cs, hcs, ?_⟩
  rw [hcs] at hnumeral
  have hread := numeral_append hnumeral hprevious.1 hprevious.2 hrest
  have hmem := mem_of_startsNumber hc
  have hother : ∀ c ∈ ['0', '1', '2', '3', '4', '5', '6', '7', '8', '9', '.'], c ≠ ' ' ∧ c ≠ '\t' ∧ c ≠ '\n' ∧
      c ≠ '\r' ∧ c ≠ '@' ∧ ¬startsWord c ∧ c ≠ '\x27' ∧ c ≠ '\x22' ∧ c ≠ '\x60' := by decide
  have hletters : ∀ c ∈ ['0', '1', '2', '3', '4', '5', '6', '7', '8', '9', '.'],
      c ≠ 'b' ∧ c ≠ 'B' ∧ c ≠ 'n' ∧ c ≠ 'N' ∧ c ≠ 'x' ∧ c ≠ 'X' := by decide
  have hplain : plainPiece .start previous c (cs ++ rest) = numeralPiece .start previous c (cs ++ rest) := by
    obtain ⟨h1, h2, h3, h4, h5, h6, h7, h8, h9⟩ := hother c hmem
    have hstart : (c.isDigit || decide (c = '.')) = true := by simpa using hc
    simp [plainPiece, h1, h2, h3, h4, h5, h6, h7, h8, h9, hstart]
  have hannounced : (cs ++ rest).head?.bind (announced? c) = none := by
    obtain ⟨h1, h2, h3, h4, h5, h6⟩ := hletters c hmem
    cases (cs ++ rest) <;> simp [announced?, h1, h2, h3, h4, h5, h6]
  have hunderscore : ¬(c = '.' ∧ (cs ++ rest).head? = some '_') := by
    rintro ⟨rfl, hnext⟩
    -- a period before an underscore is a symbol, and so is a period that nothing follows
    cases cs with
    | nil => simp [numeral, Char.isDigit] at hnumeral
    | cons d cs =>
      cases hnext
      simp [numeral, Char.isDigit] at hnumeral
  rw [kindAt, pieceAt_plain hannounced, hplain, numeralPiece, if_neg (by simpa using hunderscore), ← List.cons_append,
    hread]
  rfl

/-! ## Piece behind piece -/

/-- Whether two pieces stay two where the second stands directly behind the first. -/
def Piece.Meets (p q : Piece) : Prop :=
  (∀ c ∈ q.chars.head?, p.EndsBefore c) ∧ q.GoesBehind p.token?

/-- Pieces as they are written. -/
def spell (ps : List Piece) : List Char :=
  ps.flatMap Piece.chars

@[simp] theorem spell_nil : spell [] = [] := rfl

@[simp] theorem spell_cons (p : Piece) (ps : List Piece) : spell (p :: ps) = p.chars ++ spell ps := rfl

@[simp] theorem spell_append (ps qs : List Piece) : spell (ps ++ qs) = spell ps ++ spell qs :=
  List.flatMap_append

/-- A piece that is read as it is written is cut off a text that does not go on in it. -/
theorem isCut_of_whole {piece : Piece} (h : piece.Whole) (hprevious : piece.GoesBehind previous)
    (hrest : ∀ c ∈ rest.head?, piece.EndsBefore c) : IsCut previous piece rest := by
  match piece with
  | .blank b => exact isCut_blank h
  | .token (.word text none) => exact isCut_word h hrest
  | .token (.word text (some quote)) => exact isCut_name h hrest
  | .token (.number text long) => exact isCut_number h hprevious hrest
  | .token (.string kind body) => exact isCut_string h hrest
  | .token (.placeholder text) => exact isCut_placeholder h hrest
  | .token (.symbol symbol) =>
    by_cases hsymbol : symbol = .period
    · subst hsymbol
      exact isCut_period hprevious
    · exact isCut_symbol (h.resolve_left hsymbol) hrest
  | .token (.char c) => exact h.elim

/-- A whole piece has a character. -/
theorem chars_ne_nil_of_whole {piece : Piece} (h : piece.Whole) : piece.chars ≠ [] := by
  match piece with
  | .blank b => obtain rfl | rfl := h <;> exact List.cons_ne_nil _ _
  | .token (.word text none) =>
    obtain ⟨c, cs, htext, -⟩ := isName_iff.mp h
    simp [Piece.chars, Token.text, htext]
  | .token (.word text (some quote)) => simp [Piece.chars, Token.text]
  | .token (.number text long) =>
    obtain ⟨⟨c, htext, -⟩, -⟩ := h
    cases long <;> cases hlist : text.toList <;> simp_all [Piece.chars, Token.text]
  | .token (.string kind body) => cases kind <;> simp [Piece.chars, Token.text]
  | .token (.placeholder text) =>
    obtain ⟨digits, htext, -⟩ := h
    simp [Piece.chars, Token.text, htext]
  | .token (.symbol symbol) => cases symbol <;> exact List.cons_ne_nil _ _
  | .token (.char c) => exact h.elim

/-- Pieces that can be written and stay apart are what their text is cut into. -/
theorem kinds_spell {ps : List Piece} (hwhole : ∀ p ∈ ps, p.Whole) (hmeets : ps.IsChain Piece.Meets)
    (hprevious : ∀ p ∈ ps.head?, p.GoesBehind previous) : kinds previous 0 (spell ps) = some ps := by
  induction ps generalizing previous with
  | nil => rfl
  | cons p ps ih =>
    obtain ⟨hp, hps⟩ := List.forall_mem_cons.mp hwhole
    obtain ⟨hnext, hmeets⟩ := List.isChain_cons.mp hmeets
    have hrest : ∀ c ∈ (spell ps).head?, p.EndsBefore c := by
      cases ps with
      | nil => simp
      | cons q ps =>
        intro c hc
        refine (hnext q rfl).1 c ?_
        have hq : q.chars ≠ [] := chars_ne_nil_of_whole (hps q List.mem_cons_self)
        rwa [spell_cons, List.head?_append_of_ne_nil _ hq] at hc
    have hcut : IsCut previous p (spell ps) := isCut_of_whole hp (hprevious p rfl) hrest
    rw [spell_cons, kinds_isCut hcut, ih hps hmeets fun q hq => (hnext q hq).2]
    rfl

/-! ## Blocks -/

/-- The characters that end whatever stands before them. -/
def separators : List Char :=
  [' ', '\n', ',', ')', ';']

/-- Before a separator every whole piece ends. -/
theorem endsBefore_of_mem_separators {p : Piece} (h : p.Whole) {c : Char} (hc : c ∈ separators) : p.EndsBefore c := by
  match p with
  | .blank b => exact trivial
  | .token (.word text none) =>
    have hnot : ∀ c ∈ separators, ¬continuesWord c ∧ c ≠ '\x27' ∧ c ≠ '\x22' := by decide
    exact hnot c hc
  | .token (.word text (some quote)) =>
    obtain ⟨rfl, -⟩ := h
    have hnot : ∀ c ∈ separators, c ≠ '\x60' := by decide
    exact hnot c hc
  | .token (.number text long) =>
    have hnot : ∀ c ∈ separators, ¬continuesWord c ∧ c ≠ '.' := by decide
    exact hnot c hc
  | .token (.string kind body) =>
    have hnot : ∀ c ∈ separators, c ≠ '\x27' ∧ c ≠ '\x22' := by decide
    obtain ⟨hsingle, hdouble⟩ := hnot c hc
    cases kind <;> first | exact hsingle | exact hdouble
  | .token (.placeholder text) =>
    have hnot : ∀ c ∈ separators, ¬Text.isNumeral c := by decide
    exact hnot c hc
  | .token (.symbol symbol) =>
    have hnot : ∀ c ∈ separators, c ∉ symbol.extensions := by cases symbol <;> decide
    exact hnot c hc
  | .token (.char c) => exact h.elim

/-- A piece that is no period stands behind what is neither a word nor a period. -/
theorem goesBehind_of_ne {p : Piece} (hp : p ≠ .token (.symbol .period)) (hword : ¬previous.any Token.isWord)
    (hperiod : previous ≠ some (.symbol .period)) : p.GoesBehind previous := by
  unfold Piece.GoesBehind
  split
  · exact absurd rfl hp
  · exact ⟨hword, hperiod⟩
  · trivial

/-- Pieces that are read as they are written, where a blank or a parenthesis stands before them and a
separator behind them. -/
structure Block (ps : List Piece) : Prop where
  whole : ∀ p ∈ ps, p.Whole
  meets : ps.IsChain Piece.Meets
  first : ∀ p ∈ ps.head?, p ≠ .token (.symbol .period)

/-- A blank. -/
def space : Piece :=
  .blank (.space ' ')

/-- A symbol. -/
def symbol (s : Symbol) : Piece :=
  .token (.symbol s)

namespace Block

variable {ps qs : List Piece}

/-- A block is cut into its pieces. -/
theorem kinds (h : Block ps) : Lexeme.kinds none 0 (spell ps) = some ps :=
  kinds_spell h.whole h.meets fun p hp => goesBehind_of_ne (h.first p hp) (by simp) (by simp)

theorem nil : Block [] := ⟨by simp, by simp, by simp⟩

/-- A whole piece that is no period is a block. -/
theorem single {p : Piece} (hwhole : p.Whole) (hfirst : p ≠ .token (.symbol .period)) : Block [p] :=
  ⟨by simpa using hwhole, by simp, by simpa using hfirst⟩

/-- A block behind another is a block, if the last piece of the one meets the first of the other. -/
theorem append (hp : Block ps) (hq : Block qs) (hmeet : ∀ p ∈ ps.getLast?, ∀ q ∈ qs.head?, p.Meets q) :
    Block (ps ++ qs) where
  whole p hmem := (List.mem_append.mp hmem).elim (hp.whole p) (hq.whole p)
  meets := List.isChain_append.mpr ⟨hp.meets, hq.meets, hmeet⟩
  first p hmem := by
    cases ps with
    | nil => exact hq.first p hmem
    | cons _ _ => exact hp.first p hmem

/-- What a separator starts stands behind whatever can be written. -/
theorem append_separator (hp : Block ps) {q : Piece} (hq : Block (q :: qs))
    (hsep : ∀ c ∈ q.chars.head?, c ∈ separators) (hprevious : ∀ previous, q.GoesBehind previous) :
    Block (ps ++ q :: qs) := by
  refine hp.append hq fun p hmem q' hq' => ?_
  cases hq'
  refine ⟨fun c hc => ?_, hprevious _⟩
  exact endsBefore_of_mem_separators (hp.whole p (List.mem_of_getLast? hmem)) (hsep c hc)

/-- A blank stands before what starts with no period. -/
theorem blank_cons {b : Blank} (hb : (Piece.blank b).Whole) (hq : Block qs) : Block (.blank b :: qs) := by
  have hblank : Block [.blank b] := .single hb (by simp)
  refine hblank.append hq fun p hp q hq' => ?_
  cases hp
  exact ⟨fun _ _ => trivial, goesBehind_of_ne (hq.first q hq') (by simp [Piece.token?]) (by simp [Piece.token?])⟩

/-- A block behind a blank is a block. -/
theorem space_cons (hq : Block qs) : Block (space :: qs) :=
  hq.blank_cons (.inl rfl)

/-- Blocks with a blank between them. -/
theorem spaced (hp : Block ps) (hq : Block qs) : Block (ps ++ space :: qs) :=
  hp.append_separator hq.space_cons (by simp [space, Piece.chars, Blank.text, separators]) fun _ => trivial

/-- A plain symbol is a block. -/
theorem symbol {s : Symbol} (hs : s.isPlain) : Block [symbol s] := by
  refine .single (.inr hs) ?_
  rintro ⟨⟩
  exact absurd hs (by decide)

/-- Blocks with a comma and a blank between them. -/
theorem comma (hp : Block ps) (hq : Block qs) : Block (ps ++ Lexeme.symbol .comma :: space :: qs) := by
  have hcomma : Block [Lexeme.symbol .comma] := .symbol (by decide)
  exact hp.append_separator (hcomma.spaced hq) (by simp [Lexeme.symbol, Piece.chars, Token.text, Symbol.text, separators])
    fun _ => trivial

/-- A block in parentheses. -/
theorem parens (hp : Block ps) : Block (Lexeme.symbol .leftParen :: ps ++ [Lexeme.symbol .rightParen]) := by
  have hleft : Block [Lexeme.symbol .leftParen] := .symbol (by decide)
  have hright : Block [Lexeme.symbol .rightParen] := .symbol (by decide)
  refine append_separator (hleft.append hp ?_) hright
    (by simp [Lexeme.symbol, Piece.chars, Token.text, Symbol.text, separators]) fun _ => trivial
  intro p hp' q hq
  cases hp'
  refine ⟨fun c _ => ?_, goesBehind_of_ne (hp.first q hq) (by simp [Lexeme.symbol, Piece.token?, Token.isWord])
    (by simp [Lexeme.symbol, Piece.token?])⟩
  have hnone : Symbol.extensions .leftParen = [] := by decide
  simp [Lexeme.symbol, Piece.EndsBefore, hnone]

end Block

end Lexeme
end InsertPivot.Sql
