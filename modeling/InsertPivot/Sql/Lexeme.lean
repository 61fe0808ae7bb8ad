import InsertPivot.Sql.Token
import InsertPivot.Text.Numerals
import InsertPivot.Text.Position

/-!
# Lexemes

`Lexeme.ofText` cuts a text into tokens, each with its place. Blanks and comments separate tokens and are
then dropped; only what directly follows a token is remembered, because a sign such as `:` binds the token
behind it only when nothing stands between.

`pieceAt` reads one token, blank or comment, and says how many characters it takes beyond the first. A
string or a quoted name keeps its whole body: a doubled quote is two characters of it, and so are a
backslash and what follows it.

Two readings depend on the piece before. A period directly after a word is never part of a number, so
`t.1a` is a name of two parts, and a number with an exponent directly after a period is such a part too.
-/

namespace InsertPivot.Sql

/-- What separates tokens. -/
inductive Blank where
  /-- White space, as messages show it: a lone carriage return is a line end, a form feed is a blank. -/
  | space (shown : Char)
  /-- A comment up to the end of its line, with its mark. -/
  | lineComment (text : String)
  /-- What stands between `/*` and `*/`. -/
  | blockComment (body : String)
deriving DecidableEq, Repr

/-- A blank as messages show it. -/
def Blank.text : Blank → String
  | space shown => shown.toString
  | lineComment text => text
  | blockComment body => "/*" ++ body ++ "*/"

/-- Why a text has no tokens. -/
inductive ScanFault where
  /-- The string whose quote stands here does not end. -/
  | openString (start : Text.Position)
  /-- The quoted name whose quote stands here does not end. -/
  | openName (start : Text.Position)
  /-- A comment does not end with the text, which ends here. -/
  | openComment (stop : Text.Position)
  /-- The period here has an underscore after it but no word before it. -/
  | strayUnderscore (start : Text.Position)
deriving DecidableEq, Repr

/-- The message of a fault. -/
def ScanFault.message : ScanFault → String
  | openString p => "Unterminated string literal" ++ p.message
  | openName p => "Expected close delimiter '\x60' before EOF." ++ p.message
  | openComment p => "Unexpected EOF while in a multi-line comment" ++ p.message
  | strayUnderscore p => "Unexpected character '_'" ++ p.message

/-- A token with its place, and the blank that directly follows it. -/
structure Lexeme where
  token : Token
  span : Text.Span
  gap : Option Blank
deriving DecidableEq, Repr

namespace Lexeme

/-- Whether a word may start with this character. -/
def startsWord (c : Char) : Bool :=
  c.isAlpha || c = '_' || c = '$' || c = '@' || 0x80 ≤ c.toNat

/-- Whether a word may continue with this character. -/
def continuesWord (c : Char) : Bool :=
  startsWord c || c.isDigit

/-- Whether this is a hexadecimal digit. -/
def isHexDigit (c : Char) : Bool :=
  c.isDigit || ('a' ≤ c && c ≤ 'f') || ('A' ≤ c && c ≤ 'F')

/-- The body of a quoted text, from after its opening quote to before its closing one. -/
def quotedBody? (quote : Char) (escapes : Bool) : List Char → Option (List Char)
  | [] => none
  | c :: cs =>
    if c = quote then
      match cs with
      | d :: ds => if d = quote then (quotedBody? quote escapes ds).map (c :: d :: ·) else some []
      | [] => some []
    else if escapes && c = '\\' then
      match cs with
      | d :: ds => (quotedBody? quote escapes ds).map (c :: d :: ·)
      | [] => none
    else (quotedBody? quote escapes cs).map (c :: ·)

/-- The body of a comment, from after its `/*` to before the nearest `*/`. -/
def commentBody? : List Char → Option (List Char)
  | [] => none
  | c :: cs => if c = '*' && cs.head? = some '/' then some [] else (commentBody? cs).map (c :: ·)

/-- A text through the end of its first line. -/
def throughLineEnd : List Char → List Char
  | [] => []
  | c :: cs => if c = '\n' then [c] else c :: throughLineEnd cs

/-- The exponent that a text starts with, if a digit follows its sign. -/
def exponent (cs : List Char) : List Char :=
  match cs with
  | e :: rest =>
    if e = 'e' || e = 'E' then
      let sign := (rest.take 1).filter fun c => c = '+' || c = '-'
      let digits := (rest.drop sign.length).takeWhile Char.isDigit
      if digits.isEmpty then [] else e :: sign ++ digits
    else []
  | [] => []

/-- The token that a text starts with when its first character is a digit or a period, and the number of
its characters. -/
def numeral (previous : Option Token) (cs : List Char) : Token × Nat :=
  let whole := cs.takeWhile Char.isDigit
  let rest := cs.drop whole.length
  if whole = ['0'] && rest.head? = some 'x' then
    let digits := (rest.drop 1).takeWhile isHexDigit
    (.string .hex (String.ofList digits), 2 + digits.length)
  else
    let point := (rest.take 1).filter (· = '.')
    if whole.isEmpty && previous.any Token.isWord then (.symbol .period, 1)
    else
      let rest := rest.drop point.length
      let fraction := rest.takeWhile Char.isDigit
      let rest := rest.drop fraction.length
      let mantissa := whole ++ point ++ fraction
      if mantissa = ['.'] then (.symbol .period, 1)
      else
        let power := exponent rest
        let inName := previous = some (.symbol .period)
        if power.isEmpty then
          if rest.head? = some 'e' || rest.head? = some 'E' then
            let text := String.ofList mantissa
            (if inName then .word text none else .number text false, mantissa.length)
          else
            let tail := rest.takeWhile continuesWord
            let text := String.ofList (mantissa ++ tail)
            (if tail.isEmpty then .number text false else .word text none, mantissa.length + tail.length)
        else
          let text := String.ofList (mantissa ++ power)
          let size := mantissa.length + power.length
          if inName then (.word text none, size)
          else if (rest.drop power.length).head? = some 'L' then (.number text true, size + 1)
          else (.number text false, size)

/-- A token or what separates tokens. -/
inductive Piece where
  | token (token : Token)
  | blank (blank : Blank)
deriving DecidableEq, Repr

/-- The token of a piece. -/
def Piece.token? : Piece → Option Token
  | token t => some t
  | blank _ => none

/-- The blank of a piece. -/
def Piece.blank? : Piece → Option Blank
  | token _ => none
  | blank b => some b

/-- The kind of string that a letter announces when a quote follows it. -/
def announced? (c quote : Char) : Option StringKind :=
  if quote = '\x27' then
    if c = 'b' || c = 'B' then some .bits
    else if c = 'n' || c = 'N' then some .national
    else if c = 'x' || c = 'X' then some .hex
    else none
  else if quote = '\x22' && (c = 'b' || c = 'B') then some .bitsDouble
  else none

/-- A string whose opening quote stands at a position and whose text goes on with some characters, and the
number of these that it takes. -/
def stringPiece (p : Text.Position) (kind : StringKind) (quote : Char) (cs : List Char) :
    Except ScanFault (Piece × Nat) :=
  match quotedBody? quote (kind != .bits && kind != .bitsDouble) cs with
  | none => .error (.openString p)
  | some body => .ok (.token (.string kind (String.ofList body)), body.length + 1)

/-- The word that starts with a character and goes on with some of the characters after it. -/
def wordPiece (lead cs : List Char) : Piece × Nat :=
  let tail := cs.takeWhile continuesWord
  (.token (.word (String.ofList (lead ++ tail)) none), lead.length - 1 + tail.length)

/-- What an at sign starts. A blank or a quote after it leaves it alone; any other character makes it a
word. -/
def atPiece : List Char → Piece × Nat
  | '>' :: _ => (.token (.symbol .atArrow), 1)
  | '?' :: _ => (.token (.symbol .atQuestion), 1)
  | ['@'] => (.token (.symbol .doubleAt), 1)
  | '@' :: c :: cs => if c = ' ' then (.token (.symbol .doubleAt), 1) else wordPiece ['@', '@', c] cs
  | c :: cs =>
    if c = ' ' || c = '\x27' || c = '\x22' || c = '\x60' then (.token (.symbol .atSign), 0)
    else wordPiece ['@', c] cs
  | [] => (.token (.symbol .atSign), 0)

/-- A quoted name whose opening quote stands at a position. -/
def namePiece (p : Text.Position) (quote : Char) (cs : List Char) : Except ScanFault (Piece × Nat) :=
  match quotedBody? quote false cs with
  | none => .error (.openName p)
  | some body => .ok (.token (.word (String.ofList body) (some quote)), body.length + 1)

/-- What a digit or a period at a position starts. -/
def numeralPiece (p : Text.Position) (previous : Option Token) (c : Char) (cs : List Char) :
    Except ScanFault (Piece × Nat) :=
  if c = '.' && cs.head? = some '_' then
    if previous.any Token.isWord then .ok (.token (.symbol .period), 0)
    else .error (.strayUnderscore p)
  else
    let (token, size) := numeral previous (c :: cs)
    .ok (.token token, size - 1)

/-- A comment up to the end of its line. -/
def linePiece (c : Char) (cs : List Char) : Piece × Nat :=
  let line := throughLineEnd cs
  (.blank (.lineComment (String.ofList (c :: line))), line.length)

/-- A comment whose slash stands at a position. -/
def commentPiece (p : Text.Position) (c : Char) (cs : List Char) : Except ScanFault (Piece × Nat) :=
  match commentBody? (cs.drop 1) with
  | none => .error (.openComment (p.afterAll (c :: cs)))
  | some body => .ok (.blank (.blockComment (String.ofList body)), body.length + 3)

/-- What a question mark starts. -/
def placeholderPiece (c : Char) (cs : List Char) : Piece × Nat :=
  let digits := cs.takeWhile Text.isNumeral
  (.token (.placeholder (String.ofList (c :: digits))), digits.length)

/-- The longest symbol that a text starts with, or else its first character alone. -/
def symbolPiece (c : Char) (cs : List Char) : Piece × Nat :=
  match Symbol.leading? (c :: cs) with
  | some (symbol, size) => (.token (.symbol symbol), size - 1)
  | none => if c = '\x0b' || c = '\x0c' then (.blank (.space ' '), 0) else (.token (.char c), 0)

/-- What a text starts with that no letter announces as a string. -/
def plainPiece (p : Text.Position) (previous : Option Token) (c : Char) (cs : List Char) :
    Except ScanFault (Piece × Nat) :=
  if c = ' ' || c = '\t' || c = '\n' then .ok (.blank (.space c), 0)
  else if c = '\r' then .ok (.blank (.space '\n'), if cs.head? = some '\n' then 1 else 0)
  else if c = '@' then .ok (atPiece cs)
  else if startsWord c then .ok (wordPiece [c] cs)
  else if c = '\x27' then stringPiece p .single c cs
  else if c = '\x22' then stringPiece p .double c cs
  else if c = '\x60' then namePiece p c cs
  else if c.isDigit || c = '.' then numeralPiece p previous c cs
  else if c = '#' || (c = '-' && ['-', ' '].isPrefixOf cs) then .ok (linePiece c cs)
  else if c = '/' && cs.head? = some '*' then commentPiece p c cs
  else if c = '?' then .ok (placeholderPiece c cs)
  else .ok (symbolPiece c cs)

/-- What a text starts with whose first character stands at a position, and how many of the characters
after the first belong to it. -/
def pieceAt (p : Text.Position) (previous : Option Token) (c : Char) (cs : List Char) :
    Except ScanFault (Piece × Nat) :=
  match (cs.head?.bind (announced? c)), cs with
  | some kind, quote :: body =>
    (stringPiece (p.after c) kind quote body).map fun (piece, size) => (piece, size + 1)
  | _, _ => plainPiece p previous c cs

/-- The pieces of a text, with their places, from a position on; the first characters of it may belong to
the piece before. -/
def pieces (p : Text.Position) (previous : Option Token) :
    Nat → List Char → Except ScanFault (List (Piece × Text.Span))
  | _, [] => .ok []
  | taken + 1, c :: cs => pieces (p.after c) previous taken cs
  | 0, c :: cs => do
    let (piece, more) ← pieceAt p previous c cs
    let rest ← pieces (p.after c) piece.token? more cs
    .ok ((piece, ⟨p, p.afterAll (c :: cs.take more)⟩) :: rest)

/-- The tokens among some pieces. -/
def ofPieces : List (Piece × Text.Span) → List Lexeme
  | [] => []
  | (.token token, span) :: rest => ⟨token, span, rest.head?.bind (·.1.blank?)⟩ :: ofPieces rest
  | (.blank _, _) :: rest => ofPieces rest

/-- All pieces of a text, with their places. -/
def piecesOf (text : String) : Except ScanFault (List (Piece × Text.Span)) :=
  pieces .start none 0 text.toList

/-- The lexemes of a text. -/
def ofText (text : String) : Except ScanFault (List Lexeme) :=
  (piecesOf text).map ofPieces

end Lexeme

end InsertPivot.Sql
