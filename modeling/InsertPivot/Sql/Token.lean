import InsertPivot.Sql.Ident
import InsertPivot.Sql.Symbol

/-!
# Tokens

A token keeps what was written: a word its spelling and its quotes, a string its body. Which words are
keywords is asked of a word afterwards, and a quoted word never is one. `fold` forgets the letter case of a
word; a few letters beyond ASCII fold to ASCII ones, so that `ſet` is the keyword `SET`.
-/

namespace InsertPivot.Sql

/-- What a quoted text stands for. -/
inductive StringKind where
  | single
  | double
  | hex
  | bits
  | bitsDouble
  | national
deriving DecidableEq, Repr

/-- A token of the language. -/
inductive Token where
  | word (text : String) (quote : Option Char)
  /-- A number, and whether an `L` follows it. -/
  | number (text : String) (long : Bool)
  | string (kind : StringKind) (body : String)
  | placeholder (text : String)
  | symbol (s : Symbol)
  /-- A character that belongs to no other token. -/
  | char (c : Char)
deriving DecidableEq, Repr

/-- The letters that a letter of a keyword may be written for. -/
def foldChar (c : Char) : List Char :=
  if c.toNat < 0x80 then [c.toUpper]
  else
    match c with
    | 'ß' => ['S', 'S']
    | 'ı' => ['I']
    | 'ſ' => ['S']
    | 'ﬀ' => ['F', 'F']
    | 'ﬁ' => ['F', 'I']
    | 'ﬂ' => ['F', 'L']
    | 'ﬃ' => ['F', 'F', 'I']
    | 'ﬄ' => ['F', 'F', 'L']
    | 'ﬅ' => ['S', 'T']
    | 'ﬆ' => ['S', 'T']
    | _ => [c]

/-- A word without its letter case. -/
def fold (word : String) : String :=
  String.ofList (word.toList.flatMap foldChar)

namespace Token

/-- A token as messages show it. -/
def text : Token → String
  | word text none => text
  | word text (some quote) => quote.toString ++ text ++ quote.toString
  | number text long => if long then text ++ "L" else text
  | string .single body => "\x27" ++ body ++ "\x27"
  | string .double body => "\x22" ++ body ++ "\x22"
  | string .hex body => "X\x27" ++ body ++ "\x27"
  | string .bits body => "B\x27" ++ body ++ "\x27"
  | string .bitsDouble body => "B\x22" ++ body ++ "\x22"
  | string .national body => "N\x27" ++ body ++ "\x27"
  | placeholder text => text
  | symbol s => s.text
  | char c => c.toString

/-- The spelling of a word, without its quotes. -/
def wordText? : Token → Option String
  | word text _ => some text
  | _ => none

/-- Whether the token is a word, quoted or not. -/
def isWord : Token → Bool
  | word _ _ => true
  | _ => false

end Token

end InsertPivot.Sql
