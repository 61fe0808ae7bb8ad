/-!
# Symbols

The operators and separators of the language. `Symbol.leading?` reads the longest symbol that a text starts
with, so `->>` is never read as `->` and `>`.

A backslash is no symbol: no construct that is read here uses it.
-/

namespace InsertPivot.Sql

/-- An operator or separator. -/
inductive Symbol where
  | comma | period | semicolon | leftParen | rightParen
  | leftBracket | rightBracket | leftBrace | rightBrace
  | equal | doubleEqual | fatArrow | spaceship | notEqual | less | lessEq | greater | greaterEq
  | plus | minus | times | divide | percent
  | bar | doubleBar | ampersand | doubleAmpersand | caret | shiftLeft | shiftRight
  | bang | doubleBang
  | arrow | longArrow
  | colon | doubleColon | assign
  | atSign | doubleAt | atArrow | atQuestion | arrowAt | caretAt
  | root | cubeRoot
  | tilde | tildeStar | doubleTilde | doubleTildeStar
  | bangTilde | bangTildeStar | bangDoubleTilde | bangDoubleTildeStar
deriving DecidableEq, Repr

namespace Symbol

/-- A symbol as messages show it. The two spellings of "not equal" are shown alike. -/
def text : Symbol → String
  | comma => ","
  | period => "."
  | semicolon => ";"
  | leftParen => "("
  | rightParen => ")"
  | leftBracket => "["
  | rightBracket => "]"
  | leftBrace => "\x7b"
  | rightBrace => "\x7d"
  | equal => "="
  | doubleEqual => "=="
  | fatArrow => "=>"
  | spaceship => "<=>"
  | notEqual => "<>"
  | less => "<"
  | lessEq => "<="
  | greater => ">"
  | greaterEq => ">="
  | plus => "+"
  | minus => "-"
  | times => "*"
  | divide => "/"
  | percent => "%"
  | bar => "|"
  | doubleBar => "||"
  | ampersand => "&"
  | doubleAmpersand => "&&"
  | caret => "^"
  | shiftLeft => "<<"
  | shiftRight => ">>"
  | bang => "!"
  | doubleBang => "!!"
  | arrow => "->"
  | longArrow => "->>"
  | colon => ":"
  | doubleColon => "::"
  | assign => ":="
  | atSign => "@"
  | doubleAt => "@@"
  | atArrow => "@>"
  | atQuestion => "@?"
  | arrowAt => "<@"
  | caretAt => "^@"
  | root => "|/"
  | cubeRoot => "||/"
  | tilde => "~"
  | tildeStar => "~*"
  | doubleTilde => "~~"
  | doubleTildeStar => "~~*"
  | bangTilde => "!~"
  | bangTildeStar => "!~*"
  | bangDoubleTilde => "!~~"
  | bangDoubleTildeStar => "!~~*"

/-- The symbols that are read by their spelling alone, the longer before the shorter. -/
def spellings : List (List Char × Symbol) :=
  [(['!', '~', '~', '*'], bangDoubleTildeStar),
   (['!', '~', '~'], bangDoubleTilde), (['!', '~', '*'], bangTildeStar), (['~', '~', '*'], doubleTildeStar),
   (['|', '|', '/'], cubeRoot), (['-', '>', '>'], longArrow), (['<', '=', '>'], spaceship),
   (['!', '~'], bangTilde), (['!', '!'], doubleBang), (['!', '='], notEqual), (['~', '~'], doubleTilde),
   (['~', '*'], tildeStar), (['|', '|'], doubleBar), (['|', '/'], root), (['-', '>'], arrow),
   (['<', '='], lessEq), (['<', '>'], notEqual), (['<', '<'], shiftLeft), (['<', '@'], arrowAt),
   (['>', '='], greaterEq), (['>', '>'], shiftRight), (['=', '='], doubleEqual), (['=', '>'], fatArrow),
   (['&', '&'], doubleAmpersand), (['^', '@'], caretAt), ([':', ':'], doubleColon), ([':', '='], assign),
   ([','], comma), ([';'], semicolon), (['('], leftParen), ([')'], rightParen), (['['], leftBracket),
   ([']'], rightBracket), (['\x7b'], leftBrace), (['\x7d'], rightBrace), (['='], equal),
   (['<'], less), (['>'], greater), (['+'], plus), (['-'], minus), (['*'], times), (['/'], divide),
   (['%'], percent), (['|'], bar), (['&'], ampersand), (['^'], caret), (['!'], bang), (['~'], tilde),
   ([':'], colon)]

/-- The longest symbol that a text starts with, and the number of its characters. -/
def leading? (cs : List Char) : Option (Symbol × Nat) :=
  (spellings.find? fun (spelling, _) => spelling.isPrefixOf cs).map
    fun (spelling, symbol) => (symbol, spelling.length)

end Symbol

end InsertPivot.Sql
