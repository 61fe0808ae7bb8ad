import InsertPivot.Proofs.Operand

/-!
# Expressions that are read as they are written

An expression is written from left to right, and no parentheses are added. So whether it is read again as
the expression that it is depends on how tightly its operators bind: the operators of a left side must not
bind weaker than the one behind it, those of a right side must bind tighter than the one before it. `Legible`
says this of literals, names, functions, signs, the operators and tests between two expressions, choices and
amounts of time, and of such expressions in parentheses. It also counts how deep they stand in one another.

What is left out are queries and comparisons with their rows, casts and literals behind their types, arrays and
what brackets take out of them, collations, escapes and time zones, the functions that are written with words
between their arguments, and the clauses of functions.
-/

namespace InsertPivot.Sql

open Lexeme (Piece Block bare symbol space spell)

/-! ## The tokens of an expression -/

/-- The pieces of an operator before its operand. -/
def UnaryOp.pieces : UnaryOp → List Piece
  | minus => [symbol .minus]
  | plus => [symbol .plus]
  | bitwiseNot => [symbol .tilde]
  | not => [.token (.word "NOT" none), space]

/-- The symbol of a match of a text. -/
def patternSymbol (negated like caseless : Bool) : Symbol :=
  match negated, like, caseless with
  | false, false, false => .tilde
  | false, false, true => .tildeStar
  | false, true, false => .doubleTilde
  | false, true, true => .doubleTildeStar
  | true, false, false => .bangTilde
  | true, false, true => .bangTildeStar
  | true, true, false => .bangDoubleTilde
  | true, true, true => .bangDoubleTildeStar

/-- The token of an operator between its operands. -/
def BinaryOp.token : BinaryOp → Token
  | plus => .symbol .plus
  | minus => .symbol .minus
  | multiply => .symbol .times
  | divide => .symbol .divide
  | modulo => .symbol .percent
  | integerDivide => .word "DIV" none
  | concat => .symbol .doubleBar
  | greater => .symbol .greater
  | less => .symbol .less
  | greaterEq => .symbol .greaterEq
  | lessEq => .symbol .lessEq
  | spaceship => .symbol .spaceship
  | equal => .symbol .equal
  | notEqual => .symbol .notEqual
  | assign => .symbol .assign
  | and => .word "AND" none
  | or => .word "OR" none
  | xor => .word "XOR" none
  | overlaps => .word "OVERLAPS" none
  | bitwiseOr => .symbol .bar
  | bitwiseAnd => .symbol .ampersand
  | bitwiseXor => .symbol .caret
  | arrow => .symbol .arrow
  | longArrow => .symbol .longArrow
  | contains => .symbol .atArrow
  | containedIn => .symbol .arrowAt
  | pathExists => .symbol .atQuestion
  | pathMatches => .symbol .doubleAt
  | pattern negated like caseless => .symbol (patternSymbol negated like caseless)

/-- The word `NOT`, where a test is negated. -/
def negationWords (negated : Bool) : List String :=
  if negated then ["NOT"] else []

/-- The words for the rules by which a text is matched. -/
def Likeness.words : Likeness → List String
  | like => ["LIKE"]
  | ilike => ["ILIKE"]
  | similar => ["SIMILAR", "TO"]

/-- The words of a test of truth. -/
def truthWords (negated : Bool) (truth : Truth) : List String :=
  "IS" :: (negationWords negated ++ [truth.text])

/-- The words of a comparison that takes nulls for values. -/
def distinctWords (negated : Bool) : List String :=
  "IS" :: (negationWords negated ++ ["DISTINCT", "FROM"])

/-- The words of a match of a text by a regular expression. -/
def regexpWords (negated rlike : Bool) : List String :=
  negationWords negated ++ [if rlike then "RLIKE" else "REGEXP"]

mutual

/-- An expression, piece by piece, if it is one of those that can be `Legible`. -/
def Expr.pieces : Expr → List Piece
  | .literal value _ => [.token value.token]
  | .column name => [.token name.token]
  | .qualified parts => dottedPieces parts
  | .call ⟨name, .absent, false, [], none, none⟩ => dottedPieces name
  | .call ⟨name, .given none items [], false, [], none, none⟩ =>
    dottedPieces name ++ enclosed (listed (argumentPieces items))
  | .nested inner => enclosed inner.pieces
  | .tuple items => enclosed (listed (exprPieces items))
  | .unary op operand => op.pieces ++ operand.pieces
  | .binary left op right => left.pieces ++ (spaced [op.token] ++ space :: right.pieces)
  | .is operand negated truth => operand.pieces ++ spaced (wordTokens (truthWords negated truth))
  | .isDistinct left negated right =>
    left.pieces ++ (spaced (wordTokens (distinctWords negated)) ++ space :: right.pieces)
  | .inList operand negated items =>
    operand.pieces ++ (spaced (wordTokens (negationWords negated ++ ["IN"])) ++
      space :: enclosed (listed (exprPieces items)))
  | .between operand negated low high =>
    operand.pieces ++ (spaced (wordTokens (negationWords negated ++ ["BETWEEN"])) ++
      space :: (low.pieces ++ (spaced (wordTokens ["AND"]) ++ space :: high.pieces)))
  | .like likeness operand negated false pattern none =>
    operand.pieces ++ (spaced (wordTokens (negationWords negated ++ likeness.words)) ++ space :: pattern.pieces)
  | .regexp operand negated rlike pattern =>
    operand.pieces ++ (spaced (wordTokens (regexpWords negated rlike)) ++ space :: pattern.pieces)
  | .case operand branches otherwise =>
    .token (.word "CASE" none) :: (operandPieces operand ++ (branchPieces branches ++
      (otherwisePieces otherwise ++ spaced (wordTokens ["END"]))))
  | .interval amount ⟨leading, none, none, none⟩ =>
    .token (.word "INTERVAL" none) :: space :: (amount.pieces ++ spaced (wordTokens [leading]))
  | _ => []

/-- Expressions, piece by piece. -/
def exprPieces : List Expr → List (List Piece)
  | [] => []
  | e :: es => e.pieces :: exprPieces es

/-- The arguments of a function, piece by piece. -/
def argumentPieces : List Argument → List (List Piece)
  | [] => []
  | .value e :: rest => e.pieces :: argumentPieces rest
  | _ :: rest => [] :: argumentPieces rest

/-- The branches of a `CASE`, piece by piece. -/
def branchPieces : List Branch → List Piece
  | [] => []
  | ⟨condition, result⟩ :: rest =>
    spaced (wordTokens ["WHEN"]) ++ space :: (condition.pieces ++ (spaced (wordTokens ["THEN"]) ++
      space :: (result.pieces ++ branchPieces rest)))

/-- What the branches of a `CASE` ask about, where it is said, piece by piece. -/
def operandPieces : Option Expr → List Piece
  | none => []
  | some e => space :: e.pieces

/-- What a `CASE` is where no branch holds, where it is said, piece by piece. -/
def otherwisePieces : Option Expr → List Piece
  | none => []
  | some e => spaced (wordTokens ["ELSE"]) ++ space :: e.pieces

end

/-- The pieces of expressions are those of each. -/
theorem exprPieces_eq_map (es : List Expr) : exprPieces es = es.map Expr.pieces := by
  induction es with
  | nil => rfl
  | cons e es ih => rw [exprPieces, ih, List.map_cons]

/-- Arguments that are values are written as the values. -/
theorem argumentPieces_map_value (es : List Expr) : argumentPieces (es.map .value) = es.map Expr.pieces := by
  induction es with
  | nil => rfl
  | cons e es ih => rw [List.map_cons, argumentPieces, ih, List.map_cons]

/-! ## How tightly operators bind -/

/-- How tightly an operator binds the operand behind it. -/
def UnaryOp.strength : UnaryOp → Nat
  | minus | plus => Reader.signStrength
  | bitwiseNot => Reader.tildeStrength
  | not => Reader.notStrength

/-- How tightly an operator binds its operands. -/
def BinaryOp.strength (op : BinaryOp) : Nat :=
  match op.token with
  | .symbol s => Reader.symbolStrength s
  | .word text _ => Reader.keywordStrength text none none
  | _ => 0

/-- How tightly an operator binds its right side. Behind `DIV` a whole expression is read. -/
def BinaryOp.rightStrength (op : BinaryOp) : Nat :=
  if op = .integerDivide then 0 else op.strength

/-- The tightest that an operator behind an expression may bind so that it does not belong to the last
operand of the expression. -/
def Expr.closing : Expr → Nat
  | .unary op operand => min op.strength operand.closing
  | .binary _ op right => min op.rightStrength right.closing
  | .isDistinct _ _ right => min 0 right.closing
  | .between _ _ _ high => min Reader.comparisonStrength high.closing
  | .like _ _ _ _ pattern _ => min Reader.likeStrength pattern.closing
  | .regexp _ _ _ pattern => min Reader.likeStrength pattern.closing
  | _ => Reader.periodStrength

/-- Whether an expression starts with a sign. -/
def Expr.isSigned : Expr → Bool
  | .unary op _ => op != .not
  | .binary left _ _ => left.isSigned
  | .is operand _ _ => operand.isSigned
  | .isDistinct left _ _ => left.isSigned
  | .inList operand _ _ => operand.isSigned
  | .between operand _ _ _ => operand.isSigned
  | .like _ operand _ _ _ _ => operand.isSigned
  | .regexp operand _ _ _ => operand.isSigned
  | _ => false

/-! ## Legible expressions -/

/-- Whether a name is read as a name wherever an operand may stand: it is written in backticks, or it is a
word without a meaning. -/
def Ident.Plain (name : Ident) : Prop :=
  name.Whole ∧ ∀ keyword ∈ name.token.keyword?, keyword ∉ Keyword.vocabulary

/-- Whether a name is read as a name where an operand may stand: it is written in backticks, or it is a word
that opens nothing else there. -/
def Ident.Free (name : Ident) : Prop :=
  name.Whole ∧ ∀ keyword ∈ name.token.keyword?, keyword ∉ Reader.openingWords

/-- A plain name has no meaning of its own. -/
theorem Ident.Plain.free {name : Ident} (h : name.Plain) : name.Free :=
  ⟨h.1, fun keyword hkeyword hmem => h.2 keyword hkeyword (Reader.openingWords_sublist.subset hmem)⟩

/-- Whether a name before a parenthesis is read as a function: it is free, or a function of time, or a type that is
no amount of time. -/
def Ident.Callable (name : Ident) : Prop :=
  name.Whole ∧ ∀ keyword ∈ name.token.keyword?, keyword ∉ Reader.openingWords ∨ keyword ∈ Reader.clockWords ∨
    (keyword ∈ Reader.typeWords ∧ keyword ≠ "INTERVAL")

/-- Whether an expression is read as an argument of a function: it is not taken for a clause before the arguments, nor
for the value of an argument with a name. -/
structure Expr.FitsArgument (e : Expr) : Prop where
  first : ∀ keyword ∈ ["DISTINCT", "ABSENT", "RETURNING"], ¬Reader.Starts keyword e.pieces
  second : ∀ keyword ∈ ["VALUE", "ON"], ¬Reader.Starts keyword e.pieces.tail

/-- Whether an expression in parentheses does not start like a query. -/
structure Expr.OpensNoQuery (e : Expr) : Prop where
  paren : nextToken e.pieces ≠ some (.symbol .leftParen)
  word : ∀ keyword ∈ ["VALUES", "VALUE", "INSERT", "UPDATE", "DELETE", "MERGE"], ¬Reader.Starts keyword e.pieces

/-- Whether an expression is two expressions with these tokens between them, where `tightness` is how tightly the tokens
bind what stands before them and `behind` how tightly they bind what stands behind them. -/
inductive Expr.Joins (left right : Expr) : List Token → (tightness behind : Nat) → Expr → Prop where
  | binary {op : BinaryOp} (whole : op.token.Whole) :
      Joins left right [op.token] op.strength op.rightStrength (.binary left op right)
  | distinct (negated : Bool) :
      Joins left right (wordTokens (distinctWords negated)) Reader.isStrength 0 (.isDistinct left negated right)
  | like (likeness : Likeness) (negated : Bool) :
      Joins left right (wordTokens (negationWords negated ++ likeness.words)) Reader.likeStrength Reader.likeStrength
        (.like likeness left negated false right none)
  /-- A word behind `REGEXP` that asks for a match or for a null would be taken for part of the test. -/
  | regexp (negated rlike : Bool) (word : ∀ keyword ∈ ["RLIKE", "NULL"], ¬Reader.Starts keyword right.pieces) :
      Joins left right (wordTokens (regexpWords negated rlike)) Reader.likeStrength Reader.likeStrength
        (.regexp left negated rlike right)

/-- Whether an expression is read as it is written, where operators that bind tighter than `least` belong to
it and expressions in it may stand so many levels deep in one another. -/
inductive Expr.Legible : Expr → (levels least : Nat) → Prop where
  | literal {value place levels least} (whole : value.token.Whole) : Legible (.literal value place) levels least
  | column {name levels least} (free : name.Free) : Legible (.column name) levels least
  | qualified {qualifier name levels least} (ne : qualifier ≠ []) (free : ∀ part ∈ qualifier ++ [name], part.Free) :
      Legible (.qualified (qualifier ++ [name])) (levels + qualifier.length) least
  | clock {name levels least} (whole : name.Whole) (word : ∃ keyword ∈ name.token.keyword?, keyword ∈ Reader.clockWords) :
      Legible (.call { name := [name], arguments := .absent }) levels least
  | call {qualifier : List Ident} {name : Ident} {items : List Expr} {deeper least : Nat}
      (free : ∀ part ∈ qualifier, part.Free) (callable : name.Callable) (fits : ∀ e ∈ items, e.FitsArgument)
      (items_legible : ∀ e ∈ items, Legible e deeper 0) :
      Legible (.call { name := qualifier ++ [name], arguments := .given none (items.map .value) [] })
        (deeper + 1 + qualifier.length) least
  | nested {inner deeper least} (inner_legible : Legible inner deeper 0) : Legible (.nested inner) (deeper + 1) least
  | tuple {first second items deeper least} (items_legible : ∀ e ∈ first :: second :: items, Legible e deeper 0) :
      Legible (.tuple (first :: second :: items)) (deeper + 1) least
  | unary {op operand deeper least} (unsigned : op ≠ .not → ¬operand.isSigned)
      (operand_legible : Legible operand deeper op.strength) : Legible (.unary op operand) (deeper + 1) least
  | joined {e left right tokens tightness behind deeper least} (joins : Joins left right tokens tightness behind e)
      (tight : least < tightness) (closed : tightness ≤ left.closing) (left_legible : Legible left (deeper + 1) least)
      (right_legible : Legible right deeper behind) : Legible e (deeper + 1) least
  | is {operand negated truth levels least} (tight : least < Reader.isStrength) (closed : Reader.isStrength ≤ operand.closing)
      (operand_legible : Legible operand levels least) : Legible (.is operand negated truth) levels least
  | inList {operand negated first items deeper least} (opens : first.OpensNoQuery)
      (tight : least < Reader.comparisonStrength) (closed : Reader.comparisonStrength ≤ operand.closing)
      (operand_legible : Legible operand (deeper + 1) least)
      (items_legible : ∀ e ∈ first :: items, Legible e deeper 0) :
      Legible (.inList operand negated (first :: items)) (deeper + 1) least
  | between {operand negated low high deeper least} (tight : least < Reader.comparisonStrength)
      (closed : Reader.comparisonStrength ≤ operand.closing) (low_closed : BinaryOp.strength .and ≤ low.closing)
      (operand_legible : Legible operand (deeper + 1) least)
      (low_legible : Legible low deeper Reader.comparisonStrength)
      (high_legible : Legible high deeper Reader.comparisonStrength) :
      Legible (.between operand negated low high) (deeper + 1) least
  | case {operand first branches otherwise deeper least} (word : ∀ e ∈ operand, ¬Reader.Starts "WHEN" e.pieces)
      (operand_legible : ∀ e ∈ operand, Legible e deeper 0)
      (conditions_legible : ∀ branch ∈ first :: branches, Legible branch.condition deeper 0)
      (results_legible : ∀ branch ∈ first :: branches, Legible branch.result deeper 0)
      (otherwise_legible : ∀ e ∈ otherwise, Legible e deeper 0) :
      Legible (.case operand (first :: branches) otherwise) (deeper + 1) least
  | interval {amount leading deeper least} (unit : leading ∈ Reader.intervalUnits) (amount_legible : Legible amount deeper 0) :
      Legible (.interval amount { leading }) (deeper + 1) least

/-- A function without other names before its own. -/
theorem Expr.Legible.function {name : Ident} {items : List Expr} {deeper least : Nat} (hname : name.Callable)
    (hfits : ∀ e ∈ items, e.FitsArgument) (hitems : ∀ e ∈ items, e.Legible deeper 0) :
    (Expr.call { name := [name], arguments := .given none (items.map .value) [] }).Legible (deeper + 1) least :=
  @call [] name items deeper least (by simp) hname hfits hitems

/-! ## As it is written -/

/-- A whole literal is written as its token. -/
theorem Literal.toList_text {value : Literal} (h : value.token.Whole) :
    value.text.toList = value.token.text.toList := by
  have henclosed {quote : Char} {body : String} (hquote : quote ≠ '\\') {escapes : Bool}
      (hbody : IsBody quote escapes body.toList) : escape quote body = body := by
    obtain ⟨parts, hfits, hbody⟩ := hbody
    rw [escape, hbody, escapeFrom_bodyOf hquote hfits, ← hbody, String.ofList_toList]
  cases value with
  | null => rfl
  | boolean value => cases value <;> rfl
  | number text long => cases long <;> rfl
  | single body =>
    have hbody := henclosed (by decide) h
    simp only [StringKind.quote] at hbody
    simp [text, enclose, hbody, token, Token.text]
  | double body =>
    have hbody := henclosed (by decide) h
    simp only [StringKind.quote] at hbody
    simp [text, enclose, hbody, token, Token.text]
  | _ => rfl

/-- An operator in front of an operand is written as its pieces. -/
theorem UnaryOp.toList_text (op : UnaryOp) : op.text.toList = spell op.pieces := by
  cases op <;> rfl

/-- An operator between operands is written as its token. -/
theorem BinaryOp.toList_text (op : BinaryOp) : op.text.toList = op.token.text.toList := by
  cases op with
  | pattern negated like caseless => cases negated <;> cases like <;> cases caseless <;> decide
  | _ => rfl

/-- Words are written with a blank before each. -/
theorem spell_words (words : List String) :
    spell (spaced (wordTokens words)) = words.flatMap fun word => ' ' :: word.toList := by
  induction words with
  | nil => rfl
  | cons word words ih =>
    rw [wordTokens, List.map_cons, ← wordTokens, spaced_cons, Lexeme.spell_cons, Lexeme.spell_cons, ih]
    rfl

namespace Expr.Joins

variable {left right e : Expr} {tokens : List Token} {tightness behind : Nat}

/-- The pieces of joined expressions are those of the left one, the tokens between them and those of the right one. -/
theorem pieces_eq (h : Joins left right tokens tightness behind e) :
    e.pieces = left.pieces ++ (spaced tokens ++ space :: right.pieces) := by
  cases h <;> rfl

/-- Joined expressions stop what binds less tightly than what joins them and what closes the right one. -/
theorem closing_eq (h : Joins left right tokens tightness behind e) : e.closing = min behind right.closing := by
  cases h <;> rfl

/-- Joined expressions start with a sign if the left one does. -/
theorem isSigned_eq (h : Joins left right tokens tightness behind e) : e.isSigned = left.isSigned := by
  cases h <;> rfl

/-- Joined expressions are written with the tokens between them. -/
theorem toList_text (h : Joins left right tokens tightness behind e) :
    e.text.toList = left.text.toList ++ (spell (spaced tokens) ++ ' ' :: right.text.toList) := by
  cases h with
  | @binary op whole =>
    rw [Expr.text]
    simp only [String.toList_append, op.toList_text]
    simp [space, Piece.chars, Blank.text]
  | distinct negated => cases negated <;> simp [Expr.text, distinctWords, negationWords, negation, wordIf, spell_words]
  | like likeness negated =>
    cases likeness <;> cases negated <;>
      simp [Expr.text, Likeness.words, Likeness.text, negationWords, negation, wordIf, behind, spell_words]
  | regexp negated rlike =>
    cases negated <;> cases rlike <;> simp [Expr.text, regexpWords, negationWords, negation, wordIf, spell_words]

end Expr.Joins

/-- Expressions that are spelled as their pieces are so in a list. -/
theorem toList_exprTexts {es : List Expr} (h : ∀ e ∈ es, e.text.toList = spell e.pieces) :
    (exprTexts es).map String.toList = (exprPieces es).map spell := by
  rw [Style.exprTexts_eq_map, exprPieces_eq_map, List.map_map, List.map_map]
  exact List.map_congr_left h

/-- Arguments that are values have the texts of the values. -/
theorem argumentTexts_map_value (es : List Expr) : argumentTexts (es.map .value) = exprTexts es := by
  induction es with
  | nil => rfl
  | cons e es ih => rw [List.map_cons, argumentTexts, ih, exprTexts, Argument.text]

/-- The arguments of a function are written like a list. -/
theorem toList_arguments {es : List Expr} (h : ∀ e ∈ es, e.text.toList = spell e.pieces) :
    (Arguments.text (.given none (es.map .value) [])).toList =
    spell (enclosed (listed (argumentPieces (es.map .value)))) := by
  have htexts := toList_parenthesized (toList_commas (toList_exprTexts h))
  rw [argumentPieces_map_value, ← exprPieces_eq_map, ← htexts, ← argumentTexts_map_value]
  cases es <;> simp [Arguments.text, parenthesized, behind, commas, argumentTexts]

/-- Branches are spelled as their pieces, if their expressions are. -/
theorem toList_branches {branches : List Branch}
    (hconditions : ∀ branch ∈ branches, branch.condition.text.toList = spell branch.condition.pieces)
    (hresults : ∀ branch ∈ branches, branch.result.text.toList = spell branch.result.pieces) :
    (String.join (branchTexts branches)).toList = spell (branchPieces branches) := by
  induction branches with
  | nil => rfl
  | cons branch branches ih =>
    obtain ⟨condition, result⟩ := branch
    obtain ⟨hcondition, hconditions⟩ := List.forall_mem_cons.mp hconditions
    obtain ⟨hresult, hresults⟩ := List.forall_mem_cons.mp hresults
    have hrest := ih hconditions hresults
    simp only [String.toList_join] at hrest
    simp [branchTexts, branchPieces, String.join_cons, spell_words, space, Piece.chars, Blank.text, hcondition,
      hresult, hrest]

/-- A legible expression is spelled as its pieces. -/
theorem Expr.Legible.toList_text {levels least : Nat} {e : Expr} (h : e.Legible levels least) :
    e.text.toList = spell e.pieces := by
  -- on how the expression is put together, so that whatever joins two of them is one case
  induction h with
  | literal whole =>
    rw [Expr.text, Literal.toList_text whole]
    simp [Expr.pieces, Piece.chars]
  | column free =>
    rw [Expr.text, Ident.toList_text free.1]
    simp [Expr.pieces, Piece.chars]
  | qualified ne free => exact toList_dotted fun part hmem => (free part hmem).1
  | clock whole word =>
    have hname := toList_dotted (List.forall_mem_singleton.mpr whole)
    simp [Expr.text, Call.text, Arguments.text, Expr.pieces, hname, wordIf, behind]
  | @call qualifier name items deeper least free callable _ _ ih =>
    have hname : (dotted (qualifier ++ [name])).toList = spell (dottedPieces (qualifier ++ [name])) := by
      refine toList_dotted fun part hmem => ?_
      obtain hmem | hmem := List.mem_append.mp hmem
      · exact (free part hmem).1
      · rw [List.mem_singleton.mp hmem]
        exact callable.1
    simp [Expr.text, Call.text, Expr.pieces, hname, toList_arguments ih, wordIf, behind]
  | nested _ ih => exact toList_parenthesized ih
  | tuple _ ih => exact toList_parenthesized (toList_commas (toList_exprTexts ih))
  | @unary op _ _ _ _ _ ih =>
    rw [Expr.text, String.toList_append, op.toList_text, ih, Expr.pieces, Lexeme.spell_append]
  | joined joins _ _ _ _ hleft hright =>
    rw [joins.toList_text, joins.pieces_eq, hleft, hright]
    simp [space, Piece.chars, Blank.text]
  | @is operand negated truth _ _ _ _ _ ih =>
    cases negated <;> simp [Expr.text, Expr.pieces, truthWords, negationWords, negation, wordIf, spell_words, ih]
  | @inList operand negated first items _ _ _ _ _ _ _ hoperand hitems =>
    have hlist := toList_parenthesized (toList_commas (toList_exprTexts hitems))
    rw [Expr.text, parenthesized, String.toList_append, hlist]
    cases negated <;>
      simp [Expr.pieces, negationWords, negation, wordIf, spell_words, hoperand, space, Piece.chars, Blank.text]
  | @between operand negated low high _ _ _ _ _ _ _ _ hoperand hlow hhigh =>
    cases negated <;>
      simp [Expr.text, Expr.pieces, negationWords, negation, wordIf, spell_words, hoperand, hlow, hhigh, space,
        Piece.chars,
        Blank.text]
  | @case operand first branches otherwise _ _ _ _ _ _ _ hoperand hconditions hresults hotherwise =>
    have hoperand : (optionText " " operand).toList = spell (operandPieces operand) := by
      cases operand with
      | none => rfl
      | some e => simp [optionText, operandPieces, hoperand e rfl, space, Piece.chars, Blank.text]
    have hotherwise : (optionText " ELSE " otherwise).toList = spell (otherwisePieces otherwise) := by
      cases otherwise with
      | none => rfl
      | some e => simp [optionText, otherwisePieces, hotherwise e rfl, spell_words, space, Piece.chars, Blank.text]
    simp [Expr.text, Expr.pieces, hoperand, hotherwise, toList_branches hconditions hresults, spell_words, Piece.chars,
      Token.text]
  | @interval amount leading _ _ _ _ ih =>
    simp [Expr.text, Expr.pieces, ih, IntervalUnit.text, behind, spell_words, space, Piece.chars, Blank.text,
      Token.text]

/-! ### Without places -/

theorem unplaced_unplaced_list {α : Type} [Placed α] {as : List α}
    (h : ∀ a ∈ as, Placed.unplaced (Placed.unplaced a) = Placed.unplaced a) :
    Placed.unplaced (Placed.unplaced as) = Placed.unplaced as := by
  induction as with
  | nil => rfl
  | cons a as ih =>
    obtain ⟨ha, has⟩ := List.forall_mem_cons.mp h
    rw [unplaced_cons, unplaced_cons, ha, ih has]

theorem unplaced_unplaced_idents (names : List Ident) :
    Placed.unplaced (Placed.unplaced names) = Placed.unplaced names :=
  unplaced_unplaced_list fun _ _ => rfl

theorem unplaced_unplaced_option {o : Option Expr} (h : ∀ e ∈ o, e.unplaced.unplaced = e.unplaced) :
    unplacedOption (unplacedOption o) = unplacedOption o := by
  cases o with
  | none => rfl
  | some e => exact congrArg some (h e rfl)

/-- What is left of a legible expression without its places has no places. -/
theorem Expr.Legible.unplaced_unplaced {levels least : Nat} {e : Expr} (h : e.Legible levels least) :
    e.unplaced.unplaced = e.unplaced := by
  have hlist {es : List Expr} (h : ∀ e ∈ es, e.unplaced.unplaced = e.unplaced) :
      unplacedExprs (unplacedExprs es) = unplacedExprs es := by
    simpa only [unplacedExprs_eq] using unplaced_unplaced_list h
  induction h with
  | literal _ => rfl
  | column _ => rfl
  | qualified _ _ => exact congrArg Expr.qualified (unplaced_unplaced_idents _)
  | clock _ _ => rfl
  | @call qualifier name items _ _ _ _ _ _ ih =>
    have harguments : Placed.unplaced (Placed.unplaced (items.map Argument.value)) =
        Placed.unplaced (items.map Argument.value) :=
      unplaced_unplaced_list fun argument hmem => by
        obtain ⟨e, he, rfl⟩ := List.mem_map.mp hmem
        exact congrArg Argument.value (ih e he)
    simp only [Expr.unplaced, Call.unplaced, Arguments.unplaced, unplacedArguments_eq, harguments,
      unplaced_unplaced_idents]
    rfl
  | nested _ ih => exact congrArg Expr.nested ih
  | tuple _ ih => exact congrArg Expr.tuple (hlist ih)
  | @unary op _ _ _ _ _ ih => exact congrArg (Expr.unary op) ih
  | joined joins _ _ _ _ hleft hright =>
    cases joins with
    | @binary op _ => exact congrArg₂ (Expr.binary · op ·) hleft hright
    | distinct negated => exact congrArg₂ (Expr.isDistinct · negated ·) hleft hright
    | like likeness negated => exact congrArg₂ (Expr.like likeness · negated false · none) hleft hright
    | regexp negated rlike _ => exact congrArg₂ (Expr.regexp · negated rlike ·) hleft hright
  | @is _ negated truth _ _ _ _ _ ih => exact congrArg (Expr.is · negated truth) ih
  | @inList _ negated _ _ _ _ _ _ _ _ _ hoperand hitems =>
    exact congrArg₂ (Expr.inList · negated ·) hoperand (hlist hitems)
  | @between _ negated _ _ _ _ _ _ _ _ _ _ hoperand hlow hhigh =>
    simp only [Expr.unplaced, hoperand, hlow, hhigh]
  | @case _ first branches _ _ _ _ _ _ _ _ hoperand hconditions hresults hotherwise =>
    have hbranches : Placed.unplaced (Placed.unplaced (first :: branches)) = Placed.unplaced (first :: branches) :=
      unplaced_unplaced_list fun ⟨condition, result⟩ hmem => congrArg₂ Branch.mk (hconditions _ hmem) (hresults _ hmem)
    simp only [Expr.unplaced, unplacedBranches_eq, unplaced_unplaced_option hoperand,
      unplaced_unplaced_option hotherwise]
    rw [hbranches]
  | @interval _ leading _ _ _ _ ih => exact congrArg (Expr.interval · { leading }) ih

end InsertPivot.Sql
