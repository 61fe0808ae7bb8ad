import InsertPivot.Proofs.Expression

/-!
# How expressions start, and how their tokens stand apart

A legible expression starts with a token that nothing but an operand starts with, so no reader that looks for
a clause or a query takes it for one. And its pieces are a block: each token of its text is read as it is
written, because what stands directly behind it does not go on with it.
-/

namespace InsertPivot.Sql

open Lexeme (Piece Block bare symbol space)

/-! ## What an expression starts with -/

/-- Whether a token starts an expression: it has no meaning of its own, or one of those that an operand
has, and it is no symbol unless that is a sign, or the parenthesis before an expression. -/
structure Token.Opens (signed : Bool) (t : Token) : Prop where
  whole : t.Whole
  word : ∀ keyword ∈ t.keyword?, keyword ∈ Reader.openingWords → keyword ∈ Reader.operandWords
  symbol : ∀ s, t = .symbol s → s = .leftParen ∨ (signed = true ∧ s ∈ [.minus, .plus, .tilde])

/-- The words of constructs open an expression. -/
theorem opens_word {text : String} (hname : IsName text.toList) (hword : fold text ∈ Reader.operandWords)
    (signed : Bool) :
    (Token.word text none).Opens signed where
  whole := hname
  word keyword hkeyword _ := by
    cases hkeyword
    exact hword
  symbol s hs := by cases hs

/-- A literal opens an expression. -/
theorem Literal.opens {value : Literal} (h : value.token.Whole) (signed : Bool) : value.token.Opens signed where
  whole := h
  word keyword hkeyword _ := by
    cases value with
    | null => cases hkeyword; decide
    | boolean value => cases value <;> cases hkeyword <;> decide
    | _ => cases hkeyword
  symbol s hs := by cases value <;> cases hs

/-- A name without a meaning opens an expression. -/
theorem Ident.Free.opens {name : Ident} (h : name.Free) (signed : Bool) : name.token.Opens signed where
  whole := h.1
  word keyword hkeyword hmem := absurd hmem (h.2 keyword hkeyword)
  symbol s hs := by cases hs

/-- The words for the time of day open an expression. -/
theorem opens_clock {name : Ident} (h : name.Whole)
    (hword : ∃ keyword ∈ name.token.keyword?, keyword ∈ Reader.clockWords)
    (signed : Bool) : name.token.Opens signed where
  whole := h
  word keyword hkeyword _ := by
    obtain ⟨keyword', hkeyword', hclock⟩ := hword
    cases Option.mem_unique hkeyword hkeyword'
    exact List.mem_append_left _ (List.mem_append_right _ hclock)
  symbol s hs := by cases hs

/-- The name of a function opens an expression. -/
theorem Ident.Callable.opens {name : Ident} (h : name.Callable) (signed : Bool) : name.token.Opens signed where
  whole := h.1
  word keyword hkeyword hmem := by
    obtain hnot | hclock | ⟨htype, -⟩ := h.2 keyword hkeyword
    · exact absurd hmem hnot
    · exact List.mem_append_left _ (List.mem_append_right _ hclock)
    · exact List.mem_append_right _ htype
  symbol s hs := by cases hs

/-- A parenthesis opens an expression. -/
theorem opens_leftParen (signed : Bool) : (Token.symbol .leftParen).Opens signed where
  whole := .inr (by decide)
  word keyword hkeyword := by cases hkeyword
  symbol s hs := by cases hs; exact .inl rfl

/-- An operator in front of an operand opens an expression, and a sign opens a signed one. -/
theorem UnaryOp.exists_first (op : UnaryOp) : ∃ t ps, op.pieces = .token t :: ps ∧ t.Opens (op != .not) := by
  have hsign {s : Symbol} (hs : s ∈ [.minus, .plus, .tilde]) : (Token.symbol s).Opens true := by
    refine ⟨.inr ?_, fun keyword hkeyword => ?_, fun s' hs' => ?_⟩
    · have hplain : ∀ s ∈ [Symbol.minus, .plus, .tilde], s.isPlain := by decide
      exact hplain s hs
    · cases hkeyword
    · cases hs'
      exact .inr ⟨rfl, hs⟩
  cases op with
  | minus => exact ⟨_, _, rfl, hsign (by decide)⟩
  | plus => exact ⟨_, _, rfl, hsign (by decide)⟩
  | bitwiseNot => exact ⟨_, _, rfl, hsign (by decide)⟩
  | not => exact ⟨_, _, rfl, opens_word (by decide) (by decide) _⟩

/-- A name of several parts starts with its first part. -/
theorem exists_first_dotted {qualifier : List Ident} {name : Ident} (hqualifier : ∀ part ∈ qualifier, part.Free)
    {signed : Bool} (hname : name.token.Opens signed) :
    ∃ t ps, dottedPieces (qualifier ++ [name]) = .token t :: ps ∧ t.Opens signed := by
  cases qualifier with
  | nil => exact ⟨_, [], rfl, hname⟩
  | cons part qualifier =>
    obtain ⟨ps, hps⟩ := exists_dottedPieces part (qualifier ++ [name])
    exact ⟨_, ps, hps, (hqualifier part List.mem_cons_self).opens _⟩

/-- A legible expression starts with a token that opens one. -/
theorem Expr.Legible.exists_first {levels least : Nat} {e : Expr} (h : e.Legible levels least) :
    ∃ t ps, e.pieces = .token t :: ps ∧ t.Opens e.isSigned := by
  have hcons {e : Expr} {signed : Bool} (h : ∃ t ps, e.pieces = .token t :: ps ∧ t.Opens signed) (qs : List Piece) :
      ∃ t ps, e.pieces ++ qs = .token t :: ps ∧ t.Opens signed := by
    obtain ⟨t, ps, hpieces, ht⟩ := h
    exact ⟨t, ps ++ qs, by rw [hpieces, List.cons_append], ht⟩
  induction h with
  | literal whole => exact ⟨_, _, rfl, Literal.opens whole _⟩
  | column free => exact ⟨_, _, rfl, free.opens _⟩
  | qualified _ free =>
    obtain ⟨hqualifier, hname⟩ := List.forall_mem_append.mp free
    exact exists_first_dotted hqualifier ((hname _ (List.mem_singleton_self _)).opens _)
  | clock whole word => exact ⟨_, _, rfl, opens_clock whole word _⟩
  | call free callable _ _ _ =>
    obtain ⟨t, ps, hpieces, ht⟩ := exists_first_dotted free (callable.opens _)
    exact ⟨t, _, by rw [Expr.pieces, hpieces, List.cons_append], ht⟩
  | nested _ _ => exact ⟨_, _, rfl, opens_leftParen _⟩
  | tuple _ _ => exact ⟨_, _, rfl, opens_leftParen _⟩
  | @unary op operand _ _ _ _ _ =>
    obtain ⟨t, ps, hpieces, ht⟩ := op.exists_first
    exact ⟨t, ps ++ operand.pieces, by rw [Expr.pieces, hpieces, List.cons_append], ht⟩
  | joined joins _ _ _ _ hleft _ =>
    rw [joins.pieces_eq, joins.isSigned_eq]
    exact hcons hleft _
  | is _ _ _ ih => exact hcons ih _
  | inList _ _ _ _ _ hoperand _ => exact hcons hoperand _
  | between _ _ _ _ _ _ hoperand _ _ => exact hcons hoperand _
  | case _ _ _ _ _ _ _ _ _ => exact ⟨_, _, rfl, opens_word (by decide) (by decide) _⟩
  | interval _ _ _ => exact ⟨_, _, rfl, opens_word (by decide) (by decide) _⟩

/-- No legible expression starts with a word that has a meaning, but for those of operands. -/
theorem Expr.Legible.not_starts {levels least : Nat} {e : Expr} (h : e.Legible levels least) {keyword : String}
    (hmem : keyword ∈ Reader.openingWords) (hnot : keyword ∉ Reader.operandWords) (rest : List Piece) :
    ¬Reader.Starts keyword (e.pieces ++ rest) := by
  obtain ⟨t, ps, hpieces, ht⟩ := h.exists_first
  intro hstarts
  rw [Reader.Starts, hpieces, List.cons_append, nextToken_token] at hstarts
  exact hnot (ht.word keyword hstarts hmem)

/-- No legible expression starts with a word that starts a query. -/
theorem Expr.Legible.not_query {levels least : Nat} {e : Expr} (h : e.Legible levels least) (rest : List Piece) :
    ∀ keyword ∈ ["SELECT", "WITH"], ¬Reader.Starts keyword (e.pieces ++ rest) := by
  have hopening : ∀ keyword ∈ ["SELECT", "WITH"], keyword ∈ Reader.openingWords ∧ keyword ∉ Reader.operandWords := by
    decide
  exact fun keyword hmem => h.not_starts (hopening keyword hmem).1 (hopening keyword hmem).2 rest

/-! ## What stands behind the first token -/

/-- Names, each behind a period. -/
def periodPieces (names : List Ident) : List Piece :=
  names.flatMap fun name => [symbol .period, .token name.token]

/-- Behind the first name, each further one stands behind a period. -/
theorem dottedPieces_cons_eq (part : Ident) (parts : List Ident) :
    dottedPieces (part :: parts) = .token part.token :: periodPieces parts := by
  induction parts generalizing part with
  | nil => rfl
  | cons part' parts ih =>
    rw [dottedPieces_cons part (List.cons_ne_nil _ _), ih]
    rfl

/-- Whether names end here: what follows is neither a period nor the arrow behind the name of an argument. -/
def EndsNames (ps : List Piece) : Prop :=
  ∀ s ∈ [Symbol.period, .fatArrow], nextToken ps ≠ some (.symbol s)

/-- What opens an expression continues no name. -/
theorem endsNames_of_opens {signed : Bool} {t : Token} (h : t.Opens signed) (ps : List Piece) :
    EndsNames (.token t :: ps) := by
  intro s hs heq
  have hnot : ∀ s ∈ [Symbol.period, .fatArrow], s ≠ .leftParen ∧ s ∉ [Symbol.minus, .plus, .tilde] := by decide
  obtain rfl | ⟨-, hsign⟩ := h.symbol s (Option.some.inj heq)
  · exact (hnot _ hs).1 rfl
  · exact (hnot _ hs).2 hsign

/-- A legible expression continues no name in front of it. -/
theorem Expr.Legible.endsNames {levels least : Nat} {e : Expr} (h : e.Legible levels least) (rest : List Piece) :
    EndsNames (e.pieces ++ rest) := by
  obtain ⟨t, ps, hpieces, ht⟩ := h.exists_first
  rw [hpieces]
  exact endsNames_of_opens ht _

/-- Words behind a blank continue no name. -/
theorem endsNames_words {words : List String} (h : words ≠ []) (rest : List Piece) :
    EndsNames (spaced (wordTokens words) ++ rest) := by
  obtain ⟨word, words, rfl⟩ := List.exists_cons_of_ne_nil h
  intro s _ heq
  cases heq

/-- What joins two expressions continues no name. -/
theorem Expr.Joins.endsNames {left right e : Expr} {tokens : List Token} {tightness behind : Nat}
    (h : Joins left right tokens tightness behind e) (rest : List Piece) : EndsNames (spaced tokens ++ rest) := by
  cases h with
  | @binary op _ =>
    have hne : ∀ s ∈ [Symbol.period, .fatArrow], op.token ≠ .symbol s := by
      cases op with
      | pattern negated like caseless => cases negated <;> cases like <;> cases caseless <;> decide
      | _ => decide
    exact fun s hs heq => hne s hs (Option.some.inj heq)
  | distinct negated => exact endsNames_words (List.cons_ne_nil _ _) _
  | like likeness negated => exact endsNames_words (by cases likeness <;> cases negated <;> decide) _
  | regexp negated rlike _ => exact endsNames_words (by cases negated <;> cases rlike <;> decide) _

/-- Behind its first token an expression goes on with names, as many as stand behind periods there, and then with
neither a period nor an arrow. -/
theorem Expr.Legible.exists_names {levels least : Nat} {e : Expr} (h : e.Legible levels least) :
    ∃ t names ps, e.pieces = .token t :: (periodPieces names ++ ps) ∧
      ∀ rest, EndsNames rest → EndsNames (ps ++ rest) := by
  have hdotted (qualifier : List Ident) (name : Ident) (ps : List Piece) :
      ∃ t names, dottedPieces (qualifier ++ [name]) ++ ps = .token t :: (periodPieces names ++ ps) := by
    cases qualifier with
    | nil => exact ⟨_, [], rfl⟩
    | cons part qualifier => exact ⟨_, qualifier ++ [name], by rw [List.cons_append, dottedPieces_cons_eq, List.cons_append]⟩
  -- what stands behind the left side of an operator or a test goes on with its words
  have hcons {e : Expr} (h : ∃ t names ps, e.pieces = .token t :: (periodPieces names ++ ps) ∧
      ∀ rest, EndsNames rest → EndsNames (ps ++ rest)) {qs : List Piece} (hqs : ∀ rest, EndsNames (qs ++ rest)) :
      ∃ t names ps, e.pieces ++ qs = .token t :: (periodPieces names ++ ps) ∧
        ∀ rest, EndsNames rest → EndsNames (ps ++ rest) := by
    obtain ⟨t, names, ps, hpieces, hps⟩ := h
    refine ⟨t, names, ps ++ qs, by rw [hpieces, List.cons_append, List.append_assoc], fun rest _ => ?_⟩
    rw [List.append_assoc]
    exact hps _ (hqs rest)
  have hwords {words : List String} (hne : words ≠ []) (qs rest : List Piece) :
      EndsNames ((spaced (wordTokens words) ++ qs) ++ rest) := by
    rw [List.append_assoc]
    exact endsNames_words hne _
  induction h with
  | literal _ => exact ⟨_, [], [], rfl, fun _ hrest => hrest⟩
  | column _ => exact ⟨_, [], [], rfl, fun _ hrest => hrest⟩
  | @qualified qualifier name _ _ _ _ =>
    obtain ⟨t, names, hpieces⟩ := hdotted qualifier name []
    exact ⟨t, names, [], by rw [← hpieces, List.append_nil, Expr.pieces], fun _ hrest => hrest⟩
  | clock _ _ => exact ⟨_, [], [], rfl, fun _ hrest => hrest⟩
  | @call qualifier name items _ _ _ _ _ _ _ =>
    obtain ⟨t, names, hpieces⟩ := hdotted qualifier name (enclosed (listed (argumentPieces (items.map .value))))
    refine ⟨t, names, _, hpieces, ?_⟩
    rintro rest - s hs ⟨⟩
    exact absurd hs (by decide)
  | @nested inner _ _ inner_legible _ =>
    refine ⟨_, [], inner.pieces ++ [symbol .rightParen], rfl, fun rest _ => ?_⟩
    rw [List.append_assoc]
    exact inner_legible.endsNames _
  | @tuple first second items _ _ items_legible _ =>
    refine ⟨_, [], listed (exprPieces (first :: second :: items)) ++ [symbol .rightParen], rfl, fun rest _ => ?_⟩
    obtain ⟨more, hlisted, -⟩ := Reader.exists_listed first.pieces (exprPieces (second :: items)) rest
    rw [List.append_assoc, List.singleton_append, exprPieces, hlisted]
    exact (items_legible first List.mem_cons_self).endsNames _
  | @unary op operand _ _ _ operand_legible _ =>
    cases op with
    | not => exact ⟨_, [], space :: operand.pieces, rfl, fun rest _ => operand_legible.endsNames rest⟩
    | _ => exact ⟨_, [], operand.pieces, rfl, fun rest _ => operand_legible.endsNames rest⟩
  | joined joins _ _ _ _ hleft _ =>
    rw [joins.pieces_eq]
    refine hcons hleft fun rest => ?_
    rw [List.append_assoc]
    exact joins.endsNames _
  | @is _ negated truth _ _ _ _ _ ih => exact hcons ih fun rest => endsNames_words (List.cons_ne_nil _ _) rest
  | @inList _ negated _ _ _ _ _ _ _ _ _ hoperand _ =>
    exact hcons hoperand fun rest => hwords (List.append_ne_nil_of_right_ne_nil _ (List.cons_ne_nil _ _)) _ rest
  | @between _ negated _ _ _ _ _ _ _ _ _ _ hoperand _ _ =>
    exact hcons hoperand fun rest => hwords (List.append_ne_nil_of_right_ne_nil _ (List.cons_ne_nil _ _)) _ rest
  | @case operand first branches otherwise _ _ _ operand_legible _ _ _ _ _ _ _ =>
    refine ⟨_, [], operandPieces operand ++ (branchPieces (first :: branches) ++
      (otherwisePieces otherwise ++ spaced (wordTokens ["END"]))), rfl, fun rest _ => ?_⟩
    cases operand with
    | none =>
      obtain ⟨condition, result⟩ := first
      rw [operandPieces, List.nil_append, branchPieces, List.append_assoc, List.append_assoc]
      exact endsNames_words (List.cons_ne_nil _ _) _
    | some e =>
      rw [operandPieces, List.append_assoc]
      exact (operand_legible e rfl).endsNames _
  | @interval amount leading _ _ _ amount_legible _ =>
    refine ⟨_, [], space :: (amount.pieces ++ spaced (wordTokens [leading])), rfl, fun rest _ => ?_⟩
    rw [List.cons_append, List.append_assoc]
    exact amount_legible.endsNames _

/-! ## Token by token -/

/-- The characters that make a longer symbol of a sign. -/
def signExtensions : List Char :=
  ['-', '*', '>', '~']

/-- What opens an unsigned expression does not join a sign in front of it to another symbol. -/
theorem Token.Opens.head {t : Token} (h : t.Opens false) : ∀ c ∈ t.text.toList.head?, c ∉ signExtensions := by
  intro c hc
  obtain ⟨hwhole, -, hsymbol⟩ := h
  cases t with
  | word text quote =>
    cases quote with
    | none =>
      obtain ⟨c', cs, htext, hstarts, -⟩ := isName_iff.mp hwhole
      rw [Token.text, htext] at hc
      cases hc
      have hnot : ∀ c ∈ signExtensions, ¬Lexeme.startsWord c := by decide
      exact fun hmem => hnot c hmem hstarts
    | some quote =>
      obtain ⟨rfl, -⟩ := hwhole
      simp only [Token.text, String.toList_append] at hc
      cases hc
      decide
  | number text long =>
    obtain ⟨⟨c', hhead, hstarts⟩, -⟩ := hwhole
    have hnot : ∀ c ∈ signExtensions, ¬(c.isDigit || decide (c = '.')) := by decide
    have hc' : c = c' := by
      cases hlist : text.toList with
      | nil =>
        rw [hlist] at hhead
        cases hhead
      | cons d ds =>
        rw [hlist] at hhead
        cases hhead
        cases long <;> simpa [Token.text, hlist, eq_comm] using hc
    rw [hc']
    exact fun hmem => hnot c' hmem hstarts
  | string kind body => cases kind <;> simp [Token.text] at hc <;> subst hc <;> decide
  | placeholder text =>
    obtain ⟨digits, htext, -⟩ := hwhole
    rw [Token.text, htext] at hc
    cases hc
    decide
  | symbol s =>
    obtain rfl | ⟨hsigned, -⟩ := hsymbol s rfl
    · cases hc
      decide
    · cases hsigned
  | char c => exact hwhole.elim

/-- A sign in front of a block is a block, because no token starts where it would join the sign. -/
theorem block_sign {s : Symbol} (hs : s ∈ [.minus, .plus, .tilde]) {ps : List Piece} {t : Token} (ht : t.Opens false)
    (hps : Block (.token t :: ps)) : Block (symbol s :: .token t :: ps) := by
  have hplain : ∀ s ∈ [Symbol.minus, .plus, .tilde], s.isPlain ∧ ∀ c ∈ s.extensions, c ∈ signExtensions := by decide
  obtain ⟨hs, hextensions⟩ := hplain s hs
  refine (Block.symbol hs).append hps fun p hp q hq => ?_
  cases hp
  cases hq
  refine ⟨fun c hc hmem => ht.head c hc (hextensions c hmem), ?_⟩
  refine Lexeme.goesBehind_of_ne ?_ (by simp [symbol, Piece.token?, Token.isWord]) ?_
  · exact hps.first _ rfl
  · rintro ⟨⟩
    exact absurd hs (by decide)

/-- Names as words are whole tokens. -/
theorem whole_wordTokens {words : List String} (h : ∀ word ∈ words, IsName word.toList) :
    ∀ t ∈ wordTokens words, t.Whole ∧ t ≠ .symbol .period := by
  intro t hmem
  obtain ⟨word, hword, rfl⟩ := List.mem_map.mp hmem
  exact ⟨h word hword, Token.noConfusion⟩

/-- What joins two expressions are whole tokens. -/
theorem Expr.Joins.whole {left right e : Expr} {tokens : List Token} {tightness behind : Nat}
    (h : Joins left right tokens tightness behind e) : ∀ t ∈ tokens, t.Whole ∧ t ≠ .symbol .period := by
  cases h with
  | @binary op whole =>
    refine List.forall_mem_singleton.mpr ⟨whole, ?_⟩
    cases op with
    | pattern negated like caseless => cases negated <;> cases like <;> cases caseless <;> decide
    | _ => decide
  | distinct negated => exact whole_wordTokens (by cases negated <;> decide)
  | like likeness negated => exact whole_wordTokens (by cases likeness <;> cases negated <;> decide)
  | regexp negated rlike => exact whole_wordTokens (by cases negated <;> cases rlike <;> decide)

/-- Words stand behind a block, with a blank before each. -/
theorem block_append_words {ps : List Piece} (hps : Block ps) (words : List String)
    (h : ∀ word ∈ words, IsName word.toList) : Block (ps ++ spaced (wordTokens words)) :=
  block_append_spaced hps (whole_wordTokens h)

/-- A word is a block. -/
theorem block_word {text : String} (h : IsName text.toList) : Block [.token (.word text none)] :=
  .single h (by simp)

/-- A name with what stands in its parentheses is a block. -/
theorem Ident.block_call {qualifier : List Ident} {name : Ident} (h : ∀ part ∈ qualifier ++ [name], part.Whole)
    {ps : List Piece} (hps : Block ps) : Block (dottedPieces (qualifier ++ [name]) ++ enclosed ps) := by
  have hlast : (dottedPieces (qualifier ++ [name])).getLast? = some (.token name.token) := by
    induction qualifier with
    | nil => rfl
    | cons part qualifier ih =>
      have hlast := ih fun part hmem => h part (List.mem_cons_of_mem _ hmem)
      rw [List.cons_append, dottedPieces_cons _ (by simp)]
      simp only [List.getLast?_cons, hlast, Option.getD_some]
  refine (dottedPieces_block h).append hps.parens fun p hp q hq => ?_
  rw [hlast] at hp
  cases hp
  cases hq
  refine ⟨?_, trivial⟩
  rintro c ⟨⟩
  exact Ident.endsBefore (h name (by simp)) _ (by decide)

/-- The branches of a choice behind a block are a block. -/
theorem block_branches {ps : List Piece} (hps : Block ps) {branches : List Branch}
    (hconditions : ∀ branch ∈ branches, Block branch.condition.pieces)
    (hresults : ∀ branch ∈ branches, Block branch.result.pieces) : Block (ps ++ branchPieces branches) := by
  induction branches generalizing ps with
  | nil => simpa [branchPieces] using hps
  | cons branch branches ih =>
    obtain ⟨condition, result⟩ := branch
    obtain ⟨hcondition, hconditions⟩ := List.forall_mem_cons.mp hconditions
    obtain ⟨hresult, hresults⟩ := List.forall_mem_cons.mp hresults
    have hwhen := (block_append_words hps ["WHEN"] (by decide)).spaced hcondition
    have hthen := (block_append_words hwhen ["THEN"] (by decide)).spaced hresult
    have hrest := ih hthen hconditions hresults
    simpa [branchPieces] using hrest

/-- A legible expression is a block: its pieces are read from its text, whatever stands around them. -/
theorem Expr.Legible.block {levels least : Nat} {e : Expr} (h : e.Legible levels least) : Block e.pieces := by
  have hlist {es : List Expr} (h : ∀ e ∈ es, Block e.pieces) : Block (listed (es.map Expr.pieces)) :=
    block_listed fun ps hmem => by
      obtain ⟨e, he, rfl⟩ := List.mem_map.mp hmem
      exact h e he
  induction h with
  | @literal value _ _ _ whole =>
    refine .single whole ?_
    cases value <;> simp [Literal.token]
  | column free => exact .single free.1 (by simp [Ident.token])
  | qualified _ free => exact dottedPieces_block fun part hmem => (free part hmem).1
  | clock whole _ => exact .single whole (by simp [Ident.token])
  | call free callable _ _ ih =>
    rw [Expr.pieces, argumentPieces_map_value]
    refine Ident.block_call (List.forall_mem_append.mpr ⟨fun part hmem => (free part hmem).1, ?_⟩) (hlist ih)
    exact List.forall_mem_singleton.mpr callable.1
  | nested _ ih => exact ih.parens
  | tuple _ ih =>
    rw [Expr.pieces, exprPieces_eq_map]
    exact (hlist ih).parens
  | @unary op operand _ _ unsigned operand_legible ih =>
    obtain ⟨t, ps, hpieces, ht⟩ := operand_legible.exists_first
    rw [Expr.pieces]
    cases op with
    | not => exact (block_word (by decide)).spaced ih
    | _ =>
      have hunsigned : operand.isSigned = false := by simpa using unsigned (by decide)
      rw [hunsigned] at ht
      rw [hpieces] at ih ⊢
      exact block_sign (by decide) ht ih
  | joined joins _ _ _ _ hleft hright =>
    rw [joins.pieces_eq, ← List.append_assoc]
    exact (block_append_spaced hleft joins.whole).spaced hright
  | @is _ negated truth _ _ _ _ _ ih =>
    exact block_append_words ih _ (by cases negated <;> cases truth <;> decide)
  | @inList _ negated _ _ _ _ _ _ _ _ _ hoperand hitems =>
    rw [Expr.pieces, exprPieces_eq_map, ← List.append_assoc]
    exact (block_append_words hoperand _ (by cases negated <;> decide)).spaced (hlist hitems).parens
  | @between _ negated _ _ _ _ _ _ _ _ _ _ hoperand hlow hhigh =>
    have hbetween := (block_append_words hoperand (negationWords negated ++ ["BETWEEN"])
      (by cases negated <;> decide)).spaced hlow
    have hand := (block_append_words hbetween ["AND"] (by decide)).spaced hhigh
    simpa [Expr.pieces] using hand
  | @case operand first branches otherwise _ _ _ _ _ _ _ hoperand hconditions hresults hotherwise =>
    have hcase : Block ([.token (.word "CASE" none)] ++ operandPieces operand) := by
      cases operand with
      | none => exact block_word (by decide)
      | some e => exact (block_word (by decide)).spaced (hoperand e rfl)
    have hbranches := block_branches hcase hconditions hresults
    have hotherwise : Block ([.token (.word "CASE" none)] ++ operandPieces operand ++ branchPieces (first :: branches) ++
        otherwisePieces otherwise) := by
      cases otherwise with
      | none => simpa [otherwisePieces] using hbranches
      | some e =>
        have helse := (block_append_words hbranches ["ELSE"] (by decide)).spaced
          (hotherwise e rfl)
        simpa [otherwisePieces] using helse
    have hend := block_append_words hotherwise ["END"] (by decide)
    simpa [Expr.pieces] using hend
  | @interval amount leading _ _ unit _ ih =>
    have hunits : ∀ word ∈ Reader.intervalUnits, IsName word.toList := by decide +kernel
    have hamount : Block ([.token (.word "INTERVAL" none)] ++ space :: amount.pieces) :=
      (block_word (by decide)).spaced ih
    have hunit := block_append_words hamount [leading] (List.forall_mem_singleton.mpr (hunits leading unit))
    simpa [Expr.pieces] using hunit

/-- A legible expression is written as its pieces. -/
theorem Expr.Legible.written {levels least : Nat} {e : Expr} (h : e.Legible levels least) : Written e e.pieces :=
  ⟨h.toList_text, h.block⟩

end InsertPivot.Sql
