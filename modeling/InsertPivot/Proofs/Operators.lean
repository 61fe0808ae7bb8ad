import InsertPivot.Proofs.Opening

/-!
# Reading operators and tests

What stands between two expressions, or behind one, starts with a word or a symbol. It ends the operand
before it, and how tightly it binds decides whether the reader takes it: `Binds` says both. Once it has been
taken, the reader goes on with what belongs to it.
-/

namespace InsertPivot.Sql

open Lexeme (Piece bare symbol space)

/-- What stands behind a legible expression does not change how it starts. -/
theorem Expr.Legible.nextToken_append {levels least : Nat} {e : Expr} (h : e.Legible levels least) (rest : List Piece) :
    nextToken (e.pieces ++ rest) = nextToken e.pieces := by
  obtain ⟨t, ps, hpieces, -⟩ := h.exists_first
  rw [hpieces]
  rfl

namespace Reader

variable {inner : Nested} {rest : List Piece}

/-! ## How tightly they bind -/

/-- What stops an expression stops those that bind more tightly. -/
theorem Stops.mono {least more : Nat} (h : Stops least rest) (hle : least ≤ more) : Stops more rest := by
  obtain ⟨hends, tightness, hless, hrun⟩ := h
  exact ⟨hends, tightness, hless.trans hle, hrun⟩

/-- Whether some tokens end the operand before them and bind this tightly, whatever stands behind them. -/
structure Binds (tokens : List Token) (tightness : Nat) : Prop where
  ne : tokens ≠ []
  ends : ∀ ps, EndsOperand (nextToken (spaced tokens ++ ps))
  run_strength : ∀ ps, strength.run (bare (spaced tokens ++ ps)) = .ok (tightness, bare (spaced tokens ++ ps))

/-- What binds less tightly than an expression stops it. -/
theorem Binds.stops {tokens : List Token} {tightness least : Nat} (h : Binds tokens tightness) (hle : tightness ≤ least)
    (ps : List Piece) : Stops least (spaced tokens ++ ps) :=
  ⟨h.ends ps, tightness, hle, h.run_strength ps⟩

/-- An operator ends the operand before it. -/
theorem endsOperand_op (op : BinaryOp) : EndsOperand (some op.token) := by
  cases op with
  | pattern negated like caseless =>
    cases negated <;> cases like <;> cases caseless <;> exact ⟨by decide, by decide, by decide⟩
  | integerDivide => exact endsOperand_word (by decide)
  | and => exact endsOperand_word (by decide)
  | or => exact endsOperand_word (by decide)
  | xor => exact endsOperand_word (by decide)
  | overlaps => exact endsOperand_word (by decide)
  | _ => exact ⟨by decide, by decide, by decide⟩

/-- The strength of an operator is the one in the table. -/
theorem run_strength_op (op : BinaryOp) (ps : List Piece) :
    strength.run (bare (.token op.token :: ps)) = .ok (op.strength, bare (.token op.token :: ps)) := by
  have hword {text : String} (hop : op.token = .word text none) (hfold : fold text = text)
      (hstrength : ∀ second third, keywordStrength text second third = op.strength) :
      strength.run (bare (.token op.token :: ps)) = .ok (op.strength, bare (.token op.token :: ps)) := by
    have hkeyword : (Token.word text none).keyword? = some text := congrArg some hfold
    rw [hop, run_strength_word (nextToken_token _ ps) hkeyword, hstrength]
  cases op with
  | integerDivide => exact hword rfl (by decide) fun _ _ => rfl
  | and => exact hword rfl (by decide) fun _ _ => rfl
  | or => exact hword rfl (by decide) fun _ _ => rfl
  | xor => exact hword rfl (by decide) fun _ _ => rfl
  | overlaps => exact hword rfl (by decide) fun _ _ => rfl
  | _ => exact run_strength_symbol (nextToken_token _ ps)

/-- An operator binds as tightly as the table says. -/
theorem binds_op (op : BinaryOp) : Binds [op.token] op.strength where
  ne := List.cons_ne_nil _ _
  ends _ := endsOperand_op op
  run_strength ps := run_strength_op op ps

/-- Words bind as tightly as the first one, where the next two make no difference. -/
theorem binds_words {word : String} (words : List String) {tightness : Nat} (hfold : fold word = word)
    (hclause : word ∉ operandClauses) (hstrength : ∀ second third, keywordStrength word second third = tightness) :
    Binds (wordTokens (word :: words)) tightness where
  ne := List.cons_ne_nil _ _
  ends _ := endsOperand_word (by rwa [hfold])
  run_strength ps := by
    have hkeyword : (Token.word word none).keyword? = some word := congrArg some hfold
    rw [run_strength_word rfl hkeyword, hstrength]

/-- A test that is negated binds as tightly as it does without that. -/
theorem binds_negation (negated : Bool) {word : String} (words : List String) {tightness : Nat}
    (hfold : fold word = word)
    (hclause : word ∉ operandClauses) (hstrength : ∀ second third, keywordStrength word second third = tightness)
    (hdenied : deniedStrength (some word) = tightness) :
    Binds (wordTokens (negationWords negated ++ word :: words)) tightness := by
  cases negated with
  | false => exact binds_words words hfold hclause hstrength
  | true =>
    refine ⟨List.cons_ne_nil _ _, fun _ => endsOperand_word (by decide), fun ps => ?_⟩
    have hkeyword : (Token.word "NOT" none).keyword? = some "NOT" := congrArg some (by decide : fold "NOT" = "NOT")
    have hsecond : (bare (spaced (wordTokens ("NOT" :: word :: words)) ++ ps))[1]?.bind (·.token.keyword?) =
        some word :=
      congrArg some hfold
    rw [negationWords, if_pos rfl, List.singleton_append, run_strength_word rfl hkeyword, hsecond]
    exact congrArg (fun tightness => Except.ok (tightness, _)) hdenied

/-- A test for a truth value binds as `IS` does. -/
theorem binds_truth (negated : Bool) (truth : Truth) : Binds (wordTokens (truthWords negated truth)) isStrength :=
  binds_words _ (by decide) (by decide) fun _ _ => rfl

/-- `IN` binds as a comparison does, denied or not. -/
theorem binds_in (negated : Bool) : Binds (wordTokens (negationWords negated ++ ["IN"])) comparisonStrength :=
  binds_negation negated [] (by decide) (by decide) (fun _ _ => rfl) rfl

/-- `BETWEEN` binds as a comparison does, denied or not. -/
theorem binds_between (negated : Bool) : Binds (wordTokens (negationWords negated ++ ["BETWEEN"])) comparisonStrength :=
  binds_negation negated [] (by decide) (by decide) (fun _ _ => rfl) rfl

end Reader

open Reader

/-- What joins two expressions binds as tightly as it is said to. -/
theorem Expr.Joins.binds {left right e : Expr} {tokens : List Token} {tightness behind : Nat}
    (h : Joins left right tokens tightness behind e) : Binds tokens tightness := by
  cases h with
  | binary _ => exact binds_op _
  | distinct negated => exact binds_words _ (by decide) (by decide) fun _ _ => rfl
  | like likeness negated =>
    cases likeness <;> exact binds_negation negated _ (by decide) (by decide) (fun _ _ => rfl) rfl
  | regexp negated rlike _ =>
    cases rlike <;> exact binds_negation negated [] (by decide) (by decide) (fun _ _ => rfl) rfl

namespace Reader

variable {inner : Nested} {rest : List Piece}

/-! ## Operators and matches -/

/-- Behind an expression the reader takes an operator and goes on with the right side. -/
theorem run_continued_op {op : BinaryOp} (h : op ≠ .integerDivide) (left : Expr) (tightness : Nat) (ps : List Piece) :
    (continued inner left tightness).run (bare (.token op.token :: ps)) =
      (rightSide inner left op tightness Text.Span.none.first).run (bare ps) := by
  have hword {text : String} (hop : op.token = .word text none) (hfold : fold text = text)
      (hkeywordOp : keywordOp? text = some op) :
      (continued inner left tightness).run (bare (.token op.token :: ps)) =
        (rightSide inner left op tightness Text.Span.none.first).run (bare ps) := by
    rw [Lexeme.bare_token, continued, run_bind_of_ok (run_peek? _)]
    simp only [List.head?_cons, hop, Token.keyword?, hfold, hkeywordOp]
    rfl
  cases op with
  | pattern negated like caseless => cases negated <;> cases like <;> cases caseless <;> rfl
  | integerDivide => exact absurd rfl h
  | and => exact hword rfl (by decide) rfl
  | or => exact hword rfl (by decide) rfl
  | xor => exact hword rfl (by decide) rfl
  | overlaps => exact hword rfl (by decide) rfl
  | _ => rfl

/-- An operator is read with its right operand, unless a quantifier stands behind it. -/
theorem run_continued_binary {left right : Expr} {op : BinaryOp} {ps : List Piece}
    (hnot : ∀ keyword ∈ ["ANY", "ALL", "SOME"], ¬Starts keyword ps)
    (hright : (inner.expr op.rightStrength).run (bare ps) = .ok (right, bare rest)) :
    (continued inner left op.strength).run (bare (spaced [op.token] ++ space :: ps)) =
    .ok (.binary left op right, bare rest) := by
  rw [spaced_cons, spaced_nil, List.cons_append, bare_space, List.cons_append, List.nil_append]
  by_cases hop : op = .integerDivide
  · subst hop
    change (inner.value >>= fun right => pure (Expr.binary left .integerDivide right)).run (bare ps) = _
    have hvalue : inner.value.run (bare ps) = .ok (right, bare rest) := hright
    rw [run_bind_of_ok hvalue]
    rfl
  · rw [BinaryOp.rightStrength, if_neg hop] at hright
    rw [run_continued_op hop, bare_space, rightSide, run_bind_of_ok (run_oneOf?_of_not hnot)]
    simp only
    rw [run_bind_of_ok hright]
    rfl

/-- A test for distinctness is read with its right operand. -/
theorem run_continued_distinct (left : Expr) (tightness : Nat) (negated : Bool) {right : Expr} {ps : List Piece}
    (hright : inner.value.run (bare ps) = .ok (right, bare rest)) :
    (continued inner left tightness).run (bare (spaced (wordTokens (distinctWords negated)) ++ space :: ps)) =
      .ok (.isDistinct left negated right, bare rest) := by
  have htaken : (continued inner left tightness).run (bare (spaced (wordTokens (distinctWords negated)) ++ space :: ps)) =
      (inner.value >>= fun right => pure (.isDistinct left negated right)).run (bare ps) := by
    cases negated <;> rfl
  rw [htaken, run_bind_of_ok hright]
  rfl

/-- A match is read with its pattern. -/
theorem run_continued_like (left : Expr) (tightness : Nat) (likeness : Likeness) (negated : Bool) {pattern : Expr}
    {ps : List Piece} (hany : ¬Starts "ANY" ps) (hpattern : (inner.expr likeStrength).run (bare ps) = .ok (pattern, bare rest))
    (hend : EndsOperand (nextToken rest)) :
    (continued inner left tightness).run
        (bare (spaced (wordTokens (negationWords negated ++ likeness.words)) ++ space :: ps)) =
      .ok (.like likeness left negated false pattern none, bare rest) := by
  have htaken : (continued inner left tightness).run
      (bare (spaced (wordTokens (negationWords negated ++ likeness.words)) ++ space :: ps)) =
        (restOfLike inner likeness left negated).run (bare ps) := by
    cases likeness <;> cases negated <;> rfl
  have hescape : (behindKeyword "ESCAPE" literal).run (bare rest) = .ok (none, bare rest) :=
    run_behindKeyword_of_not (hend.not_starts (by decide))
  have hpattern : (do
      let pattern ← inner.expr likeStrength
      let escape ← behindKeyword "ESCAPE" literal
      return .like likeness left negated false pattern (escape.map (·.1)) : Reader Expr).run (bare ps) =
        .ok (.like likeness left negated false pattern none, bare rest) := by
    rw [run_bind_of_ok hpattern, run_bind_of_ok hescape]
    rfl
  rw [htaken, restOfLike]
  by_cases hlikeness : likeness = .similar
  · rw [if_pos hlikeness]
    exact hpattern
  · rw [if_neg hlikeness, run_bind_of_ok (run_acceptKeyword_of_not hany)]
    exact hpattern

/-- A match with a regular expression is read with its pattern. -/
theorem run_continued_regexp (left : Expr) (tightness : Nat) (negated rlike : Bool) {pattern : Expr} {ps : List Piece}
    (hnot : ∀ keyword ∈ ["RLIKE", "NULL"], ¬Starts keyword ps)
    (hpattern : (inner.expr likeStrength).run (bare ps) = .ok (pattern, bare rest)) :
    (continued inner left tightness).run (bare (spaced (wordTokens (regexpWords negated rlike)) ++ space :: ps)) =
      .ok (.regexp left negated rlike pattern, bare rest) := by
  have htaken : (continued inner left tightness).run (bare (spaced (wordTokens (regexpWords negated rlike)) ++ space :: ps)) =
      (wordTest inner left).run (bare (spaced (wordTokens (regexpWords negated rlike)) ++ space :: ps)) := by
    cases negated <;> cases rlike <;> rfl
  have hnegated : (acceptKeyword "NOT").run (bare (spaced (wordTokens (regexpWords negated rlike)) ++ space :: ps)) =
      .ok (negated, bare (spaced (wordTokens (regexpWords false rlike)) ++ space :: ps)) := by
    cases negated <;> cases rlike <;> rfl
  rw [htaken, wordTest, run_bind_of_ok hnegated]
  have hnull := run_acceptKeyword_of_not (hnot "NULL" (by decide))
  cases rlike with
  | false =>
    have hregexp : (acceptKeyword "REGEXP").run (bare (spaced (wordTokens (regexpWords false false)) ++ space :: ps)) =
        .ok (true, bare ps) := rfl
    rw [run_bind_of_ok hregexp, run_bind_of_ok (run_acceptKeyword_of_not (hnot "RLIKE" (by decide))),
      run_bind_of_ok hnull,
      if_pos (Bool.true_or _), run_bind_of_ok hpattern]
    rfl
  | true =>
    have hregexp : (acceptKeyword "REGEXP").run (bare (spaced (wordTokens (regexpWords false true)) ++ space :: ps)) =
        .ok (false, bare (spaced (wordTokens (regexpWords false true)) ++ space :: ps)) := rfl
    have hrlike : (acceptKeyword "RLIKE").run (bare (spaced (wordTokens (regexpWords false true)) ++ space :: ps)) =
        .ok (true, bare ps) := rfl
    rw [run_bind_of_ok hregexp, run_bind_of_ok hrlike, run_bind_of_ok hnull,
      if_pos (Bool.or_true _), run_bind_of_ok hpattern]
    rfl

/-- A test for a truth value is read, and takes no operand on its right. -/
theorem run_continued_is (left : Expr) (tightness : Nat) (negated : Bool) (truth : Truth) :
    (continued inner left tightness).run (bare (spaced (wordTokens (truthWords negated truth)) ++ rest)) =
      .ok (.is left negated truth, bare rest) := by
  cases negated <;> cases truth <;> rfl

/-! ## Bounds and lists -/

/-- A test for bounds is read with both of them; the lower one stops at `AND`. -/
theorem run_continued_between (left : Expr) (tightness : Nat) (negated : Bool) {low high : Expr} {ps qs : List Piece}
    (hlow : (inner.expr comparisonStrength).run (bare (ps ++ (spaced (wordTokens ["AND"]) ++ qs))) =
      .ok (low, bare (spaced (wordTokens ["AND"]) ++ qs)))
    (hhigh : (inner.expr comparisonStrength).run (bare qs) = .ok (high, bare rest)) :
    (continued inner left tightness).run
        (bare (spaced (wordTokens (negationWords negated ++ ["BETWEEN"])) ++
          space :: (ps ++ (spaced (wordTokens ["AND"]) ++ qs)))) =
      .ok (.between left negated low high, bare rest) := by
  have htaken : (continued inner left tightness).run
      (bare (spaced (wordTokens (negationWords negated ++ ["BETWEEN"])) ++
        space :: (ps ++ (spaced (wordTokens ["AND"]) ++ qs)))) =
          (restOfBetween inner left negated).run (bare (ps ++ (spaced (wordTokens ["AND"]) ++ qs))) := by
    cases negated <;> rfl
  have hand : (expectKeyword "AND").run (bare (spaced (wordTokens ["AND"]) ++ qs)) = .ok ((), bare qs) := rfl
  rw [htaken, restOfBetween, run_bind_of_ok hlow, run_bind_of_ok hand, run_bind_of_ok hhigh]
  rfl

/-- The words that a query starts with. -/
def queryWords : List String :=
  ["WITH", "INSERT", "UPDATE", "DELETE", "MERGE", "SELECT", "VALUES", "VALUE", "TABLE"]

/-- No query is read where none starts. -/
theorem run_attempt_query_of_not {levels : Nat} (hnot : ∀ keyword ∈ queryWords, ¬Starts keyword rest)
    (hparen : nextToken rest ≠ some (.symbol .leftParen)) :
    (attempt (Nested.upTo (levels + 1)).query).run (bare rest) = .ok (none, bare rest) := by
  have hbindings : (bindings (Nested.upTo levels)).run (bare rest) = .ok ((false, []), bare rest) := by
    rw [bindings, run_bind_of_ok (run_acceptKeyword_of_not (hnot "WITH" (by decide)))]
    rfl
  have hone : (oneOf? ["INSERT", "UPDATE", "DELETE", "MERGE"]).run (bare rest) = .ok (none, bare rest) :=
    run_oneOf?_of_not fun keyword hmem => hnot keyword (by revert keyword; decide)
  have hchange : (change? (Nested.upTo levels)).run (bare rest) = .ok (none, bare rest) := by
    rw [change?, run_bind_of_ok (run_peek? _)]
    cases (bare rest).head? with
    | none => rfl
    | some lead =>
      simp only
      rw [run_bind_of_ok hone]
      rfl
  -- every word that a body may start with is excluded, and so is a body in parentheses
  have hbody : (simpleBody (Nested.upTo levels)).run (bare rest) =
      (expected "SELECT, VALUES, or a subquery in the query body").run (bare rest) := by
    rw [simpleBody, run_bind_of_ok (run_acceptKeyword_of_not (hnot "SELECT" (by decide))), if_neg Bool.false_ne_true,
      run_bind_of_ok (run_atSymbol_bare _ _), decide_eq_false hparen, if_neg Bool.false_ne_true,
      run_bind_of_ok (run_acceptKeyword_of_not (hnot "VALUES" (by decide))), if_neg Bool.false_ne_true,
      run_bind_of_ok (run_acceptKeyword_of_not (hnot "VALUE" (by decide))), if_neg Bool.false_ne_true,
      run_bind_of_ok (run_acceptKeyword_of_not (hnot "TABLE" (by decide))), if_neg Bool.false_ne_true]
  have hquery : (query (Nested.upTo levels)).run (bare rest) = .error (.expected
      "SELECT, VALUES, or a subquery in the query body" ((bare rest).head?.map fun l => (l.token.text, l.span.first))) := by
    rw [query, run_bind_of_ok hbindings]
    simp only
    rw [run_bind_of_ok hchange]
    simp only
    rw [restOfQuery]
    exact run_bind_of_error (hbody.trans (run_expected _ _))
  exact run_attempt_of_error hquery Fault.noConfusion

/-- A test for membership is read with its list, which is no query. -/
theorem run_continued_inList {levels : Nat} (left : Expr) (tightness : Nat) (negated : Bool) {items : List Expr}
    {ps : List Piece}
    (hnot : ∀ keyword ∈ queryWords, ¬Starts keyword (ps ++ symbol .rightParen :: rest))
    (hparen : nextToken (ps ++ symbol .rightParen :: rest) ≠ some (.symbol .leftParen))
    (hitems : (Nested.upTo (levels + 1)).values.run (bare (ps ++ symbol .rightParen :: rest)) =
      .ok (items, bare (symbol .rightParen :: rest))) :
    (continued (Nested.upTo (levels + 1)) left tightness).run
        (bare (spaced (wordTokens (negationWords negated ++ ["IN"])) ++ space :: (enclosed ps ++ rest))) =
      .ok (.inList left negated items, bare rest) := by
  have htaken : (continued (Nested.upTo (levels + 1)) left tightness).run
      (bare (spaced (wordTokens (negationWords negated ++ ["IN"])) ++ space :: (enclosed ps ++ rest))) =
        (inParens (inContent (Nested.upTo (levels + 1)) left negated)).run (bare (enclosed ps ++ rest)) := by
    cases negated <;> rfl
  rw [htaken]
  refine run_inParens ?_
  rw [inContent, run_bind_of_ok (run_attempt_query_of_not hnot hparen)]
  simp only
  rw [run_bind_of_ok hitems]
  rfl

end Reader

/-- An expression that opens no query is taken for none. -/
theorem Expr.OpensNoQuery.not_starts {e : Expr} (h : e.OpensNoQuery) {levels least : Nat}
    (hlegible : e.Legible levels least)
    (rest : List Piece) :
    (∀ keyword ∈ queryWords, ¬Starts keyword (e.pieces ++ rest)) ∧
    nextToken (e.pieces ++ rest) ≠ some (.symbol .leftParen) := by
  have hword : ∀ keyword ∈ queryWords, keyword ∈ ["VALUES", "VALUE", "INSERT", "UPDATE", "DELETE", "MERGE"] ∨
      (keyword ∈ openingWords ∧ keyword ∉ operandWords) := by decide
  rw [hlegible.nextToken_append]
  refine ⟨fun keyword hmem => ?_, h.paren⟩
  obtain hword | ⟨hopening, hnot⟩ := hword keyword hmem
  · rw [Starts, hlegible.nextToken_append]
    exact h.word keyword hword
  · exact hlegible.not_starts hopening hnot rest

/-- Two expressions are read with the tokens between them. -/
theorem Expr.Joins.run_continued {left right e : Expr} {tokens : List Token} {tightness behind levels least : Nat}
    (h : Joins left right tokens tightness behind e) (hlegible : right.Legible levels least) {inner : Nested}
    {rest : List Piece}
    (hright : (inner.expr behind).run (bare (right.pieces ++ rest)) = .ok (Placed.unplaced right, bare rest))
    (hend : EndsOperand (nextToken rest)) :
    (continued inner (Placed.unplaced left) tightness).run (bare (spaced tokens ++ space :: (right.pieces ++ rest))) =
      .ok (Placed.unplaced e, bare rest) := by
  have hquantifier : ∀ keyword ∈ ["ANY", "ALL", "SOME"], ¬Starts keyword (right.pieces ++ rest) := by
    have hopening : ∀ keyword ∈ ["ANY", "ALL", "SOME"], keyword ∈ openingWords ∧ keyword ∉ operandWords :=
      by decide
    exact fun keyword hmem => hlegible.not_starts (hopening keyword hmem).1 (hopening keyword hmem).2 rest
  cases h with
  | binary _ => exact run_continued_binary hquantifier hright
  | distinct negated => exact run_continued_distinct _ _ negated hright
  | like likeness negated => exact run_continued_like _ _ likeness negated (hquantifier "ANY" (by decide)) hright hend
  | regexp negated rlike hword =>
    refine run_continued_regexp _ _ negated rlike (fun keyword hmem => ?_) hright
    rw [Starts, hlegible.nextToken_append]
    exact hword keyword hmem

end InsertPivot.Sql
