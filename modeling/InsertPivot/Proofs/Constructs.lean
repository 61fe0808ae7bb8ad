import InsertPivot.Proofs.Operators

/-!
# Reading signs, parentheses and constructs

An operand that is more than one token starts with a sign, a parenthesis or a word that opens it. What stands
in it is read one level deeper, up to the token of the construct that comes next.
-/

namespace InsertPivot.Sql

open Lexeme (Piece bare symbol space)

namespace Reader

variable {inner : Nested} {rest : List Piece}

/-- Whether an expression is read as itself where no operator goes on behind it. -/
def IsRead (inner : Nested) (e : Expr) : Prop :=
  ∀ rest, Stops 0 rest → inner.value.run (bare (e.pieces ++ rest)) = .ok (unplaced e, bare rest)

/-! ## Parentheses and signs -/

/-- Without `SELECT` or `WITH` no query starts. -/
theorem run_atQuery_of_not (hselect : ¬Starts "SELECT" rest) (hwith : ¬Starts "WITH" rest) :
    atQuery.run (bare rest) = .ok (false, bare rest) := by
  rw [atQuery, run_bind_of_ok (run_atKeyword_of_not hselect), run_bind_of_ok (run_atKeyword_of_not hwith)]
  rfl

/-- What expressions in parentheses are. -/
def parensOf : List Expr → Expr
  | [item] => .nested item
  | items => .tuple items

/-- Expressions in parentheses are an operand. -/
theorem run_bareOperand_parens {ps : List Piece} {items : List Expr}
    (hquery : ∀ keyword ∈ ["SELECT", "WITH"], ¬Starts keyword (ps ++ symbol .rightParen :: rest))
    (hitems : inner.values.run (bare (ps ++ symbol .rightParen :: rest)) =
      .ok (items, bare (symbol .rightParen :: rest)))
    (hend : EndsOperand (nextToken rest)) :
    (bareOperand inner).run (bare (enclosed ps ++ rest)) = .ok (parensOf items, bare rest) := by
  have hparens : (restOfParens inner).run (bare (ps ++ symbol .rightParen :: rest)) =
      .ok (parensOf items, bare rest) := by
    have hclosed (found : Expr) : (do
        expectSymbol .rightParen
        return found : Reader Expr).run (bare (symbol .rightParen :: rest)) = .ok (found, bare rest) := by
      rw [run_bind_of_ok (run_expectSymbol_symbol _ _)]
      rfl
    rw [restOfParens, run_bind_of_ok (run_atQuery_of_not (hquery _ (by decide)) (hquery _ (by decide))),
      if_neg Bool.false_ne_true, run_bind_of_ok hitems]
    obtain _ | ⟨_, _ | ⟨_, _⟩⟩ := items <;> exact hclosed _
  rw [enclosed_append, symbol, Lexeme.bare_token, bareOperand, run_bind_of_ok (run_peek? _)]
  change (skip >>= fun _ => restOfParens inner >>= collated).run _ = _
  rw [run_bind_of_ok (run_skip _), List.tail_cons, run_bind_of_ok hparens, run_collated _ (hend.not_starts (by decide))]

/-- A sign and the operand that it binds are an operand. -/
theorem run_bareOperand_sign {op : UnaryOp} (hop : op ≠ .not) {ps : List Piece} {operand : Expr}
    (hoperand : (inner.expr op.strength).run (bare (ps ++ rest)) = .ok (operand, bare rest))
    (hend : EndsOperand (nextToken rest)) :
    (bareOperand inner).run (bare (op.pieces ++ (ps ++ rest))) = .ok (.unary op operand, bare rest) := by
  have hsign {s : Symbol} (hpieces : op.pieces = [symbol s])
      (hrun : ∀ gap ls, (bareOperand inner).run (⟨.symbol s, .none, gap⟩ :: ls) =
        (inner.expr op.strength >>= fun operand => collated (.unary op operand)).run ls) :
      (bareOperand inner).run (bare (op.pieces ++ (ps ++ rest))) = .ok (.unary op operand, bare rest) := by
    rw [hpieces, List.singleton_append, symbol, Lexeme.bare_token, hrun, run_bind_of_ok hoperand,
      run_collated _ (hend.not_starts (by decide))]
  cases op with
  | minus => exact hsign rfl fun _ _ => rfl
  | plus => exact hsign rfl fun _ _ => rfl
  | bitwiseNot => exact hsign rfl fun _ _ => rfl
  | not => exact absurd rfl hop

/-- The word `NOT` and the operand that it binds are an operand. -/
theorem run_bareOperand_not {ps : List Piece} {operand : Expr} (hexists : ¬Starts "EXISTS" (ps ++ rest))
    (hoperand : (inner.expr notStrength).run (bare (ps ++ rest)) = .ok (operand, bare rest))
    (hend : EndsOperand (nextToken rest)) :
    (bareOperand inner).run (bare (UnaryOp.not.pieces ++ (ps ++ rest))) = .ok (.unary .not operand, bare rest) := by
  have hnot : (restOfNot inner).run (bare (space :: (ps ++ rest))) = .ok (.unary .not operand, bare rest) := by
    rw [bare_space, restOfNot, run_bind_of_ok (run_acceptKeyword_of_not hexists), if_neg Bool.false_ne_true,
      run_bind_of_ok hoperand]
    rfl
  exact run_bareOperand_construct (by decide : fold "NOT" = "NOT") ⟨by decide, by decide, by decide, rfl⟩ (fun _ => rfl)
    hnot hend

/-! ## Choices -/

/-- The words that end an expression in a choice. -/
def choiceWords : List String :=
  ["WHEN", "THEN", "ELSE", "END"]

/-- The words inside a choice bind nothing, and so stop an expression. -/
theorem binds_choice {word : String} (h : word ∈ choiceWords) : Binds (wordTokens [word]) 0 := by
  have hwords : ∀ word ∈ choiceWords, fold word = word ∧ word ∉ operandClauses := by decide
  refine binds_words [] (hwords word h).1 (hwords word h).2 fun _ _ => ?_
  simp only [choiceWords, List.mem_cons, List.not_mem_nil, or_false] at h
  obtain rfl | rfl | rfl | rfl := h <;> rfl

/-- A branch is read with its condition and its result. -/
theorem run_branch {condition result : Expr} (hcondition : IsRead inner condition) (hresult : IsRead inner result)
    (hrest : Stops 0 rest) :
    (branch inner).run (bare (condition.pieces ++ (spaced (wordTokens ["THEN"]) ++ space :: (result.pieces ++ rest)))) =
      .ok (unplaced ⟨condition, result⟩, bare rest) := by
  have hthen : (expectKeyword "THEN").run (bare (spaced (wordTokens ["THEN"]) ++ space :: (result.pieces ++ rest))) =
      .ok ((), bare (result.pieces ++ rest)) := rfl
  rw [branch, run_bind_of_ok (hcondition _ ((binds_choice (by decide)).stops le_rfl _)), run_bind_of_ok hthen,
    run_bind_of_ok (hresult _ hrest)]
  rfl

/-- A branch stops the expression in front of it. -/
theorem stops_branches (branches : List Branch) (hrest : Stops 0 rest) : Stops 0 (branchPieces branches ++ rest) := by
  cases branches with
  | nil => exact hrest
  | cons branch branches =>
    obtain ⟨condition, result⟩ := branch
    rw [branchPieces, List.append_assoc]
    exact (binds_choice (by decide)).stops le_rfl _

/-- Each branch takes a lexeme at least, so the lexemes bound their number. -/
theorem length_le_bare_branches (branches : List Branch) (rest : List Piece) :
    branches.length ≤ (bare (branchPieces branches ++ rest)).length := by
  induction branches with
  | nil => exact Nat.zero_le _
  | cons branch branches ih =>
    obtain ⟨condition, result⟩ := branch
    simp only [length_bare, List.filterMap_append, List.length_append] at ih
    simp only [branchPieces, length_bare, wordTokens, List.map_cons, List.map_nil, spaced_cons, spaced_nil, space,
      List.cons_append, List.nil_append, List.filterMap_append, List.filterMap_cons, Piece.token?, List.length_append,
      List.length_cons]
    omega

/-- Branches are read one by one, up to a word that opens no branch. -/
theorem run_many_branches {branches : List Branch} {bound : List Lexeme}
    (hread : ∀ branch ∈ branches, IsRead inner branch.condition ∧ IsRead inner branch.result) (hrest : Stops 0 rest)
    (hwhen : ¬Starts "WHEN" rest) (hbound : branches.length ≤ bound.length) :
    (many (behindKeyword "WHEN" (branch inner)) bound).run (bare (branchPieces branches ++ rest)) =
      .ok (unplaced branches, bare rest) := by
  -- the bound goes down by one with each branch, and a branch has more lexemes than that
  induction branches generalizing bound with
  | nil =>
    cases bound with
    | nil => rfl
    | cons _ bound =>
      rw [branchPieces, List.nil_append, many, run_bind_of_ok (run_behindKeyword_of_not hwhen)]
      rfl
  | cons branch branches ih =>
    obtain ⟨condition, result⟩ := branch
    obtain ⟨⟨hcondition, hresult⟩, hread⟩ := List.forall_mem_cons.mp hread
    cases bound with
    | nil => cases hbound
    | cons _ bound =>
      have hpieces : branchPieces (⟨condition, result⟩ :: branches) ++ rest =
          spaced (wordTokens ["WHEN"]) ++ space :: (condition.pieces ++ (spaced (wordTokens ["THEN"]) ++
            space :: (result.pieces ++ (branchPieces branches ++ rest)))) := by
        simp [branchPieces]
      have hbranch := run_branch hcondition hresult (stops_branches branches hrest)
      have hfirst : (behindKeyword "WHEN" (Reader.branch inner)).run
          (bare (branchPieces (⟨condition, result⟩ :: branches) ++ rest)) =
            .ok (some (unplaced ⟨condition, result⟩), bare (branchPieces branches ++ rest)) := by
        have hwhen : (acceptKeyword "WHEN").run (bare (branchPieces (⟨condition, result⟩ :: branches) ++ rest)) =
            .ok (true, bare (condition.pieces ++ (spaced (wordTokens ["THEN"]) ++
              space :: (result.pieces ++ (branchPieces branches ++ rest))))) := by
          rw [hpieces]
          rfl
        rw [behindKeyword, run_bind_of_ok hwhen, if_pos rfl, run_bind_of_ok hbranch]
        rfl
      rw [many, run_bind_of_ok hfirst]
      simp only
      rw [run_bind_of_ok (ih hread (Nat.le_of_succ_le_succ hbound))]
      rfl

/-- A word starts no other keyword. -/
theorem not_starts_word {word keyword : String} (h : fold word ≠ keyword) (ps : List Piece) :
    ¬Starts keyword (spaced (wordTokens [word]) ++ ps) :=
  fun heq => h (Option.some.inj heq)

/-- The last result of a choice is read, where there is one. -/
theorem run_otherwise_of_case {otherwise : Option Expr}
    (hotherwise : ∀ e ∈ otherwise, IsRead inner e) (rest : List Piece) :
    (behindKeyword "ELSE" inner.value).run (bare (otherwisePieces otherwise ++ (spaced (wordTokens ["END"]) ++ rest))) =
      .ok (unplacedOption otherwise, bare (spaced (wordTokens ["END"]) ++ rest)) := by
  cases otherwise with
  | none => exact run_behindKeyword_of_not (not_starts_word (by decide) _)
  | some e =>
    have helse : (acceptKeyword "ELSE").run
        (bare (otherwisePieces (some e) ++ (spaced (wordTokens ["END"]) ++ rest))) =
          .ok (true, bare (e.pieces ++ (spaced (wordTokens ["END"]) ++ rest))) := by
      rw [otherwisePieces, List.append_assoc]
      rfl
    rw [behindKeyword, run_bind_of_ok helse, if_pos rfl,
      run_bind_of_ok (hotherwise e rfl _ ((binds_choice (by decide)).stops le_rfl _))]
    rfl

/-- A choice is read with its operand, its branches and its last result. -/
theorem run_restOfCase {operand : Option Expr} {first : Branch} {branches : List Branch} {otherwise : Option Expr}
    (hword : ∀ e ∈ operand, ∀ rest, ¬Starts "WHEN" (e.pieces ++ rest)) (hoperand : ∀ e ∈ operand, IsRead inner e)
    (hbranches : ∀ branch ∈ first :: branches, IsRead inner branch.condition ∧ IsRead inner branch.result)
    (hotherwise : ∀ e ∈ otherwise, IsRead inner e) (rest : List Piece) :
    (restOfCase inner).run (bare (operandPieces operand ++ (branchPieces (first :: branches) ++
        (otherwisePieces otherwise ++ (spaced (wordTokens ["END"]) ++ rest))))) =
      .ok (.case (unplacedOption operand) (unplaced (first :: branches)) (unplacedOption otherwise), bare rest) := by
  obtain ⟨condition, result⟩ := first
  obtain ⟨⟨hcondition, hresult⟩, hbranches⟩ := List.forall_mem_cons.mp hbranches
  have hother : Stops 0 (otherwisePieces otherwise ++ (spaced (wordTokens ["END"]) ++ rest)) ∧
      ¬Starts "WHEN" (otherwisePieces otherwise ++ (spaced (wordTokens ["END"]) ++ rest)) := by
    cases otherwise with
    | none => exact ⟨(binds_choice (by decide)).stops le_rfl _, not_starts_word (by decide) _⟩
    | some e =>
      rw [otherwisePieces, List.append_assoc]
      exact ⟨(binds_choice (by decide)).stops le_rfl _, not_starts_word (by decide) _⟩
  have hpieces : branchPieces (⟨condition, result⟩ :: branches) ++
      (otherwisePieces otherwise ++ (spaced (wordTokens ["END"]) ++ rest)) =
        spaced (wordTokens ["WHEN"]) ++ space :: (condition.pieces ++ (spaced (wordTokens ["THEN"]) ++
          space :: (result.pieces ++ (branchPieces branches ++
            (otherwisePieces otherwise ++ (spaced (wordTokens ["END"]) ++ rest)))))) := by
    simp [branchPieces]
  have hmany := run_many_branches hbranches hother.1 hother.2 (length_le_bare_branches branches
    (otherwisePieces otherwise ++ (spaced (wordTokens ["END"]) ++ rest)))
  have hend : (expectKeyword "END").run (bare (spaced (wordTokens ["END"]) ++ rest)) = .ok ((), bare rest) := rfl
  have hbehind (operand : Option Expr) : (do
      let first ← branch inner
      let others ← repeated (behindKeyword "WHEN" (branch inner))
      let otherwise ← behindKeyword "ELSE" inner.value
      expectKeyword "END"
      return .case operand (first :: others) otherwise : Reader Expr).run
        (bare (condition.pieces ++ (spaced (wordTokens ["THEN"]) ++ space :: (result.pieces ++ (branchPieces branches ++
          (otherwisePieces otherwise ++ (spaced (wordTokens ["END"]) ++ rest))))))) =
      .ok (.case operand (unplaced (⟨condition, result⟩ :: branches)) (unplacedOption otherwise), bare rest) := by
    rw [run_bind_of_ok (run_branch hcondition hresult (stops_branches branches hother.1)), repeated, bind_assoc,
      run_bind_of_ok (run_get _), run_bind_of_ok hmany, run_bind_of_ok (run_otherwise_of_case hotherwise rest),
      run_bind_of_ok hend]
    rfl
  rw [hpieces, restOfCase]
  cases operand with
  | none => exact hbehind none
  | some e =>
    have hwhen (ps : List Piece) : (expectKeyword "WHEN").run (bare (spaced (wordTokens ["WHEN"]) ++ space :: ps)) =
        .ok ((), bare ps) := rfl
    rw [operandPieces, List.cons_append, bare_space, run_bind_of_ok (run_acceptKeyword_of_not (hword e rfl _)),
      if_neg Bool.false_ne_true, run_bind_of_ok (hoperand e rfl _ ((binds_choice (by decide)).stops le_rfl _)),
      run_bind_of_ok (hwhen _)]
    exact hbehind (some (unplaced e))

/-! ## Amounts of time -/

/-- The units of time are upper case words, none of which is a clause of an operand. -/
theorem intervalUnits_folded : ∀ unit ∈ intervalUnits, fold unit = unit ∧ unit ∉ operandClauses := by
  decide +kernel

/-- A unit of time binds nothing, and so stops the amount in front of it. -/
theorem binds_unit {unit : String} (h : unit ∈ intervalUnits) : Binds (wordTokens [unit]) 0 := by
  obtain ⟨hfold, hclause⟩ := intervalUnits_folded unit h
  refine binds_words [] hfold hclause fun second third => ?_
  unfold keywordStrength
  split <;> first | rfl | exact absurd h (by decide)

/-- A unit without a precision is one word. -/
theorem run_restOfUnit (leading : String) (hend : EndsOperand (nextToken rest)) :
    (restOfUnit leading).run (bare rest) = .ok ({ leading }, bare rest) := by
  have hparens {α : Type} (r : Reader α) : (inOptionalParens r).run (bare rest) = .ok (none, bare rest) := by
    rw [inOptionalParens, run_bind_of_ok (run_atSymbol_bare _ _), decide_eq_false (hend.nextToken_ne (.inr (.inr rfl)))]
    rfl
  rw [restOfUnit]
  by_cases hsecond : leading = "SECOND"
  · rw [if_pos hsecond, run_bind_of_ok (hparens _)]
    rfl
  · have hlast : (behindKeyword "TO" timeField).run (bare rest) = .ok (none, bare rest) :=
      run_behindKeyword_of_not (hend.not_starts (by decide))
    rw [if_neg hsecond, optionalPrecision, run_bind_of_ok (hparens _), run_bind_of_ok hlast]
    rfl

/-- The word `INTERVAL`, an amount and its unit are an operand. -/
theorem run_bareOperand_interval {amount : Expr} {leading : String} (hunit : leading ∈ intervalUnits)
    (hamount : IsRead inner amount) (hend : EndsOperand (nextToken rest)) :
    (bareOperand inner).run
        (bare (.token (.word "INTERVAL" none) :: space :: (amount.pieces ++ (spaced (wordTokens [leading]) ++ rest)))) =
      .ok (.interval (unplaced amount) { leading }, bare rest) := by
  have hone : (oneOf? intervalUnits).run (bare (spaced (wordTokens [leading]) ++ rest)) =
      .ok (some leading, bare rest) := by
    have hkeyword : (bare (spaced (wordTokens [leading]) ++ rest)).head?.bind (·.token.keyword?) = some leading :=
      congrArg some (intervalUnits_folded leading hunit).1
    rw [oneOf?, run_bind_of_ok (run_peekKeyword? _), hkeyword]
    simp only [List.contains_iff_mem, hunit, if_true]
    rfl
  have hinterval : (restOfInterval inner).run (bare (amount.pieces ++ (spaced (wordTokens [leading]) ++ rest))) =
      .ok (.interval (unplaced amount) { leading }, bare rest) := by
    rw [restOfInterval, run_bind_of_ok (hamount _ ((binds_unit hunit).stops le_rfl _)), run_bind_of_ok hone]
    simp only
    rw [run_bind_of_ok (run_restOfUnit leading hend)]
    rfl
  have hkeyword : (Token.word "INTERVAL" none).keyword? = some "INTERVAL" :=
    congrArg some (by decide : fold "INTERVAL" = "INTERVAL")
  have htyped (gap : Option Blank) : (attempt (typedLiteral inner)).run
      (⟨.word "INTERVAL" none, .none, gap⟩ :: bare (amount.pieces ++ (spaced (wordTokens [leading]) ++ rest))) =
        .ok (some (.interval (unplaced amount) { leading }), bare rest) := by
    refine run_attempt_of_ok ?_
    rw [typedLiteral, run_bind_of_ok (run_dataType_word hkeyword (by decide) _)]
    exact hinterval
  rw [Lexeme.bare_token, bareOperand, run_bind_of_ok (run_peek? _), bare_space]
  change (attempt (typedLiteral inner) >>= _).run _ = _
  rw [run_bind_of_ok (htyped _)]
  rfl

end Reader
end InsertPivot.Sql
