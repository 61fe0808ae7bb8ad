import InsertPivot.Proofs.Constructs
import InsertPivot.Proofs.Functions

/-!
# Reading expressions

A legible expression is read from its pieces as itself. An expression is read operator by operator: what has
been read so far is the left side of the next operator. So what is shown by induction is how far the reader
has come where the pieces of a left side end (`Climbs`), and the whole follows where nothing goes on behind
it.
-/

namespace InsertPivot.Sql

open Lexeme (Piece bare symbol space)

namespace Reader

variable {rest : List Piece} {levels least : Nat} {e : Expr}

/-- Whether the reader, where the pieces of an expression end, has read the expression as the left side of what goes
on behind it. -/
def Climbs (levels least : Nat) (e : Expr) : Prop :=
  ∀ rest, Stops e.closing rest → ∃ bound, (bare rest).length ≤ bound.length ∧
    (expression (Nested.upTo levels) least).run (bare (e.pieces ++ rest)) =
      (climb (Nested.upTo levels) least bound (unplaced e)).run (bare rest)

/-- What climbs is read from its pieces, up to what stops it. -/
theorem Climbs.run (h : Climbs levels least e) (hrest : Stops (min least e.closing) rest) :
    ((Nested.upTo (levels + 1)).expr least).run (bare (e.pieces ++ rest)) = .ok (unplaced e, bare rest) := by
  obtain ⟨bound, -, hrun⟩ := h rest (hrest.mono (Nat.min_le_right _ _))
  exact hrun.trans (run_climb_end (hrest.mono (Nat.min_le_left _ _)) _ _)

/-- What climbs is read as a value. -/
theorem Climbs.isRead (h : Climbs levels 0 e) : IsRead (Nested.upTo (levels + 1)) e :=
  fun _ hrest => h.run (hrest.mono (Nat.zero_le _))

/-- What is read as an operand climbs, at every strength. -/
theorem climbs_of_operand (h : ∀ rest, Stops e.closing rest →
    (operand (Nested.upTo levels)).run (bare (e.pieces ++ rest)) =
    .ok (unplaced e, bare rest)) : Climbs levels least e :=
  fun rest hrest => ⟨bare rest, le_rfl, run_expression_of_operand (h rest hrest)⟩

/-- An expression goes on behind its left side with tokens that bind tighter than what stands before it, but not so
tightly that they belong to the end of the left side. -/
theorem Climbs.continued {left : Expr} {tokens : List Token} {tightness : Nat} (hleft : Climbs levels least left)
    (hbinds : Binds tokens tightness) (htight : least < tightness) (hclosed : tightness ≤ left.closing)
    {ps : List Piece}
    (hpieces : e.pieces = left.pieces ++ (spaced tokens ++ ps))
    (hcontinued : ∀ rest, Stops e.closing rest → (Reader.continued (Nested.upTo levels) (unplaced left) tightness).run
      (bare (spaced tokens ++ (ps ++ rest))) = .ok (unplaced e, bare rest)) : Climbs levels least e := by
  intro rest hrest
  obtain ⟨bound, hbound, hrun⟩ := hleft _ (hbinds.stops hclosed (ps ++ rest))
  obtain ⟨t, tokens, rfl⟩ := List.exists_cons_of_ne_nil hbinds.ne
  have hlength : (bare rest).length + 1 ≤ (bare (spaced (t :: tokens) ++ (ps ++ rest))).length := by
    have hmore := length_bare_le_append (spaced tokens ++ ps) rest
    rw [List.append_assoc] at hmore
    rw [spaced_cons, List.cons_append, bare_space, List.cons_append, Lexeme.bare_token, List.length_cons]
    exact Nat.succ_le_succ hmore
  cases bound with
  | nil => exact absurd (hlength.trans hbound) (by simp)
  | cons _ bound =>
    refine ⟨bound, Nat.le_of_succ_le_succ (hlength.trans hbound), ?_⟩
    rw [hpieces, List.append_assoc, List.append_assoc, hrun, climb, run_bind_of_ok (hbinds.run_strength _),
      if_neg (by omega), run_bind_of_ok (hcontinued rest hrest)]

/-- Expressions that are listed are read where a closing parenthesis stands behind them. -/
theorem run_values {es : List Expr} (hne : es ≠ []) (h : ∀ e ∈ es, IsRead (Nested.upTo levels) e) (rest : List Piece) :
    (Nested.upTo levels).values.run (bare (listed (exprPieces es) ++ symbol .rightParen :: rest)) =
      .ok (unplaced es, bare (symbol .rightParen :: rest)) := by
  rw [exprPieces_eq_map]
  exact run_commaSeparated EndsValue hne (fun e hmem rest hend => h e hmem rest (stops_of_endsValue hend 0)) (.inl rfl)
    (.inr (.inl rfl)) (by simp)

/-- Expressions in parentheses are read as an operand. -/
theorem run_operand_parens {first : Expr} {items : List Expr} (hlegible : first.Legible levels least)
    (h : ∀ e ∈ first :: items, IsRead (Nested.upTo (levels + 1)) e) (hend : EndsOperand (nextToken rest)) :
    (operand (Nested.upTo (levels + 1))).run (bare (enclosed (listed (exprPieces (first :: items))) ++ rest)) =
      .ok (parensOf (unplaced (first :: items)), bare rest) := by
  obtain ⟨more, hlisted, -⟩ := exists_listed first.pieces (exprPieces items) rest
  have hquery := hlegible.not_query more
  rw [← hlisted] at hquery
  exact run_operand_of_bare (run_bareOperand_parens hquery (run_values (List.cons_ne_nil _ _) h rest) hend) hend

end Reader

open Reader

/-- A legible expression is read up to its end as a left side. -/
theorem Expr.Legible.climbs {levels least : Nat} {e : Expr} (h : e.Legible levels least) : Climbs levels least e := by
  -- operands are read alone; operators and tests are what their left side goes on with
  induction h with
  | literal _ =>
    exact climbs_of_operand fun rest hrest => run_operand_of_bare (run_bareOperand_literal hrest.1) hrest.1
  | column free =>
    exact climbs_of_operand fun rest hrest => run_operand_of_bare (run_bareOperand_name free.2 (.inr hrest.1)) hrest.1
  | @qualified qualifier name levels _ ne free =>
    obtain ⟨hqualifier, hname⟩ := List.forall_mem_append.mp free
    refine climbs_of_operand fun rest hrest => ?_
    have hcolumn : (operand (Nested.upTo levels)).run (bare (.token name.token :: rest)) =
        .ok (.column (Placed.unplaced name), bare rest) :=
      run_operand_of_bare (run_bareOperand_name (hname name (List.mem_singleton_self _)).2 (.inr hrest.1)) hrest.1
    have hrun := run_operand_qualify hqualifier (.inl ⟨_, rfl⟩) hcolumn hrest
    have hne : Placed.unplaced qualifier ≠ [] := mt (unplaced_eq_nil qualifier).mp ne
    rw [qualify, if_neg hne] at hrun
    simpa [Expr.pieces, Placed.unplaced, Expr.unplaced] using hrun
  | clock _ word =>
    exact climbs_of_operand fun rest hrest => run_operand_of_bare (run_bareOperand_clock word hrest.1) hrest.1
  | @call qualifier name items deeper _ free callable fits items_legible ih =>
    refine climbs_of_operand fun rest hrest => ?_
    have hread : ReadAsArguments (Nested.upTo (deeper + 1)) items :=
      fun e hmem rest hend => (ih e hmem).isRead rest (stops_of_endsValue hend.endsValue 0)
    have hcall := run_operand_of_bare (run_bareOperand_call items_legible fits hread hrest.1 callable) hrest.1
    have hrun := run_operand_qualify free (.inr ⟨_, rfl⟩) hcall hrest
    have hunplaced : qualify (Placed.unplaced qualifier) (.call (callOf [Placed.unplaced name] items)) =
        Placed.unplaced (Expr.call ⟨qualifier ++ [name], .given none (items.map .value) [], false, [], none, none⟩) := by
      simp [qualify, callOf, Expr.unplaced, Call.unplaced, Arguments.unplaced, unplacedArguments_eq]
    rw [Expr.pieces, argumentPieces_map_value, List.append_assoc, hrun, hunplaced]
  | @nested inner deeper _ inner_legible ih =>
    refine climbs_of_operand fun rest hrest => ?_
    have hread := run_operand_parens inner_legible (List.forall_mem_singleton.mpr ih.isRead) hrest.1
    rwa [exprPieces, exprPieces, listed, List.intercalate_singleton] at hread
  | @tuple first second items deeper _ items_legible ih =>
    refine climbs_of_operand fun rest hrest => ?_
    have hread := run_operand_parens (items_legible first List.mem_cons_self) (fun e hmem => (ih e hmem).isRead) hrest.1
    have htuple : parensOf (Placed.unplaced (first :: second :: items)) =
        Placed.unplaced (Expr.tuple (first :: second :: items)) :=
      congrArg Expr.tuple (unplacedExprs_eq (first :: second :: items)).symm
    rw [← htuple]
    exact hread
  | @unary op operand deeper _ _ operand_legible ih =>
    refine climbs_of_operand fun rest hrest => ?_
    rw [Expr.pieces, List.append_assoc]
    refine run_operand_of_bare ?_ hrest.1
    by_cases hop : op = .not
    · subst hop
      exact run_bareOperand_not (operand_legible.not_starts (by decide) (by decide) rest) (ih.run hrest) hrest.1
    · exact run_bareOperand_sign hop (ih.run hrest) hrest.1
  | @joined e left right tokens _ _ _ _ joins tight closed _ right_legible hleft hright =>
    refine hleft.continued joins.binds tight closed joins.pieces_eq fun rest hrest => ?_
    rw [joins.closing_eq] at hrest
    exact joins.run_continued right_legible (hright.run hrest) hrest.1
  | @is operand negated truth _ _ tight closed _ ih =>
    exact ih.continued (binds_truth negated truth) tight closed (by rw [List.append_nil, Expr.pieces]) fun rest _ =>
      run_continued_is _ _ negated truth
  | @inList operand negated first items deeper _ opens tight closed _ items_legible hoperand hitems =>
    refine hoperand.continued (binds_in negated) tight closed rfl fun rest _ => ?_
    obtain ⟨more, hlisted, -⟩ := exists_listed first.pieces (exprPieces items) rest
    have hread := run_values (List.cons_ne_nil first items) (fun e hmem => (hitems e hmem).isRead) rest
    obtain ⟨hquery, hparen⟩ := opens.not_starts (items_legible first List.mem_cons_self) more
    rw [← hlisted] at hquery hparen
    have hcontinued := run_continued_inList (Placed.unplaced operand) comparisonStrength negated hquery hparen hread
    have hunplaced : Placed.unplaced (Expr.inList operand negated (first :: items)) =
        .inList (Placed.unplaced operand) negated (Placed.unplaced (first :: items)) :=
      congrArg (Expr.inList _ negated) (unplacedExprs_eq (first :: items))
    rw [hunplaced]
    exact hcontinued
  | @between operand negated low high deeper _ tight closed low_closed _ _ _ hoperand hlow hhigh =>
    refine hoperand.continued (binds_between negated) tight closed rfl fun rest hrest => ?_
    have hand : Binds (wordTokens ["AND"]) (BinaryOp.strength .and) := binds_op .and
    have hlow := hlow.run (hand.stops (le_min (by decide) low_closed) (space :: (high.pieces ++ rest)))
    have hbetween := run_continued_between (Placed.unplaced operand) comparisonStrength negated hlow (hhigh.run hrest)
    rw [List.cons_append, List.append_assoc, List.append_assoc]
    exact hbetween
  | @case operand first branches otherwise deeper _ word operand_legible _ _ _ hoperand hconditions hresults hotherwise =>
    refine climbs_of_operand fun rest hrest => ?_
    have hword : ∀ e ∈ operand, ∀ rest, ¬Starts "WHEN" (e.pieces ++ rest) := fun e hmem rest => by
      rw [Starts, (operand_legible e hmem).nextToken_append]
      exact word e hmem
    have hcase := run_restOfCase hword (fun e hmem => (hoperand e hmem).isRead)
      (fun branch hmem => ⟨(hconditions branch hmem).isRead, (hresults branch hmem).isRead⟩)
      (fun e hmem => (hotherwise e hmem).isRead) rest
    have hroot := run_bareOperand_construct (by decide : fold "CASE" = "CASE") ⟨by decide, by decide, by decide, rfl⟩
      (fun _ => rfl) hcase hrest.1
    have hunplaced : Placed.unplaced (Expr.case operand (first :: branches) otherwise) =
        .case (unplacedOption operand) (Placed.unplaced (first :: branches)) (unplacedOption otherwise) :=
      congrArg (Expr.case _ · _) (unplacedBranches_eq (first :: branches))
    rw [hunplaced, Expr.pieces, List.cons_append, List.append_assoc, List.append_assoc, List.append_assoc]
    exact run_operand_of_bare hroot hrest.1
  | @interval amount leading deeper _ unit _ ih =>
    refine climbs_of_operand fun rest hrest => ?_
    have hinterval := run_operand_of_bare (run_bareOperand_interval unit ih.isRead hrest.1) hrest.1
    rw [Expr.pieces, List.cons_append, List.cons_append, List.append_assoc]
    exact hinterval

/-- A legible expression is read from its pieces, where what ends a value stands behind it. -/
theorem Expr.Legible.readsBack {levels : Nat} {e : Expr} (h : e.Legible levels 0) :
    ReadsBack (levels + 1) e e.pieces :=
  fun _ hend => h.climbs.isRead _ (stops_of_endsValue hend 0)

end InsertPivot.Sql
