import InsertPivot.Proofs.Opening

/-!
# Names with periods, and functions

A name with periods is read name by name: each period takes what stands behind it one level deeper, and what
is found there becomes part of the row. A function is read where a parenthesis stands behind its name.

An argument of a function may be given by name, and it may be all columns of a table. So a reader looks for
these before it reads an expression, and what it has to find out is that the names at the start of the
expression go on with neither.
-/

namespace InsertPivot.Sql

open Lexeme (Piece bare symbol space)

namespace Reader

variable {inner : Nested} {rest : List Piece}

/-! ## Names with periods -/

/-- Names behind periods are the names that they were made from. -/
theorem names?_columns (names : List Ident) : names? (names.map fun name => .dot (.column name)) = some names := by
  induction names with
  | nil => rfl
  | cons name names ih => rw [List.map_cons, names?, ih, Option.map_some]

/-- What a name or a function becomes behind other names. -/
def qualify (qualifier : List Ident) : Expr → Expr
  | .column name => if qualifier = [] then .column name else .qualified (qualifier ++ [name])
  | .call function => .call { function with name := qualifier ++ function.name }
  | other => other

/-- Whether an expression is a name or a function. -/
def IsNamed (e : Expr) : Prop :=
  (∃ name, e = .column name) ∨ ∃ function, e = .call function

/-- Without a qualifier an expression stands as it is. -/
theorem qualify_nil {e : Expr} (h : IsNamed e) : qualify [] e = e := by
  obtain ⟨name, rfl⟩ | ⟨⟨name, arguments, braced, group, nulls, window⟩, rfl⟩ := h <;> rfl

/-- What is found behind a name and a period is qualified by the name. -/
theorem joined_qualify (part : Ident) (qualifier : List Ident) {e : Expr} (h : IsNamed e) :
    joined (.column part) (pathOf (qualify qualifier e)) = qualify (part :: qualifier) e := by
  obtain ⟨name, rfl⟩ | ⟨function, rfl⟩ := h
  · have hparts : pathOf (qualify qualifier (.column name)) =
      (qualifier ++ [name]).map fun name => .dot (.column name) := by
      cases qualifier <;> rfl
    have hnames := names?_columns (qualifier ++ [name])
    rw [hparts]
    have hne := List.append_ne_nil_of_right_ne_nil qualifier (List.cons_ne_nil name [])
    obtain ⟨first, names, hcons⟩ := List.exists_cons_of_ne_nil hne
    rw [hcons] at hnames ⊢
    rw [List.map_cons] at hnames ⊢
    simp only [joined, hnames, qualify, List.cons_ne_nil, if_false, List.cons_append, ← hcons]
  · rfl

/-- A period is read with what stands behind it. -/
theorem run_path_period {name : Ident} {ps : List Piece} {found : Expr}
    (hfound : (inner.expr periodStrength).run (bare (.token name.token :: ps)) = .ok (found, bare rest))
    (hend : EndsOperand (nextToken rest)) (l : Lexeme) (bound : List Lexeme) :
    (path inner (l :: bound)).run (bare (symbol .period :: .token name.token :: ps)) =
    .ok (pathOf found, bare rest) := by
  have hstar : atQualifiedStar.run (bare (symbol .period :: .token name.token :: ps)) =
      .ok (false, bare (symbol .period :: .token name.token :: ps)) := rfl
  have hbehind : (restOfPeriod inner).run (bare (.token name.token :: ps)) = .ok (pathOf found, bare rest) := by
    have hpeek := run_peek? (bare (.token name.token :: ps))
    rw [restOfPeriod, run_bind_of_ok hpeek]
    change (inner.expr periodStrength >>= fun found => pure (pathOf found)).run (bare (.token name.token :: ps)) = _
    rw [run_bind_of_ok hfound]
    rfl
  rw [path, run_bind_of_ok hstar, if_neg Bool.false_ne_true, run_bind_of_ok (run_acceptSymbol_symbol _ _), if_pos rfl,
    run_bind_of_ok hbehind, run_bind_of_ok (run_path_end hend _)]
  simp

/-- A name, a period, and what stands behind it. -/
theorem run_operand_period {part name : Ident} (hpart : part.Free) {ps : List Piece} {found : Expr}
    (hfound : (inner.expr periodStrength).run (bare (.token name.token :: ps)) = .ok (found, bare rest))
    (hend : EndsOperand (nextToken rest)) :
    (operand inner).run (bare (.token part.token :: symbol .period :: .token name.token :: ps)) =
      .ok (joined (.column (unplaced part)) (pathOf found), bare rest) := by
  have hroot : (bareOperand inner).run (bare (.token part.token :: symbol .period :: .token name.token :: ps)) =
      .ok (.column (unplaced part), bare (symbol .period :: .token name.token :: ps)) :=
    run_bareOperand_name hpart.2 (.inl rfl)
  rw [operand, run_bind_of_ok hroot, run_bind_of_ok (run_get _)]
  have hbound : bare (symbol .period :: .token name.token :: ps) =
      ⟨.symbol .period, .none, none⟩ :: bare (.token name.token :: ps) := rfl
  have hpath := run_path_period hfound hend ⟨.symbol .period, .none, none⟩ (bare (.token name.token :: ps))
  rw [← hbound] at hpath
  rw [run_bind_of_ok hpath]
  rfl

/-- A name or a function is read behind other names as what they make of it. -/
theorem run_operand_qualify {levels : Nat} {qualifier : List Ident} (hqualifier : ∀ part ∈ qualifier, part.Free)
    {name : Ident} {ps : List Piece} {e : Expr} (he : IsNamed e)
    (hrun : (operand (Nested.upTo levels)).run (bare (.token name.token :: ps)) = .ok (e, bare rest))
    (hrest : Stops periodStrength rest) :
    (operand (Nested.upTo (levels + qualifier.length))).run (bare (dottedPieces (qualifier ++ [name]) ++ ps)) =
      .ok (qualify (unplaced qualifier) e, bare rest) := by
  induction qualifier with
  | nil =>
    rw [unplaced_nil, qualify_nil he]
    exact hrun
  | cons part qualifier ih =>
    obtain ⟨hpart, hqualifier⟩ := List.forall_mem_cons.mp hqualifier
    have hfound := (run_expression_of_operand (ih hqualifier)).trans (run_climb_end hrest _ _)
    have hne : qualifier ++ [name] ≠ [] := List.append_ne_nil_of_right_ne_nil _ (List.cons_ne_nil _ _)
    obtain ⟨first, names, hcons⟩ := List.exists_cons_of_ne_nil hne
    obtain ⟨qs, hqs⟩ := exists_dottedPieces first names
    rw [List.cons_append, dottedPieces_cons part hne]
    rw [hcons, hqs, List.cons_append] at hfound
    rw [hcons, hqs, unplaced_cons, ← joined_qualify _ _ he]
    exact run_operand_period hpart hfound hrest.1

/-! ## Arguments -/

/-- Whether a token ends an argument. -/
def EndsArgument (t : Option Token) : Prop :=
  t = some (.symbol .comma) ∨ t = some (.symbol .rightParen)

/-- What ends an argument ends a value. -/
theorem EndsArgument.endsValue {t : Option Token} (h : EndsArgument t) : EndsValue t := by
  obtain rfl | rfl := h
  · exact .inl rfl
  · exact .inr (.inl rfl)

/-- What ends an argument starts no clause. -/
theorem EndsArgument.not_starts {keyword : String} (h : EndsArgument (nextToken rest)) : ¬Starts keyword rest := by
  unfold Starts
  obtain h | h := h <;> simp [h, Token.keyword?]

/-- What ends an argument continues no name. -/
theorem EndsArgument.endsNames (h : EndsArgument (nextToken rest)) : EndsNames rest := by
  intro s hs heq
  have hnot : ∀ s ∈ [Symbol.period, .fatArrow], s ≠ .comma ∧ s ≠ .rightParen := by decide
  obtain h | h := h
  · exact (hnot s hs).1 (Token.symbol.inj (Option.some.inj (heq.symm.trans h)))
  · exact (hnot s hs).2 (Token.symbol.inj (Option.some.inj (heq.symm.trans h)))

/-- Names with periods before them go on with no star. -/
theorem run_starPath (names : List Ident) (hrest : EndsNames rest) (bound : List Lexeme) (found : List Ident) :
    ∃ left, (starPath bound found).run (bare (periodPieces names ++ rest)) = .ok (none, left) := by
  induction names generalizing bound found with
  | nil =>
    cases bound with
    | nil => exact ⟨_, rfl⟩
    | cons _ bound =>
      refine ⟨bare rest, ?_⟩
      change (starPath _ found).run (bare rest) = _
      rw [starPath, run_bind_of_ok (run_acceptSymbol_of_ne (hrest .period (by decide)))]
      rfl
  | cons name names ih =>
    cases bound with
    | nil => exact ⟨_, rfl⟩
    | cons _ bound =>
      obtain ⟨left, hleft⟩ := ih bound (found ++ [unplaced name])
      refine ⟨left, ?_⟩
      have hpieces : periodPieces (name :: names) ++ rest =
          symbol .period :: .token name.token :: (periodPieces names ++ rest) := rfl
      rw [hpieces, starPath, run_bind_of_ok (run_acceptSymbol_symbol _ _), if_pos rfl, Lexeme.bare_token,
        run_bind_of_ok (run_next? _)]
      exact hleft

/-- A name is read, or there is none. -/
theorem run_ident_or (t : Token) (ps : List Piece) :
    (∃ name, ident.run (bare (.token t :: ps)) = .ok (name, bare ps)) ∨
      ∃ fault, fault ≠ .tooDeep ∧ ident.run (bare (.token t :: ps)) = .error fault := by
  rw [Lexeme.bare_token]
  cases t with
  | word text quote => exact .inl ⟨_, rfl⟩
  | string kind body =>
    cases kind with
    | single => exact .inl ⟨_, rfl⟩
    | double => exact .inl ⟨_, rfl⟩
    | _ => exact .inr ⟨_, Fault.noConfusion, rfl⟩
  | _ => exact .inr ⟨_, Fault.noConfusion, rfl⟩

/-- What goes on with no star is read as an expression. -/
theorem run_starOr {signed : Bool} {t : Token} (ht : t.Opens signed) (names : List Ident) {ps : List Piece}
    (hps : EndsNames ps) {value : Expr} {left : List Lexeme}
    (hvalue : inner.value.run (bare (.token t :: (periodPieces names ++ ps))) = .ok (value, left)) :
    (starOr inner).run (bare (.token t :: (periodPieces names ++ ps))) = .ok (.value value, left) := by
  have hrest : (do return Argument.value (← inner.value) : Reader Argument).run
      (bare (.token t :: (periodPieces names ++ ps))) = .ok (.value value, left) := by
    rw [run_bind_of_ok hvalue]
    rfl
  have hpeek : peekToken?.run (bare (.token t :: (periodPieces names ++ ps))) =
      .ok (some t, bare (.token t :: (periodPieces names ++ ps))) := by
    rw [run_peekToken?, head?_bare]
    rfl
  have hpath (name : Ident) := run_starPath names hps (bare (.token t :: (periodPieces names ++ ps))) [name]
  rw [starOr, run_bind_of_ok (run_get _), run_bind_of_ok hpeek]
  -- what a name starts is tried as the columns of a table first
  cases t with
  | word text quote =>
    obtain ⟨_, hpath⟩ := hpath ⟨text, quote, .none⟩
    have hident : ident.run (bare (.token (.word text quote) :: (periodPieces names ++ ps))) =
        .ok (⟨text, quote, .none⟩, bare (periodPieces names ++ ps)) := run_ident ⟨text, quote, .none⟩ _
    simp only
    rw [run_bind_of_ok hident, run_bind_of_ok hpath]
    exact hrest
  | string kind body =>
    cases kind with
    | single =>
      obtain ⟨_, hpath⟩ := hpath ⟨body, some '\x27', .none⟩
      have hident : ident.run (bare (.token (.string .single body) :: (periodPieces names ++ ps))) =
          .ok (⟨body, some '\x27', .none⟩, bare (periodPieces names ++ ps)) := by
        rw [Lexeme.bare_token]
        rfl
      simp only
      rw [run_bind_of_ok hident, run_bind_of_ok hpath]
      exact hrest
    | _ => exact hrest
  | symbol s =>
    have hne : s ≠ .times := by
      rintro rfl
      obtain h | ⟨-, h⟩ := ht.symbol .times rfl
      · cases h
      · exact absurd h (by decide)
    cases s <;> first | exact absurd rfl hne | exact hrest
  | _ => exact hrest

/-- An expression that fits is read as an argument. -/
theorem run_argument {levels least : Nat} {e : Expr} (h : e.Legible levels least) (hfits : e.FitsArgument)
    (hrest : EndsArgument (nextToken rest))
    (hvalue : inner.value.run (bare (e.pieces ++ rest)) = .ok (unplaced e, bare rest)) :
    (argument inner).run (bare (e.pieces ++ rest)) = .ok (.value (unplaced e), bare rest) := by
  obtain ⟨t, names, ps, hpieces, hnames⟩ := h.exists_names
  obtain ⟨t', ps', hpieces', ht⟩ := h.exists_first
  obtain ⟨rfl, -⟩ : t = t' ∧ _ = ps' := by simpa [hpieces] using hpieces'
  have hps := hnames rest hrest.endsNames
  have hpieces' : e.pieces ++ rest = .token t :: (periodPieces names ++ (ps ++ rest)) := by
    rw [hpieces, List.cons_append, List.append_assoc]
  have hvalueWord : ¬Starts "VALUE" (periodPieces names ++ (ps ++ rest)) := by
    have htail := hfits.second "VALUE" (by decide)
    rw [hpieces, List.tail_cons] at htail
    rw [← List.append_assoc]
    exact not_starts_append htail hrest.not_starts
  have harrow : nextToken (periodPieces names ++ (ps ++ rest)) ≠ some (.symbol .fatArrow) := by
    cases names with
    | nil => exact hps .fatArrow (by decide)
    | cons name names => exact fun heq => nomatch heq
  obtain ⟨found, hexpect⟩ := run_expectSymbol_of_ne harrow
  rw [hpieces'] at hvalue ⊢
  have hnamed : ∃ fault, fault ≠ .tooDeep ∧ (do
      let name ← ident
      let joint ←
        if ← acceptKeyword "VALUE" then pure .value
        else
          expectSymbol .fatArrow
          pure .arrow
      return Argument.named name joint (← starOr inner) : Reader Argument).run
        (bare (.token t :: (periodPieces names ++ (ps ++ rest)))) = .error fault := by
    obtain ⟨name, hident⟩ | ⟨fault, hdeep, hident⟩ := run_ident_or t (periodPieces names ++ (ps ++ rest))
    · refine ⟨.expected "=>" found, Fault.noConfusion, ?_⟩
      rw [run_bind_of_ok hident, run_bind_of_ok (run_acceptKeyword_of_not hvalueWord), if_neg Bool.false_ne_true]
      exact run_bind_of_error hexpect
    · exact ⟨fault, hdeep, run_bind_of_error hident⟩
  obtain ⟨fault, hdeep, hnamed⟩ := hnamed
  rw [argument, run_bind_of_ok (run_attempt_of_error hnamed hdeep)]
  exact run_starOr ht names hps hvalue

/-! ## Functions -/

/-- Where no clause for a document starts, none is read. -/
theorem run_documentClauses_of_not {t : Token} {ps : List Piece}
    (hfirst : ∀ keyword ∈ ["ABSENT", "RETURNING"], ¬Starts keyword (.token t :: ps)) (hsecond : ¬Starts "ON" ps) :
    documentClauses.run (bare (.token t :: ps)) = .ok ([], bare (.token t :: ps)) := by
  have hnull : (acceptKeywords ["NULL", "ON", "NULL"]).run (bare (.token t :: ps)) =
      .ok (false, bare (.token t :: ps)) := by
    rw [run_acceptKeywords, if_neg]
    intro heq
    rw [Lexeme.bare_token] at heq
    refine hsecond (?_ : (nextToken ps).bind Token.keyword? = some "ON")
    rw [← keyword?_bare]
    cases hls : bare ps with
    | nil => simp [hls] at heq
    | cons l ls =>
      simp only [hls, List.length_cons, List.take_succ_cons, List.map_cons, List.cons.injEq] at heq
      exact heq.2.1
  have hnulls : documentNulls.run (bare (.token t :: ps)) = .ok ([], bare (.token t :: ps)) := by
    rw [documentNulls, run_bind_of_ok (run_acceptKeywords_of_not (hfirst "ABSENT" (by decide))),
      if_neg Bool.false_ne_true,
      run_bind_of_ok hnull]
    rfl
  rw [documentClauses, run_bind_of_ok hnulls, run_bind_of_ok (run_behindKeyword_of_not (hfirst "RETURNING" (by decide)))]
  rfl

/-- Where no quantifier stands, none is read. -/
theorem run_quantifier_of_not (h : ∀ keyword ∈ ["ALL", "DISTINCT"], ¬Starts keyword rest) :
    quantifier.run (bare rest) = .ok (none, bare rest) := by
  have hplace : place?.run (bare rest) = .ok ((bare rest).head?.map (·.span.first), bare rest) := rfl
  rw [quantifier, run_bind_of_ok hplace, run_bind_of_ok (run_acceptKeyword_of_not (h "ALL" (by decide))),
    run_bind_of_ok (run_acceptKeyword_of_not (h "DISTINCT" (by decide)))]
  rfl

/-- At the closing parenthesis no more clauses stand. -/
theorem run_argumentClauses_end : (argumentClauses inner).run (bare (symbol .rightParen :: rest)) =
    .ok ([], bare (symbol .rightParen :: rest)) := by
  rfl

/-- Whether expressions are read where an argument ends behind them. -/
def ReadAsArguments (inner : Nested) (es : List Expr) : Prop :=
  ∀ e ∈ es, ∀ rest, EndsArgument (nextToken rest) → inner.value.run (bare (e.pieces ++ rest)) =
    .ok (unplaced e, bare rest)

/-- No clause stands before the first argument. -/
theorem run_before_arguments {levels : Nat} {first : Expr} (h : first.Legible levels 0) (hfits : first.FitsArgument)
    (hrest : EndsArgument (nextToken rest)) :
    documentClauses.run (bare (first.pieces ++ rest)) = .ok ([], bare (first.pieces ++ rest)) ∧
      (acceptSymbol .rightParen).run (bare (first.pieces ++ rest)) = .ok (false, bare (first.pieces ++ rest)) ∧
      quantifier.run (bare (first.pieces ++ rest)) = .ok (none, bare (first.pieces ++ rest)) := by
  obtain ⟨t, ps, hpieces, ht⟩ := h.exists_first
  have hfirst : ∀ keyword ∈ ["DISTINCT", "ABSENT", "RETURNING"], ¬Starts keyword (first.pieces ++ rest) :=
    fun keyword hmem => not_starts_append (hfits.first keyword hmem) hrest.not_starts
  have hall : ¬Starts "ALL" (first.pieces ++ rest) := h.not_starts (by decide) (by decide) rest
  have hsecond := hfits.second "ON" (by decide)
  have hparen : nextToken (first.pieces ++ rest) ≠ some (.symbol .rightParen) := by
    rw [hpieces]
    intro heq
    obtain hsymbol | ⟨-, hsymbol⟩ := ht.symbol .rightParen (Option.some.inj heq)
    · cases hsymbol
    · exact absurd hsymbol (by decide)
  refine ⟨?_, run_acceptSymbol_of_ne hparen, run_quantifier_of_not (List.forall_mem_cons.mpr ⟨hall, ?_⟩)⟩
  · rw [hpieces] at hsecond hfirst ⊢
    exact run_documentClauses_of_not (fun keyword hmem => hfirst keyword (List.mem_cons_of_mem _ hmem))
      (not_starts_append hsecond hrest.not_starts)
  · exact List.forall_mem_singleton.mpr (hfirst "DISTINCT" (by decide))

/-- Arguments are read up to the closing parenthesis. -/
theorem run_restOfArguments {levels : Nat} {es : List Expr} (h : ∀ e ∈ es, e.Legible levels 0)
    (hfits : ∀ e ∈ es, e.FitsArgument) (hread : ReadAsArguments inner es) (rest : List Piece) :
    (restOfArguments inner).run (bare (listed (es.map Expr.pieces) ++ symbol .rightParen :: rest)) =
      .ok (.given none (es.map fun e => .value (unplaced e)) [], bare rest) := by
  cases es with
  | nil => rfl
  | cons first others =>
    have hitems : (commaSeparated (argument inner)).run
        (bare (listed ((first :: others).map Expr.pieces) ++ symbol .rightParen :: rest)) =
          .ok ((first :: others).map fun e => .value (unplaced e), bare (symbol .rightParen :: rest)) :=
      run_commaSeparated EndsArgument (List.cons_ne_nil _ _)
        (fun e hmem rest hrest => run_argument (h e hmem) (hfits e hmem) hrest (hread e hmem rest hrest))
        (.inl rfl) (.inr rfl) (by simp)
    obtain ⟨more, hlisted, hmore⟩ := exists_listed first.pieces (others.map Expr.pieces) rest
    rw [List.map_cons, hlisted] at hitems
    rw [List.map_cons, hlisted]
    obtain ⟨hdocument, hparen, hquantifier⟩ :=
      run_before_arguments (h first List.mem_cons_self) (hfits first List.mem_cons_self) hmore
    rw [restOfArguments, run_bind_of_ok hdocument, run_bind_of_ok hparen, if_neg Bool.false_ne_true,
      run_bind_of_ok hquantifier, run_bind_of_ok hitems, run_bind_of_ok run_argumentClauses_end,
      run_bind_of_ok (run_expectSymbol_symbol _ _)]
    rfl

/-- A function of these arguments, as it is read. -/
def callOf (name : List Ident) (es : List Expr) : Call :=
  { name, arguments := .given none (es.map fun e => .value (unplaced e)) [] }

section

variable {levels : Nat} {es : List Expr} (h : ∀ e ∈ es, e.Legible levels 0) (hfits : ∀ e ∈ es, e.FitsArgument)
  (hread : ReadAsArguments inner es) (hend : EndsOperand (nextToken rest))
include h hfits hread hend

/-- A call is read with its arguments. -/
theorem run_restOfCall (name : List Ident) :
    (restOfCall inner name).run (bare (enclosed (listed (es.map Expr.pieces)) ++ rest)) =
    .ok (callOf name es, bare rest) := by
  have hnulls : nullTreatment.run (bare rest) = .ok (none, bare rest) := by
    have hone : (oneOf? ["RESPECT", "IGNORE"]).run (bare rest) = .ok (none, bare rest) :=
      run_oneOf?_of_not fun keyword hmem => hend.not_starts (by revert keyword; decide)
    rw [nullTreatment, run_bind_of_ok hone]
    rfl
  rw [enclosed_append, restOfCall, run_bind_of_ok (run_expectSymbol_symbol _ _),
    run_bind_of_ok (run_restOfArguments h hfits hread rest),
    run_bind_of_ok (run_acceptKeywords_of_not (hend.not_starts (by decide))), if_neg Bool.false_ne_true, pure_bind,
    run_bind_of_ok hnulls, run_bind_of_ok (run_behindKeyword_of_not (hend.not_starts (by decide)))]
  rfl

end

/-- The word of a type before a parenthesis starts no literal of the type. -/
theorem run_attempt_typedLiteral_paren {l : Lexeme} {keyword : String} (hkeyword : l.token.keyword? = some keyword)
    (hmem : keyword ∈ typeWords) (hne : keyword ≠ "INTERVAL") (ps : List Piece) :
    (attempt (typedLiteral inner)).run (l :: bare (symbol .leftParen :: ps)) =
      .ok (none, l :: bare (symbol .leftParen :: ps)) := by
  have hfails : (typedLiteral inner).run (l :: bare (symbol .leftParen :: ps)) =
      .error (.expected "a value" (some ("(", Text.Span.none.first))) := by
    rw [typedLiteral, run_bind_of_ok (run_dataType_word hkeyword hmem _)]
    split
    · next heq => exact absurd (DataType.standard.inj heq).1 hne
    · next heq => cases heq
    · rfl
  exact run_attempt_of_error hfails Fault.noConfusion

/-- A name before a parenthesis starts no literal of a type. -/
theorem run_attempt_typedLiteral_callable {name : Ident} (hname : name.Callable) (ps : List Piece) :
    (attempt (typedLiteral inner)).run (bare (.token name.token :: symbol .leftParen :: ps)) =
      .ok (none, bare (.token name.token :: symbol .leftParen :: ps)) := by
  rw [Lexeme.bare_token]
  cases hkeyword : name.token.keyword? with
  | none =>
    refine run_attempt_typedLiteral rfl (opensNoType_of_notMem fun keyword hmem => ?_)
    rw [hkeyword] at hmem
    cases hmem
  | some keyword =>
    obtain hfree | hmem | ⟨htype, hne⟩ := hname.2 keyword hkeyword
    · refine run_attempt_typedLiteral rfl (opensNoType_of_notMem fun keyword' hmem => ?_)
      cases Option.mem_unique hkeyword hmem
      exact hfree
    · exact run_attempt_typedLiteral rfl (opensNoType_clock ⟨keyword, hkeyword, hmem⟩)
    · exact run_attempt_typedLiteral_paren hkeyword htype hne ps

/-- The words for plain types open no construct, apart from intervals. -/
theorem construct?_of_mem_typeWords {keyword : String} (h : keyword ∈ typeWords) (hne : keyword ≠ "INTERVAL")
    (word : Ident)
    (next : Option Token) : construct? inner keyword word next = none := by
  have hclock : ∀ word ∈ clockWords, word ∉ typeWords := by decide
  unfold construct?
  split
  case h_22 =>
    rw [if_neg]
    intro hcontains
    exact hclock keyword (by simpa using hcontains) h
  case h_16 => exact absurd rfl hne
  all_goals exact absurd h (by decide)

/-- The words for the time of day open one. -/
theorem construct?_of_mem_clockWords {keyword : String} (h : keyword ∈ clockWords) (word : Ident)
    (next : Option Token) :
    construct? inner keyword word next = some (restOfClock inner word) := by
  simp only [clockWords, List.mem_cons, List.not_mem_nil, or_false] at h
  obtain rfl | rfl | rfl | rfl | rfl := h <;> rfl

section

variable {levels : Nat} {es : List Expr} (h : ∀ e ∈ es, e.Legible levels 0) (hfits : ∀ e ∈ es, e.FitsArgument)
  (hread : ReadAsArguments inner es) (hend : EndsOperand (nextToken rest)) {name : Ident} (hname : name.Callable)
include h hfits hread hend hname

/-- A word before a parenthesis is read as a function, whether it opens nothing, is a function of time or a type. -/
theorem run_wordOperand_call :
    (wordOperand inner name.token.keyword? (unplaced name)).run (bare (enclosed (listed (es.map Expr.pieces)) ++ rest)) =
      .ok (.call (callOf [unplaced name] es), bare rest) := by
  have hnext : nextToken (enclosed (listed (es.map Expr.pieces)) ++ rest) = some (.symbol .leftParen) := rfl
  have hcollated := run_collated (.call (callOf [unplaced name] es)) (hend.not_starts (by decide) : ¬Starts "COLLATE" rest)
  have hplain : (plainWord inner (unplaced name)).run (bare (enclosed (listed (es.map Expr.pieces)) ++ rest)) =
      .ok (.call (callOf [unplaced name] es), bare rest) := by
    rw [plainWord, run_bind_of_ok (run_peekToken? _), head?_bare, hnext]
    simp only
    rw [run_bind_of_ok (run_restOfCall h hfits hread hend [unplaced name])]
    rfl
  have hclock : (restOfClock inner (unplaced name)).run (bare (enclosed (listed (es.map Expr.pieces)) ++ rest)) =
      .ok (.call (callOf [unplaced name] es), bare rest) := by
    rw [enclosed_append, restOfClock, run_bind_of_ok (run_acceptSymbol_symbol _ _), if_pos rfl,
      run_bind_of_ok (run_restOfArguments h hfits hread rest)]
    rfl
  have hnone (hconstruct : (name.token.keyword?.bind fun keyword =>
      construct? inner keyword (unplaced name) (some (.symbol .leftParen))) = none) :
      (wordOperand inner name.token.keyword? (unplaced name)).run (bare (enclosed (listed (es.map Expr.pieces)) ++ rest)) =
        .ok (.call (callOf [unplaced name] es), bare rest) := by
    rw [wordOperand, run_bind_of_ok (run_peekToken? _), head?_bare, hnext]
    simp only [hconstruct]
    rw [run_bind_of_ok hplain, hcollated]
  cases hkeyword : name.token.keyword? with
  | none => exact hkeyword ▸ hnone (by rw [hkeyword]; rfl)
  | some keyword =>
    rw [hkeyword] at hnone
    obtain hfree | hmem | ⟨htype, hne⟩ := hname.2 keyword hkeyword
    · exact hnone (construct?_of_notMem hfree _ _)
    · rw [wordOperand, run_bind_of_ok (run_peekToken? _), head?_bare, hnext]
      simp only [Option.bind_some, construct?_of_mem_clockWords hmem]
      rw [run_bind_of_ok (run_constructOr hclock), hcollated]
    · exact hnone (construct?_of_mem_typeWords htype hne _ _)

/-- A function is an operand. -/
theorem run_bareOperand_call :
    (bareOperand inner).run (bare (.token name.token :: (enclosed (listed (es.map Expr.pieces)) ++ rest))) =
      .ok (.call (callOf [unplaced name] es), bare rest) := by
  have htype : (attempt (typedLiteral inner)).run
      (bare (.token name.token :: (enclosed (listed (es.map Expr.pieces)) ++ rest))) =
      .ok (none, bare (.token name.token :: (enclosed (listed (es.map Expr.pieces)) ++ rest))) := by
    rw [enclosed_append]
    exact run_attempt_typedLiteral_callable hname _
  rw [run_bareOperand_word name htype, run_wordOperand_call h hfits hread hend hname]

end

/-- A function of time is an operand without parentheses. -/
theorem run_bareOperand_clock {name : Ident} (hword : ∃ keyword ∈ name.token.keyword?, keyword ∈ clockWords)
    (hend : EndsOperand (nextToken rest)) :
    (bareOperand inner).run (bare (.token name.token :: rest)) =
      .ok (.call { name := [unplaced name], arguments := .absent }, bare rest) := by
  have hclock : (restOfClock inner (unplaced name)).run (bare rest) =
      .ok (.call { name := [unplaced name], arguments := .absent }, bare rest) := by
    rw [restOfClock, run_bind_of_ok (run_acceptSymbol_of_ne (hend.nextToken_ne (.inr (.inr rfl))))]
    rfl
  have htype : (attempt (typedLiteral inner)).run (bare (.token name.token :: rest)) =
      .ok (none, bare (.token name.token :: rest)) := by
    rw [Lexeme.bare_token]
    exact run_attempt_typedLiteral rfl (opensNoType_clock hword)
  obtain ⟨keyword, hkeyword, hmem⟩ := hword
  rw [run_bareOperand_word name htype, wordOperand, run_bind_of_ok (run_peekToken? _), hkeyword]
  simp only [Option.bind_some, construct?_of_mem_clockWords hmem]
  rw [run_bind_of_ok (run_constructOr hclock), run_collated _ (hend.not_starts (by decide))]

end Reader
end InsertPivot.Sql
