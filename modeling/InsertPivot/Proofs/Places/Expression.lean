import InsertPivot.Proofs.Places.Literal
import InsertPivot.Sql.Reader.Operators

/-!
# Expressions do not depend on places

The readers of windows, functions, constructs and operands, and of the operators between these, where the
readers of what stands one level deeper do not depend on places.
-/

namespace InsertPivot.Sql.Reader

variable {inner : Nested} [inner.Blind]

/-! ## Orders and windows -/

@[simp] theorem ascending_blind : Blind ascending := by simp [ascending]

@[simp] theorem nullsFirst_blind : Blind nullsFirst := by simp [nullsFirst]

@[simp] theorem ordering_blind : Blind (ordering inner) := by simp [ordering]

@[simp] theorem orderings_blind : Blind (orderings inner) := by simp [orderings]

/-- A bound of a frame is read alike. -/
@[simp] theorem frameBound_blind : Blind (frameBound inner) := by
  refine Alike.bind (acceptKeywords_blind _) fun current => ?_
  cases current with
  | true => simp
  | false =>
    refine Alike.bind (acceptKeyword_blind _) fun unbounded => ?_
    cases unbounded with
    | true => simp [-String.reduceAppend]
    | false =>
      refine Alike.bind peekToken?_blind fun next => ?_
      simp only [unplaced_eq]
      split <;> simp [-String.reduceAppend]

@[simp] theorem frame_blind : Blind (frame inner) := by
  refine Alike.bind (by simp) fun found => ?_
  cases found <;> simp

@[simp] theorem restOfWindow_blind : Blind (restOfWindow inner) := by
  simp [restOfWindow]

@[simp] theorem functionWindow_blind : Blind (functionWindow inner) := by simp [functionWindow]

@[simp] theorem namedWindow_blind : Blind (namedWindow inner) := by simp [namedWindow]

/-! ## Functions -/

/-- The names before a star are read alike, whatever was read before them. -/
@[simp] theorem starPath_alike (bound : List Lexeme) (names : List Ident) :
    Alike (starPath (unplaced bound) (unplaced names)) (starPath bound names) := by
  induction bound generalizing names with
  | nil => simp [starPath]
  | cons _ bound ih =>
    refine Alike.bind (acceptSymbol_blind _) fun period => ?_
    cases period with
    | false => simp
    | true =>
      refine Alike.bind next?_blind fun found => ?_
      have hnext (name : Ident) :
          Alike (starPath (unplaced bound) (unplaced names ++ [unplaced name])) (starPath bound (names ++ [name])) := by
        rw [← unplaced_nil, ← unplaced_cons, ← unplaced_append]
        exact ih (names ++ [name])
      obtain _ | ⟨⟨v, q⟩ | _ | ⟨_ | _, body⟩ | _ | symbol | _, span, _⟩ := found
      case cons.true.some.word => exact hnext ⟨v, q, span⟩
      case cons.true.some.string.single => exact hnext ⟨body, some '\x27', .none⟩
      case cons.true.some.symbol => cases symbol <;> simp
      all_goals simp

/-- A star or a value is read alike. -/
@[simp] theorem starOr_blind : Blind (starOr inner) := by
  refine Alike.bind get_blind fun start => Alike.bind peekToken?_blind fun next => ?_
  have hpath (first : Ident) := starPath_alike start [first]
  simp only [unplaced_eq]
  split
  case h_2 | h_3 =>
    refine Alike.bind ident_blind fun first => Alike.bind (hpath first) fun names => ?_
    cases names <;> simp
  all_goals simp

@[simp] theorem argument_blind : Blind (argument inner) := by
  refine Alike.bind (by simp) fun named => ?_
  cases named <;> simp

@[simp] theorem quantifier_blind : Blind quantifier := by
  simp [quantifier]

@[simp] theorem overflowFiller_blind : Blind (overflowFiller inner) := by
  refine Alike.bind (by simp) fun next => ?_
  obtain _ | ⟨_ | _ | ⟨_ | _⟩ | _, _, _⟩ := next <;> simp

@[simp] theorem overflow_blind : Blind (overflow inner) := by
  refine Alike.bind (by simp) fun error => ?_
  cases error with
  | true => simp
  | false =>
    refine Alike.bind (by simp) fun _ => Alike.bind (by simp) fun filler =>
      Alike.bind (by simp) fun word => ?_
    cases word <;> simp

@[simp] theorem documentNulls_blind : Blind documentNulls := by simp [documentNulls]

@[simp] theorem documentClauses_blind : Blind documentClauses := by
  simp [documentClauses]

@[simp] theorem argumentClauses_blind : Blind (argumentClauses inner) := by
  simp [argumentClauses]

@[simp] theorem restOfArguments_blind : Blind (restOfArguments inner) := by
  simp [restOfArguments]

@[simp] theorem nullTreatment_blind : Blind nullTreatment := by
  refine Alike.bind (by simp) fun word => ?_
  cases word <;> simp

/-- The arguments of a function are read alike, whatever the places in its name. -/
@[simp] theorem restOfCall_alike (name : List Ident) :
    Alike (restOfCall inner (unplaced name)) (restOfCall inner name) := by
  simp [restOfCall]

@[simp] theorem restOfCall_one_alike (name : Ident) :
    Alike (restOfCall inner [unplaced name]) (restOfCall inner [name]) :=
  restOfCall_alike [name]

/-! ## Constructs -/

@[simp] theorem branch_blind : Blind (branch inner) := by simp [branch]

@[simp] theorem restOfCase_blind : Blind (restOfCase inner) := by simp [restOfCase]

@[simp] theorem castFormat_blind : Blind castFormat := by simp [castFormat]

@[simp] theorem restOfCast_blind (kind : CastKind) : Blind (restOfCast inner kind) := by simp [restOfCast]

@[simp] theorem restOfConvert_blind : Blind (restOfConvert inner) := by simp [restOfConvert]

@[simp] theorem restOfRound_blind (down : Bool) : Blind (restOfRound inner down) := by
  refine Alike.inParens ?_
  refine Alike.bind (by simp) fun operand => Alike.bind (by simp) fun unit => ?_
  cases unit with
  | true => simp
  | false =>
    refine Alike.bind (by simp) fun comma => ?_
    cases comma with
    | false => simp
    | true =>
      refine Alike.bind (by simp) fun ⟨scale, _⟩ => ?_
      cases scale <;> simp

@[simp] theorem restOfExtract_blind : Blind (restOfExtract inner) := by
  exact Alike.inParens fun ls => by simp

@[simp] theorem restOfSubstring_blind (short : Bool) : Blind (restOfSubstring inner short) := by
  refine Alike.inParens (Alike.bind inner.value_blind fun operand => Alike.bind (acceptSymbol_blind _) fun commas => ?_)
  cases commas <;> refine Alike.bind (by simp) fun start => Alike.bind (by simp) fun length => ?_ <;>
    cases length <;> simp

@[simp] theorem restOfPosition_alike (word : Ident) :
    Alike (restOfPosition inner (unplaced word)) (restOfPosition inner word) := by
  refine Alike.bind (by simp) fun found => ?_
  cases found <;> simp

@[simp] theorem restOfOverlay_blind : Blind (restOfOverlay inner) := by simp [restOfOverlay]

@[simp] theorem trimSide_blind : Blind trimSide := by simp [trimSide]

@[simp] theorem restOfTrim_blind : Blind (restOfTrim inner) := by
  refine Alike.inParens ?_
  refine Alike.bind (by simp) fun side => Alike.bind (by simp) fun first =>
    Alike.bind (by simp) fun operand => ?_
  cases operand <;> simp

@[simp] theorem searchMode_blind : Blind searchMode := by simp [searchMode]

@[simp] theorem restOfMatch_blind : Blind restOfMatch := by simp [restOfMatch, inParens]

@[simp] theorem restOfExists_blind (negated : Bool) : Blind (restOfExists inner negated) := by
  simp [restOfExists]

@[simp] theorem restOfNot_blind : Blind (restOfNot inner) := by simp [restOfNot]

@[simp] theorem restOfArray_blind (said : Bool) : Blind (restOfArray inner said) := by simp [restOfArray]

@[simp] theorem restOfRowArray_alike (word : Ident) :
    Alike (restOfRowArray inner (unplaced word)) (restOfRowArray inner word) := by
  simp [restOfRowArray]

@[simp] theorem restOfClock_alike (word : Ident) :
    Alike (restOfClock inner (unplaced word)) (restOfClock inner word) := by
  simp [restOfClock]

/-- What a construct is read by, compared with what it is read by where its word has no place. -/
theorem construct?_alike (keyword : String) (word : Ident) (next : Option Token) :
    match construct? inner keyword (unplaced word) next, construct? inner keyword word next with
    | some opened', some opened => Alike opened' opened
    | none, none => True
    | _, _ => False := by
  fun_cases construct? inner keyword word next <;> simp_all [construct?]

/-! ## Operands -/

@[simp] theorem plainWord_alike (word : Ident) : Alike (plainWord inner (unplaced word)) (plainWord inner word) := by
  refine Alike.bind peekToken?_blind fun next => ?_
  simp only [unplaced_eq]
  split <;> simp

theorem Alike.constructOr {opened' opened plain' plain : Reader Expr} (reserved : Bool)
    (hopened : Alike opened' opened) (hplain : Alike plain' plain) :
    Alike (Reader.constructOr reserved opened' plain') (Reader.constructOr reserved opened plain) := by
  intro ls
  have ho := hopened ls
  have hp := hplain ls
  simp only [Reader.constructOr, StateT.run] at ho hp ⊢
  rw [ho, hp]
  match opened ls with
  | .ok _ => rfl
  | .error fault =>
    cases reserved with
    | true => rfl
    | false =>
      match plain ls with
      | .ok _ => rfl
      | .error _ => rfl

@[simp] theorem collated_alike (operand : Expr) : Alike (collated operand.unplaced) (collated operand) := by
  simp [collated]

@[simp] theorem collated_unary_alike (op : UnaryOp) (operand : Expr) :
    Alike (collated (.unary op operand.unplaced)) (collated (.unary op operand)) :=
  collated_alike (.unary op operand)

/-- What a word starts is read alike: a construct, a call or a name. -/
@[simp] theorem wordOperand_alike (keyword : Option String) (word : Ident) :
    Alike (wordOperand inner keyword (unplaced word)) (wordOperand inner keyword word) := by
  refine Alike.bind peekToken?_blind fun next => ?_
  cases keyword with
  | none => simp
  | some keyword =>
    have h := @construct?_alike inner _ keyword word next
    simp only [unplaced_eq, Option.bind_some]
    revert h
    match construct? inner keyword (unplaced word) next, construct? inner keyword word next with
    | none, some _ => nofun
    | some _, none => nofun
    | none, none => simp
    | some opened', some opened =>
      intro h
      refine Alike.bind (h.constructOr (isReserved keyword) (plainWord_alike word)) fun ⟨found, opened⟩ => ?_
      cases opened <;> simp

@[simp] theorem typedLiteral_blind : Blind (typedLiteral inner) := by
  refine Alike.bind (by simp) fun type => ?_
  cases type with
  | standard word size suffix => by_cases h : word = "INTERVAL" <;> simp [h]
  | _ => simp

/-! ## Parentheses, brackets and braces -/

@[simp] theorem restOfParens_blind : Blind (restOfParens inner) := by
  refine Alike.bind (by simp) fun query => ?_
  cases query with
  | true => simp
  | false =>
    refine Alike.bind (by simp) fun items => ?_
    obtain _ | ⟨_, _ | _⟩ := items <;> simp

@[simp] theorem bracedCall_blind : Blind (bracedCall inner) := by
  refine Alike.bind (by simp) fun _ => Alike.bind (by simp) fun name => Alike.bind (by simp) fun call => ?_
  cases call
  simp

@[simp] theorem bracedLiteral_blind : Blind bracedLiteral := by
  refine Alike.bind next?_blind fun found => ?_
  cases found with
  | none => simp
  | some l =>
    simp only [unplaced_some, Option.bind_some, token_unplaced]
    cases bracedType l.token with
    | some name => simp
    | none => exact expectedAt_alike _ (some l)

@[simp] theorem restOfBraces_alike (opening : Lexeme) :
    Alike (restOfBraces inner (unplaced opening)) (restOfBraces inner opening) := by
  refine Alike.bind (by simp) fun call => ?_
  cases call with
  | some call => simp
  | none =>
    refine Alike.bind (by simp) fun found => ?_
    cases found <;> simp

/-! ## Operands -/

@[simp] theorem bareOperand_blind : Blind (bareOperand inner) := by
  refine Alike.bind peek?_blind fun found => ?_
  cases found with
  | none => simp
  | some found =>
    simp only [unplaced_some, token_unplaced]
    split
    case h_1 =>
      refine Alike.bind (attempt_blind typedLiteral_blind) fun typed => ?_
      cases typed with
      | some typed => simp
      | none => exact Alike.bind skip_blind fun _ => wordOperand_alike _ ⟨_, _, found.span⟩
    case h_8 | h_9 | h_10 | h_11 | h_12 =>
      exact Alike.bind literal_blind fun ⟨value, span⟩ => collated_alike (.literal value span)
    all_goals simp

/-! ## Periods and brackets -/

@[simp] theorem restOfSlice_none_blind : Blind (restOfSlice inner none) := by simp [restOfSlice]

@[simp] theorem restOfSlice_some_alike (lower : Expr) :
    Alike (restOfSlice inner (some lower.unplaced)) (restOfSlice inner (some lower)) := by
  simp [restOfSlice]

@[simp] theorem subscript_blind : Blind (subscript inner) := by simp [subscript]

@[simp] theorem pathOf_unplaced (e : Expr) : pathOf e.unplaced = unplaced (pathOf e) := by
  cases e <;> simp [pathOf]

@[simp] theorem atQualifiedStar_blind : Blind atQualifiedStar := by simp [atQualifiedStar]

@[simp] theorem restOfPeriod_blind : Blind (restOfPeriod inner) := by
  refine Alike.bind (by simp) fun found => ?_
  obtain _ | ⟨_ | _ | ⟨_ | _⟩ | _, _, _⟩ := found <;> simp

/-- What stands behind periods and in brackets is read alike. -/
@[simp] theorem path_alike (bound : List Lexeme) : Alike (path inner (unplaced bound)) (path inner bound) := by
  induction bound with
  | nil => simp [path]
  | cons _ bound ih => simp [path, ih]

@[simp] theorem names?_unplaced (steps : List Access) : names? (unplaced steps) = unplaced (names? steps) := by
  induction steps with
  | nil => rfl
  | cons step rest ih =>
    cases step with
    | dot e => cases e <;> simp [names?, ih]
    | _ => simp [names?]

@[simp] theorem joined_unplaced (root : Expr) (steps : List Access) :
    joined root.unplaced (unplaced steps) = (joined root steps).unplaced := by
  cases steps with
  | nil => simp [joined]
  | cons first rest =>
    simp only [unplaced_cons, joined]
    rw [← unplaced_cons, names?_unplaced, getLast?_unplaced, dropLast_unplaced, names?_unplaced]
    generalize names? (first :: rest) = names, (first :: rest).getLast? = last,
      names? (first :: rest).dropLast = qualifier
    cases root with
    | column name =>
      obtain _ | names := names
      · obtain _ | ⟨e⟩ := last
        · simp
        · cases qualifier with
          | none => simp
          | some _ =>
            cases e with
            | dot e =>
              cases e with
              | call function => cases function; simp
              | _ => simp
            | _ => simp
      · simp
    | _ => simp

/-- Operands are read alike. -/
@[simp] theorem operand_blind : Blind (operand inner) := by simp [operand]

/-! ## Operators -/

@[simp] theorem strength_blind : Blind strength := by
  refine Alike.bind (by simp) fun next => ?_
  cases next with
  | none => simp
  | some token =>
    simp
    split
    case h_1 => simp
    case h_2 token _ _ => cases token.keyword? <;> simp
    case h_3 => simp

@[simp] theorem quantifiedSide_blind (tightness : Nat) : Blind (quantifiedSide inner tightness) := by
  simp [quantifiedSide]

theorem rightSide_alike (left : Expr) (op : BinaryOp) (tightness : Nat) (place : Text.Position) :
    Alike (rightSide inner left.unplaced op tightness ⟨0, 0⟩) (rightSide inner left op tightness place) := by
  refine Alike.bind (by simp) fun word => ?_
  cases word <;> simp [-String.reduceAppend]

/-! ## Tests -/

@[simp] theorem normalForm_blind : Blind normalForm := by simp [normalForm]

@[simp] theorem normalTest_alike (left : Expr) : Alike (normalTest left.unplaced) (normalTest left) := by
  simp [normalTest]

@[simp] theorem restOfIs_alike (left : Expr) : Alike (restOfIs inner left.unplaced) (restOfIs inner left) := by
  simp [restOfIs]

@[simp] theorem inContent_alike (left : Expr) (negated : Bool) :
    Alike (inContent inner left.unplaced negated) (inContent inner left negated) := by
  refine Alike.bind (by simp) fun found => ?_
  cases found <;> simp

@[simp] theorem restOfIn_alike (left : Expr) (negated : Bool) :
    Alike (restOfIn inner left.unplaced negated) (restOfIn inner left negated) := by
  simp [restOfIn, (@inContent_alike inner _ left negated).inParens]

@[simp] theorem restOfBetween_alike (left : Expr) (negated : Bool) :
    Alike (restOfBetween inner left.unplaced negated) (restOfBetween inner left negated) := by
  simp [restOfBetween]

@[simp] theorem restOfLike_alike (likeness : Likeness) (left : Expr) (negated : Bool) :
    Alike (restOfLike inner likeness left.unplaced negated) (restOfLike inner likeness left negated) := by
  simp [restOfLike]

@[simp] theorem wordTest_alike (left : Expr) : Alike (wordTest inner left.unplaced) (wordTest inner left) := by
  simp [wordTest]

@[simp] theorem restOfMember_alike (left : Expr) :
    Alike (restOfMember inner left.unplaced) (restOfMember inner left) := by
  simp [restOfMember]

/-! ## Expressions -/

theorem symbolContinued_alike (left : Expr) (tightness : Nat) (symbol : Symbol) (place : Text.Position) :
    Alike (symbolContinued inner left.unplaced tightness symbol ⟨0, 0⟩)
      (symbolContinued inner left tightness symbol place) := by
  simp only [symbolContinued]
  cases symbolOp? symbol with
  | some op => exact rightSide_alike left op tightness place
  | none => simp

/-- What an operator or a test makes of its left side is read alike. -/
@[simp] theorem continued_alike (left : Expr) (tightness : Nat) :
    Alike (continued inner left.unplaced tightness) (continued inner left tightness) := by
  refine Alike.bind peek?_blind fun next => ?_
  cases next with
  | none => simp
  | some found =>
    simp only [unplaced_some, token_unplaced]
    split
    · exact Alike.bind skip_blind fun _ => symbolContinued_alike left tightness _ _
    · cases found.token.keyword? with
      | none => simp
      | some keyword =>
        simp only
        split
        · exact Alike.bind skip_blind fun _ => rightSide_alike left _ tightness _
        · split <;> simp [-String.reduceAppend]

/-- Climbing goes on alike, whatever the places in what was read so far. -/
@[simp] theorem climb_alike (least : Nat) (bound : List Lexeme) (left : Expr) :
    Alike (climb inner least (unplaced bound) left.unplaced) (climb inner least bound left) := by
  induction bound generalizing left with
  | nil => simp [climb]
  | cons _ bound ih => simp [climb, ih]

@[simp] theorem expression_blind (least : Nat) : Blind (expression inner least) := by simp [expression]

end InsertPivot.Sql.Reader
