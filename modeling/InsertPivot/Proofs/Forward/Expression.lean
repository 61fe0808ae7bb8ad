import InsertPivot.Proofs.Forward.Literal
import InsertPivot.Sql.Reader.Operators

/-!
# Expressions go forward

The readers of windows, functions, constructs and operands, and of the operators between these, where the readers of
what stands one level deeper go forward.
-/

namespace InsertPivot.Sql.Reader

variable {inner : Nested} [inner.Forward]

/-! ## Orders and windows -/

instance : Forward ascending := by
  unfold ascending
  infer_instance

instance : Forward nullsFirst := by
  unfold nullsFirst
  infer_instance

instance : Forward (ordering inner) := by
  unfold ordering
  infer_instance

instance : Forward (orderings inner) := by
  unfold orderings
  infer_instance

instance : Forward (frameBound inner) := by
  refine forward_bind fun current => ?_
  split
  · infer_instance
  · refine forward_bind fun unbounded => ?_
    split
    · infer_instance
    · refine forward_bind fun next => ?_
      split <;> infer_instance

instance : Forward (frame inner) := by
  refine forward_bind fun units => ?_
  cases units <;> infer_instance

instance : Forward (restOfWindow inner) := by
  refine forward_bind fun next => ?_
  split
  · refine forward_bind fun base => forward_bind fun keys => forward_bind fun order => ?_
    dsimp only
    infer_instance
  · refine forward_bind fun base => forward_bind fun keys => forward_bind fun order => ?_
    dsimp only
    infer_instance

instance : Forward (functionWindow inner) := by
  unfold functionWindow
  infer_instance

instance : Forward (namedWindow inner) := by
  unfold namedWindow
  infer_instance

/-! ## Functions -/

instance (bound : List Lexeme) (names : List Ident) : Forward (starPath bound names) := by
  induction bound generalizing names with
  | nil =>
    unfold starPath
    infer_instance
  | cons l bound ih =>
    refine forward_bind fun period => ?_
    split
    · refine forward_bind fun found => ?_
      split <;> infer_instance
    · infer_instance

/-- Where no star is found, the reader goes back to where it started. -/
instance : Forward (starOr inner) := by
  refine forward_of_within fun start => within_bind fun next => ?_
  split
  · infer_instance
  · refine within_bind fun first => within_bind fun names => ?_
    cases names <;> infer_instance
  · refine within_bind fun first => within_bind fun names => ?_
    cases names <;> infer_instance
  · infer_instance

instance : Forward (argument inner) := by
  refine forward_bind fun named => ?_
  cases named <;> infer_instance

instance : Forward quantifier := by
  unfold quantifier
  infer_instance

instance : Forward (overflowFiller inner) := by
  refine forward_bind fun next => ?_
  split <;> infer_instance

instance : Forward (overflow inner) := by
  refine forward_bind fun error => ?_
  split
  · infer_instance
  · refine forward_bind fun _ => forward_bind fun filler => forward_bind fun word => ?_
    cases word <;> infer_instance

instance : Forward documentNulls := by
  unfold documentNulls
  infer_instance

instance : Forward documentClauses := by
  unfold documentClauses
  infer_instance

instance : Forward (argumentClauses inner) := by
  unfold argumentClauses
  infer_instance

instance : Forward (restOfArguments inner) := by
  unfold restOfArguments
  infer_instance

instance : Forward nullTreatment := by
  refine forward_bind fun word => ?_
  cases word <;> infer_instance

instance (name : List Ident) : Forward (restOfCall inner name) := by
  unfold restOfCall
  dsimp only
  infer_instance

/-! ## Constructs -/

instance : Forward (branch inner) := by
  unfold branch
  infer_instance

instance : Forward (restOfCase inner) := by
  unfold restOfCase
  dsimp only
  infer_instance

instance : Forward castFormat := by
  unfold castFormat
  infer_instance

instance (kind : CastKind) : Forward (restOfCast inner kind) := by
  unfold restOfCast
  infer_instance

instance : Forward (restOfConvert inner) := by
  unfold restOfConvert
  infer_instance

/-- The scale is looked at once the operand and the comma are read. -/
instance (down : Bool) : Forward (restOfRound inner down) := by
  have (operand : Expr) : Forward (do
      match ← literal with
      | (.number text long, _) => return Expr.round down operand (.digits (.number text long))
      | _ => throw (.invalid "Scale field can only be of number type" none)) := by
    refine forward_bind fun found => ?_
    split <;> infer_instance
  unfold restOfRound
  infer_instance

instance : Forward (restOfExtract inner) := by
  unfold restOfExtract
  infer_instance

instance (short : Bool) : Forward (restOfSubstring inner short) := by
  refine Forward.inParens (forward_bind fun operand => forward_bind fun commas => ?_)
  have (start : Option Expr) : Forward (do
      let length ←
        match ← behindKeyword "FOR" inner.value with
        | some length => pure (some length)
        | none => if ← acceptSymbol .comma then some <$> inner.value else pure none
      return Expr.substring ⟨commas, short⟩ operand start length) := by
    refine forward_bind fun length => ?_
    cases length <;> infer_instance
  dsimp only
  infer_instance

instance (word : Ident) : Forward (restOfPosition inner word) := by
  refine forward_bind fun found => ?_
  cases found <;> infer_instance

instance : Forward (restOfOverlay inner) := by
  unfold restOfOverlay
  infer_instance

instance : Forward trimSide := by
  unfold trimSide
  infer_instance

instance : Forward (restOfTrim inner) := by
  refine Forward.inParens (forward_bind fun side => forward_bind fun first => forward_bind fun operand => ?_)
  cases operand <;> infer_instance

instance : Forward searchMode := by
  unfold searchMode
  infer_instance

instance : Forward restOfMatch := by
  unfold restOfMatch
  infer_instance

instance (negated : Bool) : Forward (restOfExists inner negated) := by
  unfold restOfExists
  infer_instance

instance : Forward (restOfNot inner) := by
  unfold restOfNot
  infer_instance

instance (said : Bool) : Forward (restOfArray inner said) := by
  unfold restOfArray
  infer_instance

instance (word : Ident) : Forward (restOfRowArray inner word) := by
  unfold restOfRowArray
  infer_instance

instance (word : Ident) : Forward (restOfClock inner word) := by
  unfold restOfClock
  infer_instance

theorem forward_of_construct? {keyword : String} {word : Ident} {next : Option Token} {r : Reader Expr}
    (h : construct? inner keyword word next = some r) : Forward r := by
  unfold construct? at h
  split at h <;> try (cases h; infer_instance)
  next => split at h <;> cases h; infer_instance
  next => split at h <;> cases h <;> infer_instance
  next => split at h <;> cases h; infer_instance

/-! ## Operands -/

instance (word : Ident) : Forward (plainWord inner word) := by
  refine forward_bind fun next => ?_
  split <;> infer_instance

instance (reserved : Bool) {opened plain : Reader Expr} [hopened : Forward opened] [hplain : Forward plain] :
    Forward (constructOr reserved opened plain) where
  left_suffix h := by
    simp only [constructOr, StateT.run] at h
    split at h
    next found rest hfound =>
      cases h
      exact hopened.left_suffix hfound
    next =>
      split at h
      · cases h
      · split at h
        next found rest hfound =>
          cases h
          exact hplain.left_suffix hfound
        next => cases h

instance (operand : Expr) : Forward (collated operand) := by
  unfold collated
  infer_instance

instance (keyword : Option String) (word : Ident) : Forward (wordOperand inner keyword word) := by
  refine forward_bind fun next => ?_
  split
  next => infer_instance
  next opened hopened =>
    obtain ⟨keyword, -, hopened⟩ := Option.bind_eq_some_iff.mp hopened
    have := forward_of_construct? hopened
    refine forward_bind fun found => ?_
    split <;> infer_instance

instance : Forward (typedLiteral inner) := by
  refine forward_bind fun type => ?_
  split <;> infer_instance

instance : Forward (restOfParens inner) := by
  refine forward_bind fun query => ?_
  split
  · infer_instance
  · refine forward_bind fun items => ?_
    split <;> infer_instance

instance : Forward (bracedCall inner) := by
  unfold bracedCall
  infer_instance

instance : Forward bracedLiteral := by
  refine forward_bind fun found => ?_
  split <;> infer_instance

instance (opening : Lexeme) : Forward (restOfBraces inner opening) := by
  refine forward_bind fun call => ?_
  split
  · infer_instance
  · refine forward_bind fun literal => ?_
    split <;> infer_instance

instance : Forward (bareOperand inner) := by
  refine forward_bind fun found => ?_
  split
  · infer_instance
  · split
    · refine forward_bind fun typed => ?_
      cases typed <;> infer_instance
    all_goals infer_instance

instance (lower : Option Expr) : Forward (restOfSlice inner lower) := by
  unfold restOfSlice
  infer_instance

instance : Forward (subscript inner) := by
  unfold subscript
  infer_instance

instance : Forward atQualifiedStar := by
  unfold atQualifiedStar
  infer_instance

instance : Forward (restOfPeriod inner) := by
  refine forward_bind fun next => ?_
  split <;> infer_instance

instance (bound : List Lexeme) : Forward (path inner bound) := by
  induction bound with
  | nil =>
    unfold path
    infer_instance
  | cons l bound ih =>
    unfold path
    infer_instance

instance : Forward (operand inner) := by
  unfold operand
  infer_instance

/-! ## Operators -/

instance : Forward strength := by
  refine forward_bind fun next => ?_
  split
  · infer_instance
  · split <;> infer_instance
  · infer_instance

/-- A query is read from the parenthesis before it. -/
instance (tightness : Nat) : Forward (quantifiedSide inner tightness) := by
  exact forward_of_within fun start => inferInstance

instance (left : Expr) (op : BinaryOp) (tightness : Nat) (place : Text.Position) :
    Forward (rightSide inner left op tightness place) := by
  refine forward_bind fun word => ?_
  cases word <;> infer_instance

instance : Forward normalForm := by
  unfold normalForm
  infer_instance

instance (left : Expr) : Forward (normalTest left) := by
  unfold normalTest
  infer_instance

instance (left : Expr) : Forward (restOfIs inner left) := by
  unfold restOfIs
  infer_instance

instance (left : Expr) (negated : Bool) : Forward (inContent inner left negated) := by
  refine forward_bind fun query => ?_
  cases query <;> infer_instance

instance (left : Expr) (negated : Bool) : Forward (restOfIn inner left negated) := by
  unfold restOfIn
  infer_instance

instance (left : Expr) (negated : Bool) : Forward (restOfBetween inner left negated) := by
  unfold restOfBetween
  infer_instance

instance (likeness : Likeness) (left : Expr) (negated : Bool) : Forward (restOfLike inner likeness left negated) := by
  unfold restOfLike
  infer_instance

instance (left : Expr) : Forward (wordTest inner left) := by
  refine forward_bind fun negated => forward_bind fun regexp => forward_bind fun rlike => forward_bind fun null => ?_
  infer_instance

instance (left : Expr) : Forward (restOfMember inner left) := by
  unfold restOfMember
  infer_instance

instance (left : Expr) (tightness : Nat) (symbol : Symbol) (place : Text.Position) :
    Forward (symbolContinued inner left tightness symbol place) := by
  unfold symbolContinued
  split <;> infer_instance

instance (left : Expr) (tightness : Nat) : Forward (continued inner left tightness) := by
  refine forward_bind fun found => ?_
  split
  · infer_instance
  · split
    · infer_instance
    · split
      · infer_instance
      · split
        · infer_instance
        · split <;> infer_instance

instance (least : Nat) (bound : List Lexeme) (left : Expr) : Forward (climb inner least bound left) := by
  induction bound generalizing left with
  | nil =>
    unfold climb
    infer_instance
  | cons l bound ih =>
    unfold climb
    infer_instance

instance (least : Nat) : Forward (expression inner least) := by
  unfold expression
  infer_instance

end InsertPivot.Sql.Reader
