import InsertPivot.Proofs.Rereading

/-!
# Operands of one token

A literal, or a name that is no keyword, is one token. It is read as the operand that it is, whatever stands
behind it, unless that belongs to the operand too: a period, a bracket, a collation or another string.

A word may open a literal of a type, a construct or a name, and is tried as each in this order. So there is a
lemma for each of them, and the other two are excluded by what the word is not.
-/

namespace InsertPivot.Sql

/-- The token as which a literal is written. -/
def Literal.token : Literal → Token
  | .null => .word "NULL" none
  | .boolean value => .word (if value then "true" else "false") none
  | .number text long => .number text long
  | .single body => .string .single body
  | .double body => .string .double body
  | .hex digits => .string .hex digits
  | .bits body => .string .bits body
  | .bitsDouble body => .string .bitsDouble body
  | .national body => .string .national body
  | .placeholder text => .placeholder text

namespace Reader

open Lexeme (Piece bare symbol space)

variable {inner : Nested} {rest : List Piece}

/-! ## What ends an operand -/

/-- The words that belong to an operand before them: they say how its texts are compared or escaped, over which rows
it goes, what becomes of its nulls, or where its unit ends. -/
def operandClauses : List String :=
  ["COLLATE", "ESCAPE", "WITHIN", "RESPECT", "IGNORE", "OVER", "TO"]

/-- Whether a token, or the end of a text, belongs to no operand before it. -/
def EndsOperand : Option Token → Prop
  | none => True
  | some (.symbol s) => s ≠ .period ∧ s ≠ .leftBracket ∧ s ≠ .leftParen
  | some (.word text quote) => ∀ keyword ∈ (Token.word text quote).keyword?, keyword ∉ operandClauses
  | some _ => False

/-- Whether an expression that takes operators which bind tighter than `least` ends here. -/
def Stops (least : Nat) (rest : List Piece) : Prop :=
  EndsOperand (nextToken rest) ∧ ∃ tightness ≤ least, strength.run (bare rest) = .ok (tightness, bare rest)

/-- A word behind which no clause of an operand starts ends an operand. -/
theorem endsOperand_word {text : String} (h : fold text ∉ operandClauses) : EndsOperand (some (.word text none)) := by
  rintro keyword ⟨⟩
  exact h

/-- What ends an operand is none of the symbols that continue one. -/
theorem EndsOperand.nextToken_ne {s : Symbol} (h : EndsOperand (nextToken rest))
    (hs : s = .period ∨ s = .leftBracket ∨ s = .leftParen) : nextToken rest ≠ some (.symbol s) := by
  intro hnext
  rw [hnext] at h
  obtain ⟨hperiod, hbracket, hparen⟩ := h
  obtain rfl | rfl | rfl := hs
  · exact hperiod rfl
  · exact hbracket rfl
  · exact hparen rfl

/-- What ends an operand is no string, so it does not go on in one. -/
theorem EndsOperand.not_string {kind : StringKind} {body : String} (h : EndsOperand (nextToken rest)) :
    nextToken rest ≠ some (.string kind body) := by
  intro hnext
  rw [hnext] at h
  exact h

/-- What ends an operand starts none of the clauses of one. -/
theorem EndsOperand.not_starts {keyword : String} (h : EndsOperand (nextToken rest)) (hmem : keyword ∈ operandClauses) :
    ¬Starts keyword rest := by
  intro hstarts
  unfold Starts at hstarts
  cases hnext : nextToken rest with
  | none =>
    rw [hnext] at hstarts
    cases hstarts
  | some t =>
    rw [hnext] at h hstarts
    cases t with
    | word text quote => exact h keyword hstarts hmem
    | _ => cases hstarts

/-- Whether a name ends here. Behind it may stand a period too. -/
def EndsName (t : Option Token) : Prop :=
  t = some (.symbol .period) ∨ EndsOperand t

/-- Behind what ends a name no arguments stand. -/
theorem EndsName.not_paren (h : EndsName (nextToken rest)) : nextToken rest ≠ some (.symbol .leftParen) := by
  obtain h | h := h
  · simp [h]
  · exact h.nextToken_ne (.inr (.inr rfl))

/-- Behind what ends a name no string stands, so the name introduces none. -/
theorem EndsName.not_string {kind : StringKind} {body : String} (h : EndsName (nextToken rest)) :
    nextToken rest ≠ some (.string kind body) := by
  obtain h | h := h
  · simp [h]
  · exact h.not_string

/-- Behind what ends a name no collation stands. -/
theorem EndsName.not_collate (h : EndsName (nextToken rest)) : ¬Starts "COLLATE" rest := by
  obtain h | h := h
  · simp [Starts, h, Token.keyword?]
  · exact h.not_starts (by decide)

/-- What ends a value ends an operand. -/
theorem EndsValue.endsOperand {t : Option Token} (h : EndsValue t) : EndsOperand t := by
  cases t with
  | none => trivial
  | some t =>
    cases t with
    | symbol s =>
      obtain rfl | rfl | rfl := h <;> exact ⟨by decide, by decide, by decide⟩
    | word text quote =>
      have hkeyword : (Token.word text quote).keyword? = some "ON" := h
      rw [EndsOperand, hkeyword]
      rintro keyword ⟨⟩
      decide
    | _ => cases h

/-- How strong a symbol binds does not depend on what stands behind it. -/
theorem run_strength_symbol {s : Symbol} (h : nextToken rest = some (.symbol s)) :
    strength.run (bare rest) = .ok (symbolStrength s, bare rest) := by
  rw [strength, run_bind_of_ok (run_peekToken? _), head?_bare, h]
  rfl

/-- At the end of the text nothing binds. -/
theorem run_strength_none (h : nextToken rest = none) : strength.run (bare rest) = .ok (0, bare rest) := by
  rw [strength, run_bind_of_ok (run_peekToken? _), head?_bare, h]
  rfl

/-- How strong a keyword binds is told by itself and the next two. -/
theorem run_strength_word {text : String} {quote : Option Char} {keyword : String}
    (h : nextToken rest = some (.word text quote)) (hkeyword : (Token.word text quote).keyword? = some keyword) :
    strength.run (bare rest) =
      .ok (keywordStrength keyword ((bare rest)[1]?.bind (·.token.keyword?)) ((bare rest)[2]?.bind (·.token.keyword?)),
        bare rest) := by
  rw [strength, run_bind_of_ok (run_peekToken? _), head?_bare, h]
  simp only [hkeyword]
  rfl

/-- What ends a value ends every expression. -/
theorem stops_of_endsValue (h : EndsValue (nextToken rest)) (least : Nat) : Stops least rest := by
  refine ⟨h.endsOperand, 0, Nat.zero_le _, ?_⟩
  cases hnext : nextToken rest with
  | none => exact run_strength_none hnext
  | some t =>
    rw [hnext] at h
    cases t with
    | symbol s => obtain rfl | rfl | rfl := h <;> exact run_strength_symbol hnext
    | word text quote => rw [run_strength_word hnext h]; rfl
    | _ => cases h

/-! ## Operands alone -/

/-- Without the word for it no collation is read. -/
theorem run_collated (operand : Expr) (h : ¬Starts "COLLATE" rest) :
    (collated operand).run (bare rest) = .ok (operand, bare rest) := by
  rw [collated, run_bind_of_ok (run_acceptKeyword_of_not h)]
  rfl

/-- Where an operand ends, its path ends. -/
theorem run_path_end (h : EndsOperand (nextToken rest)) (bound : List Lexeme) :
    (path inner bound).run (bare rest) = .ok ([], bare rest) := by
  cases bound with
  | nil => rfl
  | cons _ bound =>
    have hstar : atQualifiedStar.run (bare rest) = .ok (false, bare rest) := by
      have hperiod : (bare rest).head?.map Lexeme.token ≠ some (.symbol .period) := by
        rw [head?_bare]
        exact h.nextToken_ne (.inl rfl)
      have hnot : decide (((bare rest).take 2).map Lexeme.token = [.symbol .period, .symbol .times]) = false := by
        refine decide_eq_false fun heq => hperiod ?_
        cases hls : bare rest with
        | nil => rw [hls] at heq; cases heq
        | cons l ls =>
          rw [hls] at heq
          exact congrArg List.head? heq
      rw [atQualifiedStar, run_bind_of_ok (run_get _), hnot]
      rfl
    rw [path, run_bind_of_ok hstar, if_neg Bool.false_ne_true,
      run_bind_of_ok (run_acceptSymbol_of_ne (h.nextToken_ne (.inl rfl))), if_neg Bool.false_ne_true,
      run_bind_of_ok (run_acceptSymbol_of_ne (h.nextToken_ne (.inr (.inl rfl)))), if_neg Bool.false_ne_true]
    rfl

/-- Where nothing binds strongly enough, an expression ends. -/
theorem run_climb_end {least : Nat} (h : Stops least rest) (bound : List Lexeme) (left : Expr) :
    (climb inner least bound left).run (bare rest) = .ok (left, bare rest) := by
  cases bound with
  | nil => rfl
  | cons _ bound =>
    obtain ⟨-, tightness, hle, hrun⟩ := h
    rw [climb, run_bind_of_ok hrun, if_pos hle]
    rfl

/-- An operand ends where no period or bracket stands behind it. -/
theorem run_operand_of_bare {ls : List Lexeme} {value : Expr}
    (hroot : (bareOperand inner).run ls = .ok (value, bare rest))
    (h : EndsOperand (nextToken rest)) : (operand inner).run ls = .ok (value, bare rest) := by
  rw [operand, run_bind_of_ok hroot, run_bind_of_ok (run_get _), run_bind_of_ok (run_path_end h _)]
  rfl

/-- An expression goes on behind an operand with its operators. -/
theorem run_expression_of_operand {least : Nat} {ls : List Lexeme} {value : Expr}
    (h : (operand inner).run ls = .ok (value, bare rest)) :
    (expression inner least).run ls = (climb inner least (bare rest) value).run (bare rest) := by
  rw [expression, run_bind_of_ok h, run_bind_of_ok (run_get _)]

/-! ## Words without a meaning -/

/-- The words that may open a type, a construct or a query, or may stand before an operand or a table, in
alphabetical order. -/
def openingWords : List String :=
  ["ALL", "ANY", "ARRAY", "BIGDECIMAL", "BIGINT", "BIGNUMERIC", "BINARY", "BIT", "BLOB", "BOOL",
    "BOOLEAN", "BYTEA", "BYTES", "CASE", "CAST", "CEIL", "CHAR", "CHARACTER", "CLOB", "CONVERT", "CURRENT_DATE",
    "CURRENT_TIME", "CURRENT_TIMESTAMP", "DATE", "DATE32", "DATETIME", "DATETIME64", "DEC", "DECIMAL",
    "DIRECTORY", "DOUBLE", "ENUM", "ENUM16", "ENUM8", "EXISTS", "EXTRACT", "FALSE", "FIXEDSTRING", "FLOAT",
    "FLOAT32", "FLOAT4", "FLOAT64", "FLOAT8", "FLOOR", "HUGEINT", "INT", "INT128", "INT16", "INT2",
    "INT256", "INT32", "INT4", "INT64", "INT8", "INTEGER", "INTERVAL", "JSON", "JSONB", "LOCAL",
    "LOCALTIME", "LOCALTIMESTAMP", "LONGBLOB", "LONGTEXT", "MATCH", "MEDIUMBLOB", "MEDIUMINT",
    "MEDIUMTEXT", "NOT", "NULL", "NUMERIC", "NVARCHAR", "OVERLAY", "POSITION", "REAL", "REGCLASS",
    "SAFE_CAST", "SELECT", "SET", "SIGNED", "SMALLINT", "SOME", "STRING", "SUBSTR", "SUBSTRING", "TABLE", "TEXT",
    "TIME", "TIMESTAMP", "TIMESTAMPTZ", "TIMESTAMP_NTZ", "TIMETZ", "TINYBLOB", "TINYINT", "TINYTEXT",
    "TRIGGER", "TRIM", "TRUE", "TRY_CAST", "UBIGINT", "UHUGEINT", "UINT128", "UINT16", "UINT256", "UINT32",
    "UINT64", "UINT8", "UNSIGNED", "USMALLINT", "UTINYINT", "UUID", "VARBINARY", "VARBIT", "VARCHAR",
    "WITH"]

/-- The words that can open an operand are some of the vocabulary, in its order. -/
theorem openingWords_sublist : openingWords.Sublist Keyword.vocabulary := by
  decide +kernel

/-- The types that are one word with nothing behind it. -/
def typeWords : List String :=
  (typeShapes.lookup .plain).getD []

/-- The words with a meaning that an operand may start with: those of literals and constructs, the functions of time,
and types, which may be called like functions. -/
def operandWords : List String :=
  ["NULL", "TRUE", "FALSE", "NOT", "CASE"] ++ clockWords ++ typeWords

/-- A word without a meaning opens no type. -/
theorem keywordType?_of_notMem {keyword : String} (h : keyword ∉ openingWords) : keywordType? keyword = none := by
  have hmixed : ∀ entry ∈ mixedNames, entry.1 ∈ openingWords := by decide
  have hshapes : ∀ shape ∈ typeShapes, ∀ word ∈ shape.2, word ∈ openingWords := by decide +kernel
  unfold keywordType?
  split
  case h_10 =>
    have hlookup : mixedNames.lookup keyword = none := by
      refine List.lookup_eq_none_iff.mpr fun entry hmem => ?_
      simp only [bne_iff_ne, ne_eq]
      rintro rfl
      exact h (hmixed entry hmem)
    have hfind : typeShapes.find? (·.2.contains keyword) = none := by
      refine List.find?_eq_none.mpr fun shape hmem hcontains => ?_
      exact h (hshapes shape hmem keyword (by simpa using hcontains))
    simp only [hlookup, hfind, Option.map_none]
  all_goals exact absurd (by decide) h

/-- Each of the words for plain types opens the type of its name. -/
theorem keywordType?_of_mem {keyword : String} (h : keyword ∈ typeWords) :
    keywordType? keyword = some (return .standard keyword) := by
  have hmixed : ∀ word ∈ typeWords, mixedNames.lookup word = none := by decide
  have hshape : ∀ word ∈ typeWords, (typeShapes.find? (·.2.contains word)).map Prod.fst = some .plain := by decide
  unfold keywordType?
  split
  case h_10 =>
    obtain ⟨shape, hfind, hplain⟩ := Option.map_eq_some_iff.mp (hshape _ h)
    simp only [hmixed _ h, hfind, Option.map_some, hplain]
    rfl
  all_goals exact absurd h (by decide)

/-- A word without a meaning opens no construct. -/
theorem construct?_of_notMem {keyword : String} (h : keyword ∉ openingWords) (word : Ident) (next : Option Token) :
    construct? inner keyword word next = none := by
  have hclock : ∀ word ∈ clockWords, word ∈ openingWords := by decide
  unfold construct?
  split
  case h_22 =>
    rw [if_neg]
    intro hcontains
    exact h (hclock keyword (by simpa using hcontains))
  all_goals exact absurd (by decide) h

/-! ### Types that are not of the language -/

/-- Whether a reader never fails for want of depth. -/
def Shallow {α : Type} (r : Reader α) : Prop :=
  ∀ ls, r.run ls ≠ .error .tooDeep

/-- A reader behind another one gives up for depth only if one of the two does. -/
theorem Shallow.bind {α β : Type} {r : Reader α} {f : α → Reader β} (hr : Shallow r) (hf : ∀ a, Shallow (f a)) :
    Shallow (r >>= f) := by
  intro ls h
  cases hrun : r.run ls with
  | error fault =>
    rw [StateT.run_bind, hrun, except_error_bind] at h
    cases h
    exact hr ls hrun
  | ok found =>
    rw [run_bind_of_ok hrun] at h
    exact hf found.1 found.2 h

theorem shallow_pure {α : Type} (a : α) : Shallow (pure a : Reader α) := by
  intro ls h
  cases h

theorem shallow_get : Shallow (get : Reader (List Lexeme)) := by
  intro ls h
  cases h

theorem shallow_skip : Shallow skip := by
  intro ls h
  cases h

theorem shallow_peek? : Shallow peek? := by
  intro ls h
  cases h

theorem shallow_next? : Shallow next? := by
  intro ls h
  cases h

theorem shallow_expectedAt {α : Type} (what : String) (found : Option Lexeme) :
    Shallow (expectedAt what found : Reader α) := by
  intro ls h
  cases h

theorem shallow_expected {α : Type} (what : String) : Shallow (expected what : Reader α) := by
  intro ls h
  cases h

/-- A symbol that may stand is no reason to give up for depth. -/
theorem shallow_acceptSymbol (s : Symbol) : Shallow (acceptSymbol s) := by
  intro ls h
  rw [run_acceptSymbol] at h
  split at h <;> cases h

/-- Names are not nested. -/
theorem shallow_ident : Shallow ident := by
  refine shallow_peek?.bind fun found => ?_
  split
  · exact shallow_skip.bind fun _ => shallow_pure _
  · exact shallow_skip.bind fun _ => shallow_pure _
  · exact shallow_skip.bind fun _ => shallow_pure _
  · exact shallow_expected _

/-- Names with periods are not nested. -/
theorem shallow_dottedSteps (bound : List Lexeme) : Shallow (dottedSteps bound) := by
  induction bound with
  | nil => exact shallow_ident.bind fun _ => shallow_pure _
  | cons _ bound ih =>
    refine shallow_ident.bind fun first => (shallow_acceptSymbol _).bind fun more => ?_
    cases more with
    | true => exact ih.bind fun _ => shallow_pure _
    | false => exact shallow_pure _

/-- What stands in the parentheses of a type that is not of the language is not nested. -/
theorem shallow_modifiers (bound : List Lexeme) : Shallow (modifiers bound) := by
  induction bound with
  | nil => exact shallow_expected _
  | cons _ bound ih =>
    refine shallow_next?.bind fun found => ?_
    split
    · exact ih.bind fun _ => shallow_pure _
    · exact ih.bind fun _ => shallow_pure _
    · exact ih.bind fun _ => shallow_pure _
    · exact ih
    · exact shallow_pure _
    · exact shallow_expectedAt _ _

/-- Behind a name that is no type of the language stands no literal of a type. -/
theorem shallow_customType : Shallow customType := by
  refine (shallow_get.bind fun ls => shallow_dottedSteps ls).bind fun name => ?_
  refine (shallow_acceptSymbol _).bind fun more => ?_
  cases more with
  | true => exact shallow_get.bind fun ls => (shallow_modifiers ls).bind fun _ => shallow_pure _
  | false => exact shallow_pure _

/-- Whether a word opens no type. -/
def OpensNoType (t : Token) : Prop :=
  ∀ keyword ∈ t.keyword?, keyword ≠ "ARRAY" ∧ keyword ≠ "ANY" ∧ keyword ≠ "TABLE" ∧ keywordType? keyword = none

/-- A word that opens no type of the language is read as the name of a type of its own. -/
theorem run_dataType_custom {l : Lexeme} {ls : List Lexeme} (hword : l.token.isWord) (h : OpensNoType l.token) :
    dataType.run (l :: ls) = customType.run (l :: ls) := by
  have hnested : (nestedType (l :: ls)).run (l :: ls) =
      ((fun type => (type, false)) <$> customType).run (l :: ls) := by
    rw [nestedType, run_bind_of_ok (run_peek? _)]
    simp only [List.head?_cons]
    cases hkeyword : l.token.keyword? with
    | none => simp only [hword, if_true, bind_pure_comp]
    | some keyword =>
      obtain ⟨harray, hany, htable, htype⟩ := h keyword hkeyword
      split
      · exact absurd (Option.some.inj ‹_›) harray
      · exact absurd (Option.some.inj ‹_›) hany
      · exact absurd (Option.some.inj ‹_›) htable
      · next heq =>
        cases heq
        simp only [htype, bind_pure_comp]
      · next heq => cases heq
  rw [dataType, run_bind_of_ok (run_get _), StateT.run_bind, hnested]
  rw [StateT.run_map]
  cases customType.run (l :: ls) <;> rfl

/-- A type of one word is read from the word. -/
theorem run_dataType_word {l : Lexeme} {keyword : String} (hkeyword : l.token.keyword? = some keyword)
    (hmem : keyword ∈ typeWords) (ls : List Lexeme) : dataType.run (l :: ls) = .ok (.standard keyword, ls) := by
  have hne : ∀ word ∈ ["ARRAY", "ANY", "TABLE"], keyword ≠ word := by
    have hnot : ∀ word ∈ ["ARRAY", "ANY", "TABLE"], word ∉ typeWords := by decide
    rintro word hword rfl
    exact hnot _ hword hmem
  have hnested : (nestedType (l :: ls)).run (l :: ls) = .ok ((.standard keyword, false), ls) := by
    rw [nestedType, run_bind_of_ok (run_peek? _)]
    simp only [List.head?_cons, hkeyword]
    split
    · exact absurd (Option.some.inj ‹_›) (hne _ (by decide))
    · exact absurd (Option.some.inj ‹_›) (hne _ (by decide))
    · exact absurd (Option.some.inj ‹_›) (hne _ (by decide))
    · next heq =>
      cases heq
      rw [keywordType?_of_mem hmem]
      rfl
    · next heq => cases heq
  rw [dataType, run_bind_of_ok (run_get _), run_bind_of_ok hnested]
  rfl

/-- What succeeds is kept. -/
theorem run_attempt_of_ok {α : Type} {r : Reader α} {a : α} {ls left : List Lexeme} (h : r.run ls = .ok (a, left)) :
    (attempt r).run ls = .ok (some a, left) := by
  simp only [StateT.run] at h
  simp only [attempt, StateT.run, h]

/-- What fails for another reason than depth is taken back. -/
theorem run_attempt_of_error {α : Type} {r : Reader α} {ls : List Lexeme} {fault : Fault}
    (h : r.run ls = .error fault) (hdeep : fault ≠ .tooDeep) : (attempt r).run ls = .ok (none, ls) := by
  unfold attempt
  simp only [StateT.run] at h ⊢
  rw [h]
  cases fault <;> first | rfl | exact absurd rfl hdeep

/-- A word that opens no type starts no literal of a type. -/
theorem run_attempt_typedLiteral {l : Lexeme} {ls : List Lexeme} (hword : l.token.isWord) (h : OpensNoType l.token) :
    (attempt (typedLiteral inner)).run (l :: ls) = .ok (none, l :: ls) := by
  have hdataType : dataType.run (l :: ls) = customType.run (l :: ls) := run_dataType_custom hword h
  have hcustom : ∀ type left, customType.run (l :: ls) = .ok (type, left) → ∃ name args, type = .custom name args := by
    intro type left hrun
    obtain ⟨name, left₁, -, hrun⟩ := run_bind_eq_ok_iff.mp hrun
    obtain ⟨more, left₂, -, hrun⟩ := run_bind_eq_ok_iff.mp hrun
    cases more with
    | true =>
      obtain ⟨start, left₃, -, hrun⟩ := run_bind_eq_ok_iff.mp hrun
      obtain ⟨args, left₄, -, hrun⟩ := run_bind_eq_ok_iff.mp hrun
      cases hrun
      exact ⟨name, args, rfl⟩
    | false =>
      cases hrun
      exact ⟨name, [], rfl⟩
  cases hrun : customType.run (l :: ls) with
  | error fault =>
    -- the name of a type is not nested, so it never fails for depth, which alone would be final
    refine run_attempt_of_error (show (typedLiteral inner).run (l :: ls) = .error fault from ?_) ?_
    · rw [typedLiteral, StateT.run_bind, hdataType, hrun]
      rfl
    · rintro rfl
      exact shallow_customType _ hrun
  | ok found =>
    obtain ⟨type, left⟩ := found
    obtain ⟨name, args, rfl⟩ := hcustom type left hrun
    rw [hrun] at hdataType
    have hfails : (typedLiteral inner).run (l :: ls) =
        .error (.expected "a data type name" (left.head?.map fun l => (l.token.text, l.span.first))) := by
      rw [typedLiteral, run_bind_of_ok hdataType]
      exact run_expected _ _
    exact run_attempt_of_error hfails Fault.noConfusion

/-- A word outside of the few that open an operand opens no type. -/
theorem opensNoType_of_notMem {t : Token} (h : ∀ keyword ∈ t.keyword?, keyword ∉ openingWords) : OpensNoType t := by
  intro keyword hmem
  have hkeyword := h keyword hmem
  have hne : ∀ word ∈ openingWords, keyword ≠ word := by
    rintro word hword rfl
    exact hkeyword hword
  exact ⟨hne _ (by decide), hne _ (by decide), hne _ (by decide),
    keywordType?_of_notMem hkeyword⟩

/-- The words for the time of day open no type. -/
theorem opensNoType_clock {t : Token} (h : ∃ keyword ∈ t.keyword?, keyword ∈ clockWords) : OpensNoType t := by
  obtain ⟨keyword, hkeyword, hclock⟩ := h
  intro keyword' hkeyword'
  cases Option.mem_unique hkeyword hkeyword'
  simp only [clockWords, List.mem_cons, List.not_mem_nil, or_false] at hclock
  obtain rfl | rfl | rfl | rfl | rfl := hclock <;> exact ⟨by decide, by decide, by decide, rfl⟩

/-! ### Words as names -/

/-- A construct that can be read is read. -/
theorem run_constructOr {reserved : Bool} {opened plain : Reader Expr} {ls left : List Lexeme} {e : Expr}
    (h : opened.run ls = .ok (e, left)) : (constructOr reserved opened plain).run ls = .ok ((e, true), left) := by
  simp only [StateT.run] at h
  simp only [constructOr, StateT.run, h]

/-- A word that nothing continues is a column. -/
theorem run_plainWord (word : Ident) (h : EndsName (nextToken rest)) :
    (plainWord inner word).run (bare rest) = .ok (.column word, bare rest) := by
  rw [plainWord, run_bind_of_ok (run_peekToken? _), head?_bare]
  split
  · exact absurd ‹_› h.not_paren
  · exact absurd ‹_› h.not_string
  · exact absurd ‹_› h.not_string
  · exact absurd ‹_› h.not_string
  · rfl

/-- A word that starts no literal of a type is read as a construct or as a name. -/
theorem run_bareOperand_word (name : Ident) {ps : List Piece}
    (h : (attempt (typedLiteral inner)).run (bare (.token name.token :: ps)) = .ok (none, bare (.token name.token :: ps))) :
    (bareOperand inner).run (bare (.token name.token :: ps)) =
      (wordOperand inner name.token.keyword? (unplaced name)).run (bare ps) := by
  rw [Lexeme.bare_token] at h ⊢
  rw [bareOperand, run_bind_of_ok (run_peek? _)]
  change (attempt (typedLiteral inner) >>= _).run _ = _
  rw [run_bind_of_ok h]
  rfl

/-- A name that is no word with a meaning is an operand. -/
theorem run_bareOperand_name {name : Ident} (hname : ∀ keyword ∈ name.token.keyword?, keyword ∉ openingWords)
    (h : EndsName (nextToken rest)) :
    (bareOperand inner).run (bare (.token name.token :: rest)) = .ok (.column (unplaced name), bare rest) := by
  have hconstruct (next : Option Token) :
      (name.token.keyword?.bind fun keyword => construct? inner keyword (unplaced name) next) = none := by
    cases hkeyword : name.token.keyword? with
    | none => rfl
    | some keyword => exact construct?_of_notMem (hname keyword hkeyword) _ _
  rw [run_bareOperand_word name (run_attempt_typedLiteral rfl (opensNoType_of_notMem hname)), wordOperand,
    run_bind_of_ok (run_peekToken? _)]
  simp only [hconstruct]
  rw [run_bind_of_ok (run_plainWord _ h), run_collated _ h.not_collate]

/-- A word that opens a construct and no type is the construct. -/
theorem run_bareOperand_construct {text keyword : String} (hfold : fold text = keyword)
    (htype : keyword ≠ "ARRAY" ∧ keyword ≠ "ANY" ∧ keyword ≠ "TABLE" ∧ keywordType? keyword = none)
    {opened : Reader Expr}
    (hconstruct : ∀ next, construct? inner keyword ⟨text, none, .none⟩ next = some opened) {ps : List Piece} {e : Expr}
    (hopened : opened.run (bare ps) = .ok (e, bare rest)) (hend : EndsOperand (nextToken rest)) :
    (bareOperand inner).run (bare (.token (.word text none) :: ps)) = .ok (e, bare rest) := by
  have hopens : OpensNoType (.word text none) := by
    rintro keyword' ⟨⟩
    rwa [hfold]
  have hkeyword : (⟨text, none, .none⟩ : Ident).token.keyword? = some keyword := congrArg some hfold
  have hunplaced : unplaced (⟨text, none, .none⟩ : Ident) = ⟨text, none, .none⟩ := rfl
  refine (run_bareOperand_word ⟨text, none, .none⟩ (run_attempt_typedLiteral rfl hopens)).trans ?_
  rw [hkeyword, hunplaced, wordOperand, run_bind_of_ok (run_peekToken? _)]
  simp only [Option.bind_some, hconstruct]
  rw [run_bind_of_ok (run_constructOr hopened), run_collated _ (hend.not_starts (by decide))]

/-! ## Literals -/

/-- Where an operand ends, no more strings stand side by side. -/
theorem adjacentBodies_end (h : EndsOperand (nextToken rest)) : adjacentBodies (bare rest) = ([], bare rest) := by
  cases hls : bare rest with
  | nil => rfl
  | cons l ls =>
    have hnext : nextToken rest = some l.token := by rw [← head?_bare, hls]; rfl
    rw [adjacentBodies]
    split
    · next body heq => exact absurd (hnext.trans (congrArg some heq)) h.not_string
    · next body heq => exact absurd (hnext.trans (congrArg some heq)) h.not_string
    · rfl

/-- Where an operand ends, a string is not joined to another one. -/
theorem run_joinedBody_end (body : String) (h : EndsOperand (nextToken rest)) :
    (joinedBody body).run (bare rest) = .ok (body, bare rest) := by
  simp only [joinedBody, StateT.run, adjacentBodies_end h]
  simp

/-- A literal is read from its token. -/
theorem run_literal {value : Literal} (h : EndsOperand (nextToken rest)) :
    literal.run (bare (.token value.token :: rest)) = .ok ((value, .none), bare rest) := by
  rw [Lexeme.bare_token, literal, run_bind_of_ok (run_next? _)]
  cases value with
  | boolean value => cases value <;> rfl
  | single body =>
    change (joinedBody body >>= _).run (bare rest) = _
    rw [run_bind_of_ok (run_joinedBody_end body h)]
    rfl
  | double body =>
    change (joinedBody body >>= _).run (bare rest) = _
    rw [run_bind_of_ok (run_joinedBody_end body h)]
    rfl
  | _ => rfl

/-- The word of a null or a truth value is an operand. -/
theorem run_bareOperand_constant {value : Literal} (hvalue : value = .null ∨ ∃ truth, value = .boolean truth)
    (h : EndsOperand (nextToken rest)) :
    (bareOperand inner).run (bare (.token value.token :: rest)) = .ok (.literal value .none, bare rest) := by
  obtain rfl | ⟨truth, rfl⟩ := hvalue
  · exact run_bareOperand_construct (by decide : fold "NULL" = "NULL") ⟨by decide, by decide, by decide, rfl⟩
      (fun _ => rfl) rfl h
  · cases truth
    · exact run_bareOperand_construct (by decide : fold "false" = "FALSE") ⟨by decide, by decide, by decide, rfl⟩
        (fun _ => rfl) rfl h
    · exact run_bareOperand_construct (by decide : fold "true" = "TRUE") ⟨by decide, by decide, by decide, rfl⟩
        (fun _ => rfl) rfl h

/-- A literal is an operand. -/
theorem run_bareOperand_literal {value : Literal} (h : EndsOperand (nextToken rest)) :
    (bareOperand inner).run (bare (.token value.token :: rest)) = .ok (.literal value .none, bare rest) := by
  have hliteral : literal.run (bare (.token value.token :: rest)) = .ok ((value, .none), bare rest) := run_literal h
  cases value with
  | null => exact run_bareOperand_constant (.inl rfl) h
  | boolean truth => exact run_bareOperand_constant (.inr ⟨truth, rfl⟩) h
  | _ =>
    rw [Lexeme.bare_token] at hliteral ⊢
    rw [bareOperand, run_bind_of_ok (run_peek? _)]
    change (literal >>= _).run _ = _
    rw [run_bind_of_ok hliteral, run_collated _ (h.not_starts (by decide))]

end Reader
end InsertPivot.Sql
