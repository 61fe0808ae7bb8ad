import InsertPivot.Proofs.Completion
import InsertPivot.Proofs.Writing

/-!
# Reading what was written

The pieces that a statement is written as are read as this statement again, in the letter case and with the
quotes that it was written in. What a reader takes is the pieces that its construct is written as, whatever
stands behind them, as long as it does not go on with a token that the construct would take too.

As in `Writing`, values are left open: `ReadsBack` says that the pieces of a value are read as this value
where what ends a value stands behind it.
-/

namespace InsertPivot.Sql

open Lexeme (Piece bare symbol space)

/-! ## The next token -/

/-- The first token of some pieces. -/
def nextToken (ps : List Piece) : Option Token :=
  ps.findSome? Piece.token?

@[simp] theorem nextToken_nil : nextToken [] = none := rfl

@[simp] theorem nextToken_token (t : Token) (ps : List Piece) : nextToken (.token t :: ps) = some t := rfl

@[simp] theorem nextToken_symbol (s : Symbol) (ps : List Piece) : nextToken (symbol s :: ps) = some (.symbol s) := rfl

@[simp] theorem nextToken_space (ps : List Piece) : nextToken (space :: ps) = nextToken ps := rfl

/-- The next token of pieces is their first one, or where they have none, that of what follows. -/
theorem nextToken_append (ps qs : List Piece) : nextToken (ps ++ qs) = (nextToken ps).or (nextToken qs) :=
  List.findSome?_append

/-- The first lexeme has the next token. -/
theorem head?_bare (ps : List Piece) : (bare ps).head?.map Lexeme.token = nextToken ps := by
  induction ps with
  | nil => rfl
  | cons p ps ih =>
    cases p with
    | token t => rw [Lexeme.bare_token]; rfl
    | blank b => exact ih

theorem keyword?_bare (ps : List Piece) :
    (bare ps).head?.bind (·.token.keyword?) = (nextToken ps).bind Token.keyword? := by
  rw [← head?_bare]
  cases (bare ps).head? <;> rfl

@[simp] theorem bare_space (ps : List Piece) : bare (space :: ps) = bare ps := rfl

/-- There is a lexeme for each token. -/
theorem length_bare (ps : List Piece) : (bare ps).length = (ps.filterMap Piece.token?).length := by
  induction ps with
  | nil => rfl
  | cons p ps ih =>
    cases p with
    | token t => simp [Lexeme.bare_token, ih, Piece.token?]
    | blank b => exact ih

/-- What follows some pieces has no more lexemes than all of it. -/
theorem length_bare_le_append (ps rest : List Piece) : (bare rest).length ≤ (bare (ps ++ rest)).length := by
  simp only [length_bare, List.filterMap_append, List.length_append]
  omega

/-- Between any two of the things that are listed stands a token, so the tokens bound their number. -/
theorem length_le_bare_intercalate (sep : List Piece) (hsep : sep.filterMap Piece.token? ≠ []) (pss : List (List Piece))
    (rest : List Piece) : pss.length ≤ (bare (sep.intercalate pss ++ rest)).length + 1 := by
  match pss with
  | [] => simp
  | [_] => simp
  | ps :: qs :: pss =>
    have ih := length_le_bare_intercalate sep hsep (qs :: pss) rest
    have hpos := List.length_pos_iff.mpr hsep
    rw [List.intercalate_cons_cons]
    simp only [length_bare, List.filterMap_append, List.length_append, List.length_cons] at ih ⊢
    omega

namespace Reader

variable {α : Type} {rest : List Piece}

/-! ## Symbols and keywords -/

/-- A symbol that stands is taken. -/
theorem run_acceptSymbol_symbol (s : Symbol) (rest : List Piece) :
    (acceptSymbol s).run (bare (symbol s :: rest)) = .ok (true, bare rest) := by
  rw [run_acceptSymbol, if_pos (by rw [head?_bare]; rfl), symbol, Lexeme.bare_token]
  rfl

/-- A symbol that does not stand is not taken. -/
theorem run_acceptSymbol_of_ne {s : Symbol} (h : nextToken rest ≠ some (.symbol s)) :
    (acceptSymbol s).run (bare rest) = .ok (false, bare rest) := by
  rw [run_acceptSymbol, if_neg (by rwa [head?_bare])]

theorem run_expectSymbol_symbol (s : Symbol) (rest : List Piece) :
    (expectSymbol s).run (bare (symbol s :: rest)) = .ok ((), bare rest) := by
  rw [expectSymbol, run_bind_of_ok (run_acceptSymbol_symbol s rest)]
  rfl

/-- Where a symbol is wanted and does not stand, the reading fails. -/
theorem run_expectSymbol_of_ne {s : Symbol} (h : nextToken rest ≠ some (.symbol s)) :
    ∃ found, (expectSymbol s).run (bare rest) = .error (.expected s.text found) := by
  have hrun : (expectSymbol s).run (bare rest) = (expected s.text).run (bare rest) := by
    rw [expectSymbol, run_bind_of_ok (run_acceptSymbol_of_ne h)]
    rfl
  exact ⟨_, hrun.trans (run_expected _ _)⟩

theorem run_atSymbol_bare (s : Symbol) (rest : List Piece) :
    (atSymbol s).run (bare rest) = .ok (decide (nextToken rest = some (.symbol s)), bare rest) := by
  rw [run_atSymbol, head?_bare]

/-- Whether the first token of some pieces is this keyword. -/
def Starts (keyword : String) (ps : List Piece) : Prop :=
  (nextToken ps).bind Token.keyword? = some keyword

instance (keyword : String) (ps : List Piece) : Decidable (Starts keyword ps) :=
  inferInstanceAs (Decidable ((nextToken ps).bind Token.keyword? = some keyword))

/-- What starts with no keyword, in front of what starts with none, starts with none. -/
theorem not_starts_append {keyword : String} {ps : List Piece} (hps : ¬Starts keyword ps)
    (hrest : ¬Starts keyword rest) :
    ¬Starts keyword (ps ++ rest) := by
  unfold Starts at *
  rw [nextToken_append]
  cases h : nextToken ps with
  | none => simpa using hrest
  | some t =>
    rw [h] at hps
    simpa using hps

/-- A keyword that does not stand is not taken. -/
theorem run_acceptKeyword_of_not {keyword : String} (h : ¬Starts keyword rest) :
    (acceptKeyword keyword).run (bare rest) = .ok (false, bare rest) :=
  run_acceptKeyword_of_ne (by rwa [keyword?_bare])

theorem run_atKeyword_of_not {keyword : String} (h : ¬Starts keyword rest) :
    (atKeyword keyword).run (bare rest) = .ok (false, bare rest) := by
  rw [run_atKeyword, keyword?_bare, decide_eq_false (show ¬(nextToken rest).bind Token.keyword? = some keyword from h)]

/-- Where none of some keywords stands, none is taken. -/
theorem run_oneOf?_of_not {keywords : List String} (h : ∀ keyword ∈ keywords, ¬Starts keyword rest) :
    (oneOf? keywords).run (bare rest) = .ok (none, bare rest) := by
  rw [oneOf?, run_bind_of_ok (run_peekKeyword? _), keyword?_bare]
  cases hkeyword : (nextToken rest).bind Token.keyword? with
  | none => rfl
  | some keyword =>
    have hnot : keyword ∉ keywords := fun hmem => h keyword hmem hkeyword
    simp only [List.contains_iff_mem, hnot, if_false]
    rfl

/-- Where the first of some keywords does not stand, none is taken. -/
theorem run_acceptKeywords_of_not {keyword : String} {keywords : List String} (h : ¬Starts keyword rest) :
    (acceptKeywords (keyword :: keywords)).run (bare rest) = .ok (false, bare rest) :=
  run_acceptKeywords_of_ne (by rwa [keyword?_bare])

/-! ## Lists -/

/-- Values that are listed are read one by one, if each is read where a comma or what follows the list
stands behind it. -/
theorem run_commaSteps {β : Type} {item : Reader α} {write : β → List Piece} {value : β → α} {items : List β}
    {bound : List Lexeme} (follow : Option Token → Prop) (hne : items ≠ [])
    (hitem : ∀ b ∈ items, ∀ rest, follow (nextToken rest) →
      item.run (bare (write b ++ rest)) = .ok (value b, bare rest))
    (hcomma : follow (some (.symbol .comma))) (hfollow : follow (nextToken rest))
    (hend : nextToken rest ≠ some (.symbol .comma)) (hbound : items.length ≤ bound.length + 1) :
    (commaSteps item bound).run (bare (listed (items.map write) ++ rest)) = .ok (items.map value, bare rest) := by
  match items, bound with
  | [], _ => exact absurd rfl hne
  | [b], [] =>
    rw [List.map_singleton, listed, List.intercalate_singleton, commaSteps,
      run_bind_of_ok (hitem b (by simp) rest hfollow)]
    rfl
  | [b], _ :: bound =>
    rw [List.map_singleton, listed, List.intercalate_singleton, commaSteps,
      run_bind_of_ok (hitem b (by simp) rest hfollow), run_bind_of_ok (run_acceptSymbol_of_ne hend)]
    rfl
  | b :: b' :: items, [] => simp at hbound
  | b :: b' :: items, _ :: bound =>
    have hbound : (b' :: items).length ≤ bound.length + 1 := by simpa using hbound
    have ih := run_commaSteps follow (List.cons_ne_nil b' items)
      (fun c hmem => hitem c (List.mem_cons_of_mem b hmem)) hcomma hfollow hend hbound
    have hlisted : listed ((b :: b' :: items).map write) ++ rest =
        write b ++ symbol .comma :: space :: (listed ((b' :: items).map write) ++ rest) := by
      simp [listed, List.intercalate_cons_cons]
    have hb := hitem b (by simp) (symbol .comma :: space :: (listed ((b' :: items).map write) ++ rest)) hcomma
    rw [hlisted, commaSteps, run_bind_of_ok hb, run_bind_of_ok (run_acceptSymbol_symbol _ _),
      if_pos rfl, bare_space, run_bind_of_ok ih]
    rfl

/-- Items with commas between them are read, if each is read up to what may follow an item: a comma, or what follows
the list. -/
theorem run_commaSeparated {β : Type} {item : Reader α} {write : β → List Piece} {value : β → α} {items : List β}
    (follow : Option Token → Prop) (hne : items ≠ [])
    (hitem : ∀ b ∈ items, ∀ rest, follow (nextToken rest) →
      item.run (bare (write b ++ rest)) = .ok (value b, bare rest))
    (hcomma : follow (some (.symbol .comma))) (hfollow : follow (nextToken rest))
    (hend : nextToken rest ≠ some (.symbol .comma)) :
    (commaSeparated item).run (bare (listed (items.map write) ++ rest)) = .ok (items.map value, bare rest) := by
  have hbound := length_le_bare_intercalate [symbol .comma, space] (by simp [symbol, Piece.token?])
    (items.map write) rest
  rw [List.length_map] at hbound
  exact run_commaSteps follow hne hitem hcomma hfollow hend hbound

/-- Behind the first of the things that are listed in parentheses stands a comma, or the closing one. -/
theorem exists_listed (ps : List Piece) (pss : List (List Piece)) (rest : List Piece) :
    ∃ more, listed (ps :: pss) ++ symbol .rightParen :: rest = ps ++ more ∧
      (nextToken more = some (.symbol .comma) ∨ nextToken more = some (.symbol .rightParen)) := by
  cases pss with
  | nil => exact ⟨symbol .rightParen :: rest, by simp [listed], .inr rfl⟩
  | cons qs pss =>
    refine ⟨symbol .comma :: space :: (listed (qs :: pss) ++ symbol .rightParen :: rest), ?_, .inl rfl⟩
    simp [listed, List.intercalate_cons_cons]

/-- What stands in parentheses is read by its reader, if this stops at the closing one. -/
theorem run_inParens {r : Reader α} {a : α} {ps : List Piece}
    (h : r.run (bare (ps ++ symbol .rightParen :: rest)) = .ok (a, bare (symbol .rightParen :: rest))) :
    (inParens r).run (bare (enclosed ps ++ rest)) = .ok (a, bare rest) := by
  rw [enclosed_append, inParens, run_bind_of_ok (run_expectSymbol_symbol _ _), run_bind_of_ok h,
    run_bind_of_ok (run_expectSymbol_symbol _ _)]
  rfl

/-! ## Names -/

/-- A name is read from its token, without its place. -/
theorem run_ident (name : Ident) (rest : List Piece) :
    ident.run (bare (.token name.token :: rest)) = .ok (unplaced name, bare rest) := by
  rw [Lexeme.bare_token, ident, run_bind_of_ok (run_peek? _)]
  rfl

/-- Names with periods are read, if the lexemes allow for so many. -/
theorem run_dottedSteps {names : List Ident} {bound : List Lexeme} (hne : names ≠ [])
    (hend : nextToken rest ≠ some (.symbol .period)) (hbound : names.length ≤ bound.length + 1) :
    (dottedSteps bound).run (bare (dottedPieces names ++ rest)) = .ok (unplaced names, bare rest) := by
  match names, bound with
  | [], _ => exact absurd rfl hne
  | [name], [] =>
    rw [dottedPieces, List.map_singleton, List.intercalate_singleton, List.singleton_append, dottedSteps,
      run_bind_of_ok (run_ident name rest)]
    rfl
  | [name], _ :: bound =>
    rw [dottedPieces, List.map_singleton, List.intercalate_singleton, List.singleton_append, dottedSteps,
      run_bind_of_ok (run_ident name rest), run_bind_of_ok (run_acceptSymbol_of_ne hend)]
    rfl
  | name :: name' :: names, [] => simp at hbound
  | name :: name' :: names, _ :: bound =>
    have hbound : (name' :: names).length ≤ bound.length + 1 := by simpa using hbound
    have ih := run_dottedSteps (List.cons_ne_nil name' names) hend hbound
    rw [dottedPieces_cons name (List.cons_ne_nil _ _), List.cons_append, List.cons_append, dottedSteps,
      run_bind_of_ok (run_ident name _), run_bind_of_ok (run_acceptSymbol_symbol _ _), if_pos rfl, run_bind_of_ok ih]
    rfl

/-- A name is read with its parts as they are written. -/
theorem run_dottedName (style : Style) {parts : List Ident} (hne : parts ≠ [])
    (hend : nextToken rest ≠ some (.symbol .period)) :
    dottedName.run (bare (style.namePieces parts ++ rest)) = .ok (unplaced (parts.map style.restyled), bare rest) := by
  have hbound := length_le_bare_intercalate [symbol .period] (by simp [symbol, Piece.token?])
    ((parts.map style.restyled).map fun name => [.token name.token]) rest
  rw [List.length_map] at hbound
  rw [style.namePieces_eq]
  exact run_dottedSteps (by simpa using hne) hend hbound

/-! ## Values, assignments and rows -/

/-- Whether a token, or the end of a text, ends a value. -/
def EndsValue : Option Token → Prop
  | none => True
  | some (.symbol s) => s = .comma ∨ s = .rightParen ∨ s = .semicolon
  | some t => t.keyword? = some "ON"

/-- Whether a value is read from some pieces as itself, with so many levels to go deeper, where what ends a
value stands behind it. -/
def ReadsBack (levels : Nat) (value : Expr) (ps : List Piece) : Prop :=
  ∀ rest, EndsValue (nextToken rest) →
    (Nested.upTo levels).value.run (bare (ps ++ rest)) = .ok (unplaced value, bare rest)

variable {style : Style} {write : Expr → List Piece} {levels : Nat}

/-- An assignment as it is read. -/
def restyledItem (style : Style) (item : Assignment) : SetItem :=
  ⟨.column (.ofIdents (unplaced (item.names.map style.restyled))), unplaced item.value⟩

/-- A table's name starts with the token of its first part. -/
theorem nextToken_namePieces (style : Style) {parts : List Ident} (hne : parts ≠ []) (rest : List Piece) :
    ∃ name ∈ parts.head?, nextToken (style.namePieces parts ++ rest) = some (style.restyled name).token := by
  obtain ⟨part, parts, rfl⟩ := List.exists_cons_of_ne_nil hne
  obtain ⟨ps, hps⟩ := style.exists_namePieces part parts
  exact ⟨part, rfl, by rw [hps]; rfl⟩

/-- The column of an assignment is read with its qualifier. -/
theorem run_assignmentTarget (style : Style) {parts : List Ident} (hne : parts ≠ [])
    (hend : nextToken rest ≠ some (.symbol .period)) :
    assignmentTarget.run (bare (style.namePieces parts ++ rest)) =
      .ok (.column (.ofIdents (unplaced (parts.map style.restyled))), bare rest) := by
  obtain ⟨name, -, hnext⟩ := nextToken_namePieces style hne rest
  rw [assignmentTarget, run_bind_of_ok (run_atSymbol_bare _ _), decide_eq_false (by rw [hnext]; simp [Ident.token]),
    if_neg Bool.false_ne_true, run_bind_of_ok (run_dottedName style hne hend)]
  rfl

/-- An assignment is read with its value. -/
theorem run_setItem {item : Assignment} (hvalue : ReadsBack levels item.value (write item.value))
    (hrest : EndsValue (nextToken rest)) :
    (setItem (Nested.upTo levels)).run (bare (style.assignmentPieces write item ++ rest)) =
      .ok (restyledItem style item, bare rest) := by
  have hpieces : style.assignmentPieces write item ++ rest =
      style.namePieces item.names ++ space :: symbol .equal :: space :: (write item.value ++ rest) := by
    simp [Style.assignmentPieces, Assignment.names]
  have htarget := run_assignmentTarget style (by simp [Assignment.names] : item.names ≠ [])
    (by simp : nextToken (space :: symbol .equal :: space :: (write item.value ++ rest)) ≠ some (.symbol .period))
  rw [hpieces, setItem, run_bind_of_ok htarget, bare_space, run_bind_of_ok (run_expectSymbol_symbol _ _), bare_space,
    run_bind_of_ok (hvalue rest hrest)]
  rfl

/-- Assignments with commas between them are read. -/
theorem run_setItems {items : List Assignment} (hne : items ≠ [])
    (hvalues : ∀ item ∈ items, ReadsBack levels item.value (write item.value)) (hrest : EndsValue (nextToken rest))
    (hend : nextToken rest ≠ some (.symbol .comma)) :
    (setItems (Nested.upTo levels)).run (bare (listed (items.map (style.assignmentPieces write)) ++ rest)) =
      .ok (items.map (restyledItem style), bare rest) :=
  run_commaSeparated EndsValue hne (fun item hmem _ hrest => run_setItem (hvalues item hmem) hrest) (.inl rfl) hrest hend

/-- No value starts with a closing parenthesis. -/
theorem not_reads_rightParen {least : Nat} {ls left : List Lexeme} {value : Expr}
    (h : (expression (Nested.upTo levels) least).run ls = .ok (value, left)) :
    ls.head?.map Lexeme.token ≠ some (.symbol .rightParen) := by
  intro hhead
  cases ls with
  | nil => cases hhead
  | cons l ls =>
    have hl : l.token = .symbol .rightParen := Option.some.inj hhead
    obtain ⟨first, _, hfirst, -⟩ := run_bind_eq_ok_iff.mp h
    obtain ⟨root, _, hroot, -⟩ := run_bind_eq_ok_iff.mp hfirst
    rw [bareOperand, run_bind_of_ok (run_peek? _)] at hroot
    simp only [List.head?_cons, hl] at hroot
    cases hroot

/-- A value that can be read does not start with a closing parenthesis. -/
theorem ReadsBack.nextToken_ne {value : Expr} {ps : List Piece} (h : ReadsBack levels value ps)
    (hrest : EndsValue (nextToken rest)) : nextToken (ps ++ rest) ≠ some (.symbol .rightParen) := by
  have hrun := h rest hrest
  cases levels with
  | zero => cases hrun
  | succ levels =>
    rw [← head?_bare]
    exact not_reads_rightParen hrun

/-- A row is read with its values, also one without any. -/
theorem run_row {values : List Expr} (hvalues : ∀ value ∈ values, ReadsBack levels value (write value)) :
    (row (Nested.upTo levels)).run (bare (Style.rowPieces write values ++ rest)) =
      .ok ((false, unplaced values), bare rest) := by
  have hlist : (commaSeparatedBefore .rightParen (Nested.upTo levels).value).run
      (bare (listed (values.map write) ++ symbol .rightParen :: rest)) =
        .ok (unplaced values, bare (symbol .rightParen :: rest)) := by
    cases values with
    | nil =>
      rw [commaSeparatedBefore, run_bind_of_ok (run_atSymbol_bare _ _)]
      rfl
    | cons value values =>
      have hfirst : nextToken (listed ((value :: values).map write) ++ symbol .rightParen :: rest) ≠
          some (.symbol .rightParen) := by
        have hvalue := hvalues value List.mem_cons_self
        cases values with
        | nil =>
          have hend : EndsValue (nextToken (symbol .rightParen :: rest)) := .inr (.inl rfl)
          simpa [listed] using hvalue.nextToken_ne hend
        | cons value' values =>
          have hpieces : listed ((value :: value' :: values).map write) ++ symbol .rightParen :: rest =
              write value ++ symbol .comma :: space ::
                (listed ((value' :: values).map write) ++ symbol .rightParen :: rest) := by
            simp [listed, List.intercalate_cons_cons]
          have hend : EndsValue (nextToken (symbol .comma :: space ::
              (listed ((value' :: values).map write) ++ symbol .rightParen :: rest))) := .inl rfl
          rw [hpieces]
          exact hvalue.nextToken_ne hend
      rw [commaSeparatedBefore, run_bind_of_ok (run_atSymbol_bare _ _), decide_eq_false hfirst,
        if_neg Bool.false_ne_true]
      exact run_commaSeparated EndsValue (List.cons_ne_nil _ _) (fun value hmem _ hrest => hvalues value hmem _ hrest) (.inl rfl)
        (.inr (.inl rfl)) (by simp)
  have hpieces : ∃ ps, Style.rowPieces write values ++ rest = symbol .leftParen :: ps := ⟨_, rfl⟩
  obtain ⟨ps, hps⟩ := hpieces
  have hword : (acceptKeyword "ROW").run (bare (Style.rowPieces write values ++ rest)) =
      .ok (false, bare (Style.rowPieces write values ++ rest)) := by
    rw [hps]
    exact run_acceptKeyword_of_not (by simp [Starts, Token.keyword?])
  rw [row, run_bind_of_ok hword, Style.rowPieces, run_bind_of_ok (run_inParens hlist)]
  rfl

/-- Rows with commas between them are read. -/
theorem run_restOfValues {rows : List (List Expr)} (hne : rows ≠ [])
    (hvalues : ∀ values ∈ rows, ∀ value ∈ values, ReadsBack levels value (write value))
    (hend : nextToken rest ≠ some (.symbol .comma)) :
    (restOfValues (Nested.upTo levels) false).run (bare (listed (rows.map (Style.rowPieces write)) ++ rest)) =
      .ok (.values false false (unplaced rows), bare rest) := by
  have hrows : (commaSeparated (row (Nested.upTo levels))).run
      (bare (listed (rows.map (Style.rowPieces write)) ++ rest)) =
        .ok (rows.map fun values => (false, unplaced values), bare rest) :=
    run_commaSeparated (fun _ => True) hne (fun values hmem _ _ => run_row (hvalues values hmem)) trivial trivial hend
  rw [restOfValues, run_bind_of_ok hrows]
  have hexplicit : (rows.map fun values => (false, unplaced values)).any (·.1) = false := by simp
  have hlisted : (rows.map fun values => (false, unplaced values)).map (·.2) = unplaced rows := by
    rw [List.map_map]
    rfl
  rw [hexplicit, hlisted]
  rfl

/-- Whether a token, or the end of a text, ends what a statement inserts. -/
def EndsPayload (t : Option Token) : Prop :=
  EndsValue t ∧ t ≠ some (.symbol .comma) ∧ t ≠ some (.symbol .rightParen)

/-- What ends a payload starts no clause but that of an upsert. -/
theorem EndsPayload.not_starts {keyword : String} (h : EndsPayload (nextToken rest)) (hkeyword : keyword ≠ "ON") :
    ¬Starts keyword rest := by
  intro hstarts
  unfold Starts at hstarts
  cases hnext : nextToken rest with
  | none =>
    rw [hnext] at hstarts
    cases hstarts
  | some t =>
    rw [hnext] at h hstarts
    cases t with
    | word text quote =>
      have hon : (Token.word text quote).keyword? = some "ON" := h.1
      rw [Option.bind_some, hon] at hstarts
      exact hkeyword (Option.some.inj hstarts).symm
    | _ => cases hstarts

/-- What ends a payload is no symbol but a semicolon. -/
theorem EndsPayload.nextToken_ne {s : Symbol} (h : EndsPayload (nextToken rest)) (hs : s ≠ .semicolon) :
    nextToken rest ≠ some (.symbol s) := by
  intro hnext
  obtain ⟨hends, hcomma, hparen⟩ := h
  rw [hnext] at hends hcomma hparen
  obtain rfl | rfl | rfl := hends
  · exact hcomma rfl
  · exact hparen rfl
  · exact hs rfl

/-! ## What a statement inserts -/

/-- A keyword starts with itself, in both cases. -/
theorem starts_keyword {word : String} (hword : word ∈ Style.keywords) (ps : List Piece) :
    Starts word (style.keywordPiece word :: ps) := by
  have hfold (letterCase : LetterCase) : ∀ word ∈ Style.keywords, fold (letterCase.keyword word) = word := by
    cases letterCase <;> decide
  exact congrArg some (hfold style.letterCase word hword)

/-- A keyword starts no other one. -/
theorem not_starts_keyword {keyword word : String} (hword : word ∈ Style.keywords) (hne : word ≠ keyword)
    (ps : List Piece) : ¬Starts keyword (style.keywordPiece word :: ps) := by
  intro h
  rw [Starts, starts_keyword hword ps] at h
  exact hne (Option.some.inj h)

/-- A keyword that was written is taken. -/
theorem run_acceptKeyword_keyword {word : String} (hword : word ∈ Style.keywords) (ps : List Piece) :
    (acceptKeyword word).run (bare (style.keywordPiece word :: ps)) = .ok (true, bare ps) := by
  rw [run_acceptKeyword_of_eq (by rw [keyword?_bare]; exact starts_keyword hword ps), Style.keywordPiece,
    Lexeme.bare_token]
  rfl

/-! ### Rows -/

/-- Where a keyword does not stand, nothing is read behind it. -/
theorem run_behindKeyword_of_not {r : Reader α} {keyword : String} (h : ¬Starts keyword rest) :
    (behindKeyword keyword r).run (bare rest) = .ok (none, bare rest) := by
  rw [behindKeyword, run_bind_of_ok (run_acceptKeyword_of_not h)]
  rfl

/-- Where the first of some keywords does not stand, nothing is read behind them. -/
theorem run_behindKeywords_of_not {r : Reader α} {keyword : String} {keywords : List String}
    (h : ¬Starts keyword rest) : (behindKeywords (keyword :: keywords) r).run (bare rest) = .ok (none, bare rest) := by
  rw [behindKeywords, run_bind_of_ok (run_acceptKeywords_of_not h)]
  rfl

variable {inner : Nested}

/-- Where a payload ends, no other body is joined to it. -/
theorem run_bodies_end (hend : EndsPayload (nextToken rest)) (bound : List Lexeme) (first : Body) :
    (bodies inner 0 bound first).run (bare rest) = .ok (first, bare rest) := by
  cases bound with
  | nil => rfl
  | cons _ bound =>
    have hop : setOp?.run (bare rest) = .ok (none, bare rest) := by
      rw [setOp?, run_bind_of_ok (run_peekKeyword? _), keyword?_bare]
      have hnot (keyword : String) (hkeyword : keyword ≠ "ON") := hend.not_starts hkeyword
      simp only [Starts] at hnot
      split
      · exact absurd ‹_› (hnot "UNION" (by decide))
      · exact absurd ‹_› (hnot "EXCEPT" (by decide))
      · exact absurd ‹_› (hnot "MINUS" (by decide))
      · exact absurd ‹_› (hnot "INTERSECT" (by decide))
      · rfl
    rw [bodies, run_bind_of_ok hop]
    rfl

/-- Where a payload ends, no limit stands. -/
theorem run_limit_end (hend : EndsPayload (nextToken rest)) :
    (limit inner).run (bare rest) = .ok (none, bare rest) := by
  have hskipped : (skippedRows inner).run (bare rest) = .ok ((none, none), bare rest) := by
    rw [skippedRows, run_bind_of_ok (run_behindKeyword_of_not (hend.not_starts (by decide)))]
    rfl
  rw [limit, run_bind_of_ok hskipped]
  simp only
  rw [run_bind_of_ok (run_behindKeyword_of_not (hend.not_starts (by decide)))]
  rfl

/-- Where a payload ends, no locks stand. -/
theorem run_locks_end (hend : EndsPayload (nextToken rest)) (bound : List Lexeme) :
    (locks bound).run (bare rest) = .ok (([], none), bare rest) := by
  cases bound with
  | nil => rfl
  | cons _ bound =>
    rw [locks, run_bind_of_ok (run_acceptKeyword_of_not (hend.not_starts (by decide)))]
    rfl

theorem run_get (ls : List Lexeme) : (get : Reader (List Lexeme)).run ls = .ok (ls, ls) := rfl

/-- A body that nothing is combined with and no clause follows is a query. -/
theorem run_restOfQuery_body {ps : List Piece} {body : Body} (hend : EndsPayload (nextToken rest))
    (hbody : (simpleBody inner).run (bare (ps ++ rest)) = .ok (body, bare rest)) :
    (restOfQuery inner false []).run (bare (ps ++ rest)) = .ok ({ body }, bare rest) := by
  have horder : (orderings inner).run (bare rest) = .ok ([], bare rest) := by
    rw [orderings, run_bind_of_ok (run_behindKeywords_of_not (hend.not_starts (by decide)))]
    rfl
  rw [restOfQuery, run_bind_of_ok hbody]
  rw [run_bind_of_ok (run_get _), run_bind_of_ok (run_bodies_end hend _ _), run_bind_of_ok horder,
    run_bind_of_ok (run_limit_end hend),
    run_bind_of_ok (run_behindKeyword_of_not (hend.not_starts (by decide))), run_bind_of_ok (run_get _),
    run_bind_of_ok (run_locks_end hend _)]
  rfl

/-- Rows are a query of their own. -/
theorem run_query_rows {rows : List (List Expr)} (hne : rows ≠ [])
    (hvalues : ∀ values ∈ rows, ∀ value ∈ values, ReadsBack levels value (write value))
    (hend : EndsPayload (nextToken rest)) :
    (query (Nested.upTo levels)).run
        (bare (style.keywordPiece "VALUES" :: space :: listed (rows.map (Style.rowPieces write)) ++ rest)) =
      .ok ({ body := .values false false (unplaced rows) }, bare rest) := by
  have hword : "VALUES" ∈ Style.keywords := by decide
  have hnot (keyword : String) (hne : "VALUES" ≠ keyword) (ps : List Piece) :
      ¬Starts keyword (style.keywordPiece "VALUES" :: ps) := not_starts_keyword hword hne ps
  have hrows := run_restOfValues hne hvalues (hend.nextToken_ne (by decide : Symbol.comma ≠ .semicolon))
  rw [query_run_body]
  · refine run_restOfQuery_body hend ?_
    simp only [List.cons_append]
    rw [simpleBody, run_bind_of_ok (run_acceptKeyword_of_not (hnot _ (by decide) _)), if_neg Bool.false_ne_true,
      run_bind_of_ok (run_atSymbol_bare _ _), decide_eq_false (by simp [Style.keywordPiece]), if_neg Bool.false_ne_true,
      run_bind_of_ok (run_acceptKeyword_keyword hword _), if_pos rfl]
    exact hrows
  · intro word hmem
    rw [keyword?_bare]
    exact hnot word (by rintro rfl; revert hmem; decide) _

/-! ### The data -/

/-- The data of a statement, as it is read. -/
def sourceOf (style : Style) : Payload → Source
  | .set items => { assignments := items.map (restyledItem style) }
  | .values columns rows =>
    { columns := unplaced (columns.map style.restyled), query := some { body := .values false false (unplaced rows) } }

/-- Whether the pieces of a payload are read as its data, where values are read with so many levels to go
deeper: there is something to list, and the first column is not taken for the start of a query. -/
def Legible (style : Style) (write : Expr → List Piece) (levels : Nat) : Payload → Prop
  | .set items => items ≠ [] ∧ ∀ item ∈ items, ReadsBack (levels + 1) item.value (write item.value)
  | .values columns rows =>
    rows ≠ [] ∧ (∀ values ∈ rows, ∀ value ∈ values, ReadsBack levels value (write value)) ∧
      ∀ column ∈ columns.head?, (style.restyled column).token.keyword? ≠ some "SELECT"

/-- The columns of a statement are read. -/
theorem run_columnList {columns : List Ident} (hne : columns ≠ []) (rest : List Piece) :
    (optionalColumnList true).run
        (bare (enclosed (listed (columns.map fun column => style.namePieces [column])) ++ rest)) =
      .ok (unplaced (columns.map style.restyled), bare rest) := by
  have hpieces : ∃ ps, enclosed (listed (columns.map fun column => style.namePieces [column])) ++ rest =
      symbol .leftParen :: ps := ⟨_, rfl⟩
  obtain ⟨ps, hps⟩ := hpieces
  have hat : (atSymbol .leftParen).run
      (bare (enclosed (listed (columns.map fun column => style.namePieces [column])) ++ rest)) =
        .ok (true, bare (enclosed (listed (columns.map fun column => style.namePieces [column])) ++ rest)) := by
    rw [run_atSymbol_bare, hps]
    rfl
  have hlist : (commaSeparatedBefore .rightParen ident).run
      (bare (listed (columns.map fun column => style.namePieces [column]) ++ symbol .rightParen :: rest)) =
        .ok (unplaced (columns.map style.restyled), bare (symbol .rightParen :: rest)) := by
    obtain ⟨column, columns, rfl⟩ := List.exists_cons_of_ne_nil hne
    have hfirst : nextToken (listed ((column :: columns).map fun column => style.namePieces [column]) ++
        symbol .rightParen :: rest) ≠ some (.symbol .rightParen) := by
      cases columns <;> simp [listed, List.intercalate_cons_cons, Style.namePieces, Ident.token]
    rw [commaSeparatedBefore, run_bind_of_ok (run_atSymbol_bare _ _), decide_eq_false hfirst,
      if_neg Bool.false_ne_true]
    have hlist : (commaSeparated ident).run
        (bare (listed ((column :: columns).map fun column => style.namePieces [column]) ++ symbol .rightParen :: rest)) =
          .ok ((column :: columns).map fun column => unplaced (style.restyled column),
            bare (symbol .rightParen :: rest)) :=
      run_commaSeparated (fun _ => True) (List.cons_ne_nil column columns)
        (fun column _ rest _ => run_ident (style.restyled column) rest) trivial trivial (by simp)
    rw [hlist, Sql.unplaced_map_list]
  rw [optionalColumnList, run_bind_of_ok hat, if_pos rfl, columnList, if_pos rfl]
  exact run_inParens hlist

/-- Behind a list of columns, which may be missing, stand assignments or a query. -/
theorem source_run_columns {ps : List Piece} {columns : List Ident} (hdefault : ¬Starts "DEFAULT" ps)
    (hselect : nextToken ps = some (.symbol .leftParen) → (bare ps)[1]?.bind (·.token.keyword?) ≠ some "SELECT")
    (hcolumns : (optionalColumnList true).run (bare ps) = .ok (columns, bare rest))
    (hrest : ∀ word ∈ ["PARTITION", "FORMAT", "SETTINGS"], ¬Starts word rest) :
    (source inner).run (bare ps) =
      (do
        if ← acceptKeyword "SET" then return { columns, assignments := ← setItems inner }
        else return { columns, query := some (← inner.query) } : Reader Source).run (bare rest) := by
  have hahead : (decide (nextToken ps = some (.symbol .leftParen)) &&
      decide ((bare ps)[1]?.bind (·.token.keyword?) = some "SELECT")) = false := by
    simpa using hselect
  rw [source, run_bind_of_ok (run_acceptKeywords_of_not hdefault), if_neg Bool.false_ne_true,
    run_bind_of_ok (run_atSymbol_bare _ _), run_bind_of_ok (show peekFurther.run (bare ps) = .ok (_, bare ps) from rfl)]
  simp only [hahead, Bool.false_eq_true, if_false]
  rw [run_bind_of_ok hcolumns, run_bind_of_ok (run_behindKeyword_of_not (hrest _ (by decide))),
    run_bind_of_ok (run_atKeyword_of_not (hrest _ (by decide))),
    run_bind_of_ok (run_atKeyword_of_not (hrest _ (by decide))), Bool.or_self, if_neg Bool.false_ne_true]

/-- A keyword starts no list of columns. -/
theorem run_optionalColumnList_keyword (word : String) (ps : List Piece) :
    (optionalColumnList true).run (bare (style.keywordPiece word :: ps)) =
      .ok ([], bare (style.keywordPiece word :: ps)) := by
  rw [optionalColumnList, run_bind_of_ok (run_atSymbol_bare _ _), decide_eq_false (by simp [Style.keywordPiece])]
  rfl

/-- The data of a statement is read from the pieces of its payload. -/
theorem run_source {payload : Payload} (h : Legible style write levels payload) (hend : EndsPayload (nextToken rest)) :
    (source (Nested.upTo (levels + 1))).run (bare (style.payloadPieces write payload ++ rest)) =
      .ok (sourceOf style payload, bare rest) := by
  have hnot {keyword word : String} (hword : word ∈ Style.keywords) (hne : word ≠ keyword) (ps : List Piece) :
      ¬Starts keyword (style.keywordPiece word :: ps) := not_starts_keyword hword hne ps
  cases payload with
  | set items =>
    obtain ⟨hne, hvalues⟩ := h
    have hword : "SET" ∈ Style.keywords := by decide
    simp only [Style.payloadPieces, List.cons_append]
    rw [source_run_columns (hnot hword (by decide) _) (by simp [Style.keywordPiece])
      (run_optionalColumnList_keyword "SET" _), run_bind_of_ok (run_acceptKeyword_keyword hword _), if_pos rfl, bare_space,
      run_bind_of_ok (run_setItems hne hvalues hend.1 hend.2.1)]
    · rfl
    · intro word hmem
      exact hnot hword (by rintro rfl; revert hmem; decide) _
  | values columns rows =>
    obtain ⟨hne, hvalues, hcolumn⟩ := h
    have hword : "VALUES" ∈ Style.keywords := by decide
    have hquery : (Nested.upTo (levels + 1)).query.run
        (bare (style.keywordPiece "VALUES" :: (space :: listed (rows.map (Style.rowPieces write)) ++ rest))) =
          .ok ({ body := .values false false (unplaced rows) }, bare rest) := run_query_rows hne hvalues hend
    -- with columns or without, what stands behind them is read in the same way
    have hsource {ps : List Piece} {columns : List Ident} (hdefault : ¬Starts "DEFAULT" ps)
        (hselect : nextToken ps = some (.symbol .leftParen) → (bare ps)[1]?.bind (·.token.keyword?) ≠ some "SELECT")
        (hcolumns : (optionalColumnList true).run (bare ps) = .ok (columns,
          bare (style.keywordPiece "VALUES" :: (space :: listed (rows.map (Style.rowPieces write)) ++ rest)))) :
        (source (Nested.upTo (levels + 1))).run (bare ps) =
          .ok ({ columns, query := some { body := .values false false (unplaced rows) } }, bare rest) := by
      rw [source_run_columns hdefault hselect hcolumns,
        run_bind_of_ok (run_acceptKeyword_of_not (hnot hword (by decide) _)),
        if_neg Bool.false_ne_true, run_bind_of_ok hquery]
      · rfl
      · intro word hmem
        exact hnot hword (by rintro rfl; revert hmem; decide) _
    cases columns with
    | nil =>
      refine hsource (hnot hword (by decide) _) ?_ (run_optionalColumnList_keyword "VALUES" _)
      simp [Style.keywordPiece, Style.payloadPieces]
    | cons column columns =>
      have hpieces : style.payloadPieces write (.values (column :: columns) rows) ++ rest =
          enclosed (listed ((column :: columns).map fun column => style.namePieces [column])) ++
            space :: style.keywordPiece "VALUES" :: (space :: listed (rows.map (Style.rowPieces write)) ++ rest) := by
        simp [Style.payloadPieces]
      rw [hpieces]
      refine hsource ?_ ?_ (run_columnList (List.cons_ne_nil column columns) _)
      · simp [enclosed, Starts, Token.keyword?]
      · intro _ hselect
        refine hcolumn column rfl ?_
        cases columns <;>
          simpa [enclosed, listed, List.intercalate_cons_cons, Style.namePieces, symbol] using hselect

/-! ## Statements -/

/-! ### The words before the table -/

/-- Words start with the first one, and behind it stand the others. -/
theorem wordPieces_cons (style : Style) (word : String) (words : List String) (rest : List Piece) :
    ∃ ps, style.wordPieces (word :: words) ++ space :: rest = style.keywordPiece word :: ps ∧
      bare ps = bare (style.wordPieces words ++ space :: rest) := by
  cases words with
  | nil => exact ⟨space :: rest, rfl, rfl⟩
  | cons word' words =>
    refine ⟨space :: (style.wordPieces (word' :: words) ++ space :: rest), ?_, rfl⟩
    simp [Style.wordPieces, List.intercalate_cons_cons]

/-- The first of some words is taken. -/
theorem run_acceptKeyword_words (style : Style) {word : String} (hword : word ∈ Style.keywords) (words : List String)
    (rest : List Piece) :
    (acceptKeyword word).run (bare (style.wordPieces (word :: words) ++ space :: rest)) =
      .ok (true, bare (style.wordPieces words ++ space :: rest)) := by
  obtain ⟨ps, hps, hbare⟩ := wordPieces_cons style word words rest
  rw [hps, run_acceptKeyword_keyword hword, hbare]

/-- Words start no keyword but the first one. -/
theorem not_starts_words (style : Style) {keyword word : String} (hword : word ∈ Style.keywords)
    (hne : word ≠ keyword) (words : List String) (rest : List Piece) :
    ¬Starts keyword (style.wordPieces (word :: words) ++ space :: rest) := by
  obtain ⟨ps, hps, -⟩ := wordPieces_cons style word words rest
  rw [hps]
  exact not_starts_keyword hword hne ps

/-- The keywords of a statement start no conflict clause. -/
theorem run_conflictClause_words {word : String} (hword : word ∈ Style.keywords) (words : List String)
    (rest : List Piece) :
    conflictClause.run (bare (style.wordPieces (word :: words) ++ space :: rest)) =
      .ok (none, bare (style.wordPieces (word :: words) ++ space :: rest)) := by
  have hother : ∀ word ∈ Style.keywords, word ≠ "OR" ∧ word ≠ "REPLACE" := by decide
  have hor (keywords : List String) :
      (acceptKeywords ("OR" :: keywords)).run (bare (style.wordPieces (word :: words) ++ space :: rest)) =
        .ok (false, bare (style.wordPieces (word :: words) ++ space :: rest)) :=
    run_acceptKeywords_of_not (not_starts_words style hword (hother word hword).1 words rest)
  have hreplace := run_acceptKeyword_of_not (not_starts_words style hword (hother word hword).2 words rest)
  rw [conflictClause, run_bind_of_ok (hor _), if_neg Bool.false_ne_true, run_bind_of_ok (hor _),
    if_neg Bool.false_ne_true, run_bind_of_ok (hor _), if_neg Bool.false_ne_true, run_bind_of_ok (hor _),
    if_neg Bool.false_ne_true, run_bind_of_ok (hor _), if_neg Bool.false_ne_true, run_bind_of_ok hreplace]
  rfl

/-- A priority is read where there is one, up to the next word. -/
theorem run_priority_words (priority : Option Priority) {word : String} (hword : word ∈ ["IGNORE", "INTO"])
    (words : List String) (rest : List Piece) :
    Reader.priority.run (bare (style.wordPieces (priority.toList.map (·.text) ++ word :: words) ++ space :: rest)) =
      .ok (priority, bare (style.wordPieces (word :: words) ++ space :: rest)) := by
  have hmem : ∀ word ∈ ["IGNORE", "INTO"], word ∈ Style.keywords ∧ word ≠ "LOW_PRIORITY" ∧ word ≠ "DELAYED" ∧
      word ≠ "HIGH_PRIORITY" := by decide
  obtain ⟨hkeyword, hlow, hdelayed, hhigh⟩ := hmem word hword
  cases priority with
  | none =>
    have hnot {keyword : String} (hne : word ≠ keyword) :=
      run_acceptKeyword_of_not (not_starts_words style hkeyword hne words rest)
    simp only [Option.toList_none, List.map_nil, List.nil_append]
    rw [Reader.priority, run_bind_of_ok (hnot hlow), if_neg Bool.false_ne_true, run_bind_of_ok (hnot hdelayed),
      if_neg Bool.false_ne_true, run_bind_of_ok (hnot hhigh)]
    rfl
  | some priority =>
    have hnot {keyword word' : String} (hword : word' ∈ Style.keywords) (hne : word' ≠ keyword) :=
      run_acceptKeyword_of_not (not_starts_words style hword hne (word :: words) rest)
    have hyes {word' : String} (hword : word' ∈ Style.keywords) :=
      run_acceptKeyword_words style hword (word :: words) rest
    simp only [Option.toList_some, List.map_cons, List.map_nil, List.singleton_append]
    cases priority with
    | low =>
      rw [Reader.priority, Priority.text, run_bind_of_ok (hyes (by decide))]
      rfl
    | delayed =>
      rw [Reader.priority, Priority.text, run_bind_of_ok (hnot (by decide) (by decide)), if_neg Bool.false_ne_true,
        run_bind_of_ok (hyes (by decide))]
      rfl
    | high =>
      rw [Reader.priority, Priority.text, run_bind_of_ok (hnot (by decide) (by decide)), if_neg Bool.false_ne_true,
        run_bind_of_ok (hnot (by decide) (by decide)), if_neg Bool.false_ne_true, run_bind_of_ok (hyes (by decide))]
      rfl

/-- The words behind the leading one are read up to the table. -/
theorem run_front_words (priority : Option Priority) (ignore : Bool) (rest : List Piece) :
    front.run (bare (style.wordPieces
        (priority.toList.map (·.text) ++ (if ignore then ["IGNORE"] else []) ++ ["INTO"]) ++ space :: rest)) =
      .ok (⟨none, priority, ignore, false, true⟩, bare rest) := by
  obtain ⟨word, words, hwords, hword⟩ : ∃ word words,
      (if ignore then ["IGNORE"] else []) ++ ["INTO"] = word :: words ∧ word ∈ ["IGNORE", "INTO"] := by
    cases ignore
    · exact ⟨"INTO", [], rfl, by decide⟩
    · exact ⟨"IGNORE", ["INTO"], rfl, by decide⟩
  have hconflict : conflictClause.run
      (bare (style.wordPieces (priority.toList.map (·.text) ++ word :: words) ++ space :: rest)) =
        .ok (none, bare (style.wordPieces (priority.toList.map (·.text) ++ word :: words) ++ space :: rest)) := by
    cases priority with
    | none => exact run_conflictClause_words ((by decide : ∀ word ∈ ["IGNORE", "INTO"], word ∈ Style.keywords) word hword) _ _
    | some priority => exact run_conflictClause_words (by cases priority <;> decide) _ _
  have hinto : (do
      let ignore ← acceptKeyword "IGNORE"
      let overwrite ← acceptKeyword "OVERWRITE"
      let into ← acceptKeyword "INTO"
      return ⟨none, priority, ignore, overwrite, into⟩ : Reader Front).run
        (bare (style.wordPieces (word :: words) ++ space :: rest)) =
      .ok (⟨none, priority, ignore, false, true⟩, bare rest) := by
    have hlast : (do
        let overwrite ← acceptKeyword "OVERWRITE"
        let into ← acceptKeyword "INTO"
        return ⟨none, priority, ignore, overwrite, into⟩ : Reader Front).run
          (bare (style.wordPieces ["INTO"] ++ space :: rest)) =
        .ok (⟨none, priority, ignore, false, true⟩, bare rest) := by
      rw [run_bind_of_ok (run_acceptKeyword_of_not (not_starts_words style (by decide) (by decide) _ _)),
        run_bind_of_ok (run_acceptKeyword_words style (by decide) _ _)]
      rfl
    cases ignore with
    | true =>
      cases hwords
      rw [run_bind_of_ok (run_acceptKeyword_words style (by decide) _ _)]
      exact hlast
    | false =>
      cases hwords
      rw [run_bind_of_ok (run_acceptKeyword_of_not (not_starts_words style (by decide) (by decide) _ _))]
      exact hlast
  rw [List.append_assoc, hwords, front, run_bind_of_ok hconflict,
    run_bind_of_ok (run_priority_words priority hword _ _)]
  exact hinto

/-! ### What is updated -/

/-- Keywords that were written are taken one after the other. -/
theorem run_expectKeywords_words {words : List String} (hwords : ∀ word ∈ words, word ∈ Style.keywords)
    (rest : List Piece) :
    (expectKeywords words).run (bare (style.wordPieces words ++ space :: rest)) = .ok ((), bare rest) := by
  induction words with
  | nil => rfl
  | cons word words ih =>
    obtain ⟨hword, hwords⟩ := List.forall_mem_cons.mp hwords
    have hexpect : (expectKeyword word).run (bare (style.wordPieces (word :: words) ++ space :: rest)) =
        .ok ((), bare (style.wordPieces words ++ space :: rest)) := by
      rw [expectKeyword, run_bind_of_ok (run_acceptKeyword_words style hword words rest)]
      rfl
    rw [expectKeywords, run_bind_of_ok hexpect, ih hwords]

/-- Whether a token, or the end of a text, ends a statement. -/
def EndsStatement (t : Option Token) : Prop :=
  t = none ∨ t = some (.symbol .semicolon)

/-- What ends a statement ends its payload. -/
theorem EndsStatement.endsPayload {t : Option Token} (h : EndsStatement t) : EndsPayload t := by
  obtain rfl | rfl := h
  · exact ⟨trivial, by simp, by simp⟩
  · exact ⟨.inr (.inr rfl), by simp, by simp⟩

/-- What ends a statement starts no clause. -/
theorem EndsStatement.not_starts {keyword : String} (h : EndsStatement (nextToken rest)) : ¬Starts keyword rest := by
  unfold Starts
  obtain h | h := h <;> simp [h, Token.keyword?]

/-- What is written about rows that are there already, piece by piece. -/
def updatesPieces (style : Style) (write : Expr → List Piece) (updates : List Assignment) : List Piece :=
  if updates.isEmpty then []
  else
    space :: style.wordPieces ["ON", "DUPLICATE", "KEY", "UPDATE"] ++
      space :: listed (updates.map (style.assignmentPieces write))

/-- What is done about rows that are there already, as it is read. -/
def updatesOf (style : Style) (updates : List Assignment) : Option OnInsert :=
  if updates.isEmpty then none else some (.duplicateKeyUpdate (updates.map (restyledItem style)))

/-- The assignments of an upsert are read, where there are any. -/
theorem run_updates {updates : List Assignment}
    (hvalues : ∀ item ∈ updates, ReadsBack levels item.value (write item.value)) (hend : EndsStatement (nextToken rest)) :
    (behindKeyword "ON" (restOfOn (Nested.upTo levels))).run (bare (updatesPieces style write updates ++ rest)) =
      .ok (updatesOf style updates, bare rest) := by
  cases updates with
  | nil => exact run_behindKeyword_of_not hend.not_starts
  | cons item items =>
    have hpieces : updatesPieces style write (item :: items) ++ rest =
        space :: (style.wordPieces ["ON", "DUPLICATE", "KEY", "UPDATE"] ++
          space :: (listed ((item :: items).map (style.assignmentPieces write)) ++ rest)) := by
      simp [updatesPieces]
    have hrest : (restOfOn (Nested.upTo levels)).run (bare (style.wordPieces ["DUPLICATE", "KEY", "UPDATE"] ++
        space :: (listed ((item :: items).map (style.assignmentPieces write)) ++ rest))) =
          .ok (.duplicateKeyUpdate ((item :: items).map (restyledItem style)), bare rest) := by
      rw [restOfOn, run_bind_of_ok (run_acceptKeyword_of_not (not_starts_words style (by decide) (by decide) _ _)),
        if_neg Bool.false_ne_true, run_bind_of_ok (run_expectKeywords_words (by decide) _),
        run_bind_of_ok (run_setItems (List.cons_ne_nil _ _) hvalues hend.endsPayload.1 hend.endsPayload.2.1)]
      rfl
    rw [hpieces, bare_space, behindKeyword, run_bind_of_ok (run_acceptKeyword_words style (by decide) _ _), if_pos rfl,
      run_bind_of_ok hrest]
    rfl

/-- An upsert ends the payload before it, and without one the end of the statement does. -/
theorem endsPayload_updates (style : Style) (write : Expr → List Piece) (updates : List Assignment)
    (hend : EndsStatement (nextToken rest)) :
    EndsPayload (nextToken (updatesPieces style write updates ++ rest)) := by
  cases updates with
  | nil => exact hend.endsPayload
  | cons item items =>
    have hword : (Token.word (style.keyword "ON") none).keyword? = some "ON" := starts_keyword (by decide) []
    have hnext : nextToken (updatesPieces style write (item :: items) ++ rest) =
        some (.word (style.keyword "ON") none) := rfl
    rw [hnext]
    exact ⟨hword, by simp, by simp⟩

/-! ### The whole -/

/-- A statement on a table of this name, as it is read. -/
def nodeOf (style : Style) (statement : Insert) (table : List Ident) : Insertion where
  lead := some (style.keyword "INSERT")
  replaces := false
  conflict := none
  priority := statement.priority
  ignore := statement.ignore
  overwrite := false
  into := true
  tableWord := false
  target := .table (.ofIdents (unplaced (table.map style.restyled)))
  tableAlias := none
  columns := (sourceOf style statement.payload).columns
  partition := (sourceOf style statement.payload).partition
  assignments := (sourceOf style statement.payload).assignments
  source := (sourceOf style statement.payload).query
  rowAlias := none
  onInsert := updatesOf style statement.onDuplicateUpdate
  returning := none

/-- Whether the pieces of a statement on a table of this name are read as the statement: its payload is, its
table is not taken for a word that may stand before a table, and its updates are read. -/
structure LegibleStatement (style : Style) (write : Expr → List Piece) (levels : Nat) (statement : Insert)
    (table : List Ident) : Prop where
  table_ne : table ≠ []
  table_word : ∀ name ∈ table.head?, ∀ word ∈ ["LOCAL", "DIRECTORY", "TABLE"],
    (style.restyled name).token.keyword? ≠ some word
  payload : Legible style write levels statement.payload
  updates : ∀ item ∈ statement.onDuplicateUpdate, ReadsBack (levels + 1) item.value (write item.value)

/-- All that stands behind the words before the table is read. -/
theorem run_restOfInsertion {statement : Insert} {table : List Ident} {front : Front} {lead : Option String}
    (h : LegibleStatement style write levels statement table) (hend : EndsStatement (nextToken rest)) :
    (restOfInsertion (Nested.upTo (levels + 1)) lead false front).run
        (bare (style.namePieces table ++ space :: (style.payloadPieces write statement.payload ++
          (updatesPieces style write statement.onDuplicateUpdate ++ rest)))) =
      .ok (.insert
        { nodeOf style statement table with
          lead
          conflict := front.conflict
          priority := front.priority
          ignore := front.ignore
          overwrite := front.overwrite
          into := front.into }, bare rest) := by
  have hpayload := endsPayload_updates style write statement.onDuplicateUpdate hend
  have hnext : nextToken (space :: (style.payloadPieces write statement.payload ++
      (updatesPieces style write statement.onDuplicateUpdate ++ rest))) ≠ some (.symbol .period) := by
    cases statement.payload with
    | set items => simp [Style.payloadPieces, Style.keywordPiece]
    | values columns rows => cases columns <;> simp [Style.payloadPieces, Style.keywordPiece, enclosed]
  have hword : ∀ word ∈ ["LOCAL", "DIRECTORY", "TABLE"], ¬Starts word (style.namePieces table ++ space ::
      (style.payloadPieces write statement.payload ++
        (updatesPieces style write statement.onDuplicateUpdate ++ rest))) := by
    intro word hmem hstarts
    obtain ⟨name, hname, htoken⟩ := nextToken_namePieces style h.table_ne (space ::
      (style.payloadPieces write statement.payload ++
        (updatesPieces style write statement.onDuplicateUpdate ++ rest)))
    rw [Starts, htoken] at hstarts
    exact h.table_word name hname word hmem hstarts
  have halias : ¬Starts "AS" (updatesPieces style write statement.onDuplicateUpdate ++ rest) :=
    hpayload.not_starts (by decide)
  rw [restOfInsertion, run_bind_of_ok (run_acceptKeyword_of_not (hword _ (by decide))),
    run_bind_of_ok (run_acceptKeyword_of_not (hword _ (by decide))), if_neg Bool.false_ne_true,
    run_bind_of_ok (run_acceptKeyword_of_not (hword _ (by decide))),
    run_bind_of_ok (run_dottedName style h.table_ne hnext), bare_space, run_bind_of_ok (run_source h.payload hpayload),
    rowAlias, run_bind_of_ok (run_behindKeyword_of_not halias), run_bind_of_ok (run_updates h.updates hend), returning,
    run_bind_of_ok (run_behindKeyword_of_not hend.not_starts)]
  rfl

/-- How many levels may be left for a value in a row of a statement. -/
def rowLevels : Nat := 48

/-- The pieces of a statement are read as the statement, up to the semicolon behind it. -/
theorem run_statement?_pieces {statement : Insert} {table : List Ident}
    (h : LegibleStatement style write rowLevels statement table) (hend : EndsStatement (nextToken rest)) :
    statement?.run (bare (style.insertPieces write statement table ++ rest)) =
      .ok (some (.insert (nodeOf style statement table)), bare rest) := by
  have hpieces : style.insertPieces write statement table ++ rest =
      style.wordPieces (Style.frontWords statement) ++ space :: (style.namePieces table ++ space ::
        (style.payloadPieces write statement.payload ++
          (updatesPieces style write statement.onDuplicateUpdate ++ rest))) := by
    simp [Style.insertPieces, updatesPieces]
  obtain ⟨ps, hps, hbare⟩ := wordPieces_cons style "INSERT"
    (statement.priority.toList.map (·.text) ++ (if statement.ignore then ["IGNORE"] else []) ++ ["INTO"])
    (style.namePieces table ++ space :: (style.payloadPieces write statement.payload ++
      (updatesPieces style write statement.onDuplicateUpdate ++ rest)))
  have hwords : Style.frontWords statement = "INSERT" ::
      (statement.priority.toList.map (·.text) ++ (if statement.ignore then ["IGNORE"] else []) ++ ["INTO"]) := by
    simp [Style.frontWords]
  have hlead : (Token.word (style.keyword "INSERT") none).keyword? = some "INSERT" := starts_keyword (by decide) []
  rw [hpieces, hwords, hps, Style.keywordPiece, Lexeme.bare_token, hbare,
    run_statement?_insert hlead (run_front_words statement.priority statement.ignore _)]
  change Except.map _ ((restOfInsertion (Nested.upTo (rowLevels + 1)) _ false _).run _) = _
  rw [run_restOfInsertion h hend]
  rfl

end Reader
end InsertPivot.Sql
