import InsertPivot.Proofs.Climbing
import InsertPivot.Proofs.Narrowing

/-!
# Statements that are read as they were written

Statements that are written one behind the other, with semicolons between them, are read as the statements
that they were, in the letter case and with the quotes that they were written with. What is needed of them
is collected in `Insert.Legible`: there is something to insert, names and values are read as they are
written, and values stand not too deep in one another.
-/

namespace InsertPivot

open Sql (Name Ident Expr NamePart Insertion Token unplaced unplaced_unplaced_list unplaced_unplaced_idents)
open Sql.Lexeme (Piece Block bare kinds symbol space spell)

/-! ## Trees without places have no places -/

/-- Assignments without places have none to lose, if their values have none. -/
theorem unplaced_unplaced_assignments {items : List Assignment}
    (h : ∀ item ∈ items, item.value.unplaced.unplaced = item.value.unplaced) :
    unplaced (unplaced items) = unplaced items :=
  unplaced_unplaced_list fun item hmem => by
    obtain ⟨qualifier, column, value⟩ := item
    rw [unplaced_assignment, unplaced_assignment, unplaced_unplaced_idents, h _ hmem]
    rfl

/-! ## What a style makes of a statement -/

namespace Style

variable (style : Style)

/-- A part of a name as it is written. A part that is computed is written like a value. -/
def restyledPart : NamePart → NamePart
  | .ident name => .ident (style.restyled name)
  | .call name arguments => .call name arguments

/-- An assignment as it is written. -/
def restyledAssignment (item : Assignment) : Assignment :=
  ⟨item.qualifier.map style.restyled, style.restyled item.column, item.value⟩

/-- A payload as it is written. -/
def restyledPayload : Payload → Payload
  | .set items => .set (items.map style.restyledAssignment)
  | .values columns rows => .values (columns.map style.restyled) rows

/-- A statement as it is written: its keywords have the letter case of the style, and its names the quotes
that the style gives them. -/
def restyledInsert (statement : Insert) : Insert where
  keywordCase := style.letterCase
  priority := statement.priority
  ignore := statement.ignore
  table := statement.table.map style.restyledPart
  payload := style.restyledPayload statement.payload
  onDuplicateUpdate := statement.onDuplicateUpdate.map style.restyledAssignment

/-- A style changes a name part by part. -/
theorem restyledPart_ofIdents (parts : List Ident) :
    (Name.ofIdents parts).map style.restyledPart = Name.ofIdents (parts.map style.restyled) := by
  simp [Name.ofIdents, restyledPart]

end Style

namespace Insert

variable {style : Style} {write : Expr → List Piece}

/-- An assignment in a style carries the one that is read. -/
theorem carries_restyledItem (item : Assignment) :
    Assignment.Carries (unplaced (style.restyledAssignment item)) (Sql.Reader.restyledItem style item) := by
  refine ⟨?_, rfl⟩
  simp [Sql.Reader.restyledItem, Assignment.names, Style.restyledAssignment, unplaced]

/-- Assignments in a style carry those that are read. -/
theorem carryAll_restyledItems (items : List Assignment) :
    Assignment.CarryAll (unplaced (items.map style.restyledAssignment)) (items.map (Sql.Reader.restyledItem style)) := by
  induction items with
  | nil => exact .nil
  | cons item items ih => exact .cons (carries_restyledItem item) ih

/-- The node that a written statement is read as is narrowed to the statement as it was written. -/
theorem ofInsertion_nodeOf {statement : Insert} {table : List Ident} (htable : statement.table = Name.ofIdents table) :
    ofInsertion (Sql.Reader.nodeOf style statement table) = .ok (unplaced (style.restyledInsert statement)) := by
  have hpartition : (Sql.Reader.sourceOf style statement.payload).partition = none := by
    cases statement.payload <;> rfl
  have hcase : ∀ letterCase : LetterCase, leadCase (some (letterCase.keyword "INSERT")) = letterCase := by
    intro letterCase
    cases letterCase <;> decide
  have hname : unplaced (statement.table.map style.restyledPart) =
      Name.ofIdents (unplaced (table.map style.restyled)) := by
    rw [htable, Style.restyledPart_ofIdents, Name.ofIdents_unplaced]
  have hpayload : Payload.Carries (Sql.Reader.nodeOf style statement table)
      (unplaced (style.restyledPayload statement.payload)) := by
    simp only [Sql.Reader.nodeOf]
    cases statement.payload with
    | set items => exact ⟨rfl, carryAll_restyledItems items⟩
    | values columns rows => exact ⟨rfl, _, false, false, rfl, rfl⟩
  have hupdates : Assignment.CarryUpdates (unplaced (statement.onDuplicateUpdate.map style.restyledAssignment))
      (Sql.Reader.updatesOf style statement.onDuplicateUpdate) := by
    cases statement.onDuplicateUpdate with
    | nil => rfl
    | cons item items => exact carryAll_restyledItems (item :: items)
  refine (ofInsertion_eq_ok_iff _ _).mpr ⟨⟨rfl, rfl, hpartition, rfl⟩, ?_⟩
  exact ⟨congrArg _ hname.symm, (hcase _).symm, rfl, rfl, hpayload, hupdates⟩

end Insert

/-! ## Legible statements -/

/-- Whether what a statement inserts is read as it is written: there is something to list, values stand not
too deep in one another, and the first column is not taken for the start of a query. A row may hold one level
less than an assignment, for it is part of a query. -/
def Payload.Legible : Payload → Prop
  | .set items => items ≠ [] ∧ ∀ item ∈ items, item.value.Legible Sql.Reader.rowLevels 0
  | .values columns rows =>
    rows ≠ [] ∧ (∀ row ∈ rows, ∀ value ∈ row, value.Legible (Sql.Reader.rowLevels - 1) 0) ∧
      ∀ column ∈ columns.head?, column.token.keyword? ≠ some "SELECT"

/-- The identifiers that the name of a statement's table consists of. -/
def Insert.tableParts (statement : Insert) : List Ident :=
  statement.table.filterMap fun
    | .ident name => some name
    | .call _ _ => none

/-- Whether a statement is read as it is written: its names are words or stand in backticks, its table is not
taken for a word that may stand before a table, and its values and assignments are read as they are written. -/
structure Insert.Legible (statement : Insert) : Prop where
  table : statement.table = Name.ofIdents statement.tableParts
  table_ne : statement.tableParts ≠ []
  table_names : ∀ name ∈ statement.tableParts, name.Whole
  table_word : ∀ name ∈ statement.tableParts.head?, ∀ word ∈ ["LOCAL", "DIRECTORY", "TABLE"],
    name.token.keyword? ≠ some word
  names : ∀ name ∈ statement.columnNames, name.Whole
  payload : statement.payload.Legible
  updates : ∀ item ∈ statement.onDuplicateUpdate, item.value.Legible Sql.Reader.rowLevels 0

/-- A style makes no name a keyword. -/
theorem Style.keyword?_restyled (style : Style) {name : Ident} {word : String}
    (h : (style.restyled name).token.keyword? = some word) : name.token.keyword? = some word := by
  unfold restyled at h
  split at h
  · cases h
  · exact h

/-- All values of a legible payload are legible. -/
theorem Payload.Legible.forall_value {payload : Payload} (h : payload.Legible) :
    ∀ value ∈ payload.allValues, ∃ levels, value.Legible levels 0 := by
  intro value hmem
  cases payload with
  | set items =>
    obtain ⟨item, hitem, rfl⟩ := List.mem_map.mp hmem
    exact ⟨_, h.2 item hitem⟩
  | values columns rows =>
    obtain ⟨row, hrow, hvalue⟩ := List.mem_flatten.mp hmem
    exact ⟨_, h.2.1 row hrow value hvalue⟩

/-- A legible payload can be read, in any style. -/
theorem Payload.Legible.read {payload : Payload} (h : payload.Legible) (style : Style) :
    Sql.Reader.Legible style Expr.pieces Sql.Reader.rowLevels payload := by
  cases payload with
  | set items => exact ⟨h.1, fun item hmem => (h.2 item hmem).readsBack⟩
  | values columns rows =>
    refine ⟨h.1, fun row hrow value hvalue => (h.2.1 row hrow value hvalue).readsBack, fun column hmem hselect => ?_⟩
    exact h.2.2 column hmem (style.keyword?_restyled hselect)

namespace Insert

variable {statement : Insert}

/-- All values of a legible statement are legible. -/
theorem Legible.forall_value (h : statement.Legible) :
    ∀ value ∈ statement.allValues, ∃ levels, value.Legible levels 0 := by
  intro value hmem
  obtain hmem | hmem := List.mem_append.mp hmem
  · exact h.payload.forall_value value hmem
  · obtain ⟨item, hitem, rfl⟩ := List.mem_map.mp hmem
    exact ⟨_, h.updates item hitem⟩

/-- The values of a legible statement are written as their pieces. -/
theorem Legible.written (h : statement.Legible) : ∀ value ∈ statement.allValues, Written value value.pieces := by
  intro value hmem
  obtain ⟨_, hvalue⟩ := h.forall_value value hmem
  exact hvalue.written

/-- A legible statement can be read, in any style. -/
theorem Legible.read (h : statement.Legible) (style : Style) :
    Sql.Reader.LegibleStatement style Expr.pieces Sql.Reader.rowLevels statement statement.tableParts where
  table_ne := h.table_ne
  table_word name hname word hword hkeyword := h.table_word name hname word hword (style.keyword?_restyled hkeyword)
  payload := h.payload.read style
  updates item hmem := (h.updates item hmem).readsBack

/-- A statement, piece by piece. -/
def pieces (statement : Insert) (format : Format) : List Piece :=
  (format.style statement.keywordCase).insertPieces Expr.pieces statement statement.tableParts

/-- A statement as it is written, as a tree. -/
def restyled (statement : Insert) (format : Format) : Insert :=
  (format.style statement.keywordCase).restyledInsert statement

/-- A legible statement is written as its pieces. -/
theorem Legible.toList_text (h : statement.Legible) (format : Format) :
    (statement.text format).toList = spell (statement.pieces format) :=
  (format.style statement.keywordCase).toList_insert h.table h.table_names h.names h.written

/-- The pieces of a legible statement are a block. -/
theorem Legible.block (h : statement.Legible) (format : Format) : Block (statement.pieces format) :=
  (format.style statement.keywordCase).insertPieces_block h.table_names h.names h.written

/-- The node that a statement is read as where it has been written. -/
def node (statement : Insert) (format : Format) : Insertion :=
  Sql.Reader.nodeOf (format.style statement.keywordCase) statement statement.tableParts

/-- A legible statement is read from its pieces, up to what ends it. -/
theorem Legible.run_statement? (h : statement.Legible) (format : Format) {rest : List Piece}
    (hend : Sql.Reader.EndsStatement (Sql.nextToken rest)) :
    Sql.Reader.statement?.run (bare (statement.pieces format ++ rest)) =
      .ok (some (.insert (statement.node format)), bare rest) :=
  Sql.Reader.run_statement?_pieces (h.read _) hend

/-- The style of a legible statement brings no places back. -/
theorem Legible.unplaced_restyled (h : statement.Legible) (format : Format) :
    unplaced (unplaced (statement.restyled format)) = unplaced (statement.restyled format) := by
  have hvalues : ∀ value ∈ statement.allValues, value.unplaced.unplaced = value.unplaced := by
    intro value hmem
    obtain ⟨_, hvalue⟩ := h.forall_value value hmem
    exact hvalue.unplaced_unplaced
  have hitems {items : List Assignment} (hvalues : ∀ item ∈ items, item.value.unplaced.unplaced = item.value.unplaced)
      (style : Style) : unplaced (unplaced (items.map style.restyledAssignment)) =
        unplaced (items.map style.restyledAssignment) :=
    unplaced_unplaced_assignments fun item hmem => by
      obtain ⟨item, hitem, rfl⟩ := List.mem_map.mp hmem
      exact hvalues item hitem
  have htable (style : Style) : unplaced (unplaced (statement.table.map style.restyledPart)) =
      unplaced (statement.table.map style.restyledPart) := by
    rw [h.table, Style.restyledPart_ofIdents, ← Name.ofIdents_unplaced, ← Name.ofIdents_unplaced,
      unplaced_unplaced_idents]
  have hpayload (style : Style) : unplaced (unplaced (style.restyledPayload statement.payload)) =
      unplaced (style.restyledPayload statement.payload) := by
    have hvalues : ∀ value ∈ statement.payload.allValues, value.unplaced.unplaced = value.unplaced :=
      fun value hmem => hvalues value (List.mem_append_left _ hmem)
    cases hpayload : statement.payload with
    | set items =>
      rw [hpayload] at hvalues
      exact congrArg Payload.set (hitems (fun item hmem => hvalues _ (List.mem_map_of_mem hmem)) style)
    | values columns rows =>
      rw [hpayload] at hvalues
      have hrows : unplaced (unplaced rows) = unplaced rows :=
        unplaced_unplaced_list fun row hrow => unplaced_unplaced_list fun value hvalue =>
          hvalues value (List.mem_flatten_of_mem hrow hvalue)
      exact congrArg₂ Payload.values (unplaced_unplaced_idents _) hrows
  have hupdates := hitems (fun item hmem => hvalues item.value (List.mem_append_right _ (List.mem_map_of_mem hmem)))
    (format.style statement.keywordCase)
  rw [restyled, Style.restyledInsert]
  simp only [unplaced_insert, htable, hpayload, hupdates]

/-- What is read from a legible statement narrows to the statement in its style. -/
theorem Legible.ofInsertion_node (h : statement.Legible) (format : Format) :
    ofInsertion (statement.node format) = .ok (unplaced (statement.restyled format)) :=
  ofInsertion_nodeOf h.table

end Insert

/-! ## Statement behind statement -/

/-- The pieces between two statements. -/
def separator : List Piece :=
  [symbol .semicolon, .blank (.space '\n')]

/-- Semicolons are counted among the pieces as among the lexemes. -/
theorem countP_isSemicolon_bare (ps : List Piece) :
    (bare ps).countP Sql.Reader.isSemicolon = (ps.filterMap Piece.token?).countP (· = .symbol .semicolon) := by
  induction ps with
  | nil => rfl
  | cons p ps ih =>
    cases p with
    | token t => simp [Sql.Lexeme.bare_token, ih, Piece.token?, List.countP_cons, Sql.Reader.isSemicolon]
    | blank b => exact ih

/-- Between any two statements stands a semicolon. -/
theorem length_le_countP_isSemicolon (pss : List (List Piece)) (rest : List Piece) :
    pss.length ≤ (bare (separator.intercalate pss ++ rest)).countP Sql.Reader.isSemicolon + 1 := by
  match pss with
  | [] => simp
  | [_] => simp
  | ps :: qs :: pss =>
    have ih := length_le_countP_isSemicolon (qs :: pss) rest
    rw [List.intercalate_cons_cons]
    simp only [countP_isSemicolon_bare, List.filterMap_append, List.countP_append, List.length_cons] at ih ⊢
    have hseparator : (separator.filterMap Piece.token?).countP (· = .symbol .semicolon) = 1 := rfl
    omega

/-- Blocks with separators between them are a block. -/
theorem block_separated {pss : List (List Piece)} (h : ∀ ps ∈ pss, Block ps) : Block (separator.intercalate pss) := by
  match pss with
  | [] => exact .nil
  | [ps] => simpa using h ps
  | ps :: qs :: pss =>
    have hps : Block ps := h ps List.mem_cons_self
    have hrest := block_separated fun qs' hmem => h qs' (List.mem_cons_of_mem ps hmem)
    have hsemicolon : Block [symbol .semicolon] := .symbol (by decide)
    have hline := hrest.blank_cons (b := .space '\n') (.inr rfl)
    have hbehind : Block (symbol .semicolon :: .blank (.space '\n') :: separator.intercalate (qs :: pss)) :=
      hsemicolon.append_separator hline (by simp [Piece.chars, Sql.Blank.text, Sql.Lexeme.separators]) fun _ => trivial
    rw [List.intercalate_cons_cons, List.append_assoc]
    exact hps.append_separator hbehind
      (by simp [symbol, Piece.chars, Token.text, Sql.Symbol.text, Sql.Lexeme.separators]) fun _ => trivial

/-- A semicolon is taken between statements. -/
theorem run_goesOn_semicolon (rest : List Piece) :
    Sql.Reader.goesOn.run (bare (symbol .semicolon :: rest)) = .ok (true, bare rest) := by
  rw [Sql.Reader.goesOn, Sql.Reader.run_bind_of_ok (Sql.Reader.run_acceptSymbol_symbol _ _)]
  rfl

/-- Whether some pieces may stand behind the last statement: nothing, or a semicolon. -/
def IsEnding (ps : List Piece) : Prop :=
  ps = [] ∨ ps = [symbol .semicolon]

/-- What may stand behind the last statement ends it. -/
theorem IsEnding.endsStatement {ending : List Piece} (h : IsEnding ending) :
    Sql.Reader.EndsStatement (Sql.nextToken ending) := by
  obtain rfl | rfl := h
  · exact .inl rfl
  · exact .inr rfl

/-- Legible statements are read one by one. -/
theorem run_statementSteps (format : Format) {statements : List Insert} {ending : List Piece}
    (hending : IsEnding ending)
    (hne : statements ≠ []) (h : ∀ statement ∈ statements, statement.Legible) {bound : Nat}
    (hbound : statements.length ≤ bound) :
    (Sql.Reader.statementSteps bound).run (bare (separator.intercalate (statements.map (·.pieces format)) ++ ending)) =
      .ok (statements.map fun statement => .insert (statement.node format), []) := by
  -- on the statements: the last one is followed by the ending, the others by a separator
  match statements, bound with
  | [], _ => exact absurd rfl hne
  | _ :: _, 0 => simp at hbound
  | [statement], bound + 1 =>
    have hfirst := (h statement (by simp)).run_statement? format hending.endsStatement
    obtain rfl | rfl := hending
    · have hgoesOn : Sql.Reader.goesOn.run (bare []) = .ok (false, bare []) := rfl
      rw [List.map_singleton, List.intercalate_singleton, Sql.Reader.statementSteps, Sql.Reader.run_bind_of_ok hfirst,
        Sql.Reader.run_bind_of_ok hgoesOn]
      rfl
    · have hbehind : (Sql.Reader.statementSteps bound).run (bare []) = .ok ([], []) := by
        cases bound <;> rfl
      rw [List.map_singleton, List.intercalate_singleton, Sql.Reader.statementSteps, Sql.Reader.run_bind_of_ok hfirst,
        Sql.Reader.run_bind_of_ok (run_goesOn_semicolon _), if_pos rfl, Sql.Reader.run_bind_of_ok hbehind]
      rfl
  | statement :: statement' :: statements, bound + 1 =>
    have hbound : (statement' :: statements).length ≤ bound := by simpa using hbound
    have ih := run_statementSteps format hending (List.cons_ne_nil statement' statements)
      (fun s hmem => h s (List.mem_cons_of_mem statement hmem)) hbound
    have hpieces : separator.intercalate ((statement :: statement' :: statements).map (·.pieces format)) ++ ending =
        statement.pieces format ++ symbol .semicolon :: .blank (.space '\n') ::
          (separator.intercalate ((statement' :: statements).map (·.pieces format)) ++ ending) := by
      simp [List.intercalate_cons_cons, separator]
    have hfirst := (h statement (by simp)).run_statement? format (.inr (Sql.nextToken_symbol .semicolon
      (.blank (.space '\n') :: (separator.intercalate ((statement' :: statements).map (·.pieces format)) ++ ending))))
    rw [hpieces, Sql.Reader.statementSteps, Sql.Reader.run_bind_of_ok hfirst,
      Sql.Reader.run_bind_of_ok (run_goesOn_semicolon _),
      if_pos rfl, Sql.Lexeme.bare_blank, Sql.Reader.run_bind_of_ok ih]
    rfl

/-! ## The round trip -/

/-- A piece that can be written is no comment. -/
theorem not_isExecutableComment {piece : Piece} (h : piece.Whole) : isExecutableComment piece = false := by
  cases piece with
  | token t => rfl
  | blank b => obtain rfl | rfl := h <;> rfl

namespace Insert

variable {statements : List Insert}

/-- The pieces of legible statements are read as the statements in their style, without places. -/
theorem reads_pieces (format : Format) {ending : List Piece} (hending : IsEnding ending)
    (h : ∀ statement ∈ statements, statement.Legible) :
    Reads (bare (separator.intercalate (statements.map (·.pieces format)) ++ ending))
      (unplaced (statements.map (·.restyled format))) := by
  refine ⟨statements.map (·.node format), ?_, ?_⟩
  · by_cases hne : statements = []
    · subst hne
      obtain rfl | rfl := hending
      · rfl
      · rfl
    · have hbound := length_le_countP_isSemicolon (statements.map (·.pieces format)) ending
      rw [List.length_map] at hbound
      rw [Sql.Statement.ofLexemes, run_statementSteps format hending hne h hbound, List.map_map]
      rfl
  · rw [mapM_eq_ok_iff]
    induction statements with
    | nil => exact .nil
    | cons statement statements ih =>
      obtain ⟨hfirst, hrest⟩ := List.forall_mem_cons.mp h
      exact .cons (hfirst.ofInsertion_node format) (ih hrest)

/-- Legible statements that are written one behind the other are read as what they were, in the letter case
and with the quotes that the options ask for. A semicolon may stand behind the last. -/
theorem readInserts_texts (format : Format) {ending : List Piece} (hending : IsEnding ending)
    (h : ∀ statement ∈ statements, statement.Legible) :
    ∃ found, readInserts (";\n".intercalate (statements.map (·.text format)) ++ String.ofList (spell ending)) =
      .ok found ∧
      unplaced found = unplaced (statements.map (·.restyled format)) := by
  have hstatements : Block (separator.intercalate (statements.map (·.pieces format))) := by
    refine block_separated fun ps hmem => ?_
    obtain ⟨statement, hstatement, rfl⟩ := List.mem_map.mp hmem
    exact (h statement hstatement).block format
  have hblock : Block (separator.intercalate (statements.map (·.pieces format)) ++ ending) := by
    obtain rfl | rfl := hending
    · simpa using hstatements
    · exact hstatements.append_separator (.symbol (by decide))
        (by simp [symbol, Piece.chars, Token.text, Sql.Symbol.text, Sql.Lexeme.separators]) fun _ => trivial
  have htext : (";\n".intercalate (statements.map (·.text format)) ++ String.ofList (spell ending)).toList =
      spell (separator.intercalate (statements.map (·.pieces format)) ++ ending) := by
    have htexts : (statements.map (·.text format)).map String.toList =
        (statements.map (·.pieces format)).map spell := by
      rw [List.map_map, List.map_map]
      exact List.map_congr_left fun statement hmem => (h statement hmem).toList_text format
    rw [String.toList_append, String.toList_ofList, String.toList_intercalate, htexts, Sql.Lexeme.spell_append,
      spell_intercalate]
    rfl
  have hcomments : (separator.intercalate (statements.map (·.pieces format)) ++ ending).any isExecutableComment =
      false :=
    List.any_eq_false.mpr fun piece hmem => by simp [not_isExecutableComment (hblock.whole piece hmem)]
  obtain ⟨found, hfound, hsame⟩ := readInserts_of_reads (htext ▸ hblock.kinds) hcomments (reads_pieces format hending h)
  refine ⟨found, hfound, hsame.trans ?_⟩
  exact unplaced_unplaced_list fun statement hmem => by
    obtain ⟨statement, hstatement, rfl⟩ := List.mem_map.mp hmem
    exact (h statement hstatement).unplaced_restyled format

end Insert
end InsertPivot
