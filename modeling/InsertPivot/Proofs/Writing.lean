import InsertPivot.Insert.Format
import InsertPivot.Proofs.Spelling

/-!
# A written statement, token by token

The text of a statement is put together from tokens and blanks. Here these are listed for the skeleton of a
statement: its keywords, names and lists. How a value is put together is left open: `write` lists the pieces
of each value, and `Written` says that they are what its text consists of.

So the text of a statement is cut into the pieces listed here, as long as its names are words or stand in
backticks.
-/

namespace InsertPivot

open Sql (Token Symbol Ident Expr Blank IsName isName_iff)
open Sql.Lexeme

/-! ## Lists of pieces -/

/-- Pieces joined by a comma and a blank. -/
def listed (pss : List (List Piece)) : List Piece :=
  [symbol .comma, space].intercalate pss

/-- Pieces in parentheses. -/
def enclosed (ps : List Piece) : List Piece :=
  symbol .leftParen :: ps ++ [symbol .rightParen]

/-- Behind the opening parenthesis stand the pieces, then the closing one. -/
theorem enclosed_append (ps rest : List Piece) :
    enclosed ps ++ rest = symbol .leftParen :: (ps ++ symbol .rightParen :: rest) := by
  simp [enclosed]

/-- Pieces with separators between them are spelled with the separators between them. -/
theorem spell_intercalate (sep : List Piece) (pss : List (List Piece)) :
    spell (sep.intercalate pss) = (spell sep).intercalate (pss.map spell) := by
  match pss with
  | [] => rfl
  | [ps] => simp
  | ps :: qs :: pss =>
    rw [List.intercalate_cons_cons, spell_append, spell_append, spell_intercalate sep (qs :: pss)]
    simp [List.intercalate_cons_cons]

/-- Texts are listed as their pieces are. -/
theorem toList_commas {texts : List String} {pss : List (List Piece)} (h : texts.map String.toList = pss.map spell) :
    (Sql.commas texts).toList = spell (listed pss) := by
  rw [Sql.commas, String.toList_intercalate, h, listed, spell_intercalate]
  rfl

/-- A text in parentheses is spelled as its pieces in parentheses. -/
theorem toList_parenthesized {text : String} {ps : List Piece} (h : text.toList = spell ps) :
    ("(" ++ text ++ ")").toList = spell (enclosed ps) := by
  simp [enclosed, h, symbol, Piece.chars, Token.text, Symbol.text]

/-- Blocks with commas between them are a block. -/
theorem block_listed {pss : List (List Piece)} (h : ∀ ps ∈ pss, Block ps) : Block (listed pss) := by
  match pss with
  | [] => exact .nil
  | [ps] => simpa [listed] using h ps
  | ps :: qs :: pss =>
    have hrest := block_listed fun qs' hmem => h qs' (List.mem_cons_of_mem ps hmem)
    rw [listed, List.intercalate_cons_cons, List.append_assoc]
    exact (h ps List.mem_cons_self).comma hrest

/-- Tokens with a blank before each. -/
def spaced (tokens : List Token) : List Piece :=
  tokens.flatMap fun t => [space, .token t]

/-- Words as tokens. -/
def wordTokens (words : List String) : List Token :=
  words.map (.word · none)

@[simp] theorem spaced_nil : spaced [] = [] := rfl

@[simp] theorem spaced_cons (t : Token) (tokens : List Token) :
    spaced (t :: tokens) = space :: .token t :: spaced tokens := rfl

/-- Tokens with blanks in front of them, behind a block, make a block. -/
theorem block_append_spaced {ps : List Piece} (hps : Block ps) {tokens : List Token}
    (h : ∀ t ∈ tokens, t.Whole ∧ t ≠ .symbol .period) : Block (ps ++ spaced tokens) := by
  induction tokens generalizing ps with
  | nil => simpa using hps
  | cons t tokens ih =>
    obtain ⟨⟨hwhole, hperiod⟩, htokens⟩ := List.forall_mem_cons.mp h
    have ht : Block [.token t] := .single hwhole (by simpa using hperiod)
    have hspaced := ih (hps.spaced ht) htokens
    simpa using hspaced

/-! ## Names -/

namespace Sql.Ident

/-- An identifier as a token. -/
def token (name : Ident) : Token :=
  .word name.value name.quote

/-- Whether an identifier is read as it is written: a word, or a name in backticks. -/
def Whole (name : Ident) : Prop :=
  name.token.Whole

/-- A whole name is written as its token. -/
theorem toList_text {name : Ident} (h : name.Whole) : name.text.toList = name.token.text.toList := by
  obtain ⟨value, quote, span⟩ := name
  cases quote with
  | none => rfl
  | some quote =>
    obtain ⟨rfl, parts, hfits, hbody⟩ := h
    have hvalue : escape '\x60' value = value := by
      rw [escape, hbody, escapeFrom_bodyOf (by decide) hfits, ← hbody, String.ofList_toList]
    simp [text, enclose, hvalue, token, Token.text]

/-- A name ends before a period, and before the parenthesis of a function. -/
theorem endsBefore {name : Ident} (h : name.Whole) : ∀ c ∈ ['.', '('], (Piece.token name.token).EndsBefore c := by
  obtain ⟨value, quote, span⟩ := name
  cases quote with
  | none =>
    have hnot : ∀ c ∈ ['.', '('], ¬continuesWord c ∧ c ≠ '\x27' ∧ c ≠ '\x22' := by decide
    exact hnot
  | some quote =>
    obtain ⟨rfl, -⟩ := h
    have hnot : ∀ c ∈ ['.', '('], c ≠ '\x60' := by decide
    exact hnot

/-- A word is a body of backticks. -/
theorem backticked_whole {name : Ident} (h : name.Whole) (hquote : name.quote = none) : name.backticked.Whole := by
  obtain ⟨value, quote, span⟩ := name
  subst hquote
  obtain ⟨c, cs, hvalue, hc, -, hcs⟩ := isName_iff.mp h
  refine ⟨rfl, value.toList.map .plain, ?_, ?_⟩
  · intro part hmem
    obtain ⟨d, hd, rfl⟩ := List.mem_map.mp hmem
    have hcontinues : continuesWord d := by
      rw [hvalue] at hd
      obtain rfl | hd := List.mem_cons.mp hd
      · simp [continuesWord, hc]
      · exact hcs d hd
    refine ⟨?_, rfl⟩
    rintro rfl
    exact absurd hcontinues (by decide)
  · simp only [bodyOf, List.flatMap_map, Part.chars]
    simp [backticked]

end Sql.Ident

namespace Sql

/-- Names with periods between them, piece by piece. -/
def dottedPieces (parts : List Ident) : List Piece :=
  [symbol .period].intercalate (parts.map fun part => [.token part.token])

/-- Behind a name that is not the last stands a period. -/
theorem dottedPieces_cons (part : Ident) {parts : List Ident} (h : parts ≠ []) :
    dottedPieces (part :: parts) = .token part.token :: symbol .period :: dottedPieces parts := by
  cases parts with
  | nil => exact absurd rfl h
  | cons part' parts => simp [dottedPieces, List.intercalate_cons_cons]

/-- Names with periods start with the first one. -/
theorem exists_dottedPieces (part : Ident) (parts : List Ident) :
    ∃ ps, dottedPieces (part :: parts) = .token part.token :: ps := by
  cases parts with
  | nil => exact ⟨[], rfl⟩
  | cons part' parts => exact ⟨_, dottedPieces_cons part (List.cons_ne_nil _ _)⟩

/-- Names with periods are spelled as their pieces. -/
theorem toList_dotted {parts : List Ident} (h : ∀ part ∈ parts, part.Whole) :
    (dotted parts).toList = spell (dottedPieces parts) := by
  have hparts : (parts.map fun part => part.text.toList) = parts.map fun part => spell [.token part.token] :=
    List.map_congr_left fun part hmem => by simp [Ident.toList_text (h part hmem), Piece.chars]
  rw [dotted, String.toList_intercalate, dottedPieces, spell_intercalate, List.map_map, List.map_map]
  exact congrArg _ hparts

/-- Names with periods are a block. -/
theorem dottedPieces_block {parts : List Ident} (h : ∀ part ∈ parts, part.Whole) : Block (dottedPieces parts) := by
  match parts with
  | [] => exact .nil
  | [part] => exact .single (h part (by simp)) (by simp [Ident.token])
  | part :: part' :: parts =>
    have hpart := h part (by simp)
    have hrest := dottedPieces_block fun part'' hmem => h part'' (List.mem_cons_of_mem part hmem)
    obtain ⟨ps, hps⟩ := exists_dottedPieces part' parts
    rw [dottedPieces_cons part (List.cons_ne_nil _ _)]
    refine ⟨?_, ?_, by simp [Ident.token]⟩
    · intro p hmem
      obtain rfl | rfl | hmem : p = _ ∨ p = _ ∨ p ∈ _ := by simpa using hmem
      · exact hpart
      · exact Or.inl rfl
      · exact hrest.whole p hmem
    · -- a period stands between words, and no word starts a longer symbol with it
      rw [List.isChain_cons_cons, List.isChain_cons]
      refine ⟨⟨?_, rfl⟩, ?_, hrest.meets⟩
      · rintro c ⟨⟩
        exact Ident.endsBefore hpart _ (by decide)
      · intro q hq
        rw [hps] at hq
        cases hq
        exact ⟨fun c _ => List.not_mem_nil, trivial⟩

end Sql

variable (style : Style) (write : Expr → List Piece)

namespace Style

/-- The identifier as which a name of a table or column is written. -/
def restyled (name : Ident) : Ident :=
  if style.quoteIdentifiers && name.quote.isNone then name.backticked else name

/-- A name of several parts, piece by piece. -/
def namePieces (parts : List Ident) : List Piece :=
  [symbol .period].intercalate (parts.map fun part => [.token (style.restyled part).token])

/-- The pieces of a name in a style are those of the name that the style makes of it. -/
theorem namePieces_eq (parts : List Ident) : style.namePieces parts = Sql.dottedPieces (parts.map style.restyled) := by
  rw [namePieces, Sql.dottedPieces, List.map_map]
  rfl

/-- A keyword. -/
def keywordPiece (word : String) : Piece :=
  .token (.word (style.keyword word) none)

/-- Keywords with blanks between them. -/
def wordPieces (words : List String) : List Piece :=
  [space].intercalate (words.map fun word => [style.keywordPiece word])

/-- A style keeps names whole. -/
theorem restyled_whole {name : Ident} (h : name.Whole) : (style.restyled name).Whole := by
  unfold restyled
  split
  next hquote => exact Ident.backticked_whole h (by simpa using (Bool.and_eq_true_iff.mp hquote).2)
  next => exact h

/-- A name in a style is spelled as its token. -/
theorem toList_ident {name : Ident} (h : name.Whole) :
    (style.ident name).toList = spell [.token (style.restyled name).token] := by
  have htext : style.ident name = (style.restyled name).text := by
    unfold ident restyled
    split <;> rfl
  rw [htext, Ident.toList_text (style.restyled_whole h)]
  simp [Piece.chars]

/-- A table's name in a style is spelled as its pieces. -/
theorem toList_name {parts : List Ident} (h : ∀ part ∈ parts, part.Whole) :
    (style.name (Sql.Name.ofIdents parts)).toList = spell (style.namePieces parts) := by
  have hparts : (parts.map fun part => (style.namePart (.ident part)).toList) =
      parts.map fun part => spell [.token (style.restyled part).token] :=
    List.map_congr_left fun part hmem => toList_ident style (h part hmem)
  rw [name, Sql.Name.ofIdents, String.toList_intercalate, namePieces, spell_intercalate, List.map_map, List.map_map,
    List.map_map]
  exact congrArg _ hparts

/-- Behind a part that is not the last stands a period. -/
theorem namePieces_cons (part : Ident) {parts : List Ident} (h : parts ≠ []) :
    style.namePieces (part :: parts) =
      .token (style.restyled part).token :: symbol .period :: style.namePieces parts := by
  rw [namePieces_eq, namePieces_eq, List.map_cons, Sql.dottedPieces_cons _ (by simpa using h)]

/-- A table's name starts with its first part. -/
theorem exists_namePieces (part : Ident) (parts : List Ident) :
    ∃ ps, style.namePieces (part :: parts) = .token (style.restyled part).token :: ps := by
  rw [namePieces_eq]
  exact Sql.exists_dottedPieces _ _

/-- A table's name is a block. -/
theorem namePieces_block {parts : List Ident} (h : ∀ part ∈ parts, part.Whole) : Block (style.namePieces parts) := by
  rw [namePieces_eq]
  refine Sql.dottedPieces_block fun part hmem => ?_
  obtain ⟨part, hpart, rfl⟩ := List.mem_map.mp hmem
  exact restyled_whole style (h part hpart)

/-- The names of an assignment are written like one name. -/
theorem toList_target {qualifier : List Ident} {column : Ident} (h : ∀ part ∈ qualifier ++ [column], part.Whole) :
    (String.join (qualifier.map fun part => style.ident part ++ ".") ++ style.ident column).toList =
      spell (style.namePieces (qualifier ++ [column])) := by
  induction qualifier with
  | nil => simpa [namePieces] using toList_ident style (h column (by simp))
  | cons part qualifier ih =>
    have hpart := toList_ident style (h part (by simp))
    have ih := ih fun part' hmem => h part' (List.mem_cons_of_mem _ hmem)
    have hpieces := namePieces_cons style part (by simp : qualifier ++ [column] ≠ [])
    rw [List.cons_append, hpieces, List.map_cons, String.join_cons]
    simp only [String.toList_append, List.append_assoc] at ih hpart ⊢
    rw [ih, hpart]
    simp [symbol, Piece.chars, Token.text, Symbol.text]


/-- Keywords with blanks between them are a block. -/
theorem wordPieces_block {words : List String} (h : ∀ word ∈ words, (style.keywordPiece word).Whole) :
    Block (style.wordPieces words) := by
  match words with
  | [] => exact .nil
  | [word] => exact .single (h word (by simp)) (by simp [keywordPiece])
  | word :: word' :: words =>
    have hrest := wordPieces_block fun word'' hmem => h word'' (List.mem_cons_of_mem word hmem)
    have hword : Block [style.keywordPiece word] := .single (h word (by simp)) (by simp [keywordPiece])
    exact hword.spaced hrest

end Style

/-! ## Values, assignments and rows -/

variable (style : Style) (write : Expr → List Piece)

/-- Whether a value is written as these pieces, and read as they are. -/
structure Written (value : Expr) (ps : List Piece) : Prop where
  text : value.text.toList = spell ps
  block : Block ps

namespace Style

/-- An assignment, piece by piece. -/
def assignmentPieces (item : Assignment) : List Piece :=
  style.namePieces (item.qualifier ++ [item.column]) ++ space :: symbol .equal :: space :: write item.value

/-- A row of values, piece by piece. -/
def rowPieces (row : List Expr) : List Piece :=
  enclosed (listed (row.map write))

/-- What a statement inserts, piece by piece. -/
def payloadPieces : Payload → List Piece
  | .set items => style.keywordPiece "SET" :: space :: listed (items.map (style.assignmentPieces write))
  | .values columns rows =>
    (if columns.isEmpty then [] else enclosed (listed (columns.map fun column => style.namePieces [column])) ++ [space]) ++
      style.keywordPiece "VALUES" :: space :: listed (rows.map (rowPieces write))

/-- The words before the name of the table. -/
def frontWords (statement : Insert) : List String :=
  ["INSERT"] ++ statement.priority.toList.map (·.text) ++ (if statement.ignore then ["IGNORE"] else []) ++ ["INTO"]

/-- A statement on a table of this name, piece by piece. -/
def insertPieces (statement : Insert) (table : List Ident) : List Piece :=
  style.wordPieces (frontWords statement) ++ space :: style.namePieces table ++
    space :: style.payloadPieces write statement.payload ++
    (if statement.onDuplicateUpdate.isEmpty then []
      else space :: style.wordPieces ["ON", "DUPLICATE", "KEY", "UPDATE"] ++
        space :: listed (statement.onDuplicateUpdate.map (style.assignmentPieces write)))

end Style

/-- The names of the columns that an assignment mentions. -/
def Assignment.names (item : Assignment) : List Ident :=
  item.qualifier ++ [item.column]

/-- The names of the columns that a payload mentions. -/
def Payload.names : Payload → List Ident
  | .set items => items.flatMap Assignment.names
  | .values columns _ => columns

/-- The values of a payload. -/
def Payload.allValues : Payload → List Expr
  | .set items => items.map (·.value)
  | .values _ rows => rows.flatten

/-- The names of the columns that a statement mentions. -/
def Insert.columnNames (statement : Insert) : List Ident :=
  statement.payload.names ++ statement.onDuplicateUpdate.flatMap Assignment.names

/-- The values of a statement. -/
def Insert.allValues (statement : Insert) : List Expr :=
  statement.payload.allValues ++ statement.onDuplicateUpdate.map (·.value)

namespace Style

variable {write}

/-- An assignment in a style is spelled as its pieces. -/
theorem toList_assignment {item : Assignment} (hnames : ∀ name ∈ item.names, name.Whole)
    (hvalue : Written item.value (write item.value)) :
    (style.assignment item).toList = spell (style.assignmentPieces write item) := by
  have htarget := toList_target style hnames
  rw [assignment, String.toList_append, String.toList_append, htarget, hvalue.text]
  simp [assignmentPieces, space, symbol, Piece.chars, Blank.text, Token.text, Symbol.text]

/-- Assignments in a style are spelled as their pieces. -/
theorem toList_assignments {items : List Assignment} (hnames : ∀ name ∈ items.flatMap Assignment.names, name.Whole)
    (hvalues : ∀ item ∈ items, Written item.value (write item.value)) :
    (style.assignments items).toList = spell (listed (items.map (style.assignmentPieces write))) := by
  refine toList_commas ?_
  rw [List.map_map, List.map_map]
  refine List.map_congr_left fun item hmem => ?_
  exact toList_assignment style (fun name hname => hnames name (List.mem_flatMap_of_mem hmem hname)) (hvalues item hmem)

/-- Expressions are written each for itself. -/
theorem exprTexts_eq_map (values : List Expr) : Sql.exprTexts values = values.map Expr.text := by
  induction values with
  | nil => rfl
  | cons value values ih => rw [Sql.exprTexts, ih, List.map_cons]

/-- A row is spelled as its pieces. -/
theorem toList_row {row : List Expr} (h : ∀ value ∈ row, Written value (write value)) :
    ("(" ++ values row ++ ")").toList = spell (rowPieces write row) := by
  refine toList_parenthesized (toList_commas ?_)
  rw [exprTexts_eq_map, List.map_map, List.map_map]
  exact List.map_congr_left fun value hmem => (h value hmem).text

/-- What a statement inserts is spelled as its pieces. -/
theorem toList_payload {payload : Payload} (hnames : ∀ name ∈ payload.names, name.Whole)
    (hvalues : ∀ value ∈ payload.allValues, Written value (write value)) :
    (style.payload payload).toList = spell (space :: style.payloadPieces write payload) := by
  cases payload with
  | set items =>
    have hitems := toList_assignments style hnames fun item hmem =>
      hvalues item.value (List.mem_map_of_mem hmem)
    simp [payload, payloadPieces, hitems, space, keywordPiece, Piece.chars, Blank.text, Token.text]
  | values columns rows =>
    have hcolumns : (style.idents columns).toList =
        spell (listed (columns.map fun column => style.namePieces [column])) := by
      refine toList_commas ?_
      rw [List.map_map, List.map_map]
      exact List.map_congr_left fun column hmem => toList_ident style (hnames column hmem)
    have hrows : (Sql.commas (rows.map fun row => "(" ++ values row ++ ")")).toList =
        spell (listed (rows.map (rowPieces write))) := by
      refine toList_commas ?_
      rw [List.map_map, List.map_map]
      refine List.map_congr_left fun row hmem => toList_row fun value hvalue => ?_
      exact hvalues value (List.mem_flatten_of_mem hmem hvalue)
    cases hempty : columns.isEmpty with
    | true => simp [payload, payloadPieces, hempty, hrows, space, keywordPiece, Piece.chars, Blank.text, Token.text]
    | false =>
      have hparens := toList_parenthesized hcolumns
      simp only [String.toList_append] at hparens
      simp [payload, payloadPieces, hempty, hrows, hcolumns, space, symbol, enclosed, keywordPiece, Piece.chars,
        Blank.text, Token.text, Symbol.text]

/-- Keywords in a style are spelled as their pieces. -/
theorem toList_words (words : List String) :
    (" ".intercalate (words.map style.keyword)).toList = spell (style.wordPieces words) := by
  rw [wordPieces, spell_intercalate, String.toList_intercalate, List.map_map, List.map_map]
  refine congrArg _ (List.map_congr_left fun word _ => ?_)
  simp [keywordPiece, Piece.chars, Token.text]

/-- The four words of an upsert are put into the style's case word by word. -/
theorem keyword_onDuplicate :
    style.keyword "ON DUPLICATE KEY UPDATE" =
      " ".intercalate (["ON", "DUPLICATE", "KEY", "UPDATE"].map style.keyword) := by
  unfold keyword LetterCase.keyword
  cases style.letterCase <;> decide

/-- A statement is its leading words, its table, what it inserts and what it updates. -/
theorem insert_eq (statement : Insert) :
    style.insert statement =
      " ".intercalate ((frontWords statement).map style.keyword) ++ " " ++ style.name statement.table ++
        style.payload statement.payload ++
        (if statement.onDuplicateUpdate.isEmpty then ""
          else " " ++ style.keyword "ON DUPLICATE KEY UPDATE" ++ " " ++ style.assignments statement.onDuplicateUpdate) := by
  rw [insert, frontWords]
  cases statement.priority <;> cases statement.ignore <;> simp [String.intercalate_cons_cons, String.append_assoc]

/-- A statement in a style is spelled as its pieces. -/
theorem toList_insert {statement : Insert} {table : List Ident} (htable : statement.table = Sql.Name.ofIdents table)
    (htableNames : ∀ name ∈ table, name.Whole) (hnames : ∀ name ∈ statement.columnNames, name.Whole)
    (hvalues : ∀ value ∈ statement.allValues, Written value (write value)) :
    (style.insert statement).toList = spell (style.insertPieces write statement table) := by
  have hfront := toList_words style (frontWords statement)
  have hname := toList_name style htableNames
  have hpayload := toList_payload style (fun name hmem => hnames name (List.mem_append_left _ hmem))
    (fun value hmem => hvalues value (List.mem_append_left _ hmem))
  have hupdates := toList_assignments style (fun name hmem => hnames name (List.mem_append_right _ hmem))
    (fun item hmem => hvalues item.value (List.mem_append_right _ (List.mem_map_of_mem hmem)))
  have hwords := toList_words style ["ON", "DUPLICATE", "KEY", "UPDATE"]
  rw [← keyword_onDuplicate style] at hwords
  rw [insert_eq, htable, String.toList_append, String.toList_append, String.toList_append, String.toList_append, hfront,
    hname, hpayload, insertPieces]
  cases statement.onDuplicateUpdate.isEmpty with
  | true => simp [space, Piece.chars, Blank.text]
  | false => simp [hwords, hupdates, space, Piece.chars, Blank.text]

/-! ## Blocks -/

/-- An assignment is a block. -/
theorem assignmentPieces_block {item : Assignment} (hnames : ∀ name ∈ item.names, name.Whole)
    (hvalue : Written item.value (write item.value)) : Block (style.assignmentPieces write item) := by
  have hequal : Block [symbol .equal] := .symbol (by decide)
  have hspaced := (namePieces_block style hnames).spaced (hequal.spaced hvalue.block)
  simpa [assignmentPieces, Assignment.names] using hspaced

/-- Assignments with commas between them are a block. -/
theorem assignments_block {items : List Assignment} (hnames : ∀ name ∈ items.flatMap Assignment.names, name.Whole)
    (hvalues : ∀ item ∈ items, Written item.value (write item.value)) :
    Block (listed (items.map (style.assignmentPieces write))) := by
  refine block_listed fun ps hps => ?_
  obtain ⟨item, hmem, rfl⟩ := List.mem_map.mp hps
  exact assignmentPieces_block style (fun name hname => hnames name (List.mem_flatMap_of_mem hmem hname)) (hvalues item hmem)

/-- A block in parentheses is a block. -/
theorem enclosed_block {ps : List Piece} (h : Block ps) : Block (enclosed ps) :=
  h.parens

/-- A row is a block. -/
theorem rowPieces_block {row : List Expr} (h : ∀ value ∈ row, Written value (write value)) :
    Block (rowPieces write row) := by
  refine enclosed_block (block_listed fun ps hps => ?_)
  obtain ⟨value, hmem, rfl⟩ := List.mem_map.mp hps
  exact (h value hmem).block

/-- The keywords of a statement that is written. -/
def keywords : List String :=
  ["INSERT", "LOW_PRIORITY", "DELAYED", "HIGH_PRIORITY", "IGNORE", "INTO", "SET", "VALUES", "ON", "DUPLICATE", "KEY",
    "UPDATE"]

/-- The keywords of a statement are whole tokens in both cases. -/
theorem keywordPiece_whole {word : String} (h : word ∈ keywords) : (style.keywordPiece word).Whole := by
  have hname (letterCase : LetterCase) : ∀ word ∈ keywords, IsName (letterCase.keyword word).toList := by
    cases letterCase <;> decide
  exact hname style.letterCase word h

/-- A keyword of a statement is a block. -/
theorem keyword_block {word : String} (h : word ∈ keywords) : Block [style.keywordPiece word] :=
  .single (keywordPiece_whole style h) (by simp [keywordPiece])

/-- What a statement inserts is a block. -/
theorem payloadPieces_block {payload : Payload} (hnames : ∀ name ∈ payload.names, name.Whole)
    (hvalues : ∀ value ∈ payload.allValues, Written value (write value)) :
    Block (style.payloadPieces write payload) := by
  cases payload with
  | set items =>
    have hitems : Block (listed (items.map (style.assignmentPieces write))) :=
      assignments_block style hnames fun item hmem => hvalues item.value (List.mem_map_of_mem hmem)
    exact (keyword_block style (by decide)).spaced hitems
  | values columns rows =>
    have hrows : Block (listed (rows.map (rowPieces write))) := by
      refine block_listed fun ps hps => ?_
      obtain ⟨row, hmem, rfl⟩ := List.mem_map.mp hps
      exact rowPieces_block fun value hvalue => hvalues value (List.mem_flatten_of_mem hmem hvalue)
    have hvaluesRows := (keyword_block style (by decide : "VALUES" ∈ keywords)).spaced hrows
    rw [payloadPieces]
    cases columns.isEmpty with
    | true => exact hvaluesRows
    | false =>
      have hcolumns : Block (enclosed (listed (columns.map fun column => style.namePieces [column]))) := by
        refine enclosed_block (block_listed fun ps hps => ?_)
        obtain ⟨column, hmem, rfl⟩ := List.mem_map.mp hps
        exact namePieces_block style (by simpa using hnames column hmem)
      simpa using hcolumns.spaced hvaluesRows

/-- The words in front of a table are keywords of a statement. -/
theorem frontWords_subset (statement : Insert) : ∀ word ∈ frontWords statement, word ∈ keywords := by
  unfold frontWords
  cases statement.priority with
  | none => cases statement.ignore <;> decide
  | some priority => cases priority <;> cases statement.ignore <;> decide

/-- A written statement stays in the pieces that it is put together from. -/
theorem insertPieces_block {statement : Insert} {table : List Ident} (htable : ∀ name ∈ table, name.Whole)
    (hnames : ∀ name ∈ statement.columnNames, name.Whole)
    (hvalues : ∀ value ∈ statement.allValues, Written value (write value)) :
    Block (style.insertPieces write statement table) := by
  have hfront : Block (style.wordPieces (frontWords statement)) :=
    wordPieces_block style fun word hmem => keywordPiece_whole style (frontWords_subset statement word hmem)
  have hpayload : Block (style.payloadPieces write statement.payload) :=
    payloadPieces_block style (fun name hmem => hnames name (List.mem_append_left _ hmem))
      (fun value hmem => hvalues value (List.mem_append_left _ hmem))
  have hhead := hfront.spaced ((namePieces_block style htable).spaced hpayload)
  rw [insertPieces]
  cases statement.onDuplicateUpdate.isEmpty with
  | true => simpa using hhead
  | false =>
    have hwords : Block (style.wordPieces ["ON", "DUPLICATE", "KEY", "UPDATE"]) :=
      wordPieces_block style fun word hmem =>
        keywordPiece_whole style ((by decide : ∀ word ∈ ["ON", "DUPLICATE", "KEY", "UPDATE"], word ∈ keywords) word hmem)
    have hupdates : Block (listed (statement.onDuplicateUpdate.map (style.assignmentPieces write))) :=
      assignments_block style (fun name hmem => hnames name (List.mem_append_right _ hmem))
        (fun item hmem => hvalues item.value (List.mem_append_right _ (List.mem_map_of_mem hmem)))
    simpa using hhead.spaced (hwords.spaced hupdates)

end Style
end InsertPivot
