import InsertPivot.Proofs.Places.Insert

/-!
# Cutting a text without its places

Which token, blank or comment a text starts with does not depend on where the text stands. `Lexeme.kinds`
cuts a text as `Lexeme.pieces` does and keeps no places, and `Lexeme.bare` are the lexemes of such a cut.
-/

namespace InsertPivot.Sql.Lexeme

open Text (Position Span)

/-! ## Pieces without places -/

/-- Where a string ends does not depend on its place. -/
theorem toOption_stringPiece (p q : Position) (kind : StringKind) (quote : Char) (cs : List Char) :
    (stringPiece p kind quote cs).toOption = (stringPiece q kind quote cs).toOption := by
  unfold stringPiece
  cases quotedBody? quote (kind != .bits && kind != .bitsDouble) cs <;> rfl

/-- Where a quoted name ends does not depend on its place. -/
theorem toOption_namePiece (p q : Position) (quote : Char) (cs : List Char) :
    (namePiece p quote cs).toOption = (namePiece q quote cs).toOption := by
  unfold namePiece
  cases quotedBody? quote false cs <;> rfl

/-- Where a numeral ends does not depend on its place. -/
theorem toOption_numeralPiece (p q : Position) (previous : Option Token) (c : Char) (cs : List Char) :
    (numeralPiece p previous c cs).toOption = (numeralPiece q previous c cs).toOption := by
  unfold numeralPiece
  split
  · cases previous.any Token.isWord <;> rfl
  · rfl

/-- Where a comment ends does not depend on its place. -/
theorem toOption_commentPiece (p q : Position) (c : Char) (cs : List Char) :
    (commentPiece p c cs).toOption = (commentPiece q c cs).toOption := by
  unfold commentPiece
  cases commentBody? (cs.drop 1) <;> rfl

/-- Where a piece ends does not depend on its place. -/
theorem toOption_plainPiece (p q : Position) (previous : Option Token) (c : Char) (cs : List Char) :
    (plainPiece p previous c cs).toOption = (plainPiece q previous c cs).toOption := by
  simp only [plainPiece, apply_ite Except.toOption, toOption_stringPiece p q, toOption_namePiece p q,
    toOption_numeralPiece p q, toOption_commentPiece p q]

/-- Where a piece stands decides nothing about it. -/
theorem toOption_pieceAt (p q : Position) (previous : Option Token) (c : Char) (cs : List Char) :
    (pieceAt p previous c cs).toOption = (pieceAt q previous c cs).toOption := by
  unfold pieceAt
  split
  case h_1 kind quote body _ =>
    have h := toOption_stringPiece (p.after c) (q.after c) kind quote body
    cases hp : stringPiece (p.after c) kind quote body <;> cases hq : stringPiece (q.after c) kind quote body <;>
      rw [hp, hq] at h <;> cases h <;> rfl
  case h_2 => exact toOption_plainPiece p q previous c _

/-- What a text starts with, and how many of the characters after the first belong to it. -/
def kindAt (previous : Option Token) (c : Char) (cs : List Char) : Option (Piece × Nat) :=
  (pieceAt .start previous c cs).toOption

/-- The pieces of a text; the first characters of it may belong to the piece before. -/
def kinds (previous : Option Token) : Nat → List Char → Option (List Piece)
  | _, [] => some []
  | taken + 1, _ :: cs => kinds previous taken cs
  | 0, c :: cs => do
    let (piece, more) ← kindAt previous c cs
    let rest ← kinds piece.token? more cs
    return piece :: rest

/-- The pieces of a text are its pieces with their places, without these. -/
theorem kinds_eq (p : Position) (previous : Option Token) (taken : Nat) (cs : List Char) :
    kinds previous taken cs = (pieces p previous taken cs).toOption.map (List.map Prod.fst) := by
  induction cs generalizing p previous taken with
  | nil => cases taken <;> rfl
  | cons c cs ih =>
    cases taken with
    | succ taken => exact ih _ _ _
    | zero =>
      rw [kinds, pieces, kindAt, toOption_pieceAt .start p]
      cases pieceAt p previous c cs with
      | error fault => rfl
      | ok found =>
        obtain ⟨piece, more⟩ := found
        simp only [Except.toOption, Option.bind_eq_bind, Option.bind_some, ih (p.after c)]
        cases hrest : pieces (p.after c) piece.token? more cs <;> simp [bind, Except.bind, hrest]

/-! ## Lexemes without places -/

/-- The lexemes of some pieces, without places. -/
def bare (ps : List Piece) : List Lexeme :=
  ofPieces (ps.map fun piece => (piece, .none))

@[simp] theorem bare_nil : bare [] = [] := rfl

@[simp] theorem bare_token (token : Token) (ps : List Piece) :
    bare (.token token :: ps) = ⟨token, .none, ps.head?.bind Piece.blank?⟩ :: bare ps := by
  cases ps <;> rfl

@[simp] theorem bare_blank (blank : Blank) (ps : List Piece) : bare (.blank blank :: ps) = bare ps := rfl

/-- Lexemes without places are those of the pieces alone. -/
theorem unplaced_ofPieces (ps : List (Piece × Span)) : unplaced (ofPieces ps) = bare (ps.map Prod.fst) := by
  induction ps with
  | nil => rfl
  | cons p ps ih =>
    obtain ⟨token | blank, span⟩ := p
    · rw [List.map_cons, bare_token, ← ih]
      cases ps <;> rfl
    · exact ih

/-- Lexemes of pieces alone have no places to lose. -/
theorem unplaced_bare (ps : List Piece) : unplaced (bare ps) = bare ps := by
  rw [bare, unplaced_ofPieces, List.map_map]
  exact congrArg bare (List.map_id ps)

/-- The lexemes of pieces behind others are the end of those of all. -/
theorem exists_bare_append (ps qs : List Piece) :
    ∃ ls, bare (ps ++ qs) = ls ++ bare qs ∧ ls.map Lexeme.token = ps.filterMap Piece.token? := by
  induction ps with
  | nil => exact ⟨[], rfl, rfl⟩
  | cons p ps ih =>
    obtain ⟨ls, hls, htokens⟩ := ih
    cases p with
    | blank b => exact ⟨ls, hls, htokens⟩
    | token t =>
      refine ⟨⟨t, .none, (ps ++ qs).head?.bind Piece.blank?⟩ :: ls, ?_, congrArg (t :: ·) htokens⟩
      rw [List.cons_append, bare_token, hls, List.cons_append]

end InsertPivot.Sql.Lexeme

namespace InsertPivot

open Sql (Lexeme Statement Insertion unplaced)
open Sql.Lexeme (Piece bare kinds)

/-! ## Reading without places -/

theorem countP_isSemicolon_unplaced (ls : List Lexeme) :
    (unplaced ls).countP Sql.Reader.isSemicolon = ls.countP Sql.Reader.isSemicolon := by
  induction ls with
  | nil => rfl
  | cons l ls ih =>
    rw [Sql.unplaced_cons, List.countP_cons, List.countP_cons, ih]
    rfl

theorem ofLexemes_transfer {ls ls' : List Lexeme} {nodes : List Insertion} (hls : unplaced ls' = unplaced ls)
    (h : Statement.ofLexemes ls = .ok (nodes.map Statement.insert)) :
    ∃ nodes', Statement.ofLexemes ls' = .ok (nodes'.map Statement.insert) ∧ unplaced nodes' = unplaced nodes := by
  have hcount : ls'.countP Sql.Reader.isSemicolon = ls.countP Sql.Reader.isSemicolon := by
    have hcounts := congrArg (List.countP Sql.Reader.isSemicolon) hls
    simpa only [countP_isSemicolon_unplaced] using hcounts
  unfold Statement.ofLexemes at h ⊢
  rw [hcount]
  cases hrun : (Sql.Reader.statementSteps (ls.countP Sql.Reader.isSemicolon + 1)).run ls with
  | error fault =>
    rw [hrun] at h
    cases h
  | ok found =>
    obtain ⟨found, rest⟩ := found
    rw [hrun] at h
    cases h
    obtain ⟨nodes', rest', hrun', hnodes, -⟩ := Sql.Reader.statementSteps_transfer _ hls hrun
    exact ⟨nodes', by rw [hrun']; rfl, hnodes⟩

/-- Whether lexemes are read as these `INSERT`s and nothing else. -/
def Reads (ls : List Lexeme) (ts : List Insert) : Prop :=
  ∃ nodes : List Insertion, Statement.ofLexemes ls = .ok (nodes.map Statement.insert) ∧
    nodes.mapM Insert.ofInsertion = .ok ts

/-- Lexemes that are the same but for places are read as `INSERT`s that are the same but for places. -/
theorem Reads.transfer {ls ls' : List Lexeme} {ts : List Insert} (h : Reads ls ts) (hls : unplaced ls' = unplaced ls) :
    ∃ ts', Reads ls' ts' ∧ unplaced ts' = unplaced ts := by
  obtain ⟨nodes, hls₁, hnodes⟩ := h
  obtain ⟨nodes', hls', hsame⟩ := ofLexemes_transfer hls hls₁
  obtain ⟨ts', hnodes', hts⟩ := Insert.mapM_ofInsertion_transfer hsame hnodes
  exact ⟨ts', ⟨nodes', hls', hnodes'⟩, hts⟩

/-- What is read as `INSERT`s is read so from nodes that are `INSERT`s. -/
theorem exists_insertions {statements : List Statement} {ts : List Insert}
    (h : statements.mapM Insert.ofStatement = .ok ts) :
    ∃ nodes : List Insertion, statements = nodes.map Statement.insert ∧ nodes.mapM Insert.ofInsertion = .ok ts := by
  rw [mapM_eq_ok_iff] at h
  induction h with
  | nil => exact ⟨[], rfl, rfl⟩
  | @cons statement t statements ts hstatement _ ih =>
    obtain ⟨nodes, rfl, hnodes⟩ := ih
    cases statement with
    | insert node =>
      refine ⟨node :: nodes, rfl, ?_⟩
      rw [List.mapM_cons, show Insert.ofInsertion node = .ok t from hstatement, hnodes]
      rfl
    | directory _ => cases hstatement
    | other => cases hstatement

theorem mapM_ofStatement_insert (nodes : List Insertion) :
    (nodes.map Statement.insert).mapM Insert.ofStatement = nodes.mapM Insert.ofInsertion := by
  rw [List.mapM_map]
  rfl

/-- A text whose pieces are known is read from its lexemes. -/
theorem readInserts_ok_iff {text : String} {placed : List (Piece × Text.Span)} {ts : List Insert}
    (hplaced : Lexeme.piecesOf text = .ok placed) :
    readInserts text = .ok ts ↔
      (placed.map Prod.fst).any isExecutableComment = false ∧
        Reads (Lexeme.ofPieces placed) ts := by
  have hany : (placed.any fun piece => isExecutableComment piece.1) =
      (placed.map Prod.fst).any isExecutableComment := by
    rw [List.any_map]
    rfl
  unfold readInserts readStatements Reads
  simp only [hplaced, Except.mapError, Sql.except_ok_bind, hany]
  cases (placed.map Prod.fst).any isExecutableComment with
  | true =>
    -- a comment that is executed is refused before anything is read
    constructor
    · intro h
      cases h
    · rintro ⟨h, -⟩
      cases h
  | false =>
    cases hls : Statement.ofLexemes (Lexeme.ofPieces placed) with
    | error fault =>
      constructor
      · intro h
        cases h
      · rintro ⟨-, nodes, h, -⟩
        cases h
    | ok statements =>
      constructor
      · intro h
        obtain ⟨nodes, rfl, hnodes⟩ := exists_insertions h
        exact ⟨rfl, nodes, rfl, hnodes⟩
      · rintro ⟨-, nodes, h, hnodes⟩
        cases h
        rw [← mapM_ofStatement_insert] at hnodes
        exact hnodes

theorem exists_piecesOf {text : String} {ps : List Piece} (hps : kinds none 0 text.toList = some ps) :
    ∃ placed, Lexeme.piecesOf text = .ok placed ∧ placed.map Prod.fst = ps := by
  rw [Sql.Lexeme.kinds_eq .start] at hps
  cases hplaced : Lexeme.piecesOf text with
  | error fault =>
    rw [Lexeme.piecesOf] at hplaced
    rw [hplaced] at hps
    cases hps
  | ok placed =>
    rw [Lexeme.piecesOf] at hplaced
    rw [hplaced] at hps
    exact ⟨placed, rfl, Option.some.inj hps⟩

theorem exists_kinds_of_readInserts {text : String} {ts : List Insert} (h : readInserts text = .ok ts) :
    ∃ ps, kinds none 0 text.toList = some ps := by
  cases hplaced : Lexeme.piecesOf text with
  | error fault =>
    unfold readInserts readStatements at h
    rw [hplaced] at h
    cases h
  | ok placed =>
    refine ⟨placed.map Prod.fst, ?_⟩
    rw [Sql.Lexeme.kinds_eq .start, show Sql.Lexeme.pieces .start none 0 text.toList = .ok placed from hplaced]
    rfl

/-- The `INSERT`s of a text are those of its lexemes without their places. -/
theorem reads_of_readInserts {text : String} {ps : List Piece} {ts : List Insert}
    (hps : kinds none 0 text.toList = some ps) (h : readInserts text = .ok ts) :
    ps.any isExecutableComment = false ∧ ∃ ts', Reads (bare ps) ts' ∧ unplaced ts' = unplaced ts := by
  obtain ⟨placed, hplaced, rfl⟩ := exists_piecesOf hps
  obtain ⟨hcomments, hreads⟩ := (readInserts_ok_iff hplaced).mp h
  refine ⟨hcomments, hreads.transfer ?_⟩
  rw [Sql.Lexeme.unplaced_bare, Sql.Lexeme.unplaced_ofPieces]

/-- What the lexemes of a text without their places are read as, the text is read as. -/
theorem readInserts_of_reads {text : String} {ps : List Piece} {ts : List Insert}
    (hps : kinds none 0 text.toList = some ps) (hcomments : ps.any isExecutableComment = false)
    (h : Reads (bare ps) ts) : ∃ ts', readInserts text = .ok ts' ∧ unplaced ts' = unplaced ts := by
  obtain ⟨placed, hplaced, rfl⟩ := exists_piecesOf hps
  have hsame : unplaced (Lexeme.ofPieces placed) = unplaced (bare (placed.map Prod.fst)) := by
    rw [Sql.Lexeme.unplaced_bare, Sql.Lexeme.unplaced_ofPieces]
  obtain ⟨ts', hreads, hts⟩ := h.transfer hsame
  exact ⟨ts', (readInserts_ok_iff hplaced).mpr ⟨hcomments, hreads⟩, hts⟩

end InsertPivot
