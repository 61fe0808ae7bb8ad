import InsertPivot.Proofs.Rewriting

/-!
# What the options change

A statement is written as parts: keywords, names, values and marks between them (`Insert.parts`). Which parts there are
does not depend on the options. The letter case is that of the keywords and of nothing else, and the quotes are those
of names: a value is written by rules of its own, and so is a part of a name that is computed.

Each option does what can be done to the statement instead: another letter case of its leading keyword, or backticks
around its names (`Insert.quoted`).
-/

namespace InsertPivot

open Sql (NamePart Ident Expr)

namespace Insert

/-- A part of a statement that is written. -/
inductive Part where
  /-- A keyword, in capitals. -/
  | keyword (word : String)
  /-- A part of the table's name, the name of a column, or one before it. -/
  | name (part : NamePart)
  | value (value : Expr)
  /-- What stands between: blanks, periods, commas, equals signs and parentheses. -/
  | mark (text : String)

namespace Part

/-- The keywords in a part: the part itself or none. -/
def keywords : Part → List String
  | .keyword word => [word]
  | _ => []

/-- The names in a part. -/
def names : Part → List NamePart
  | .name part => [part]
  | _ => []

/-- The values in a part. -/
def values : Part → List Expr
  | .value v => [v]
  | _ => []

/-- Lists of parts with a mark between each two lists. -/
def separated (text : String) (items : List (List Part)) : List Part :=
  [mark text].intercalate items

end Part

/-- The parts of a row of values. -/
def rowParts (row : List Expr) : List Part :=
  .mark "(" :: Part.separated ", " (row.map fun value => [.value value]) ++ [.mark ")"]

/-- The parts of a column list, which is written where it is not empty. -/
def columnParts (columns : List Ident) : List Part :=
  if columns.isEmpty then []
  else .mark " (" :: Part.separated ", " (columns.map fun column => [.name (.ident column)]) ++ [.mark ")"]

/-- The parts of an assignment. -/
def itemParts (item : Assignment) : List Part :=
  (item.qualifier.flatMap fun part => [.name (.ident part), .mark "."]) ++
    [.name (.ident item.column), .mark " = ", .value item.value]

/-- The parts of a payload. -/
def payloadParts : Payload → List Part
  | .set items => [.mark " ", .keyword "SET", .mark " "] ++ Part.separated ", " (items.map itemParts)
  | .values columns rows =>
    columnParts columns ++ [.mark " ", .keyword "VALUES", .mark " "] ++ Part.separated ", " (rows.map rowParts)

/-- The parts of what is assigned when a row is there already. -/
def updateParts (items : List Assignment) : List Part :=
  if items.isEmpty then []
  else [.mark " ", .keyword "ON DUPLICATE KEY UPDATE", .mark " "] ++ Part.separated ", " (items.map itemParts)

/-- The parts of a statement, in the order in which they are written. -/
def parts (statement : Insert) : List Part :=
  Part.separated " " ((Style.frontWords statement).map fun word => [.keyword word]) ++ [.mark " "] ++
    Part.separated "." (statement.table.map fun part => [.name part]) ++
    payloadParts statement.payload ++ updateParts statement.onDuplicateUpdate

/-- The keyword that tells the form of a payload. -/
def payloadKeyword : Payload → String
  | .set _ => "SET"
  | .values _ _ => "VALUES"

/-- The keyword before what is assigned when a row is there already. -/
def updateKeywords (items : List Assignment) : List String :=
  if items.isEmpty then [] else ["ON DUPLICATE KEY UPDATE"]

/-- The keywords of a statement. -/
def keywords (statement : Insert) : List String :=
  Style.frontWords statement ++ payloadKeyword statement.payload :: updateKeywords statement.onDuplicateUpdate

/-- A statement with backticks around each name without quotes: those in the name of its table, in its column list, and
before and in the columns of its assignments. -/
def quoted (statement : Insert) : Insert :=
  Style.restyledInsert ⟨statement.keywordCase, true⟩ statement

end Insert

/-! ## What the parts hold -/

namespace Insert

/-- Where no item holds anything, a list holds nothing. -/
theorem flatMap_nothing {α β : Type} (items : List α) : (items.flatMap fun _ => ([] : List β)) = [] :=
  List.flatMap_eq_nil_iff.mpr fun _ _ => rfl

section

variable {α β : Type} {f : Part → List β} (hf : ∀ text, f (.mark text) = [])
include hf

/-- What stands between lists of parts holds nothing. -/
theorem flatMap_separated (text : String) (items : List (List Part)) :
    (Part.separated text items).flatMap f = items.flatMap (·.flatMap f) := by
  match items with
  | [] => rfl
  | [parts] => simp [Part.separated]
  | parts :: parts' :: items =>
    have hrest := flatMap_separated text (parts' :: items)
    rw [Part.separated] at hrest ⊢
    rw [List.intercalate_cons_cons, List.flatMap_append, List.flatMap_append, hrest, List.flatMap_cons]
    simp [hf]

/-- Of single parts with a text between them, what a function keeps is what it keeps of each. -/
theorem flatMap_singletons (text : String) (g : α → Part) (items : List α) :
    (Part.separated text (items.map fun item => [g item])).flatMap f = items.flatMap fun item => f (g item) := by
  rw [flatMap_separated hf, List.flatMap_map]
  simp

/-- An assignment consists of its names and its value. -/
theorem flatMap_itemParts (item : Assignment) :
    (itemParts item).flatMap f = (item.names.flatMap fun name => f (.name (.ident name))) ++ f (.value item.value) := by
  simp [itemParts, Assignment.names, List.flatMap_assoc, hf]

/-- Assignments consist of their names and their values. -/
theorem flatMap_items (items : List Assignment) :
    (Part.separated ", " (items.map itemParts)).flatMap f =
      items.flatMap fun item => (item.names.flatMap fun name => f (.name (.ident name))) ++ f (.value item.value) := by
  rw [flatMap_separated hf, List.flatMap_map]
  simp only [flatMap_itemParts hf]

/-- Rows consist of their values. -/
theorem flatMap_rows (rows : List (List Expr)) :
    (Part.separated ", " (rows.map rowParts)).flatMap f = rows.flatten.flatMap fun value => f (.value value) := by
  have hrow (row : List Expr) : (rowParts row).flatMap f = row.flatMap fun value => f (.value value) := by
    simp [rowParts, flatMap_singletons hf, hf]
  rw [flatMap_separated hf, List.flatMap_map]
  simp only [hrow, List.flatten_eq_flatMap, List.flatMap_assoc, id]

/-- A list of columns consists of its names. -/
theorem flatMap_columnParts (columns : List Ident) :
    (columnParts columns).flatMap f = columns.flatMap fun column => f (.name (.ident column)) := by
  unfold columnParts
  split
  next hempty => rw [List.isEmpty_iff.mp hempty, List.flatMap_nil, List.flatMap_nil]
  next => simp [flatMap_singletons hf, hf]

/-- An upsert consists of its keywords, its names and its values. -/
theorem flatMap_updateParts (items : List Assignment) :
    (updateParts items).flatMap f = ((updateKeywords items).flatMap fun word => f (.keyword word)) ++
      items.flatMap fun item => (item.names.flatMap fun name => f (.name (.ident name))) ++ f (.value item.value) := by
  unfold updateParts updateKeywords
  split
  next hempty => simp [List.isEmpty_iff.mp hempty]
  next => simp [flatMap_items hf, hf]

/-- A payload consists of its keywords, its names and its values, in the order of its form. -/
theorem flatMap_payloadParts (payload : Payload) :
    (payloadParts payload).flatMap f =
      match payload with
      | .set items =>
        f (.keyword "SET") ++
          items.flatMap fun item => (item.names.flatMap fun name => f (.name (.ident name))) ++ f (.value item.value)
      | .values columns rows =>
        (columns.flatMap fun column => f (.name (.ident column))) ++ f (.keyword "VALUES") ++
          rows.flatten.flatMap fun value => f (.value value) := by
  cases payload with
  | set items => simp [payloadParts, flatMap_items hf, hf]
  | values columns rows => simp [payloadParts, flatMap_columnParts hf, flatMap_rows hf, hf]

/-- What the parts of a statement hold, whatever is looked for. -/
theorem flatMap_parts (statement : Insert) :
    statement.parts.flatMap f =
      ((Style.frontWords statement).flatMap fun word => f (.keyword word)) ++
        (statement.table.flatMap fun part => f (.name part)) ++
        (payloadParts statement.payload).flatMap f ++ (updateParts statement.onDuplicateUpdate).flatMap f := by
  simp [parts, flatMap_singletons hf, hf]

end

/-- The keywords among the parts are those of the statement. -/
theorem keywords_parts (statement : Insert) : statement.parts.flatMap Part.keywords = statement.keywords := by
  have hmark (text : String) : Part.keywords (.mark text) = [] := rfl
  rw [flatMap_parts hmark, flatMap_updateParts hmark, flatMap_payloadParts hmark, keywords]
  cases statement.payload <;> simp [Part.keywords, payloadKeyword, flatMap_nothing]

/-- The names among the parts are those of the table and of the columns. -/
theorem names_parts (statement : Insert) :
    statement.parts.flatMap Part.names = statement.table ++ statement.columnNames.map .ident := by
  have hmark (text : String) : Part.names (.mark text) = [] := rfl
  rw [flatMap_parts hmark, flatMap_updateParts hmark, flatMap_payloadParts hmark, columnNames, List.map_eq_flatMap]
  cases statement.payload <;> simp [Part.names, Payload.names, flatMap_nothing, List.flatMap_assoc]

/-- The values among the parts are those of the statement. -/
theorem values_parts (statement : Insert) : statement.parts.flatMap Part.values = statement.allValues := by
  have hmark (text : String) : Part.values (.mark text) = [] := rfl
  rw [flatMap_parts hmark, flatMap_updateParts hmark, flatMap_payloadParts hmark, allValues, List.map_eq_flatMap]
  cases statement.payload <;> simp [Part.values, Payload.allValues, flatMap_nothing, List.map_eq_flatMap]

end Insert

/-! ## Writing part by part -/

namespace Style

variable (style : Style)

/-- A part as it is written. -/
def part : Insert.Part → String
  | .keyword word => style.keyword word
  | .name part => style.namePart part
  | .value value => value.text
  | .mark text => text

/-- Parts as they are written. -/
def written (parts : List Insert.Part) : String :=
  String.join (parts.map style.part)

/-- Parts are written one behind the other. -/
theorem written_append (parts parts' : List Insert.Part) :
    style.written (parts ++ parts') = style.written parts ++ style.written parts' := by
  rw [written, List.map_append, String.join_append, written, written]

theorem written_cons (part : Insert.Part) (parts : List Insert.Part) :
    style.written (part :: parts) = style.part part ++ style.written parts := by
  rw [written, List.map_cons, String.join_cons, written]

theorem written_nil : style.written [] = "" := rfl

/-- Items are written with the text between them. -/
theorem written_separated (text : String) (items : List (List Insert.Part)) :
    style.written (Insert.Part.separated text items) = text.intercalate (items.map style.written) := by
  match items with
  | [] => rfl
  | [parts] => simp [Insert.Part.separated]
  | parts :: parts' :: items =>
    have hrest := written_separated text (parts' :: items)
    rw [Insert.Part.separated] at hrest ⊢
    rw [List.intercalate_cons_cons, written_append, written_append, hrest, List.map_cons, List.map_cons,
      written_cons, written_nil, String.append_empty, List.map_cons, String.intercalate_cons_cons]
    rfl

/-- Items of one part each. -/
theorem written_singletons {α : Type} (text : String) (f : α → Insert.Part) (items : List α) :
    style.written (Insert.Part.separated text (items.map fun item => [f item])) =
      text.intercalate (items.map fun item => style.part (f item)) := by
  rw [written_separated, List.map_map]
  refine congrArg _ (List.map_congr_left fun item _ => ?_)
  exact (style.written_cons (f item) []).trans String.append_empty

/-- A qualifier is written part by part, with a period behind each. -/
theorem written_qualifier (qualifier : List Ident) :
    style.written (qualifier.flatMap fun part => [.name (.ident part), .mark "."]) =
      String.join (qualifier.map fun part => style.ident part ++ ".") := by
  induction qualifier with
  | nil => rfl
  | cons part qualifier ih =>
    rw [List.flatMap_cons, written_append, ih, List.map_cons, String.join_cons, written_cons, written_cons, written_nil,
      String.append_empty]
    rfl

/-- An assignment is written part by part. -/
theorem written_assignment (item : Assignment) : style.written (Insert.itemParts item) = style.assignment item := by
  rw [Insert.itemParts, written_append, written_qualifier, assignment]
  simp only [written_cons, written_nil, String.append_empty, String.append_assoc]
  rfl

/-- Assignments are written part by part. -/
theorem written_assignments (items : List Assignment) :
    style.written (Insert.Part.separated ", " (items.map Insert.itemParts)) = style.assignments items := by
  rw [written_separated, List.map_map, assignments, Sql.commas]
  exact congrArg _ (List.map_congr_left fun item _ => style.written_assignment item)

/-- A row is written part by part. -/
theorem written_row (row : List Expr) : style.written (Insert.rowParts row) = "(" ++ values row ++ ")" := by
  rw [Insert.rowParts, written_append, written_cons, written_singletons, values, Sql.commas, exprTexts_eq_map]
  simp only [written_cons, written_nil, String.append_empty]
  rfl

/-- A list of columns is written part by part. -/
theorem written_columns (columns : List Ident) :
    style.written (Insert.columnParts columns) = if columns.isEmpty then "" else " (" ++ style.idents columns ++ ")" := by
  unfold Insert.columnParts
  split
  · rfl
  · rw [written_append, written_cons, written_singletons, idents, Sql.commas]
    simp only [written_cons, written_nil, String.append_empty]
    rfl

/-- A payload is written part by part. -/
theorem written_payload (payload : Payload) : style.written (Insert.payloadParts payload) = style.payload payload := by
  cases payload with
  | set items =>
    rw [Insert.payloadParts, written_append, written_assignments]
    simp only [written_cons, written_nil, String.append_empty, ← String.append_assoc]
    rfl
  | values columns rows =>
    have hrows : (rows.map Insert.rowParts).map style.written = rows.map fun row => "(" ++ values row ++ ")" := by
      rw [List.map_map]
      exact List.map_congr_left fun row _ => style.written_row row
    rw [Insert.payloadParts, written_append, written_append, written_columns, written_separated, hrows]
    simp only [written_cons, written_nil, String.append_empty, ← String.append_assoc]
    rfl

/-- An upsert is written part by part. -/
theorem written_updates (items : List Assignment) :
    style.written (Insert.updateParts items) =
      if items.isEmpty then ""
      else " " ++ style.keyword "ON DUPLICATE KEY UPDATE" ++ " " ++ style.assignments items := by
  unfold Insert.updateParts
  split
  · rfl
  · rw [written_append, written_assignments]
    simp only [written_cons, written_nil, String.append_empty, ← String.append_assoc]
    rfl

/-- A statement is written part by part. -/
theorem insert_eq_written (statement : Insert) : style.insert statement = style.written statement.parts := by
  have htable : style.written (Insert.Part.separated "." (statement.table.map fun part => [.name part])) =
      style.name statement.table :=
    style.written_singletons "." .name statement.table
  rw [insert_eq, Insert.parts, written_append, written_append, written_append, written_append, written_singletons,
    htable,
    written_payload, written_updates]
  rfl

end Style

/-! ## What the options do -/

/-- To lower a letter first makes no difference to raising it. -/
theorem toUpper_toLower (c : Char) : c.toLower.toUpper = c.toUpper := by
  -- only a capital is changed, and what it becomes is changed back
  by_cases h : c.val ≥ 'A'.val ∧ c.val ≤ 'Z'.val
  · have hnot : ¬(c.val ≥ 'a'.val ∧ c.val ≤ 'z'.val) := by
      rintro ⟨hlow, -⟩
      exact absurd (UInt32.le_trans hlow h.2) (by decide)
    have hlower : c.toLower.val = c.val + 32 := congrArg Char.val (dif_pos h : c.toLower = _)
    have hbounds : c.toLower.val ≥ 'a'.val ∧ c.toLower.val ≤ 'z'.val := by
      obtain ⟨hlow, hhigh⟩ := h
      rw [hlower]
      simp only [ge_iff_le, UInt32.le_iff_toNat_le, UInt32.toNat_add] at hlow hhigh ⊢
      change 65 ≤ _ at hlow
      change _ ≤ 90 at hhigh
      change 97 ≤ _ % _ ∧ _ % _ ≤ 122
      simp only [UInt32.reduceToNat]
      omega
    apply Char.ext
    unfold Char.toUpper
    rw [dif_pos hbounds, dif_neg hnot]
    show c.toLower.val + _ = _
    rw [hlower, UInt32.add_assoc]
    exact UInt32.add_zero _
  · rw [show c.toLower = c from dif_neg h]

/-- Keywords differ by letter case only. -/
theorem LetterCase.toUpper_keyword (letterCase : LetterCase) (word : String) :
    (letterCase.keyword word).toList.map Char.toUpper = word.toList.map Char.toUpper := by
  cases letterCase with
  | upper => rfl
  | lower =>
    rw [LetterCase.keyword, String.toList_ofList, List.map_map]
    exact List.map_congr_left fun c _ => toUpper_toLower c

namespace Insert

/-- Quoting the names of a statement is quoting names where it is written. -/
theorem text_quoted (statement : Insert) (keywordCase : KeywordCase) :
    statement.quoted.text ⟨keywordCase, false⟩ = statement.text ⟨keywordCase, true⟩ := by
  have hfollows := Style.follows_unquoted (Format.style ⟨keywordCase, true⟩ statement.keywordCase)
  exact hfollows.insert_restyled statement

end Insert

namespace Style

variable {a b : Style}

/-- Two styles that quote the same names write the same for all that is no keyword. -/
theorem part_eq (h : a.quoteIdentifiers = b.quoteIdentifiers) {part : Insert.Part} (hpart : part.keywords = []) :
    a.part part = b.part part := by
  cases part with
  | keyword word => cases hpart
  | name part =>
    cases part with
    | ident name => simp only [Style.part, namePart, ident, h]
    | call name arguments => rfl
  | value value => rfl
  | mark text => rfl

/-- For a keyword they write the same letters. -/
theorem toUpper_part (h : a.quoteIdentifiers = b.quoteIdentifiers) (part : Insert.Part) :
    (a.part part).toList.map Char.toUpper = (b.part part).toList.map Char.toUpper := by
  by_cases hpart : part.keywords = []
  · rw [part_eq h hpart]
  · cases part with
    | keyword word => exact (a.letterCase.toUpper_keyword word).trans (b.letterCase.toUpper_keyword word).symm
    | name part => exact absurd rfl hpart
    | value value => exact absurd rfl hpart
    | mark text => exact absurd rfl hpart

end Style

namespace Insert

/-- The options act on the skeleton of a statement and on its names. To quote names is to write the statement whose
names have backticks. To choose a letter case is to write the statement whose leading keyword had it. And under two
letter cases the same parts are written, which hold all keywords, names and values of the statement: the same
characters for each part but a keyword, and the same letters for a keyword. -/
theorem text_options (statement : Insert) :
    (∀ keywordCase, statement.text ⟨keywordCase, true⟩ = statement.quoted.text ⟨keywordCase, false⟩) ∧
    (∀ quotes,
      statement.text ⟨.upper, quotes⟩ = { statement with keywordCase := .upper }.text ⟨.preserve, quotes⟩ ∧
      statement.text ⟨.lower, quotes⟩ = { statement with keywordCase := .lower }.text ⟨.preserve, quotes⟩) ∧
    (statement.parts.flatMap Part.keywords = statement.keywords ∧
      statement.parts.flatMap Part.names = statement.table ++ statement.columnNames.map .ident ∧
      statement.parts.flatMap Part.values = statement.allValues) ∧
    ∀ keywordCase keywordCase' quotes,
      let style := Format.style ⟨keywordCase, quotes⟩ statement.keywordCase
      let style' := Format.style ⟨keywordCase', quotes⟩ statement.keywordCase
      statement.text ⟨keywordCase, quotes⟩ = String.join (statement.parts.map style.part) ∧
      statement.text ⟨keywordCase', quotes⟩ = String.join (statement.parts.map style'.part) ∧
      ∀ part ∈ statement.parts, (part.keywords = [] → style.part part = style'.part part) ∧
        (style.part part).toList.map Char.toUpper = (style'.part part).toList.map Char.toUpper := by
  refine ⟨fun keywordCase => (text_quoted statement keywordCase).symm, fun quotes => ⟨rfl, rfl⟩,
    ⟨keywords_parts statement, names_parts statement, values_parts statement⟩, ?_⟩
  intro keywordCase keywordCase' quotes style style'
  refine ⟨style.insert_eq_written statement, style'.insert_eq_written statement, fun part _ => ?_⟩
  have hquotes : style.quoteIdentifiers = style'.quoteIdentifiers := rfl
  exact ⟨Style.part_eq hquotes, Style.toUpper_part hquotes part⟩

/-- A name gets backticks as a column and none as a value. -/
example :
    let column : Ident := ⟨"b", none, .none⟩
    let statement : Insert :=
      ⟨.lower, none, false, Sql.Name.ofIdents [⟨"t", none, .none⟩], .set [⟨[], ⟨"a", none, .none⟩, .column column⟩], []⟩
    statement.text ⟨.upper, true⟩ = "INSERT INTO \x60t\x60 SET \x60a\x60 = b" := by
  decide +kernel

end Insert

end InsertPivot
