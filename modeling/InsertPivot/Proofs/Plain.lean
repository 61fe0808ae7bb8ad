import Mathlib.Data.List.TakeWhile
import InsertPivot.Proofs.RoundTrip

/-!
# Plain statements

A statement is plain if its names are words without a meaning or stand in backticks, and its values are
literals or such names. Plain statements are read as they were written, whatever the options say: nothing
that a value or a name holds can be taken for anything else.
-/

namespace InsertPivot

open Sql (Name Ident Expr Token IsBody Literal)
open Sql.Lexeme (numeral)

/-! ## Plain values -/

/-- Whether a value is a literal or a name without a meaning, and is read as it is written: a null, a truth
value, a number of decimal digits, a question mark, or a string with a body that a string can have. -/
def Sql.Expr.Plain : Expr → Prop
  | .literal .null _ | .literal (.boolean _) _ => True
  | .literal (.number text false) _ => text ≠ "" ∧ ∀ c ∈ text.toList, c.isDigit
  | .literal (.placeholder text) _ => text = "?"
  | .literal (.single body) _ => IsBody '\x27' true body.toList
  | .literal (.double body) _ => IsBody '\x22' true body.toList
  | .column name => name.Plain
  | _ => False

/-- Digits are a number. -/
theorem numeral_digits {text : String} (hdigits : ∀ c ∈ text.toList, c.isDigit) :
    numeral none text.toList = (.number text false, text.toList.length) := by
  have htake : text.toList.takeWhile Char.isDigit = text.toList :=
    List.takeWhile_eq_self_iff.mpr hdigits
  have hpoint : text.toList ≠ ['.'] := by
    intro heq
    have hdigit := hdigits '.' (by simp [heq])
    revert hdigit
    decide
  simp [numeral, htake, hpoint, Sql.Lexeme.exponent]

/-- Digits are a whole number. -/
theorem whole_number {text : String} (hne : text ≠ "") (hdigits : ∀ c ∈ text.toList, c.isDigit) :
    (Token.number text false).Whole := by
  have hempty : text.toList ≠ [] := by simpa using hne
  obtain ⟨c, cs, htext⟩ := List.exists_cons_of_ne_nil hempty
  refine ⟨⟨c, by rw [htext]; rfl, ?_⟩, numeral_digits hdigits⟩
  simp [hdigits c (by simp [htext])]

/-- A plain value is legible, however deep values may nest. -/
theorem Sql.Expr.Plain.legible {value : Expr} (h : value.Plain) (levels least : Nat) : value.Legible levels least := by
  cases value with
  | literal value _ =>
    refine .literal ?_
    cases value with
    | null => exact (by decide : Sql.IsName "NULL".toList)
    | boolean value =>
      cases value with
      | false => exact (by decide : Sql.IsName "false".toList)
      | true => exact (by decide : Sql.IsName "true".toList)
    | number text long =>
      cases long with
      | false => exact whole_number h.1 h.2
      | true => exact False.elim h
    | placeholder text =>
      have htext : text = "?" := h
      exact ⟨[], by rw [htext]; rfl, by simp⟩
    | single body => exact h
    | double body => exact h
    | _ => exact False.elim h
  | column name => exact .column (Sql.Ident.Plain.free h)
  | _ => exact False.elim h

/-- A plain name is no word that opens an operand. -/
theorem Sql.Ident.Plain.keyword?_ne {name : Ident} (h : name.Plain) {word : String}
    (hword : word ∈ Sql.Reader.openingWords) : name.token.keyword? ≠ some word :=
  fun heq => h.2 word heq (Sql.Reader.openingWords_sublist.subset hword)

/-! ## Plain statements -/

/-- Whether there is something that is inserted: an assignment, or a row. -/
def Payload.IsFilled : Payload → Prop
  | .set items => items ≠ []
  | .values _ rows => rows ≠ []

/-- A statement whose names and values are plain. -/
structure Insert.Plain (statement : Insert) : Prop where
  table : statement.table = Name.ofIdents statement.tableParts
  table_ne : statement.tableParts ≠ []
  names : ∀ name ∈ statement.tableParts ++ statement.columnNames, name.Plain
  payload : statement.payload.IsFilled
  values : ∀ value ∈ statement.allValues, value.Plain

namespace Insert

variable {statement : Insert}

/-- A plain statement is legible: plain values hold no others, and plain names are never taken for words. -/
theorem Plain.legible (h : statement.Plain) : statement.Legible where
  table := h.table
  table_ne := h.table_ne
  table_names name hmem := (h.names name (List.mem_append_left _ hmem)).1
  table_word name hname word hword := by
    have hopening : ∀ word ∈ ["LOCAL", "DIRECTORY", "TABLE"], word ∈ Sql.Reader.openingWords := by decide
    exact (h.names name (List.mem_append_left _ (List.mem_of_mem_head? hname))).keyword?_ne (hopening word hword)
  names name hmem := (h.names name (List.mem_append_right _ hmem)).1
  payload := by
    have hnames : ∀ name ∈ statement.payload.names, name.Plain := fun name hmem =>
      h.names name (List.mem_append_right _ (List.mem_append_left _ hmem))
    have hvalues : ∀ value ∈ statement.payload.allValues, value.Plain := fun value hmem =>
      h.values value (List.mem_append_left _ hmem)
    have hfilled := h.payload
    cases hpayload : statement.payload with
    | set items =>
      rw [hpayload] at hvalues hfilled
      exact ⟨hfilled, fun item hmem => (hvalues _ (List.mem_map_of_mem hmem)).legible _ _⟩
    | values columns rows =>
      rw [hpayload] at hnames hvalues hfilled
      refine ⟨hfilled, fun row hrow value hvalue => (hvalues _ (List.mem_flatten_of_mem hrow hvalue)).legible _ _,
        fun column hcolumn => ?_⟩
      exact (hnames column (List.mem_of_mem_head? hcolumn)).keyword?_ne (by decide)
  updates item hmem := (h.values _ (List.mem_append_right _ (List.mem_map_of_mem hmem))).legible _ _

/-- Plain statements that are written one behind the other, under whatever options, are read as the same
statements: in the letter case that the options select, and with the quotes that they ask for. -/
theorem readInserts_plain (format : Format) {statements : List Insert} (h : ∀ statement ∈ statements, statement.Plain) :
    ∃ found, readInserts (";\n".intercalate (statements.map (·.text format))) = .ok found ∧
      Insert.sameAll found (statements.map (·.restyled format)) := by
  obtain ⟨found, hfound, hsame⟩ := readInserts_texts format (.inl rfl) fun statement hmem => (h statement hmem).legible
  rw [Sql.Lexeme.spell_nil, String.ofList_nil, String.append_empty] at hfound
  exact ⟨found, hfound, sameAll_of_unplaced hsame⟩

/-- Two plain statements: a `SET` list with a string whose body holds quotes and a backslash, and rows, one
of which is empty. -/
def plainOrders : List Insert :=
  [⟨.lower, some .low, true, Name.ofIdents [⟨"shop", none, .none⟩, ⟨"new``orders", some '\x60', .none⟩],
      .set [⟨[⟨"o", none, .none⟩], ⟨"memo", none, .none⟩, .literal (.single "it''s \\'new\\'") .none⟩],
      [⟨[], ⟨"memo", none, .none⟩, .literal .null .none⟩]⟩,
    ⟨.upper, none, false, Name.ofIdents [⟨"orders", none, .none⟩],
      .values []
        [[], [.literal (.number "12" false) .none, .literal (.placeholder "?") .none, .column ⟨"memo", none, .none⟩]],
      []⟩]

theorem readInserts_plain_orders :
    ∃ found, readInserts (";\n".intercalate (plainOrders.map (·.text ⟨.upper, true⟩))) = .ok found ∧
      Insert.sameAll found (plainOrders.map (·.restyled ⟨.upper, true⟩)) := by
  refine readInserts_plain ⟨.upper, true⟩ ?_
  have hword {text : String} (hname : Sql.IsName text.toList) (hword : Sql.fold text ∉ Sql.Keyword.vocabulary) :
      (⟨text, none, .none⟩ : Ident).Plain := by
    refine ⟨hname, ?_⟩
    rintro keyword ⟨⟩
    exact hword
  -- the words of the language are gone through once for all names
  have hfree : ∀ text ∈ ["memo", "shop", "o", "orders"], Sql.fold text ∉ Sql.Keyword.vocabulary := by decide +kernel
  have hmemo : (⟨"memo", none, .none⟩ : Ident).Plain := hword (by decide) (hfree _ (by simp))
  have hquoted : (⟨"new``orders", some '\x60', .none⟩ : Ident).Plain := by
    refine ⟨⟨rfl, [.plain 'n', .plain 'e', .plain 'w', .doubled, .plain 'o', .plain 'r', .plain 'd', .plain 'e', .plain 'r', .plain 's'],
      by simp [Sql.Part.Fits], by decide⟩, ?_⟩
    rintro keyword ⟨⟩
  have hbody : (Expr.literal (.single "it''s \\'new\\'") .none).Plain :=
    ⟨[.plain 'i', .plain 't', .doubled, .plain 's', .plain ' ', .escaped '\x27', .plain 'n', .plain 'e', .plain 'w', .escaped '\x27'],
      by simp [Sql.Part.Fits], by decide⟩
  refine List.forall_mem_cons.mpr ⟨?_, List.forall_mem_cons.mpr ⟨?_, by simp⟩⟩
  · refine ⟨rfl, by simp [tableParts, Name.ofIdents], ?_, by simp [Payload.IsFilled], ?_⟩
    · have hshop : (⟨"shop", none, .none⟩ : Ident).Plain := hword (by decide) (hfree _ (by simp))
      have ho : (⟨"o", none, .none⟩ : Ident).Plain := hword (by decide) (hfree _ (by simp))
      simp [tableParts, Name.ofIdents, columnNames, Payload.names, Assignment.names, hshop, hquoted, ho, hmemo]
    · simp [allValues, Payload.allValues, hbody]
      exact trivial
  · refine ⟨rfl, by simp [tableParts, Name.ofIdents], ?_, by simp [Payload.IsFilled], ?_⟩
    · have horders : (⟨"orders", none, .none⟩ : Ident).Plain := hword (by decide) (hfree _ (by simp))
      simp [tableParts, Name.ofIdents, columnNames, Payload.names, horders]
    · have htwelve : (Expr.literal (.number "12" false) .none).Plain := ⟨by decide, by decide⟩
      have hmark : (Expr.literal (.placeholder "?") .none).Plain := rfl
      have hcolumn : (Expr.column ⟨"memo", none, .none⟩).Plain := hmemo
      simp [allValues, Payload.allValues, htwelve, hmark, hcolumn]

end Insert
end InsertPivot
