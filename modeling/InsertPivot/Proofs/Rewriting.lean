import InsertPivot.Proofs.Plain

/-!
# Writing again what was written

A statement that is written, read and written again has the same text as the first time, under any options.
For the places of its names do not matter where a statement is written, and the quotes and the letter case
that it gets are those that it keeps.

A statement that is not legible need not be read at all where it was written: an empty `SET` list, which is
what `DEFAULT VALUES` is taken for, is written without an item.
-/

namespace InsertPivot

open Sql (Name NamePart Ident Expr unplaced)

namespace Style

variable (style : Style)

/-! ## What is written does not depend on places -/

@[simp] theorem ident_unplaced (name : Ident) : style.ident (unplaced name) = style.ident name := rfl

@[simp] theorem namePart_unplaced (part : NamePart) : style.namePart (unplaced part) = style.namePart part := by
  cases part with
  | ident name => rfl
  | call name arguments => exact Sql.NamePart.text_unplaced (.call name arguments)

/-- A list gets the texts that each of its items gets. -/
theorem map_map_of_restores {α β : Type} {f f' : α → β} {g : α → α} (h : ∀ a, f (g a) = f' a) (as : List α) :
    (as.map g).map f = as.map f' :=
  List.map_map.trans (List.map_congr_left fun a _ => h a)

/-- What does not depend on places does not depend on them in a list. -/
theorem map_unplaced {α β : Type} [Sql.Placed α] {f : α → β} (h : ∀ a, f (unplaced a) = f a) (as : List α) :
    (unplaced as).map f = as.map f :=
  map_map_of_restores h as

@[simp] theorem name_unplaced (parts : Name) : style.name (unplaced parts) = style.name parts := by
  rw [name, map_unplaced style.namePart_unplaced, name]

@[simp] theorem idents_unplaced (names : List Ident) : style.idents (unplaced names) = style.idents names := by
  rw [idents, map_unplaced style.ident_unplaced, idents]

@[simp] theorem assignment_unplaced (item : Assignment) : style.assignment (unplaced item) = style.assignment item := by
  obtain ⟨qualifier, column, value⟩ := item
  have hqualifier : (unplaced qualifier).map (fun part => style.ident part ++ ".") =
      qualifier.map fun part => style.ident part ++ "." := map_unplaced (fun _ => rfl) qualifier
  simp only [unplaced_assignment, assignment, hqualifier, ident_unplaced, Sql.Expr.text_unplaced]

@[simp] theorem assignments_unplaced (items : List Assignment) :
    style.assignments (unplaced items) = style.assignments items := by
  rw [assignments, map_unplaced style.assignment_unplaced, assignments]

@[simp] theorem payload_unplaced (payload : Payload) : style.payload (unplaced payload) = style.payload payload := by
  cases payload with
  | set items => simp only [unplaced_payload_set, Style.payload, assignments_unplaced]
  | values columns rows =>
    have hrow (row : List Expr) : "(" ++ values (unplaced row) ++ ")" = "(" ++ values row ++ ")" := by
      simp only [values, Sql.exprTexts_unplaced]
    have hrows : (unplaced rows).map (fun row => "(" ++ values row ++ ")") =
        rows.map fun row => "(" ++ values row ++ ")" :=
      map_unplaced hrow rows
    simp only [unplaced_payload_values, Style.payload, Sql.isEmpty_unplaced, idents_unplaced, hrows]

/-- Where names and values were read does not matter where a statement is written. -/
theorem insert_unplaced (statement : Insert) : style.insert (unplaced statement) = style.insert statement := by
  obtain ⟨keywordCase, priority, ignore, table, payload, updates⟩ := statement
  simp only [InsertPivot.unplaced_insert, Style.insert, name_unplaced, payload_unplaced, Sql.isEmpty_unplaced,
    assignments_unplaced]

/-! ## What is written keeps its style -/

/-- Whether a style writes what another has restyled as the other writes it. -/
structure Follows (plain style : Style) : Prop where
  letterCase : plain.letterCase = style.letterCase
  ident_restyled : ∀ name, plain.ident (style.restyled name) = style.ident name

/-- Every style follows itself. -/
theorem follows_self : style.Follows style := by
  refine ⟨rfl, fun name => ?_⟩
  cases hquotes : style.quoteIdentifiers <;> cases hname : name.quote <;>
    simp [ident, restyled, hquotes, hname, Ident.backticked]

/-- A style that quotes no name writes the quotes that are there. -/
theorem follows_unquoted : Style.Follows ⟨style.letterCase, false⟩ style := by
  refine ⟨rfl, fun name => ?_⟩
  cases hquotes : style.quoteIdentifiers <;> cases hname : name.quote <;>
    simp [ident, restyled, hquotes, hname]

namespace Follows

variable {plain style : Style} (h : plain.Follows style)
include h

/-- What a style made of a part of a name is written as it stands. -/
theorem namePart_restyled (part : NamePart) : plain.namePart (style.restyledPart part) = style.namePart part := by
  cases part with
  | ident name => exact h.ident_restyled name
  | call name arguments => rfl

/-- What a style made of an assignment is written as it stands. -/
theorem assignment_restyled (item : Assignment) :
    plain.assignment (style.restyledAssignment item) = style.assignment item := by
  have hpart (part : Ident) : plain.ident (style.restyled part) ++ "." = style.ident part ++ "." :=
    congrArg (· ++ ".") (h.ident_restyled part)
  rw [restyledAssignment, assignment, map_map_of_restores hpart, h.ident_restyled, assignment]

/-- What a style made of assignments is written as it stands. -/
theorem assignments_restyled (items : List Assignment) :
    plain.assignments (items.map style.restyledAssignment) = style.assignments items := by
  rw [assignments, map_map_of_restores h.assignment_restyled, assignments]

/-- What a style made of a payload is written as it stands. -/
theorem payload_restyled (payload : Payload) :
    plain.payload (style.restyledPayload payload) = style.payload payload := by
  have hkeyword (word : String) : plain.keyword word = style.keyword word := by rw [keyword, keyword, h.letterCase]
  cases payload with
  | set items => simp only [restyledPayload, Style.payload, h.assignments_restyled, hkeyword]
  | values columns rows =>
    simp only [restyledPayload, Style.payload, List.isEmpty_map, idents, map_map_of_restores h.ident_restyled, hkeyword]

/-- What a style made of a statement is written as it stands. -/
theorem insert_restyled (statement : Insert) :
    plain.insert (style.restyledInsert statement) = style.insert statement := by
  have hkeyword (word : String) : plain.keyword word = style.keyword word := by rw [keyword, keyword, h.letterCase]
  have htable : plain.name (statement.table.map style.restyledPart) = style.name statement.table := by
    rw [name, map_map_of_restores h.namePart_restyled, name]
  simp only [Style.insert, restyledInsert, htable, h.payload_restyled, List.isEmpty_map, h.assignments_restyled,
    hkeyword]

end Follows

end Style

namespace Insert

variable {statement : Insert}

/-- The letter case that a statement is written in is its own once it has been written. -/
theorem text_restyled (statement : Insert) (format : Format) :
    (statement.restyled format).text format = statement.text format := by
  have hstyle : format.style (format.style statement.keywordCase).letterCase = format.style statement.keywordCase := by
    obtain ⟨keywordCase, quoteIdentifiers⟩ := format
    cases keywordCase <;> rfl
  show (format.style (format.style statement.keywordCase).letterCase).insert _ = _
  rw [hstyle]
  exact (Style.follows_self _).insert_restyled statement

/-- Two statements that differ only in places are written as one text. -/
theorem text_congr {a b : Insert} (h : unplaced a = unplaced b) (format : Format) : a.text format = b.text format := by
  have hcase : a.keywordCase = b.keywordCase := (congrArg keywordCase h : (unplaced a).keywordCase = (unplaced b).keywordCase)
  rw [text, text, hcase, ← Style.insert_unplaced, h, Style.insert_unplaced]

/-- A legible statement is read alone from what is written for it, with a semicolon behind it or without. -/
theorem Legible.readInserts_ending (h : statement.Legible) (format : Format) {ending : List Sql.Lexeme.Piece}
    (hending : IsEnding ending) :
    ∃ again, readInserts (statement.text format ++ String.ofList (Sql.Lexeme.spell ending)) = .ok [again] ∧
      unplaced again = unplaced (statement.restyled format) := by
  obtain ⟨found, hfound, hsame⟩ := readInserts_texts format hending (List.forall_mem_singleton.mpr h)
  rw [List.map_singleton, String.intercalate_singleton] at hfound
  obtain ⟨again, rfl⟩ : ∃ again, found = [again] := by
    have hlength := congrArg List.length hsame
    simp only [Sql.length_unplaced, List.length_map, List.length_singleton] at hlength
    exact List.length_eq_one_iff.mp hlength
  exact ⟨again, hfound, by simpa using hsame⟩

/-- Writing reaches a fixpoint: a legible statement is written as a text that is read as one statement, and
this is written as the same text. -/
theorem readInserts_text (format : Format) (h : statement.Legible) :
    ∃ again, readInserts (statement.text format) = .ok [again] ∧ again.text format = statement.text format := by
  obtain ⟨again, hagain, hsame⟩ := h.readInserts_ending format (.inl rfl)
  rw [Sql.Lexeme.spell_nil, String.ofList_nil, String.append_empty] at hagain
  exact ⟨again, hagain, (text_congr hsame format).trans (text_restyled statement format)⟩

/-- A sum behind a sign in a test of a product, and functions in a branch of a choice. -/
def computed : Insert :=
  let name (text : String) : Ident := ⟨text, none, .none⟩
  let number (text : String) : Expr := .literal (.number text false) .none
  let call (function : String) (items : List Expr) : Expr :=
    .call { name := [name function], arguments := .given none (items.map .value) [] }
  let sum : Expr := .unary .minus (.nested (.binary (number "1") .plus (.column (name "b"))))
  let listed : Expr := .inList (.column (name "b")) false [number "1", number "2"]
  let choice : Expr := .case none [⟨listed, call "COALESCE" [.column (name "b"), call "NOW" []]⟩] (some (number "2"))
  ⟨.lower, none, true, Name.ofIdents [name "t"],
    .set [⟨[], name "a", .is (.binary sum .multiply (number "2")) true .null⟩, ⟨[], name "b", choice⟩], []⟩

theorem readInserts_text_computed :
    ∃ again, readInserts (computed.text {}) = .ok [again] ∧ again.text {} = computed.text {} := by
  have hfree : ∀ text ∈ ["a", "b", "t", "NOW", "COALESCE"], (⟨text, none, .none⟩ : Ident).Free := by
    have hwords : ∀ text ∈ ["a", "b", "t", "NOW", "COALESCE"],
        Sql.IsName text.toList ∧ Sql.fold text ∉ Sql.Reader.openingWords := by decide
    intro text hmem
    refine ⟨(hwords text hmem).1, ?_⟩
    rintro keyword ⟨⟩
    exact (hwords text hmem).2
  have ha := hfree "a" (by decide)
  have hb := hfree "b" (by decide)
  have ht := hfree "t" (by decide)
  have hnow := hfree "NOW" (by decide)
  have hcoalesce := hfree "COALESCE" (by decide)
  have hone : (Sql.Token.number "1" false).Whole := whole_number (by decide) (by decide)
  have htwo : (Sql.Token.number "2" false).Whole := whole_number (by decide) (by decide)
  have hfits : (Expr.column ⟨"b", none, .none⟩).FitsArgument := ⟨by decide, by decide⟩
  have hfitsNow : (Expr.call { name := [⟨"NOW", none, .none⟩], arguments := .given none [] [] }).FitsArgument :=
    ⟨by decide, by decide⟩
  refine readInserts_text {} ⟨rfl, by decide, ?_, ?_, ?_, ⟨by simp, ?_⟩, by simp [computed]⟩
  · exact List.forall_mem_singleton.mpr ht.1
  · rintro name ⟨⟩
    decide
  · exact List.forall_mem_cons.mpr ⟨ha.1, List.forall_mem_singleton.mpr hb.1⟩
  · refine List.forall_mem_cons.mpr ⟨?_, List.forall_mem_singleton.mpr ?_⟩
    · refine .is (by decide) (by decide) (.joined (.binary (.inr (by decide))) (by decide) (by decide) ?_ (.literal htwo))
      exact .unary (by decide)
        (.nested (.joined (.binary (.inr (by decide))) (by decide) (by decide) (.literal hone) (.column hb)))
    · refine .case (by simp) (by simp) (List.forall_mem_singleton.mpr ?_) (List.forall_mem_singleton.mpr ?_) ?_
      · refine .inList ⟨by decide, by decide⟩ (by decide) (by decide) (.column hb) ?_
        exact List.forall_mem_cons.mpr ⟨.literal hone, List.forall_mem_singleton.mpr (.literal htwo)⟩
      · refine .function ⟨hcoalesce.1, fun keyword hmem => .inl (hcoalesce.2 keyword hmem)⟩ ?_ ?_
        · exact List.forall_mem_cons.mpr ⟨hfits, List.forall_mem_singleton.mpr hfitsNow⟩
        · refine List.forall_mem_cons.mpr ⟨.column hb, List.forall_mem_singleton.mpr ?_⟩
          exact .function ⟨hnow.1, fun keyword hmem => .inl (hnow.2 keyword hmem)⟩ (by simp) (by simp)
      · rintro e ⟨⟩
        exact .literal htwo

/-- `DEFAULT VALUES` is read as an empty `SET` list, which is written without an item and not read again. -/
theorem not_readInserts_text_default :
    (readInserts "INSERT INTO t DEFAULT VALUES").toOption.map (List.map (·.text {})) = some ["INSERT INTO t SET "] ∧
      ¬ ∀ text found, readInserts text = .ok found → ∀ statement ∈ found,
        ∃ again, readInserts (statement.text {}) = .ok [again] ∧ again.text {} = statement.text {} := by
  have htext : (readInserts "INSERT INTO t DEFAULT VALUES").toOption.map (List.map (·.text {})) =
      some ["INSERT INTO t SET "] := by decide +kernel
  have hrefused : (readInserts "INSERT INTO t SET ").toOption.isNone := by decide +kernel
  refine ⟨htext, fun all => ?_⟩
  cases h : readInserts "INSERT INTO t DEFAULT VALUES" with
  | error fault =>
    rw [h] at htext
    cases htext
  | ok found =>
    rw [h] at htext
    obtain ⟨statement, rfl, hstatement⟩ : ∃ statement, found = [statement] ∧ statement.text {} =
        "INSERT INTO t SET " := by
      simpa using List.map_eq_singleton_iff.mp (Option.some.inj htext)
    obtain ⟨again, hagain, -⟩ := all _ _ h statement (by simp)
    rw [hstatement] at hagain
    rw [hagain] at hrefused
    cases hrefused

end Insert
end InsertPivot
