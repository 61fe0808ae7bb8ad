import InsertPivot.Proofs.Forms
import InsertPivot.Proofs.Idempotence
import InsertPivot.Proofs.LongestHeading
import InsertPivot.Proofs.Rewriting

/-!
# Into rows and back

A statement with a `SET` list is converted into one with a row and back again. What comes back is the statement
itself, without the names that qualified its columns: its first conversion writes a text that is cut into one
fragment, and that is read again.

This needs that the statement is legible in both forms. A row is part of a query, so its values may stand one
level less deep than those of a `SET` list, and a column list that starts with `SELECT` is taken for a query.
-/

namespace InsertPivot

open Sql (Ident Expr unplaced)

/-! ## The heading of a written statement -/

namespace Heading

/-- The words that may stand between `INSERT` and `INTO`, as texts. -/
def modifierWords : List String :=
  ["LOW_PRIORITY", "DELAYED", "HIGH_PRIORITY", "IGNORE"]

/-- A modifier in either case spells itself. -/
theorem toUpper_modifierWord (letterCase : LetterCase) {word : String} (hword : word ∈ modifierWords) :
    (letterCase.keyword word).toList.map Char.toUpper ∈ modifiers := by
  simp only [modifierWords, List.mem_cons, List.not_mem_nil, or_false] at hword
  obtain rfl | rfl | rfl | rfl := hword
  all_goals cases letterCase <;> decide

/-- Modifiers with a blank before each. -/
def spacedWords (letterCase : LetterCase) (words : List String) : List Char :=
  words.flatMap fun word => ' ' :: (letterCase.keyword word).toList

/-- A blank and more stand behind the first word, whether a modifier follows or `INTO`. -/
theorem exists_behind (letterCase : LetterCase) (words : List String) (rest : List Char) :
    ∃ c behind, spacedWords letterCase words ++ ' ' :: ((letterCase.keyword "INTO").toList ++ ' ' :: rest) =
      ' ' :: c :: behind := by
  have hcons (cs : List Char) : ∃ c behind, cs ++ ' ' :: rest = c :: behind := by
    cases cs <;> exact ⟨_, _, rfl⟩
  have hwords : ∃ cs, spacedWords letterCase words ++ ' ' :: ((letterCase.keyword "INTO").toList ++ ' ' :: rest) =
      ' ' :: (cs ++ ' ' :: rest) := by
    cases words with
    | nil => exact ⟨_, rfl⟩
    | cons word words =>
      exact ⟨(letterCase.keyword word).toList ++ (spacedWords letterCase words ++ ' ' :: (letterCase.keyword "INTO").toList),
        by simp [spacedWords]⟩
  obtain ⟨cs, hcs⟩ := hwords
  obtain ⟨c, behind, hbehind⟩ := hcons cs
  exact ⟨c, behind, by rw [hcs, hbehind]⟩

/-- Before words with blanks in front of them a word ends. -/
theorem atWordEnd_spacedWords (letterCase : LetterCase) (words : List String) (rest : List Char) :
    atWordEnd (spacedWords letterCase words ++ ' ' :: rest) := by
  cases words <;> rfl

/-- A text that runs up to some modifiers runs up to their end. -/
theorem Runs.behind_spacedWords {text : List Char} {letterCase : LetterCase} {words : List String}
    (hwords : ∀ word ∈ words, word ∈ modifierWords) {rest : List Char}
    (h : Runs text (spacedWords letterCase words ++ ' ' :: rest)) : Runs text (' ' :: rest) := by
  induction words with
  | nil => exact h
  | cons word words ih =>
    obtain ⟨hword, hwords⟩ := List.forall_mem_cons.mp hwords
    refine ih hwords (h.more ⟨[' '], (letterCase.keyword word).toList, ?_, List.cons_ne_nil _ _, by decide,
      toUpper_modifierWord letterCase hword, atWordEnd_spacedWords letterCase words rest⟩)
    simp [spacedWords]

/-- A heading that is written with `INTO` is complete. -/
theorem complete_of_into {text : String} (letterCase : LetterCase) {words : List String}
    (hwords : ∀ word ∈ words, word ∈ modifierWords) {rest : List Char}
    (htext : text.toList = (letterCase.keyword "INSERT").toList ++ (spacedWords letterCase words ++
      ' ' :: ((letterCase.keyword "INTO").toList ++ ' ' :: rest))) :
    complete text = text := by
  have hlead : Runs text.toList
      (spacedWords letterCase words ++ ' ' :: ((letterCase.keyword "INTO").toList ++ ' ' :: rest)) :=
    .lead htext (by cases letterCase <;> decide) (atWordEnd_spacedWords letterCase words _)
  have hinto : GoesOn ["INTO".toList] (' ' :: ((letterCase.keyword "INTO").toList ++ ' ' :: rest)) (' ' :: rest) :=
    ⟨[' '], _, rfl, List.cons_ne_nil _ _, by decide, by cases letterCase <;> decide, rfl⟩
  rw [complete, (hlead.behind_spacedWords hwords).complete?_eq_none hinto, Option.getD_none]

end Heading

/-- The words that stand before `INTO` in a statement that is written. -/
def Insert.modifierWords (statement : Insert) : List String :=
  (statement.priority.map Sql.Priority.text).toList ++ if statement.ignore then ["IGNORE"] else []

/-- The words of a statement before `INTO` are modifiers of a heading. -/
theorem Insert.mem_modifierWords (statement : Insert) :
    ∀ word ∈ statement.modifierWords, word ∈ Heading.modifierWords := by
  intro word hmem
  obtain hmem | hmem := List.mem_append.mp hmem
  · obtain ⟨priority, -, rfl⟩ := Option.map_eq_some_iff.mp (Option.mem_toList.mp hmem)
    cases priority <;> decide
  · cases hignore : statement.ignore with
    | true =>
      rw [hignore, if_pos rfl] at hmem
      rw [List.mem_singleton.mp hmem]
      decide
    | false => simp [hignore] at hmem

/-- A statement starts with `INSERT`, its modifiers and `INTO`, in one case. -/
theorem Style.exists_insert (style : Style) (statement : Insert) :
    ∃ rest, (style.insert statement).toList = (style.letterCase.keyword "INSERT").toList ++
      (Heading.spacedWords style.letterCase statement.modifierWords ++
        ' ' :: ((style.letterCase.keyword "INTO").toList ++ ' ' :: rest)) := by
  obtain ⟨keywordCase, priority, ignore, table, payload, updates⟩ := statement
  cases priority <;> cases ignore <;>
    simp [Style.insert, Insert.modifierWords, Heading.spacedWords, Style.keyword]

namespace Insert

variable {statement : Insert}

/-- The heading of a statement that is written is complete, whatever stands behind the statement. -/
theorem complete_text (statement : Insert) (format : Format) (behind : String) :
    Heading.complete (statement.text format ++ behind) = statement.text format ++ behind := by
  obtain ⟨rest, htext⟩ := (format.style statement.keywordCase).exists_insert statement
  have hwords := statement.mem_modifierWords
  refine Heading.complete_of_into (format.style statement.keywordCase).letterCase hwords
    (?_ : _ = _ ++ (_ ++ ' ' :: (_ ++ ' ' :: (rest ++ behind.toList))))
  rw [String.toList_append, text, htext]
  simp

/-- What is written for a statement starts with `INSERT`, a space and one more character. -/
theorem exists_opening (statement : Insert) (format : Format) :
    ∃ c behind, (statement.text format).toList =
      ((format.style statement.keywordCase).letterCase.keyword "INSERT").toList ++ ' ' :: c :: behind := by
  obtain ⟨rest, htext⟩ := (format.style statement.keywordCase).exists_insert statement
  obtain ⟨c, behind, hbehind⟩ := Heading.exists_behind (format.style statement.keywordCase).letterCase
    statement.modifierWords rest
  exact ⟨c, behind, by rw [text, htext, hbehind]⟩

/-- What is written for a statement opens a candidate. -/
theorem isCandidate_text (statement : Insert) (format : Format) (hsemicolon : ';' ∉ (statement.text format).toList) :
    Fragment.IsCandidate ((statement.text format).toList ++ [';']) := by
  obtain ⟨c, behind, hopening⟩ := statement.exists_opening format
  rw [hopening] at hsemicolon ⊢
  refine ⟨((format.style statement.keywordCase).letterCase.keyword "INSERT").toList, c, behind, by simp, ?_,
    fun hmem => hsemicolon (by simp [hmem])⟩
  cases (format.style statement.keywordCase).letterCase <;> decide

/-- So does what is written for several, whatever stands in them. -/
theorem startsCandidate_written (format : Format) (policy : FailurePolicy) (statement : Insert) (others : List Insert) :
    Fragment.StartsCandidate (Converter.written ⟨.standard format, policy⟩ (statement :: others)).toList := by
  obtain ⟨c, behind, hopening⟩ := statement.exists_opening format
  obtain ⟨more, hmore⟩ : ∃ more, Converter.written ⟨.standard format, policy⟩ (statement :: others) =
      statement.text format ++ more ++ ";" := by
    cases others with
    | nil => exact ⟨"", by simp [Converter.written, Codec.standard]⟩
    | cons next others =>
      exact ⟨";\n" ++ ";\n".intercalate ((next :: others).map (·.text format)),
        by simp [Converter.written, Codec.standard, String.append_assoc]⟩
  refine ⟨((format.style statement.keywordCase).letterCase.keyword "INSERT").toList, c, behind ++ more.toList ++ [';'],
    ?_, ?_, by simp⟩
  · simp [hmore, hopening]
  · cases (format.style statement.keywordCase).letterCase <;> decide

/-- A statement without semicolons is one fragment with the one behind it. -/
theorem split_text (statement : Insert) (format : Format) (hsemicolon : ';' ∉ (statement.text format).toList) :
    Fragment.split (statement.text format ++ ";") = [.statement (statement.text format ++ ";")] := by
  have hcandidate := statement.isCandidate_text format hsemicolon
  have hseek := Fragment.seek_isCandidate hcandidate []
  have hnothing : Fragment.splitChars [] = [] := Fragment.splitChars_of_none rfl
  rw [List.append_nil] at hseek
  rw [Fragment.split, String.toList_append]
  change Fragment.splitChars ((statement.text format).toList ++ [';']) = _
  rw [Fragment.splitChars_of_some hseek, hnothing, Fragment.ofChars,
    if_pos (Fragment.startsStatement_of_isCandidate hcandidate)]
  simp [Fragment.ofGap, String.ofList_append]

/-! ## The forms of a statement -/

/-- The style of a statement and its `VALUES` form do not depend on each other. -/
theorem toValues_restyled (statement : Insert) (format : Format) :
    statement.toValues.restyled format = (statement.restyled format).toValues := by
  obtain ⟨keywordCase, priority, ignore, table, payload, updates⟩ := statement
  cases payload with
  | set items => simp [toValues, restyled, Style.restyledInsert, Style.restyledPayload, Style.restyledAssignment]
  | values columns rows => rfl

/-- The style of a statement and its unqualified form do not depend on each other. -/
theorem unqualified_restyled (statement : Insert) (format : Format) :
    statement.unqualified.restyled format = (statement.restyled format).unqualified := by
  obtain ⟨keywordCase, priority, ignore, table, payload, updates⟩ := statement
  cases payload with
  | set items => simp [unqualified, restyled, Style.restyledInsert, Style.restyledPayload, Style.restyledAssignment]
  | values columns rows => rfl

/-- The name that is told of a table does not depend on places. -/
theorem tableName_unplaced (statement : Insert) : (unplaced statement).tableName = statement.tableName := by
  have hbase (part : Sql.NamePart) : (unplaced part).base = part.base := by cases part <;> rfl
  show Sql.Name.base (unplaced statement.table) = statement.table.base
  rw [Sql.Name.base, Sql.Name.base, Sql.getLast?_unplaced]
  cases statement.table.getLast? with
  | none => rfl
  | some part => exact hbase part

/-- Places do not matter for the form of a statement. -/
theorem toSet_unplaced (statement : Insert) : (unplaced statement).toSet = statement.toSet.map unplaced := by
  have hname := tableName_unplaced statement
  obtain ⟨keywordCase, priority, ignore, table, payload, updates⟩ := statement
  cases payload with
  | set items => rfl
  | values columns rows =>
    have hrow : firstRow (unplaced rows) = unplaced (firstRow rows) := by cases rows <;> rfl
    have hitems : unplaced (columns.zipWith (Assignment.mk []) (firstRow rows)) =
        (unplaced columns).zipWith (Assignment.mk []) (unplaced (firstRow rows)) := by
      have hitem (column : Ident) (value : Expr) : unplaced (Assignment.mk [] column value) =
          Assignment.mk [] (unplaced column) (unplaced value) := rfl
      show (columns.zipWith (Assignment.mk []) (firstRow rows)).map unplaced =
        (columns.map unplaced).zipWith (Assignment.mk []) ((firstRow rows).map unplaced)
      simp only [List.map_zipWith, List.zipWith_map, hitem]
    rw [unplaced_insert, unplaced_payload_values] at hname ⊢
    simp only [toSet, Sql.isEmpty_unplaced, hrow, Sql.length_unplaced, hname]
    split
    · rfl
    · split
      · rfl
      · exact congrArg
          (fun items => Except.ok (⟨keywordCase, priority, ignore, unplaced table, .set items, unplaced updates⟩ : Insert))
          hitems.symm

end Insert

/-! ## The round trip -/

namespace Converter

variable {policy : FailurePolicy} {direction : Direction} {text : String}

/-- A text of one statement that can be read and converted is converted. -/
theorem convert_single {c : Converter} {statement converted : Insert} (hsplit : Fragment.split text = [.statement text])
    (hread : c.codec.parse (Heading.complete text) = .ok [statement])
    (hconvert : direction.convert statement = .ok converted) :
    c.convert text direction = .ok (c.codec.format converted ++ ";") := by
  have happly : direction.apply [statement] = .ok [converted] := by
    rw [Direction.apply, List.mapM_cons, hconvert]
    rfl
  have hattempt : c.attempt direction text = .ok [converted] := by
    rw [attempt, hread]
    show (direction.apply [statement]).mapError Refusal.form = _
    rw [happly]
    rfl
  have hcontribution : c.contribution direction (.statement text) = .ok (c.codec.format converted ++ ";") := by
    rw [contribution, hattempt]
    simp [written]
  rw [convert, hsplit, List.mapM_cons, hcontribution]
  simp [String.join]

/-- A statement with a `SET` list is converted into rows and back into itself, without the names that qualified its
columns, if both of its forms are legible and no semicolon is written. -/
theorem convert_toValues_toSet (format : Format) (policy : FailurePolicy) {statement : Insert} {items : List Assignment}
    (hsplit : Fragment.split text = [.statement text]) (hread : readInserts (Heading.complete text) = .ok [statement])
    (hitems : items ≠ []) (hpayload : statement.payload = .set items) (hlegible : statement.toValues.Legible)
    (hsemicolon : ';' ∉ (statement.toValues.text format).toList) :
    ∃ rows, (Converter.mk (.standard format) policy).convert text .toValues = .ok rows ∧
      (Converter.mk (.standard format) policy).convert rows .toSet =
      .ok (statement.unqualified.text format ++ ";") := by
  refine ⟨statement.toValues.text format ++ ";", convert_single hsplit hread rfl, ?_⟩
  obtain ⟨again, hagain, hsame⟩ := hlegible.readInserts_ending format (.inr rfl)
  have hread' : readInserts (Heading.complete (statement.toValues.text format ++ ";")) = .ok [again] := by
    rw [Insert.complete_text]
    exact hagain
  -- what is read again differs from the statement in places and style, which the conversion does not look at
  have hset : again.toSet.map unplaced = .ok (unplaced (statement.unqualified.restyled format)) := by
    have hrestyled : (statement.restyled format).toValues.toSet = .ok (statement.restyled format).unqualified :=
      Insert.toSet_toValues
        (by simpa using hitems) (congrArg (format.style statement.keywordCase).restyledPayload hpayload)
    rw [← Insert.toSet_unplaced, hsame, Insert.toSet_unplaced, Insert.toValues_restyled, hrestyled,
      ← Insert.unqualified_restyled]
    rfl
  obtain ⟨converted, hconvert, hconverted⟩ : ∃ converted, again.toSet = .ok converted ∧
      unplaced converted = unplaced (statement.unqualified.restyled format) := by
    cases hconvert : again.toSet with
    | error fault =>
      rw [hconvert] at hset
      cases hset
    | ok converted =>
      rw [hconvert] at hset
      exact ⟨converted, rfl, Except.ok.inj hset⟩
  have htext : converted.text format = statement.unqualified.text format :=
    (Insert.text_congr hconverted format).trans (Insert.text_restyled _ format)
  rw [← htext]
  exact convert_single (Insert.split_text _ format hsemicolon) hread' hconvert

/-- A `SET` list whose first column is called `select` is converted into a column list that starts a query, which is
not read. -/
theorem not_convert_select :
    let c : Converter := ⟨.standard {}, .abort⟩
    (c.convert "INSERT INTO t SET select = 1" .toValues).toOption = some "INSERT INTO t (select) VALUES (1);" ∧
      (c.convert "INSERT INTO t (select) VALUES (1);" .toSet).toOption = none ∧
        ¬ ∀ text statement items, ';' ∉ text.toList → Fragment.split text = [.statement text] →
          readInserts (Heading.complete text) = .ok [statement] → statement.payload = .set items → items ≠ [] →
            ∃ rows, c.convert text .toValues = .ok rows ∧
              c.convert rows .toSet = .ok (statement.unqualified.text {} ++ ";") := by
  intro c
  have hrows : (c.convert "INSERT INTO t SET select = 1" .toValues).toOption =
      some "INSERT INTO t (select) VALUES (1);" := by
    decide +kernel
  have hrefused : (c.convert "INSERT INTO t (select) VALUES (1);" .toSet).toOption = none := by decide +kernel
  refine ⟨hrows, hrefused, fun all => ?_⟩
  have hread : (readInserts (Heading.complete "INSERT INTO t SET select = 1")).toOption.map
      (List.map fun s => (s.isSetForm, s.payload.names.length)) = some [(true, 1)] := by decide +kernel
  cases h : readInserts (Heading.complete "INSERT INTO t SET select = 1") with
  | error fault =>
    rw [h] at hread
    cases hread
  | ok found =>
    rw [h] at hread
    obtain ⟨statement, rfl, hstatement⟩ : ∃ statement, found = [statement] ∧
        (statement.isSetForm, statement.payload.names.length) = (true, 1) := by
      simpa using List.map_eq_singleton_iff.mp (Option.some.inj hread)
    obtain ⟨hset, hlength⟩ := Prod.mk.inj hstatement
    cases hpayload : statement.payload with
    | values columns rows => simp [Insert.isSetForm, hpayload] at hset
    | set items =>
      have hitems : items ≠ [] := by
        rintro rfl
        simp [hpayload, Payload.names] at hlength
      obtain ⟨rows, hconvert, hback⟩ := all _ statement items (by decide) (by decide +kernel) h hpayload hitems
      rw [hconvert] at hrows
      cases Option.some.inj hrows
      rw [hback] at hrefused
      cases hrefused

end Converter

end InsertPivot
