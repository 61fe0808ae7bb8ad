import InsertPivot.Proofs.Forms

/-!
# Which statements have a `SET` form

A `SET` list needs a column, and a value for each column. Columns and rows that lack one of these have no `SET` form,
and `Insert.Lacks` says what they lack, as it is reported: of the two faults the missing columns come first. Whatever
lacks nothing becomes what `Insert.Becomes` says, place by place.

Neither looks beyond the first row or beyond the last column, so nothing that stands there makes a difference. A list of
statements is refused for the first of them that lacks something.
-/

namespace InsertPivot

open Sql (Ident Expr Name NamePart)

namespace Insert

variable {statement set : Insert} {columns : List Ident} {rows : List (List Expr)} {fault : FormFault}

/-! ## What a statement lacks -/

/-- What a table is called by: the last part of its name, or nothing where the name has no part. -/
inductive CalledBy : Name → String → Prop where
  | nothing : CalledBy [] ""
  | last (parts : Name) (part : NamePart) : CalledBy (parts ++ [part]) part.base

/-- What a statement with columns and rows lacks of a `SET` list: a column or, where it has columns, a value in the
first row for each. Without rows the first row has no value. -/
inductive Lacks (statement : Insert) : FormFault → Prop where
  | columns {rows : List (List Expr)} {table : String} :
      statement.payload = .values [] rows → CalledBy statement.table table → Lacks statement (.missingColumns table)
  | values {columns : List Ident} {rows : List (List Expr)} {table : String} :
      statement.payload = .values columns rows → columns ≠ [] → (firstRow rows).length < columns.length →
        CalledBy statement.table table →
          Lacks statement (.columnCountMismatch table columns.length (firstRow rows).length)

/-- Whether assignments give each column the value that a row has at its place, and assign to nothing else. -/
structure Assigns (columns : List Ident) (row : List Expr) (items : List Assignment) : Prop where
  length_eq : items.length = columns.length
  at_place : ∀ (i : Nat) (item : Assignment), items[i]? = some item →
    ∃ column value, columns[i]? = some column ∧ row[i]? = some value ∧ item = ⟨[], column, value⟩

/-- What a statement becomes that lacks nothing: a `SET` list stays as it is, and columns with rows become a `SET`
list of the columns and the first row. Nothing else changes. -/
inductive Becomes (statement : Insert) : Insert → Prop where
  | same {items : List Assignment} : statement.payload = .set items → Becomes statement statement
  | paired {columns : List Ident} {rows : List (List Expr)} {items : List Assignment} :
      statement.payload = .values columns rows → Assigns columns (firstRow rows) items →
        Becomes statement { statement with payload := .set items }

/-- A table is told by the last part of its name. -/
theorem calledBy_iff {name : Name} {table : String} : CalledBy name table ↔ table = name.base := by
  constructor
  · intro h
    cases h with
    | nothing => rfl
    | last parts part => simp [Name.base]
  · rintro rfl
    cases hlast : name.getLast? with
    | none =>
      rw [List.getLast?_eq_none_iff.mp hlast]
      exact .nothing
    | some part =>
      obtain ⟨parts, rfl⟩ := List.getLast?_eq_some_iff.mp hlast
      have hbase : Name.base (parts ++ [part]) = part.base := by simp [Name.base]
      rw [hbase]
      exact .last parts part

/-- A statement lacks something exactly where it has rows, and no column or too few values in the first row. -/
theorem exists_lacks_iff : (∃ fault, statement.Lacks fault) ↔
    ∃ columns rows, statement.payload = .values columns rows ∧
      (columns = [] ∨ (firstRow rows).length < columns.length) := by
  have hcalled : CalledBy statement.table statement.table.base := calledBy_iff.mpr rfl
  constructor
  · rintro ⟨fault, h⟩
    cases h with
    | columns hpayload _ => exact ⟨_, _, hpayload, .inl rfl⟩
    | values hpayload _ hlength _ => exact ⟨_, _, hpayload, .inr hlength⟩
  · rintro ⟨columns, rows, hpayload, h⟩
    by_cases hcolumns : columns = []
    · subst hcolumns
      exact ⟨_, .columns hpayload hcalled⟩
    · exact ⟨_, .values hpayload hcolumns (h.resolve_left hcolumns) hcalled⟩

/-- A `SET` form is refused for what the statement lacks. -/
theorem toSet_eq_error_iff : statement.toSet = .error fault ↔ statement.Lacks fault := by
  constructor
  · intro h
    have hcalled : CalledBy statement.table statement.tableName := calledBy_iff.mpr rfl
    cases hpayload : statement.payload with
    | set items => simp [toSet, hpayload] at h
    | values columns rows =>
      simp only [toSet, hpayload, List.isEmpty_iff] at h
      split at h
      next hcolumns =>
        cases h
        exact .columns (hcolumns ▸ hpayload) hcalled
      next hcolumns =>
        split at h
        next hlength =>
          cases h
          exact .values hpayload hcolumns hlength hcalled
        next => cases h
  · intro h
    cases h with
    | columns hpayload hcalled => simp [toSet, hpayload, tableName, calledBy_iff.mp hcalled]
    | values hpayload hcolumns hlength hcalled =>
      simp [toSet, hpayload, hcolumns, hlength, tableName, calledBy_iff.mp hcalled]

/-! ## What a statement becomes -/

/-- Pairing columns with the values of a row, up to the last column, is what assigns these to those. -/
theorem assigns_iff {row : List Expr} {items : List Assignment} (hlength : columns.length ≤ row.length) :
    Assigns columns row items ↔ items = columns.zipWith (Assignment.mk []) row := by
  constructor
  · rintro ⟨hitems, hplaces⟩
    refine List.ext_getElem? fun i => ?_
    cases hitem : items[i]? with
    | none =>
      symm
      rw [List.getElem?_eq_none_iff, List.length_zipWith, Nat.min_eq_left hlength, ← hitems]
      exact List.getElem?_eq_none_iff.mp hitem
    | some item =>
      obtain ⟨column, value, hcolumn, hvalue, rfl⟩ := hplaces i item hitem
      exact (List.getElem?_zipWith_eq_some.mpr ⟨column, value, hcolumn, hvalue, rfl⟩).symm
  · rintro rfl
    refine ⟨by rw [List.length_zipWith, Nat.min_eq_left hlength], fun i item hitem => ?_⟩
    obtain ⟨column, value, hcolumn, hvalue, hmk⟩ := List.getElem?_zipWith_eq_some.mp hitem
    exact ⟨column, value, hcolumn, hvalue, hmk.symm⟩

/-- A statement that lacks nothing has a `SET` form, which is what it becomes. -/
theorem toSet_eq_ok_iff : statement.toSet = .ok set ↔ (∀ fault, ¬ statement.Lacks fault) ∧ statement.Becomes set := by
  have hlacks : (∀ fault, ¬ statement.Lacks fault) ↔ ∀ columns rows, statement.payload = .values columns rows →
      columns ≠ [] ∧ columns.length ≤ (firstRow rows).length := by
    rw [← not_exists, exists_lacks_iff]
    simp only [not_exists, not_and, not_or, Nat.not_lt]
  rw [hlacks]
  -- a `SET` list lacks nothing; rows lack something exactly where the conversion stops
  cases hpayload : statement.payload with
  | set items =>
    have hset : statement.toSet = .ok statement := by simp [toSet, hpayload]
    rw [hset]
    constructor
    · rintro ⟨⟩
      exact ⟨by rintro _ _ ⟨⟩, .same hpayload⟩
    · rintro ⟨-, hbecomes⟩
      cases hbecomes with
      | same _ => rfl
      | paired hvalues _ => cases hpayload.symm.trans hvalues
  | values columns rows =>
    constructor
    · intro h
      simp only [toSet, hpayload, List.isEmpty_iff] at h
      split at h
      next => cases h
      next hcolumns =>
        split at h
        next => cases h
        next hlength =>
          cases h
          refine ⟨?_, .paired hpayload ((assigns_iff (Nat.not_lt.mp hlength)).mpr rfl)⟩
          rintro _ _ ⟨⟩
          exact ⟨hcolumns, Nat.not_lt.mp hlength⟩
    · rintro ⟨hneeded, hbecomes⟩
      obtain ⟨hcolumns, hlength⟩ := hneeded columns rows rfl
      cases hbecomes with
      | same hset => cases hpayload.symm.trans hset
      | paired hvalues hassigns =>
        cases hpayload.symm.trans hvalues
        rw [(assigns_iff hlength).mp hassigns]
        simp [toSet, hpayload, hcolumns, Nat.not_lt.mpr hlength]

/-- A statement has a `SET` form or lacks something. -/
theorem exists_toSet_iff : (∃ set, statement.toSet = .ok set) ↔ ∀ fault, ¬ statement.Lacks fault := by
  constructor
  · rintro ⟨set, hset⟩
    exact (toSet_eq_ok_iff.mp hset).1
  · intro h
    cases hset : statement.toSet with
    | ok set => exact ⟨set, rfl⟩
    | error fault => exact absurd (toSet_eq_error_iff.mp hset) (h fault)

/-! ## What makes no difference -/

/-- What stands in a list beyond the length of another is paired with nothing there. -/
theorem zipWith_take_length {α β γ : Type} (f : α → β → γ) (as : List α) (bs : List β) :
    as.zipWith f (bs.take as.length) = as.zipWith f bs := by
  induction as generalizing bs with
  | nil => rfl
  | cons a as ih =>
    cases bs with
    | nil => rfl
    | cons b bs => rw [List.length_cons, List.take_succ_cons, List.zipWith_cons_cons, ih, List.zipWith_cons_cons]

/-- A statement has the `SET` form that it has without the rows behind the first and the values beyond the last
column. -/
theorem toSet_trimmed (statement : Insert) : statement.trimmed.toSet = statement.toSet := by
  obtain ⟨keywordCase, priority, ignore, table, payload, updates⟩ := statement
  cases payload with
  | set items => rfl
  | values columns rows =>
    have hfirst : firstRow [(firstRow rows).take columns.length] = (firstRow rows).take columns.length := rfl
    simp only [trimmed, toSet, hfirst, zipWith_take_length]
    by_cases hlength : (firstRow rows).length < columns.length
    · rw [List.take_of_length_le (Nat.le_of_lt hlength)]
      rfl
    · rw [List.length_take_of_le (Nat.not_lt.mp hlength)]
      simp [hlength, tableName]

end Insert

namespace Direction

variable {statements converted : List Insert} {fault : FormFault}

/-! ## Lists of statements -/

/-- A list of statements is refused if and only if one of them lacks something, for what the first of those lacks
first. -/
theorem apply_toSet_eq_error_iff : toSet.apply statements = .error fault ↔
    ∃ before s behind, statements = before ++ s :: behind ∧ (∀ t ∈ before, ∀ other, ¬ t.Lacks other) ∧
      s.Lacks fault := by
  refine mapM_eq_error_iff.trans (exists₃_congr fun before s behind => and_congr_right fun _ => ?_)
  exact and_congr (forall₂_congr fun t _ => Insert.exists_toSet_iff) Insert.toSet_eq_error_iff

/-- A list of statements is converted if and only if none of them lacks anything, and each becomes its `SET` form. -/
theorem apply_toSet_eq_ok_iff : toSet.apply statements = .ok converted ↔
    (∀ s ∈ statements, ∀ fault, ¬ s.Lacks fault) ∧ List.Forall₂ Insert.Becomes statements converted := by
  rw [apply_eq_ok_iff, ← List.forall₂_and_left]
  exact ⟨fun h => h.imp fun _ _ => Insert.toSet_eq_ok_iff.mp, fun h => h.imp fun _ _ => Insert.toSet_eq_ok_iff.mpr⟩

/-- Rows behind the first one and values beyond the columns make no difference. -/
theorem apply_toSet_trimmed (statements : List Insert) :
    toSet.apply (statements.map Insert.trimmed) = toSet.apply statements := by
  rw [apply, apply, List.mapM_map]
  exact congrArg (List.mapM · statements) (funext Insert.toSet_trimmed)

/-- Statements are refused for the first of them that lacks something, and else become `SET` lists one by one, whatever
stands behind the first row of a statement or beyond its last column. -/
theorem apply_toSet (statements : List Insert) :
    ((∃ fault, toSet.apply statements = .error fault) ↔
      ∃ s ∈ statements, ∃ columns rows, s.payload = .values columns rows ∧
        (columns = [] ∨ (Insert.firstRow rows).length < columns.length)) ∧
    (∀ fault, toSet.apply statements = .error fault ↔
      ∃ before s behind, statements = before ++ s :: behind ∧ (∀ t ∈ before, ∀ other, ¬ t.Lacks other) ∧
        s.Lacks fault) ∧
    (∀ converted, toSet.apply statements = .ok converted ↔
      (∀ s ∈ statements, ∀ fault, ¬ s.Lacks fault) ∧ List.Forall₂ Insert.Becomes statements converted) ∧
    ∀ others : List Insert, others.map Insert.trimmed = statements.map Insert.trimmed →
      toSet.apply others = toSet.apply statements := by
  refine ⟨?_, fun _ => apply_toSet_eq_error_iff, fun _ => apply_toSet_eq_ok_iff, fun others hothers => ?_⟩
  · constructor
    · rintro ⟨fault, h⟩
      obtain ⟨before, s, behind, rfl, -, hs⟩ := apply_toSet_eq_error_iff.mp h
      exact ⟨s, by simp, Insert.exists_lacks_iff.mp ⟨fault, hs⟩⟩
    · rintro ⟨s, hmem, hs⟩
      obtain ⟨fault, hlacks⟩ := Insert.exists_lacks_iff.mpr hs
      cases h : toSet.apply statements with
      | error found => exact ⟨found, rfl⟩
      | ok converted => exact absurd hlacks ((apply_toSet_eq_ok_iff.mp h).1 s hmem fault)
  · rw [← apply_toSet_trimmed others, hothers, apply_toSet_trimmed]

/-- A `SET` list, and columns with a value too many and a second row, have `SET` forms. Behind them stands a first
row that is too short, and a statement without columns that is not come to. -/
theorem apply_toSet_short :
    let name (text : String) : Ident := ⟨text, none, .none⟩
    let number (text : String) : Expr := .literal (.number text false) .none
    let values (columns : List Ident) (rows : List (List Expr)) : Insert :=
      ⟨.lower, none, false, Name.ofIdents [name "db", name "t"], .values columns rows, []⟩
    let set (items : List Assignment) : Insert :=
      ⟨.lower, none, false, Name.ofIdents [name "db", name "t"], .set items, []⟩
    let qualified := set [⟨[name "t"], name "a", number "1"⟩]
    let long := values [name "a", name "b"] [[number "2", number "3", number "4"], [number "5"]]
    let fitting := values [name "a", name "b"] [[number "2", number "3"]]
    let paired := set [⟨[], name "a", number "2"⟩, ⟨[], name "b", number "3"⟩]
    let short := values [name "a", name "b"] [[number "1"]]
    toSet.apply [qualified, long] = .ok [qualified, paired] ∧
      ([qualified, fitting].map Insert.trimmed = [qualified, long].map Insert.trimmed ∧
        toSet.apply [qualified, fitting] = toSet.apply [qualified, long]) ∧
      toSet.apply [qualified, long, short, values [] []] = .error (.columnCountMismatch "t" 2 1) := by
  intro name number values set qualified long fitting paired short
  have hcalled : Insert.CalledBy (Name.ofIdents [name "db", name "t"]) "t" :=
    .last [.ident (name "db")] (.ident (name "t"))
  have hqualified : ∀ fault, ¬ qualified.Lacks fault := by rintro _ (h | h) <;> cases h
  have hlong : ∀ fault, ¬ long.Lacks fault := by
    rintro _ (h | ⟨h, -, hlength, -⟩)
    · cases h
    · cases h
      exact absurd hlength (by decide)
  have hassigns : Insert.Assigns [name "a", name "b"] [number "2", number "3", number "4"]
      [⟨[], name "a", number "2"⟩, ⟨[], name "b", number "3"⟩] := (Insert.assigns_iff (by decide)).mpr rfl
  have hconverted : toSet.apply [qualified, long] = .ok [qualified, paired] :=
    ((apply_toSet [qualified, long]).2.2.1 _).mpr
      ⟨by simp [hqualified, hlong], .cons (.same rfl) (.cons (.paired rfl hassigns) .nil)⟩
  have htrimmed : [qualified, fitting].map Insert.trimmed = [qualified, long].map Insert.trimmed := rfl
  have hpayload : short.payload = .values [name "a", name "b"] [[number "1"]] := rfl
  have hshort : short.Lacks (.columnCountMismatch "t" 2 1) := .values hpayload (by simp) (by decide) hcalled
  exact ⟨hconverted, ⟨htrimmed, (apply_toSet [qualified, long]).2.2.2 _ htrimmed⟩,
    ((apply_toSet _).2.1 _).mpr ⟨[qualified, long], short, [values [] []], rfl, by simp [hqualified, hlong], hshort⟩⟩

end Direction

end InsertPivot
