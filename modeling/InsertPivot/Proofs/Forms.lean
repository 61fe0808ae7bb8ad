import InsertPivot.Proofs.Contributions
import InsertPivot.Proofs.Narrowing

/-!
# Statements brought into the other form and back

Bringing a statement into the other form touches its payload only, and each column keeps its value:
`Insert.pairs` are the columns with their values, in order, whichever form they are in.

What is lost on the way there and back differs between the two forms. A `SET` list loses the names that qualify
its columns (`Insert.unqualified`). A column list with rows loses all rows but the first, and of that the values
beyond the last column (`Insert.trimmed`). Both need another form to go through (`Insert.HasBothForms`): a `SET`
list that assigns nothing becomes an empty column list, and that has no `SET` form.
-/

namespace InsertPivot

open Sql (Ident Expr)

/-- Where each item of a list goes with something, the list goes with a list item by item. -/
theorem exists_forall₂ {α β : Type} {r : α → β → Prop} {as : List α} (h : ∀ a ∈ as, ∃ b, r a b) :
    ∃ bs, List.Forall₂ r as bs := by
  induction as with
  | nil => exact ⟨[], .nil⟩
  | cons a as ih =>
    obtain ⟨⟨b, hb⟩, hrest⟩ := List.forall_mem_cons.mp h
    obtain ⟨bs, hbs⟩ := ih hrest
    exact ⟨b :: bs, .cons hb hbs⟩

/-- Where each item of one list goes with the item at its place in another, each goes with what is made of the two. -/
theorem forall₂_zipWith {α β γ : Type} {r : α → β → Prop} {q : α → γ → Prop} {f : α → β → γ} {as : List α} {bs : List β}
    (h : List.Forall₂ r as bs) (hf : ∀ a b, r a b → q a (f a b)) : List.Forall₂ q as (as.zipWith f bs) := by
  induction h with
  | nil => exact .nil
  | cons hr _ ih => exact .cons (hf _ _ hr) ih

/-- Of a list that is paired with another, what stands beyond the other's length is dropped. -/
theorem map_snd_zip_eq_take {α β : Type} (as : List α) (bs : List β) :
    (as.zip bs).map Prod.snd = bs.take as.length := by
  induction as generalizing bs with
  | nil => rfl
  | cons a as ih =>
    cases bs with
    | nil => rfl
    | cons b bs => rw [List.zip_cons_cons, List.map_cons, ih, List.length_cons, List.take_succ_cons]

namespace Insert

variable {statement : Insert}

/-! ## What a statement pairs, and what it can lose -/

/-- The columns of a statement with the values that its `SET` list, or its first row, gives them. -/
def pairs (statement : Insert) : List (Ident × Expr) :=
  match statement.payload with
  | .set items => items.map fun item => (item.column, item.value)
  | .values columns rows => columns.zip (firstRow rows)

/-- Whether a statement can be brought into either form and back: it assigns to some column, or it lists columns
and its first row has a value for each. -/
def HasBothForms (statement : Insert) : Prop :=
  match statement.payload with
  | .set items => items ≠ []
  | .values columns rows => columns ≠ [] ∧ columns.length ≤ (firstRow rows).length

/-- A statement without the names that qualify the columns of its `SET` list. -/
def unqualified (statement : Insert) : Insert :=
  match statement.payload with
  | .set items => { statement with payload := .set (items.map fun item => ⟨[], item.column, item.value⟩) }
  | .values _ _ => statement

/-- A statement with one row, which is the first, cut to the number of its columns. -/
def trimmed (statement : Insert) : Insert :=
  match statement.payload with
  | .set _ => statement
  | .values columns rows => { statement with payload := .values columns [(firstRow rows).take columns.length] }

/-! ## One statement -/

/-- The assignments that columns and a row become are their pairs. -/
theorem zipWith_assignment (columns : List Ident) (row : List Expr) :
    columns.zipWith (Assignment.mk []) row = (columns.zip row).map fun pair => ⟨[], pair.1, pair.2⟩ := by
  rw [List.zip, List.map_zipWith]

/-- A `SET` list comes back from its `VALUES` form, without qualifiers. -/
theorem toSet_toValues {items : List Assignment} (hitems : items ≠ []) (hpayload : statement.payload = .set items) :
    statement.toValues.toSet = .ok statement.unqualified := by
  obtain ⟨keywordCase, priority, ignore, table, payload, updates⟩ := statement
  subst hpayload
  simp [toValues, toSet, unqualified, firstRow, hitems, List.zipWith_map, List.zipWith_self]

/-- Rows that are brought into the `SET` form come back trimmed. -/
theorem exists_toSet_of_values {columns : List Ident} {rows : List (List Expr)}
    (hpayload : statement.payload = .values columns rows)
    (hcolumns : columns ≠ []) (hlength : columns.length ≤ (firstRow rows).length) :
    ∃ set, statement.toSet = .ok set ∧ set.toValues = statement.trimmed := by
  have hset : statement.toSet =
      .ok { statement with payload := .set (columns.zipWith (Assignment.mk []) (firstRow rows)) } := by
    simp [toSet, hpayload, hcolumns, Nat.not_lt.mpr hlength]
  refine ⟨_, hset, ?_⟩
  simp only [trimmed, hpayload, toValues, zipWith_assignment, List.map_map]
  exact congrArg₂ (fun columns row => { statement with payload := .values columns [row] })
    (List.map_fst_zip hlength) (map_snd_zip_eq_take columns (firstRow rows))

/-- A statement that has both forms is brought into either and back, and loses only what the way there has no place
for. -/
theorem HasBothForms.exists_toSet (h : statement.HasBothForms) :
    ∃ set, statement.toSet = .ok set ∧
      statement.toValues.toSet = .ok (if statement.isSetForm then set.unqualified else set) ∧
        set.toValues = if statement.isSetForm then statement.toValues else statement.trimmed := by
  cases hpayload : statement.payload with
  | set items =>
    have hitems : items ≠ [] := by simpa [HasBothForms, hpayload] using h
    have hform : statement.isSetForm = true := by simp [isSetForm, hpayload]
    have hset : statement.toSet = .ok statement := by simp [toSet, hpayload]
    exact ⟨statement, hset, by rw [if_pos hform, toSet_toValues hitems hpayload], by rw [if_pos hform]⟩
  | values columns rows =>
    obtain ⟨hcolumns, hlength⟩ : columns ≠ [] ∧ columns.length ≤ (firstRow rows).length := by
      simpa [HasBothForms, hpayload] using h
    have hform : ¬ statement.isSetForm := by simp [isSetForm, hpayload]
    have hvalues : statement.toValues = statement := by simp [toValues, hpayload]
    obtain ⟨set, hset, hback⟩ := exists_toSet_of_values hpayload hcolumns hlength
    exact ⟨set, hset, by rw [if_neg hform, hvalues, hset], by rw [if_neg hform, hback]⟩

/-- Nothing is cut from a statement exactly where it has one row, and in it a value for each column and no other. -/
theorem HasBothForms.trimmed_eq_iff (h : statement.HasBothForms) (hform : statement.isSetForm = false) :
    statement.trimmed = statement ↔
      ∃ columns row, statement.payload = .values columns [row] ∧ row.length = columns.length := by
  obtain ⟨keywordCase, priority, ignore, table, payload, updates⟩ := statement
  cases payload with
  | set items => cases hform
  | values columns rows =>
    obtain ⟨-, hlength⟩ := h
    simp only [trimmed, mk.injEq, Payload.values.injEq, true_and, and_true]
    constructor
    · intro hrows
      refine ⟨columns, (firstRow rows).take columns.length, ⟨rfl, hrows.symm⟩, ?_⟩
      rw [List.length_take, Nat.min_eq_left hlength]
    · rintro ⟨columns', row, ⟨rfl, rfl⟩, hrow⟩
      simp [firstRow, ← hrow]

end Insert

namespace Direction

variable {direction : Direction} {statement converted : Insert}

/-- A statement in the form that is wanted stays as it is. -/
theorem convert_of_reached (h : direction.Reached statement) : direction.convert statement = .ok statement := by
  obtain ⟨keywordCase, priority, ignore, table, payload, updates⟩ := statement
  cases direction <;> cases payload <;> cases h <;> rfl

/-- Only the payload of a statement changes, and it pairs columns with values as before. -/
theorem pairs_of_convert (h : direction.convert statement = .ok converted) :
    converted = { statement with payload := converted.payload } ∧ converted.pairs = statement.pairs := by
  obtain ⟨keywordCase, priority, ignore, table, payload, updates⟩ := statement
  cases direction with
  | toValues =>
    cases h
    cases payload with
    | set items => exact ⟨rfl, List.zip_map'⟩
    | values columns rows => exact ⟨rfl, rfl⟩
  | toSet =>
    cases payload with
    | set items =>
      cases h
      exact ⟨rfl, rfl⟩
    | values columns rows =>
      simp only [convert, Insert.toSet] at h
      split at h
      · cases h
      · split at h
        · cases h
        · cases h
          refine ⟨rfl, ?_⟩
          simp only [Insert.pairs, Insert.zipWith_assignment, List.map_map]
          exact List.map_id _

/-! ## Lists of statements -/

/-- A list of statements is converted if and only if each of them is. -/
theorem apply_eq_ok_iff {statements converted : List Insert} :
    direction.apply statements = .ok converted ↔
      List.Forall₂ (fun s t => direction.convert s = .ok t) statements converted :=
  mapM_eq_ok_iff direction.convert statements converted

/-- Every list of statements has a `VALUES` form. -/
theorem apply_toValues (statements : List Insert) :
    toValues.apply statements = .ok (statements.map Insert.toValues) := by
  rw [apply_eq_ok_iff, List.forall₂_map_right_iff, List.forall₂_same]
  exact fun _ _ => rfl

/-- Statements that have both forms are brought into either and back, and lose only what the way there has no place
for; rows lose nothing exactly where there is one, as long as the column list. Whatever the statements, a second time
changes nothing, and what is no payload is never touched, nor which column has which value. -/
theorem apply_there_and_back (statements : List Insert) :
    ((∀ s ∈ statements, s.HasBothForms) →
      ∃ sets, toSet.apply statements = .ok sets ∧
        (do toSet.apply (← toValues.apply statements)) =
          .ok (statements.zipWith (fun s set => if s.isSetForm then set.unqualified else set) sets) ∧
        toValues.apply sets = .ok (statements.map fun s => if s.isSetForm then s.toValues else s.trimmed) ∧
        ∀ s ∈ statements, s.isSetForm = false →
          (s.trimmed = s ↔ ∃ columns row, s.payload = .values columns [row] ∧ row.length = columns.length)) ∧
      ∀ (direction : Direction) (converted : List Insert), direction.apply statements = .ok converted →
        direction.apply converted = .ok converted ∧
          List.Forall₂ (fun s t => t = { s with payload := t.payload } ∧ t.pairs = s.pairs) statements converted := by
  constructor
  · intro hboth
    obtain ⟨sets, hsets⟩ := exists_forall₂ fun s hs => (hboth s hs).exists_toSet
    refine ⟨sets, apply_eq_ok_iff.mpr (hsets.imp fun _ _ h => h.1), ?_, ?_, fun s hs => (hboth s hs).trimmed_eq_iff⟩
    · rw [apply_toValues]
      refine apply_eq_ok_iff.mpr (List.forall₂_map_left_iff.mpr ?_)
      exact forall₂_zipWith hsets fun _ _ h => h.2.1
    · refine apply_eq_ok_iff.mpr (List.forall₂_map_right_iff.mpr ?_)
      exact List.Forall₂.flip (hsets.imp fun _ _ h => congrArg Except.ok h.2.2)
  · intro direction converted h
    have hconverted := apply_eq_ok_iff.mp h
    refine ⟨apply_eq_ok_iff.mpr (List.forall₂_same.mpr fun t ht => ?_), hconverted.imp fun _ _ => pairs_of_convert⟩
    exact convert_of_reached ((forall₂_of_apply h).2 t ht)

/-- A `SET` list with a qualified column, and two rows, the first too long. -/
theorem apply_there_and_back_mixed :
    let name (text : String) : Ident := ⟨text, none, .none⟩
    let number (text : String) : Expr := .literal (.number text false) .none
    let table := Sql.Name.ofIdents [name "t"]
    let updates : List Assignment := [⟨[name "t"], name "a", number "0"⟩]
    let set (items : List Assignment) : Insert := ⟨.lower, some .low, true, table, .set items, updates⟩
    let values (rows : List (List Expr)) : Insert :=
      ⟨.lower, some .low, true, table, .values [name "a", name "b"] rows, updates⟩
    let before := [set [⟨[name "t"], name "b", number "1"⟩], values [[number "2", number "3", number "4"], [number "5"]]]
    (∀ s ∈ before, s.HasBothForms) ∧
      (do toSet.apply (← toValues.apply before)) =
        .ok [set [⟨[], name "b", number "1"⟩], set [⟨[], name "a", number "2"⟩, ⟨[], name "b", number "3"⟩]] ∧
      (do toValues.apply (← toSet.apply before)) =
        .ok [(set [⟨[], name "b", number "1"⟩]).toValues, values [[number "2", number "3"]]] := by
  intro name number table updates set values before
  have hboth : ∀ s ∈ before, s.HasBothForms := by simp [before, set, values, Insert.HasBothForms, Insert.firstRow]
  obtain ⟨sets, hsets, hback, hvalues, -⟩ := (apply_there_and_back before).1 hboth
  cases hsets
  exact ⟨hboth, hback, hvalues⟩

end Direction

end InsertPivot
