import InsertPivot.Proofs.Forward.Query
import InsertPivot.Proofs.Front
import InsertPivot.Proofs.Lexing
import InsertPivot.Proofs.Writing

/-!
# Where values come from

Each value of a statement that was read is what the reader of values yields somewhere in the lexemes of the text:
readers go forward, so the lexemes that a part was read from stand among those that the whole was read from.
-/

namespace InsertPivot

namespace Sql.Reader

variable {α β : Type} {r : Reader α} {ls : List Lexeme}

/-- What a reader yields somewhere in some lexemes. -/
def FoundIn (r : Reader α) (ls : List Lexeme) (a : α) : Prop :=
  ∃ here left, here <:+ ls ∧ r.run here = .ok (a, left)

/-- What is read at the start of some lexemes is found in them. -/
theorem foundIn_of_run {a : α} {left : List Lexeme} (h : r.run ls = .ok (a, left)) : FoundIn r ls a :=
  ⟨ls, left, List.suffix_refl ls, h⟩

/-- What is found in the end of some lexemes is found in them. -/
theorem FoundIn.mono {a : α} {ls' : List Lexeme} (h : FoundIn r ls a) (hls : ls <:+ ls') : FoundIn r ls' a := by
  obtain ⟨here, left, hhere, hrun⟩ := h
  exact ⟨here, left, hhere.trans hls, hrun⟩

/-- A reader that takes nothing finds its value only. -/
theorem FoundIn.of_pure {a b : α} (h : FoundIn (pure a) ls b) : a = b := by
  obtain ⟨here, left, -, hrun⟩ := h
  cases hrun
  rfl

/-- Both parts of a sequence are found where the sequence is. -/
theorem FoundIn.of_bind [hr : Forward r] {f : α → Reader β} {b : β} (h : FoundIn (r >>= f) ls b) :
    ∃ a, FoundIn r ls a ∧ FoundIn (f a) ls b := by
  obtain ⟨here, left, hhere, hrun⟩ := h
  obtain ⟨a, middle, hra, hfa⟩ := run_bind_eq_ok_iff.mp hrun
  exact ⟨a, ⟨here, middle, hhere, hra⟩, middle, left, (hr.left_suffix hra).trans hhere, hfa⟩

theorem not_foundIn_throw {fault : Fault} {a : α} : ¬FoundIn (throw fault) ls a := by
  rintro ⟨here, left, -, hrun⟩
  cases hrun

theorem not_foundIn_expected {what : String} {a : α} : ¬FoundIn (expected what) ls a := by
  rintro ⟨here, left, -, hrun⟩
  cases hrun

/-! ## Lists -/

/-- Each value of a list with commas is found by the reader for one. -/
theorem FoundIn.of_commaSteps [Forward r] {bound : List Lexeme} {found : List α}
    (h : FoundIn (commaSteps r bound) ls found) : ∀ a ∈ found, FoundIn r ls a := by
  induction bound generalizing found with
  | nil =>
    obtain ⟨a, ha, h⟩ := FoundIn.of_bind h
    cases h.of_pure
    simpa using ha
  | cons l bound ih =>
    obtain ⟨a, ha, h⟩ := FoundIn.of_bind h
    obtain ⟨more, -, h⟩ := FoundIn.of_bind h
    split at h
    · obtain ⟨others, hothers, h⟩ := FoundIn.of_bind h
      cases h.of_pure
      exact List.forall_mem_cons.mpr ⟨ha, ih hothers⟩
    · cases h.of_pure
      simpa using ha

/-- Each value of a list with commas is found by the reader for one. -/
theorem FoundIn.of_commaSeparated [Forward r] {found : List α} (h : FoundIn (commaSeparated r) ls found) :
    ∀ a ∈ found, FoundIn r ls a := by
  obtain ⟨bound, -, h⟩ := FoundIn.of_bind h
  exact h.of_commaSteps

theorem FoundIn.of_commaSeparatedBefore [Forward r] {closing : Symbol} {found : List α}
    (h : FoundIn (commaSeparatedBefore closing r) ls found) : ∀ a ∈ found, FoundIn r ls a := by
  obtain ⟨none, -, h⟩ := FoundIn.of_bind h
  split at h
  · cases h.of_pure
    simp
  · exact h.of_commaSeparated

/-- What is found in parentheses is found. -/
theorem FoundIn.of_inParens [Forward r] {found : α} (h : FoundIn (inParens r) ls found) : FoundIn r ls found := by
  obtain ⟨_, -, h⟩ := FoundIn.of_bind h
  obtain ⟨found, hfound, h⟩ := FoundIn.of_bind h
  obtain ⟨_, -, h⟩ := FoundIn.of_bind h
  cases h.of_pure
  exact hfound

/-- What is found behind a keyword is found. -/
theorem FoundIn.of_behindKeyword [Forward r] {keyword : String} {found : α}
    (h : FoundIn (behindKeyword keyword r) ls (some found)) : FoundIn r ls found := by
  obtain ⟨_, -, h⟩ := FoundIn.of_bind h
  split at h
  · obtain ⟨found, hfound, h⟩ := FoundIn.of_bind h
    cases h.of_pure
    exact hfound
  · cases h.of_pure

/-! ## Values -/

instance (levels : Nat) : (Nested.upTo levels).Forward := by
  induction levels with
  | zero =>
    exact ⟨fun least => inferInstanceAs (Forward (throw .tooDeep : Reader Expr)),
      inferInstanceAs (Forward (throw .tooDeep : Reader Query))⟩
  | succ levels ih =>
    exact ⟨fun least => inferInstanceAs (Forward (expression (.upTo levels) least)),
      inferInstanceAs (Forward (query (.upTo levels)))⟩

/-- A value that is read somewhere in some lexemes, however deep values may nest there. -/
def ValueIn (ls : List Lexeme) (value : Expr) : Prop :=
  ∃ levels, FoundIn (Nested.upTo levels).value ls value

/-- A value in the end of some lexemes is one in them. -/
theorem ValueIn.mono {value : Expr} {ls' : List Lexeme} (h : ValueIn ls value) (hls : ls <:+ ls') :
    ValueIn ls' value := by
  obtain ⟨levels, h⟩ := h
  exact ⟨levels, h.mono hls⟩

variable {levels : Nat}

/-- The values of a `SET` list stand in the lexemes it is read from. -/
theorem valueIn_of_setItems {items : List SetItem} (h : FoundIn (setItems (.upTo levels)) ls items) :
    ∀ item ∈ items, ValueIn ls item.value := by
  intro item hmem
  obtain ⟨target, -, h⟩ := FoundIn.of_bind (h.of_commaSeparated item hmem)
  obtain ⟨_, -, h⟩ := FoundIn.of_bind h
  obtain ⟨value, hvalue, h⟩ := FoundIn.of_bind h
  cases h.of_pure
  exact ⟨levels, hvalue⟩

/-- The values of a row stand in the lexemes it is read from. -/
theorem valueIn_of_row {found : Bool × List Expr} (h : FoundIn (row (.upTo levels)) ls found) :
    ∀ value ∈ found.2, ValueIn ls value := by
  intro value hmem
  obtain ⟨explicit, -, h⟩ := FoundIn.of_bind h
  obtain ⟨values, hvalues, h⟩ := FoundIn.of_bind h
  cases h.of_pure
  exact ⟨levels, hvalues.of_inParens.of_commaSeparatedBefore value hmem⟩

/-- The rows that a body lists; none where it lists none. -/
def Body.rows : Body → List (List Expr)
  | .values _ _ rows => rows
  | _ => []

/-- The values of all rows stand in the lexemes they are read from. -/
theorem valueIn_of_restOfValues {short : Bool} {body : Body} (h : FoundIn (restOfValues (.upTo levels) short) ls body) :
    ∀ row ∈ Body.rows body, ∀ value ∈ row, ValueIn ls value := by
  obtain ⟨rows, hrows, h⟩ := FoundIn.of_bind h
  cases h.of_pure
  intro row hrow
  obtain ⟨found, hfound, rfl⟩ := List.mem_map.mp hrow
  exact valueIn_of_row (hrows.of_commaSeparated found hfound)

/-- The values of the rows in a body stand in the lexemes it is read from. -/
theorem valueIn_of_simpleBody {body : Body} (h : FoundIn (simpleBody (.upTo levels)) ls body) :
    ∀ row ∈ Body.rows body, ∀ value ∈ row, ValueIn ls value := by
  obtain ⟨_, -, h⟩ := FoundIn.of_bind h
  split at h
  · obtain ⟨select, -, h⟩ := FoundIn.of_bind h
    cases h.of_pure
    simp [Body.rows]
  obtain ⟨_, -, h⟩ := FoundIn.of_bind h
  split at h
  · obtain ⟨query, -, h⟩ := FoundIn.of_bind h
    cases h.of_pure
    simp [Body.rows]
  obtain ⟨_, -, h⟩ := FoundIn.of_bind h
  split at h
  · exact valueIn_of_restOfValues h
  obtain ⟨_, -, h⟩ := FoundIn.of_bind h
  split at h
  · exact valueIn_of_restOfValues h
  obtain ⟨_, -, h⟩ := FoundIn.of_bind h
  split at h
  · have hrows : Body.rows body = [] := by
      obtain ⟨here, left, -, hrun⟩ := h
      have hnone := not_isRows_of_restOfTable hrun
      cases body with
      | «values» short explicit rows => exact absurd ⟨short, explicit, rows, rfl⟩ hnone
      | _ => rfl
    simp [hrows]
  · exact absurd h not_foundIn_expected

/-- A body that lists rows is not combined with others. -/
theorem valueIn_of_bodies {least : Nat} {bound : List Lexeme} {first body : Body}
    (hfirst : ∀ row ∈ Body.rows first, ∀ value ∈ row, ValueIn ls value)
    (h : FoundIn (bodies (.upTo levels) least bound first) ls body) :
    ∀ row ∈ Body.rows body, ∀ value ∈ row, ValueIn ls value := by
  induction bound generalizing first with
  | nil =>
    cases h.of_pure
    exact hfirst
  | cons l bound ih =>
    obtain ⟨op, -, h⟩ := FoundIn.of_bind h
    split at h
    next =>
      cases h.of_pure
      exact hfirst
    next op tightness =>
      split at h
      next =>
        cases h.of_pure
        exact hfirst
      next =>
        obtain ⟨_, -, h⟩ := FoundIn.of_bind h
        obtain ⟨mode, -, h⟩ := FoundIn.of_bind h
        obtain ⟨next, -, h⟩ := FoundIn.of_bind h
        obtain ⟨right, -, h⟩ := FoundIn.of_bind h
        exact ih (by simp [Body.rows]) h

/-- A statement that changes data lists no rows where it stands as a query. -/
theorem rows_of_change? {inner : Nested} [inner.Forward] {body : Body} (h : FoundIn (change? inner) ls (some body)) :
    Body.rows body = [] := by
  obtain ⟨lead, -, h⟩ := FoundIn.of_bind h
  split at h
  · cases h.of_pure
  · obtain ⟨word, -, h⟩ := FoundIn.of_bind h
    split at h
    case h_5 => cases h.of_pure
    all_goals
      obtain ⟨text, -, h⟩ := FoundIn.of_bind h
      cases h.of_pure
      rfl

/-- The values of the rows in a query stand in the lexemes it is read from. -/
theorem valueIn_of_query {found : Query} (h : FoundIn (Nested.upTo levels).query ls found) :
    ∀ row ∈ Body.rows found.body, ∀ value ∈ row, ValueIn ls value := by
  cases levels with
  | zero => exact absurd h not_foundIn_throw
  | succ levels =>
    replace h : FoundIn (query (.upTo levels)) ls found := h
    obtain ⟨named, -, h⟩ := FoundIn.of_bind h
    obtain ⟨change, hchange, h⟩ := FoundIn.of_bind h
    cases change with
    | some body =>
      cases h.of_pure
      simp [rows_of_change? hchange]
    | none =>
      obtain ⟨first, hfirst, h⟩ := FoundIn.of_bind h
      obtain ⟨bound, -, h⟩ := FoundIn.of_bind h
      obtain ⟨body, hbody, h⟩ := FoundIn.of_bind h
      obtain ⟨order, -, h⟩ := FoundIn.of_bind h
      obtain ⟨limit, -, h⟩ := FoundIn.of_bind h
      obtain ⟨fetch, -, h⟩ := FoundIn.of_bind h
      obtain ⟨bound, -, h⟩ := FoundIn.of_bind h
      obtain ⟨locks, -, h⟩ := FoundIn.of_bind h
      cases h.of_pure
      exact valueIn_of_bodies (valueIn_of_simpleBody hfirst) hbody

/-! ## Statements -/

/-- Values of the data of a statement that are read somewhere in some lexemes. -/
theorem valueIn_of_source {found : Source} (h : FoundIn (source (.upTo levels)) ls found) :
    (∀ item ∈ found.assignments, ValueIn ls item.value) ∧
      ∀ query ∈ found.query, ∀ row ∈ Body.rows query.body, ∀ value ∈ row, ValueIn ls value := by
  obtain ⟨default, -, h⟩ := FoundIn.of_bind h
  split at h
  · cases h.of_pure
    simp
  obtain ⟨parenthesis, -, h⟩ := FoundIn.of_bind h
  obtain ⟨further, -, h⟩ := FoundIn.of_bind h
  -- what is read behind the columns and the partition does not depend on whether these stand there
  have hrest (columns : List Ident) (partition : Option (List Expr))
      (h : FoundIn (do
        if (← atKeyword "FORMAT") || (← atKeyword "SETTINGS") then
          return { columns, partition }
        else if ← acceptKeyword "SET" then
          return { columns, partition, assignments := ← setItems (.upTo levels) }
        else
          return { columns, partition, query := some (← (Nested.upTo levels).query) }) ls found) :
      (∀ item ∈ found.assignments, ValueIn ls item.value) ∧
        ∀ query ∈ found.query, ∀ row ∈ Body.rows query.body, ∀ value ∈ row, ValueIn ls value := by
    obtain ⟨format, -, h⟩ := FoundIn.of_bind h
    obtain ⟨settings, -, h⟩ := FoundIn.of_bind h
    split at h
    · cases h.of_pure
      simp
    obtain ⟨set, -, h⟩ := FoundIn.of_bind h
    split at h
    · obtain ⟨items, hitems, h⟩ := FoundIn.of_bind h
      cases h.of_pure
      exact ⟨valueIn_of_setItems hitems, by simp⟩
    · obtain ⟨query, hquery, h⟩ := FoundIn.of_bind h
      cases h.of_pure
      refine ⟨by simp, fun found hfound => ?_⟩
      cases hfound
      exact valueIn_of_query hquery
  dsimp only at h
  split at h
  · obtain ⟨columns, -, h⟩ := FoundIn.of_bind h
    obtain ⟨partition, -, h⟩ := FoundIn.of_bind h
    exact hrest columns partition h
  · obtain ⟨columns, -, h⟩ := FoundIn.of_bind h
    obtain ⟨partition, -, h⟩ := FoundIn.of_bind h
    exact hrest columns partition h

/-- The values of an upsert stand in the lexemes it is read from. -/
theorem valueIn_of_restOfOn {items : List SetItem}
    (h : FoundIn (restOfOn (.upTo levels)) ls (.duplicateKeyUpdate items)) :
    ∀ item ∈ items, ValueIn ls item.value := by
  obtain ⟨conflict, -, h⟩ := FoundIn.of_bind h
  split at h
  · obtain ⟨target, -, h⟩ := FoundIn.of_bind h
    obtain ⟨_, -, h⟩ := FoundIn.of_bind h
    obtain ⟨nothing, -, h⟩ := FoundIn.of_bind h
    split at h
    · cases h.of_pure
    · obtain ⟨_, -, h⟩ := FoundIn.of_bind h
      obtain ⟨updates, -, h⟩ := FoundIn.of_bind h
      obtain ⟨condition, -, h⟩ := FoundIn.of_bind h
      cases h.of_pure
  · obtain ⟨_, -, h⟩ := FoundIn.of_bind h
    obtain ⟨updates, hupdates, h⟩ := FoundIn.of_bind h
    cases h.of_pure
    exact valueIn_of_setItems hupdates

/-- Values of a statement that are read somewhere in some lexemes. -/
structure SourcedIn (ls : List Lexeme) (node : Insertion) : Prop where
  assignments : ∀ item ∈ node.assignments, ValueIn ls item.value
  rows : ∀ query ∈ node.source, ∀ row ∈ Body.rows query.body, ∀ value ∈ row, ValueIn ls value
  updates : ∀ items, node.onInsert = some (.duplicateKeyUpdate items) → ∀ item ∈ items, ValueIn ls item.value

/-- A statement in the end of some lexemes is one in them. -/
theorem SourcedIn.mono {node : Insertion} {ls' : List Lexeme} (h : SourcedIn ls node) (hls : ls <:+ ls') :
    SourcedIn ls' node where
  assignments item hitem := (h.assignments item hitem).mono hls
  rows query hquery row hrow value hvalue := (h.rows query hquery row hrow value hvalue).mono hls
  updates items hitems item hitem := (h.updates items hitems item hitem).mono hls

/-- All values of an insertion stand in the lexemes it is read from. -/
theorem sourcedIn_of_insertion {lead : Lexeme} {replaces : Bool} {node : Insertion}
    (h : FoundIn (insertion (.upTo levels) lead replaces) ls (.insert node)) : SourcedIn ls node := by
  obtain ⟨front, -, h⟩ := FoundIn.of_bind h
  obtain ⟨isLocal, -, h⟩ := FoundIn.of_bind h
  obtain ⟨isDirectory, -, h⟩ := FoundIn.of_bind h
  split at h
  · obtain ⟨path, -, h⟩ := FoundIn.of_bind h
    obtain ⟨format, -, h⟩ := FoundIn.of_bind h
    obtain ⟨query, -, h⟩ := FoundIn.of_bind h
    cases h.of_pure
  · obtain ⟨tableWord, -, h⟩ := FoundIn.of_bind h
    obtain ⟨table, -, h⟩ := FoundIn.of_bind h
    obtain ⟨data, hdata, h⟩ := FoundIn.of_bind h
    obtain ⟨rowAlias, -, h⟩ := FoundIn.of_bind h
    obtain ⟨onInsert, honInsert, h⟩ := FoundIn.of_bind h
    obtain ⟨returning, -, h⟩ := FoundIn.of_bind h
    cases h.of_pure
    obtain ⟨hassignments, hrows⟩ := valueIn_of_source hdata
    refine ⟨hassignments, hrows, fun items hitems => ?_⟩
    cases hitems
    exact valueIn_of_restOfOn honInsert.of_behindKeyword

/-- All values of a statement stand in the lexemes it is read from. -/
theorem sourcedIn_of_statement {left : List Lexeme} {node : Insertion}
    (h : (statement (.upTo levels)).run ls = .ok (.insert node, left)) : SourcedIn ls node ∧ left <:+ ls := by
  obtain ⟨l, ls', replaces, rfl, -, hrun⟩ := statement_run_insert h
  have hsuffix := List.suffix_cons l ls'
  exact ⟨(sourcedIn_of_insertion (foundIn_of_run hrun)).mono hsuffix, (Forward.left_suffix hrun).trans hsuffix⟩

instance : Forward goesOn := by
  refine forward_bind fun semicolon => ?_
  split
  · infer_instance
  · refine forward_bind fun next => ?_
    cases next <;> infer_instance

/-- A stretch between two semicolons is empty or holds a statement. -/
theorem sourcedIn_of_statement? {left : List Lexeme} {node : Option Insertion}
    (h : statement?.run ls = .ok (node.map Statement.insert, left)) : (∀ found ∈ node, SourcedIn ls found) ∧
    left <:+ ls := by
  rw [run_statement?] at h
  split at h
  · cases node with
    | none =>
      cases h
      exact ⟨by simp, List.suffix_refl ls⟩
    | some node => cases h
  · cases hrun : (Nested.upTo depthLimit).statement.run ls with
    | error fault =>
      rw [hrun] at h
      cases h
    | ok result =>
      obtain ⟨found, rest⟩ := result
      rw [hrun] at h
      cases node with
      | none => cases h
      | some node =>
        cases h
        obtain ⟨hnode, hleft⟩ := sourcedIn_of_statement hrun
        exact ⟨fun found hfound => Option.mem_some.mp hfound ▸ hnode, hleft⟩

/-- All values of some statements stand in the lexemes they are read from. -/
theorem sourcedIn_of_statementSteps {bound : Nat} {left : List Lexeme} {nodes : List Insertion}
    (h : (statementSteps bound).run ls = .ok (nodes.map .insert, left)) : ∀ node ∈ nodes, SourcedIn ls node := by
  induction bound generalizing ls nodes left with
  | zero =>
    cases nodes with
    | nil => simp
    | cons node nodes => cases h
  | succ bound ih =>
    obtain ⟨first, others, left, behind, more, hfirst, hmore, rfl, hothers⟩ := exists_of_statementSteps h
    obtain ⟨hnode, hleft⟩ := sourcedIn_of_statement? hfirst
    have hbehind : behind <:+ ls := (Forward.left_suffix hmore).trans hleft
    intro node hmem
    obtain hmem | hmem := List.mem_append.mp hmem
    · exact hnode node (Option.mem_toList.mp hmem)
    · cases more with
      | true => exact (ih hothers node hmem).mono hbehind
      | false =>
        rw [hothers.1] at hmem
        cases hmem

end Sql.Reader

open Sql (Lexeme Insertion)
open Sql.Reader (ValueIn SourcedIn)

/-- The values of a tree are those of the node that it says the same as. -/
theorem Insert.Carries.valueIn {tree : Insert} {node : Insertion} (h : tree.Carries node) {ls : List Lexeme}
    (hsourced : SourcedIn ls node) : ∀ value ∈ tree.allValues, ValueIn ls value := by
  have hcarried {assignments : List Assignment} {items : List Sql.SetItem} (h : Assignment.CarryAll assignments items)
      (hitems : ∀ item ∈ items, ValueIn ls item.value) : ∀ value ∈ assignments.map (·.value), ValueIn ls value := by
    induction h with
    | nil => simp
    | cons hcarries _ ih =>
      obtain ⟨hitem, hitems⟩ := List.forall_mem_cons.mp hitems
      rw [List.map_cons, hcarries.value]
      exact List.forall_mem_cons.mpr ⟨hitem, ih hitems⟩
  intro value hvalue
  obtain hvalue | hvalue := List.mem_append.mp hvalue
  · have hpayload := h.payload
    cases heq : tree.payload with
    | set assignments =>
      rw [heq] at hpayload hvalue
      exact hcarried hpayload.2 hsourced.assignments value hvalue
    | «values» columns rows =>
      rw [heq] at hpayload hvalue
      obtain ⟨-, query, short, explicit, hsource, hbody⟩ := hpayload
      obtain ⟨row, hrow, hvalue⟩ := List.mem_flatten.mp hvalue
      exact hsourced.rows query hsource row (by rwa [hbody]) value hvalue
  · have hupdates := h.updates
    cases honInsert : node.onInsert with
    | none =>
      rw [honInsert] at hupdates
      rw [show tree.onDuplicateUpdate = [] from hupdates] at hvalue
      cases hvalue
    | some onInsert =>
      rw [honInsert] at hupdates
      cases onInsert with
      | duplicateKeyUpdate items => exact hcarried hupdates (hsourced.updates items honInsert) value hvalue
      | conflict target items condition => exact absurd hupdates id

/-- Each value of the statements that lexemes are read as is read somewhere in the lexemes. -/
theorem Reads.valueIn {ls : List Lexeme} {ts : List Insert} (h : Reads ls ts) :
    ∀ t ∈ ts, ∀ value ∈ t.allValues, ValueIn ls value := by
  obtain ⟨nodes, hnodes, hts⟩ := h
  cases hrun : (Sql.Reader.statementSteps (ls.countP Sql.Reader.isSemicolon + 1)).run ls with
  | error fault =>
    unfold Sql.Statement.ofLexemes at hnodes
    rw [hrun] at hnodes
    cases hnodes
  | ok result =>
    obtain ⟨statements, left⟩ := result
    unfold Sql.Statement.ofLexemes at hnodes
    rw [hrun] at hnodes
    cases hnodes
    have hsourced := Sql.Reader.sourcedIn_of_statementSteps hrun
    intro t ht
    obtain ⟨node, hnode, htree⟩ := exists_mem_of_mapM hts t ht
    exact ((Insert.ofInsertion_eq_ok_iff node t).mp htree).2.valueIn (hsourced node hnode)

end InsertPivot
