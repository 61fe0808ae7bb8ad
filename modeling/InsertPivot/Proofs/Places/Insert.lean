import InsertPivot.Proofs.Places.Query
import InsertPivot.Proofs.Places.Same
import InsertPivot.Proofs.Narrowing
import InsertPivot.Proofs.Run

/-!
# The `INSERT`s of a text do not depend on places

Two lists of lexemes that differ only in places are read as `INSERT`s that differ only in places. Other
statements are left out: what the reader finds in them is dropped, so it is enough to know that none is
there.
-/

namespace InsertPivot

open Sql (Lexeme Statement Insertion Fault Nested)

/-! ## Trees -/

namespace Sql

instance (levels : Nat) : (Nested.upTo levels).Blind := by
  induction levels with
  | zero => exact ⟨fun _ _ => rfl, fun _ => rfl⟩
  | succ levels ih => exact ⟨fun _ => Reader.expression_blind _, Reader.query_blind⟩

/-- Parts of a name that are equal without places are the same but for places. -/
theorem NamePart.same_of_unplaced {a b : NamePart} (h : unplaced a = unplaced b) : a.same b := by
  cases a with
  | ident _ =>
    cases b with
    | ident _ => exact Ident.same_of_unplaced (NamePart.ident.inj h)
    | call _ _ => cases h
  | call _ arguments =>
    cases b with
    | ident _ => cases h
    | call _ _ =>
      injection h with hname harguments
      exact both (Ident.same_of_unplaced hname) (sameExprs_of_unplaced arguments (by simpa using harguments))

/-- Names of tables that are equal without places are the same but for places. -/
theorem Name.same_of_unplaced : ∀ {a b : Name}, unplaced a = unplaced b → a.same b
  | [], [], _ => rfl
  | _ :: _, _ :: _, h => by
    injection h with hpart hrest
    exact both (NamePart.same_of_unplaced hpart) (same_of_unplaced hrest)

end Sql

open Sql (Placed PlaceFree unplaced)

instance : PlaceFree LetterCase := {}

instance : Placed Assignment := ⟨fun item => ⟨unplaced item.qualifier, unplaced item.column, unplaced item.value⟩⟩

@[simp] theorem unplaced_assignment (qualifier : List Sql.Ident) (column : Sql.Ident) (value : Sql.Expr) :
    unplaced (⟨qualifier, column, value⟩ : Assignment) = ⟨unplaced qualifier, unplaced column, value.unplaced⟩ := rfl

instance : Placed Payload where
  unplaced
    | .set items => .set (unplaced items)
    | .values columns rows => .values (unplaced columns) (unplaced rows)

@[simp] theorem unplaced_payload_set (items : List Assignment) :
    unplaced (Payload.set items) = .set (unplaced items) := rfl

@[simp] theorem unplaced_payload_values (columns : List Sql.Ident) (rows : List (List Sql.Expr)) :
    unplaced (Payload.values columns rows) = .values (unplaced columns) (unplaced rows) := rfl

instance : Placed Insert where
  unplaced t :=
    { t with
      table := unplaced t.table
      payload := unplaced t.payload
      onDuplicateUpdate := unplaced t.onDuplicateUpdate }

@[simp] theorem unplaced_insert (keywordCase : LetterCase) (priority : Option Sql.Priority) (ignore : Bool)
    (table : Sql.Name) (payload : Payload) (updates : List Assignment) :
    unplaced (⟨keywordCase, priority, ignore, table, payload, updates⟩ : Insert) =
      ⟨keywordCase, priority, ignore, unplaced table, unplaced payload, unplaced updates⟩ := rfl

theorem Assignment.same_of_unplaced : ∀ {a b : Assignment}, unplaced a = unplaced b → a.same b
  | ⟨_, _, value⟩, ⟨_, _, _⟩, h => by
    injection h with hqualifier hcolumn hvalue
    exact Sql.both (Sql.both (Sql.Ident.sameAll_of_unplaced hqualifier) (Sql.Ident.same_of_unplaced hcolumn))
      (value.same_of_unplaced hvalue)

theorem Assignment.sameAll_of_unplaced : ∀ {as bs : List Assignment}, unplaced as = unplaced bs → sameAll as bs
  | [], [], _ => rfl
  | _ :: _, _ :: _, h => by
    injection h with ha has
    exact Sql.both (same_of_unplaced ha) (sameAll_of_unplaced has)

theorem Payload.same_of_unplaced {a b : Payload} (h : unplaced a = unplaced b) : a.same b := by
  cases a with
  | set _ =>
    cases b with
    | set _ => exact Assignment.sameAll_of_unplaced (Payload.set.inj h)
    | «values» _ _ => cases h
  | «values» _ rows =>
    cases b with
    | set _ => cases h
    | «values» _ _ =>
      injection h with hcolumns hrows
      exact Sql.both (Sql.Ident.sameAll_of_unplaced hcolumns) (Sql.sameRows_of_unplaced rows (by simpa using hrows))

/-- Statements that are equal without places are the same but for places. -/
theorem Insert.same_of_unplaced {a b : Insert} (h : unplaced a = unplaced b) : a.same b := by
  cases a
  cases b
  simp only [unplaced_insert, mk.injEq] at h
  obtain ⟨hcase, hpriority, hignore, htable, hpayload, hupdates⟩ := h
  simp [Insert.same, hcase, hpriority, hignore, Sql.Name.same_of_unplaced htable,
    Payload.same_of_unplaced hpayload, Assignment.sameAll_of_unplaced hupdates]

/-- Lists of statements that are equal without places are the same but for places. -/
theorem Insert.sameAll_of_unplaced : ∀ {as bs : List Insert}, unplaced as = unplaced bs → sameAll as bs
  | [], [], _ => rfl
  | _ :: _, _ :: _, h => by
    injection h with ha has
    exact Sql.both (same_of_unplaced ha) (sameAll_of_unplaced has)

/-! ## Narrowing -/

instance : PlaceFree Construct := {}

/-- Whether a name consists of names only does not depend on places. -/
theorem identParts_unplaced (name : Sql.Name) : identParts (unplaced name) = (identParts name).map unplaced := by
  fun_induction identParts name with
  | case1 => rfl
  | case2 part rest ih =>
    simp only [Sql.unplaced_cons, Sql.unplaced_namePart_ident, identParts, ih]
    cases identParts rest <;> rfl
  | case3 => rfl

/-- How an item narrows does not depend on places. -/
theorem Assignment.ofItem_unplaced (item : Sql.SetItem) :
    ofItem (unplaced item) = (ofItem item).map unplaced := by
  obtain ⟨name | names, value⟩ := item
  · simp only [Sql.unplaced_setItem, Sql.unplaced_target_column, ofItem, identParts_unplaced]
    cases identParts name with
    | error fault => rfl
    | ok parts =>
      simp only [Except.map, bind, Except.bind, Sql.getLast?_unplaced]
      cases parts.getLast? <;> simp
  · rfl

theorem Assignment.mapM_ofItem_unplaced (items : List Sql.SetItem) :
    (unplaced items).mapM ofItem = (items.mapM ofItem).map unplaced := by
  induction items with
  | nil => rfl
  | cons item rest ih =>
    simp only [Sql.unplaced_cons, List.mapM_cons, ofItem_unplaced, ih]
    cases ofItem item with
    | error fault => rfl
    | ok found => cases rest.mapM ofItem <;> rfl

namespace Insert

/-- How a payload narrows does not depend on places. -/
theorem payloadOf_unplaced (node : Insertion) : payloadOf (unplaced node) = (payloadOf node).map unplaced := by
  simp only [Sql.unplaced_insertion, payloadOf, Assignment.mapM_ofItem_unplaced]
  cases node.source with
  | none =>
    simp only [Sql.unplaced_none]
    cases node.assignments.mapM Assignment.ofItem <;> rfl
  | some query =>
    obtain ⟨isRecursive, bindings, body, order, limit, fetch, locks, output⟩ := query
    cases body <;> simp [Except.map]

/-- How an upsert narrows does not depend on places. -/
theorem updatesOf_unplaced (action : Option Sql.OnInsert) :
    updatesOf (unplaced action) = (updatesOf action).map unplaced := by
  match action with
  | none => rfl
  | some (.duplicateKeyUpdate items) => exact Assignment.mapM_ofItem_unplaced items
  | some (.conflict _ _ _) => rfl

/-- How a node narrows does not depend on places. -/
theorem ofInsertion_unplaced (node : Insertion) :
    ofInsertion (unplaced node) = (ofInsertion node).map unplaced := by
  have hpayload := payloadOf_unplaced node
  have hupdates := updatesOf_unplaced node.onInsert
  rw [Sql.unplaced_insertion] at hpayload ⊢
  simp only [ofInsertion, hpayload, hupdates, Sql.isSome_unplaced]
  by_cases halias : node.tableAlias.isSome || node.rowAlias.isSome
  · rw [if_pos halias, if_pos halias]
    rfl
  · rw [if_neg halias, if_neg halias]
    by_cases hpartition : node.partition.isSome
    · rw [if_pos hpartition, if_pos hpartition]
      rfl
    · rw [if_neg hpartition, if_neg hpartition]
      by_cases hreturning : node.returning.isSome
      · rw [if_pos hreturning, if_pos hreturning]
        rfl
      · rw [if_neg hreturning, if_neg hreturning]
        cases node.target with
        | call name arguments => rfl
        | table name =>
          cases payloadOf node with
          | error fault => rfl
          | ok payload => cases updatesOf node.onInsert <;> rfl

/-- Nodes that differ only in places narrow to trees that differ only in places. -/
theorem ofInsertion_transfer {node node' : Insertion} {t : Insert} (hnode : unplaced node' = unplaced node)
    (h : ofInsertion node = .ok t) : ∃ t', ofInsertion node' = .ok t' ∧ unplaced t' = unplaced t := by
  have heq := ofInsertion_unplaced node'
  rw [hnode, ofInsertion_unplaced, h] at heq
  cases ht : ofInsertion node' with
  | error fault =>
    rw [ht] at heq
    cases heq
  | ok t' =>
    rw [ht] at heq
    exact ⟨t', rfl, (Except.ok.inj heq).symm⟩

/-- Nodes that are equal without places narrow alike. -/
theorem mapM_ofInsertion_transfer {nodes nodes' : List Insertion} {ts : List Insert}
    (hnodes : unplaced nodes' = unplaced nodes) (h : nodes.mapM ofInsertion = .ok ts) :
    ∃ ts', nodes'.mapM ofInsertion = .ok ts' ∧ unplaced ts' = unplaced ts := by
  rw [mapM_eq_ok_iff] at h
  induction h generalizing nodes' with
  | nil =>
    cases nodes' <;> simp at hnodes
    exact ⟨[], rfl, rfl⟩
  | @cons node t nodes ts hnode _ ih =>
    cases nodes' with
    | nil => simp at hnodes
    | cons node' nodes' =>
      simp only [Sql.unplaced_cons, List.cons.injEq] at hnodes
      obtain ⟨t', ht', hsame⟩ := ofInsertion_transfer hnodes.1 hnode
      obtain ⟨ts', hts', hsames⟩ := ih hnodes.2
      refine ⟨t' :: ts', ?_, by simp [hsame, hsames]⟩
      rw [List.mapM_cons, ht', hts']
      rfl

end Insert

/-! ## Reading -/

namespace Sql

namespace Reader

/-- A reader that does not depend on places yields the same but for places on lexemes that are the same but
for places. -/
theorem Blind.transfer {α : Type} [Placed α] {r : Reader α} (hr : Blind r) {ls ls' rest : List Lexeme} {a : α}
    (hls : unplaced ls' = unplaced ls) (h : r.run ls = .ok (a, rest)) :
    ∃ a' rest', r.run ls' = .ok (a', rest') ∧ unplaced a' = unplaced a ∧ unplaced rest' = unplaced rest := by
  have heq := hr ls'
  rw [hls, hr ls, h] at heq
  cases hr' : r.run ls' with
  | error fault =>
    rw [hr'] at heq
    cases heq
  | ok found =>
    obtain ⟨a', rest'⟩ := found
    rw [hr', unplaced_ok, unplaced_ok, unplaced_mk, unplaced_mk] at heq
    simp only [Except.ok.injEq, Prod.mk.injEq] at heq
    exact ⟨a', rest', rfl, heq.1.symm, heq.2.symm⟩

/-- An `INSERT` is read from its leading word on. -/
theorem statement_run_lead (inner : Nested) {l : Lexeme} {replaces : Bool}
    (hl : l.token.keyword? = some (if replaces then "REPLACE" else "INSERT")) (ls : List Lexeme) :
    (statement inner).run (l :: ls) = (insertion inner l replaces).run ls := by
  have hlock : (acceptKeywords ["LOCK", "TABLES"]).run (l :: ls) = .ok (false, l :: ls) :=
    run_acceptKeywords_of_ne (by cases replaces <;> simp [hl])
  have hunlock : (acceptKeywords ["UNLOCK", "TABLES"]).run (l :: ls) = .ok (false, l :: ls) :=
    run_acceptKeywords_of_ne (by cases replaces <;> simp [hl])
  rw [statement, run_bind_of_ok hlock]
  simp only [Bool.false_eq_true, if_false]
  rw [run_bind_of_ok hunlock]
  simp only [Bool.false_eq_true, if_false]
  rw [run_bind_of_ok (run_peek? _)]
  simp only [List.head?_cons, statementFrom, hl]
  cases replaces <;> rfl

/-- What is read as an `INSERT` starts with one of two words. -/
theorem statement_run_insert {inner : Nested} {ls rest : List Lexeme} {node : Insertion}
    (h : (statement inner).run ls = .ok (.insert node, rest)) :
    ∃ l ls₀ replaces, ls = l :: ls₀ ∧ l.token.keyword? = some (if replaces then "REPLACE" else "INSERT") ∧
      (insertion inner l replaces).run ls₀ = .ok (.insert node, rest) := by
  obtain ⟨locks, left, hlocks, h⟩ := run_bind_eq_ok_iff.mp h
  cases locks with
  | true =>
    obtain ⟨_, _, _, h⟩ := run_bind_eq_ok_iff.mp h
    cases h
  | false =>
    rw [left_of_acceptKeywords hlocks] at h
    obtain ⟨unlocks, left, hunlocks, h⟩ := run_bind_eq_ok_iff.mp h
    cases unlocks with
    | true => cases h
    | false =>
      rw [left_of_acceptKeywords hunlocks] at h
      cases ls with
      | nil => cases h
      | cons l ls =>
        replace h : (statementFrom inner l).run (l :: ls) = .ok (.insert node, rest) := h
        rw [statementFrom] at h
        split at h
        next hl => exact ⟨l, ls, false, rfl, hl, h⟩
        next hl => exact ⟨l, ls, true, rfl, hl, h⟩
        iterate 4
          next =>
            obtain ⟨_, _, _, h⟩ := run_bind_eq_ok_iff.mp h
            cases h
        next =>
          split at h
          · obtain ⟨_, _, _, h⟩ := run_bind_eq_ok_iff.mp h
            obtain ⟨_, _, _, h⟩ := run_bind_eq_ok_iff.mp h
            cases h
          · cases h
        next =>
          split at h
          · obtain ⟨_, _, _, h⟩ := run_bind_eq_ok_iff.mp h
            cases h
          · cases h

/-- Lexemes that are equal without places are read as statements that are. -/
theorem statement_transfer {inner : Nested} [inner.Blind] {ls ls' rest : List Lexeme} {node : Insertion}
    (hls : unplaced ls' = unplaced ls) (h : (statement inner).run ls = .ok (.insert node, rest)) :
    ∃ node' rest', (statement inner).run ls' = .ok (.insert node', rest') ∧ unplaced node' = unplaced node ∧
      unplaced rest' = unplaced rest := by
  obtain ⟨l, ls₀, replaces, rfl, hl, h⟩ := statement_run_insert h
  cases ls' with
  | nil => simp at hls
  | cons l' ls₀' =>
    simp only [unplaced_cons, List.cons.injEq] at hls
    have htoken : l'.token = l.token := by simpa using congrArg Lexeme.token hls.1
    have hlead : insertion inner l' replaces = insertion inner l replaces := by
      rw [insertion, insertion, htoken]
    have hblind : Blind (insertion inner l replaces) := fun ls => insertion_alike (unplaced l) replaces ls
    obtain ⟨found, rest', hrun, hnode, hrest⟩ := hblind.transfer hls.2 h
    cases found with
    | insert node' =>
      refine ⟨node', rest', ?_, Statement.insert.inj hnode, hrest⟩
      rw [statement_run_lead inner (by rw [htoken]; exact hl), hlead, hrun]
    | directory _ => cases hnode
    | other => cases hnode

/-- Behind a statement stands a semicolon, `END` or nothing. -/
theorem run_goesOn_cons (l : Lexeme) (ls : List Lexeme) :
    goesOn.run (l :: ls) =
      if l.token = .symbol .semicolon then .ok (true, ls)
      else if l.token.keyword? = some "END" then .ok (false, l :: ls)
      else .error (.expected "end of statement" (some (l.token.text, l.span.first))) := by
  rw [goesOn, StateT.run_bind, run_acceptSymbol]
  by_cases hsemicolon : l.token = .symbol .semicolon
  · simp [hsemicolon]
  · by_cases hend : l.token.keyword? = some "END" <;> simp [hsemicolon, hend]

/-- Whether a statement goes on does not depend on places. -/
theorem goesOn_blind : Blind goesOn := by
  intro ls
  cases ls with
  | nil => rfl
  | cons l ls =>
    rw [unplaced_cons, run_goesOn_cons, run_goesOn_cons, token_unplaced]
    by_cases hsemicolon : l.token = .symbol .semicolon
    · rw [if_pos hsemicolon, if_pos hsemicolon]
      rfl
    · rw [if_neg hsemicolon, if_neg hsemicolon]
      by_cases hend : l.token.keyword? = some "END"
      · rw [if_pos hend, if_pos hend]
        rfl
      · rw [if_neg hend, if_neg hend]
        rfl

/-- A statement is read unless a semicolon or the end of the text stands there. -/
theorem run_statement? (ls : List Lexeme) :
    statement?.run ls =
      if ls.head?.map Lexeme.token = some (.symbol .semicolon) ∨ ls = [] then .ok (none, ls)
      else ((Nested.upTo depthLimit).statement.run ls).map fun (found, rest) => (some found, rest) := by
  cases ls with
  | nil => rfl
  | cons l ls =>
    simp only [statement?, StateT.run_bind, run_atSymbol, run_peek?, except_ok_bind]
    by_cases h : l.token = .symbol .semicolon
    · simp [h]
    · simp only [List.head?_cons, Option.map_some, Option.some.injEq, h, reduceCtorEq, or_false, decide_false,
        Bool.false_or, Option.isNone_some, Bool.false_eq_true, if_false]
      rfl

/-- Lexemes that are equal without places are read alike, statement or none. -/
theorem statement?_transfer {ls ls' rest : List Lexeme} {node : Option Insertion} (hls : unplaced ls' = unplaced ls)
    (h : statement?.run ls = .ok (node.map Statement.insert, rest)) :
    ∃ node' rest', statement?.run ls' = .ok (node'.map Statement.insert, rest') ∧ unplaced node' = unplaced node ∧
      unplaced rest' = unplaced rest := by
  have hhead : ls'.head?.map Lexeme.token = ls.head?.map Lexeme.token := by
    have := congrArg (fun ls => (List.head? ls).map Lexeme.token) hls
    simpa using this
  have hnil : ls' = [] ↔ ls = [] := by
    rw [← unplaced_eq_nil, hls, unplaced_eq_nil]
  simp only [run_statement?, hhead, hnil] at h ⊢
  by_cases hstop : ls.head?.map Lexeme.token = some (.symbol .semicolon) ∨ ls = []
  · rw [if_pos hstop] at h ⊢
    cases node with
    | none =>
      cases h
      exact ⟨none, ls', rfl, rfl, hls⟩
    | some _ => cases h
  · rw [if_neg hstop] at h ⊢
    cases hrun : (Nested.upTo depthLimit).statement.run ls with
    | error fault =>
      rw [hrun] at h
      cases h
    | ok found =>
      obtain ⟨found, left⟩ := found
      rw [hrun] at h
      cases node with
      | none => cases h
      | some node =>
        cases h
        obtain ⟨node', rest', hrun', hnode, hrest⟩ := statement_transfer hls hrun
        have hrun' : (Nested.upTo depthLimit).statement.run ls' = .ok (.insert node', rest') := hrun'
        rw [hrun']
        exact ⟨some node', rest', rfl, by simp [hnode], hrest⟩

/-- Where statements are read and each is an `INSERT`, the first of them may be missing, and the others are read
behind it if they are there. -/
theorem exists_of_statementSteps {bound : Nat} {ls rest : List Lexeme} {nodes : List Insertion}
    (h : (statementSteps (bound + 1)).run ls = .ok (nodes.map Statement.insert, rest)) :
    ∃ (first : Option Insertion) (others : List Insertion) (left left₂ : List Lexeme) (more : Bool),
      statement?.run ls = .ok (first.map Statement.insert, left) ∧ goesOn.run left = .ok (more, left₂) ∧
        nodes = first.toList ++ others ∧
        (if more then (statementSteps bound).run left₂ = .ok (others.map Statement.insert, rest)
        else others = [] ∧ left₂ = rest) := by
  obtain ⟨found, left, hfound, hrun⟩ := run_bind_eq_ok_iff.mp h
  obtain ⟨more, left₂, hmore, hrun⟩ := run_bind_eq_ok_iff.mp hrun
  -- all statements are insertions, so the first one is, and the others are read by the same reader
  suffices ∃ (first : Option Insertion) (others : List Insertion),
      found = first.map Statement.insert ∧ nodes = first.toList ++ others ∧
        (if more then (statementSteps bound).run left₂ = .ok (others.map Statement.insert, rest)
        else others = [] ∧ left₂ = rest) by
    obtain ⟨first, others, rfl, hnodes, hothers⟩ := this
    exact ⟨first, others, left, left₂, more, hfound, hmore, hnodes, hothers⟩
  cases more with
  | true =>
    obtain ⟨later, left₃, hlater, hdone⟩ := run_bind_eq_ok_iff.mp hrun
    simp only [StateT.run_pure, except_pure, Except.ok.injEq, Prod.mk.injEq] at hdone
    obtain ⟨hlist, rfl⟩ := hdone
    cases found with
    | none => exact ⟨none, nodes, rfl, rfl, by simpa [← hlist] using hlater⟩
    | some found =>
      cases nodes with
      | nil => simp at hlist
      | cons node nodes =>
        simp only [Option.toList_some, List.cons_append, List.nil_append, List.map_cons,
          List.cons.injEq] at hlist
        exact ⟨some node, nodes, by simp [hlist.1], rfl, by simpa [← hlist.2] using hlater⟩
  | false =>
    simp only [Bool.false_eq_true, if_false, StateT.run_pure, except_pure, Except.ok.injEq,
      Prod.mk.injEq] at hrun
    obtain ⟨hlist, rfl⟩ := hrun
    cases found with
    | none => exact ⟨none, [], rfl, by simpa using hlist, rfl, rfl⟩
    | some found =>
      cases nodes with
      | nil => simp at hlist
      | cons node nodes =>
        simp only [Option.toList_some, List.map_cons, List.cons.injEq, List.nil_eq,
          List.map_eq_nil_iff] at hlist
        exact ⟨some node, [], by simp [hlist.1], by simp [hlist.2], rfl, rfl⟩

/-- Statements of which each is an `INSERT`. -/
theorem statementSteps_transfer (bound : Nat) {ls ls' rest : List Lexeme} {nodes : List Insertion}
    (hls : unplaced ls' = unplaced ls)
    (h : (statementSteps bound).run ls = .ok (nodes.map Statement.insert, rest)) :
    ∃ nodes' rest', (statementSteps bound).run ls' = .ok (nodes'.map Statement.insert, rest') ∧
      unplaced nodes' = unplaced nodes ∧ unplaced rest' = unplaced rest := by
  induction bound generalizing ls ls' rest nodes with
  | zero =>
    cases nodes with
    | nil =>
      cases h
      exact ⟨[], ls', rfl, rfl, hls⟩
    | cons _ _ => cases h
  | succ bound ih =>
    obtain ⟨first, others, left, left₂, more, hfound, hmore, rfl, hothers⟩ := exists_of_statementSteps h
    obtain ⟨first', left', hfirst', hfirst, hleft⟩ := statement?_transfer hls hfound
    obtain ⟨more', left₂', hmore', hmores, hleft₂⟩ := goesOn_blind.transfer hleft hmore
    rw [unplaced_eq, unplaced_eq] at hmores
    subst hmores
    rw [statementSteps, run_bind_of_ok hfirst', run_bind_of_ok hmore']
    cases more' with
    | true =>
      obtain ⟨others', rest', hothers', hsame, hrest⟩ := ih hleft₂ hothers
      refine ⟨first'.toList ++ others', rest', ?_, ?_, hrest⟩
      · simp only [if_true]
        rw [run_bind_of_ok hothers']
        cases first' <;> rfl
      · cases first <;> cases first' <;> simp_all
    | false =>
      obtain ⟨rfl, rfl⟩ := hothers
      refine ⟨first'.toList, left₂', ?_, ?_, hleft₂⟩
      · cases first' <;> rfl
      · cases first <;> cases first' <;> simp_all

end Reader

end Sql

end InsertPivot
