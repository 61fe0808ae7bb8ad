import InsertPivot.Insert.Format
import InsertPivot.Insert.Narrow
import Mathlib.Data.List.Forall2

/-!
# What narrowing keeps

`Insert.ofStatement` takes an `INSERT` that was read, clause by clause, to one of the two forms. Here the
statements that it takes are told without it, and so is what it makes of each.

`Carries tree node` says that a tree has the table, the modifiers, the data and the updates of a node, item
for item and in order. `node.Plain` says that the node has none of the clauses that are refused. Together
they are exactly when narrowing yields the tree.

Neither says that nothing is lost. A node may have clauses that narrowing does not look at: that it is a
`REPLACE`, a conflict clause, `OVERWRITE`, the column list of a `SET` list, or what stands around listed
rows. `node.KeepsAll` says that it has none of these, and `node.Representable` that a tree can hold all that
the node says. A node that narrows is representable exactly when nothing of it is dropped; a `REPLACE` is
the shortest that is not.
-/

namespace InsertPivot

open Sql (SetItem Insertion Name Ident OnInsert Query)

/-! ## Steps that may be refused -/

section Except

variable {ε α β : Type}

/-- A list is taken item by item: each item yields the item at its place. -/
theorem mapM_eq_ok_iff (f : α → Except ε β) (xs : List α) (ys : List β) :
    xs.mapM f = .ok ys ↔ List.Forall₂ (fun x y => f x = .ok y) xs ys := by
  induction xs generalizing ys with
  | nil => cases ys <;> simp [pure, Except.pure]
  | cons x xs ih =>
    rw [List.mapM_cons, List.forall₂_cons_left_iff]
    cases hx : f x with
    | error fault => simp [bind, Except.bind]
    | ok y =>
      cases hxs : xs.mapM f with
      | error fault => simp [bind, Except.bind, ← ih, hxs]
      | ok rest => simp [bind, Except.bind, pure, Except.pure, ← ih, hxs, eq_comm]

/-- What is taken from a list is taken from one of its items. -/
theorem exists_mem_of_mapM {f : α → Except ε β} {xs : List α} {ys : List β} (h : xs.mapM f = .ok ys) :
    ∀ y ∈ ys, ∃ x ∈ xs, f x = .ok y := by
  rw [mapM_eq_ok_iff] at h
  induction h with
  | nil => simp
  | cons hx _ ih =>
    refine List.forall_mem_cons.mpr ⟨⟨_, List.mem_cons_self, hx⟩, fun y hy => ?_⟩
    obtain ⟨x, hmem, hx⟩ := ih y hy
    exact ⟨x, List.mem_cons_of_mem _ hmem, hx⟩

/-- A list is refused for the first of its items that is. -/
theorem mapM_eq_error_iff {f : α → Except ε β} {xs : List α} {fault : ε} :
    xs.mapM f = .error fault ↔
      ∃ before x behind, xs = before ++ x :: behind ∧ (∀ y ∈ before, ∃ z, f y = .ok z) ∧ f x = .error fault := by
  constructor
  · intro h
    induction xs with
    | nil => cases h
    | cons x xs ih =>
      rw [List.mapM_cons] at h
      cases hx : f x with
      | error found =>
        rw [hx] at h
        cases h
        exact ⟨[], x, xs, rfl, by simp, hx⟩
      | ok z =>
        rw [hx] at h
        cases hxs : xs.mapM f with
        | ok zs => rw [hxs] at h; cases h
        | error found =>
          rw [hxs] at h
          cases h
          obtain ⟨before, y, behind, rfl, hbefore, hy⟩ := ih hxs
          exact ⟨x :: before, y, behind, rfl, List.forall_mem_cons.mpr ⟨⟨z, hx⟩, hbefore⟩, hy⟩
  · rintro ⟨before, x, behind, rfl, hbefore, hx⟩
    induction before with
    | nil =>
      rw [List.nil_append, List.mapM_cons, hx]
      rfl
    | cons y before ih =>
      obtain ⟨⟨z, hz⟩, hbefore⟩ := List.forall_mem_cons.mp hbefore
      rw [List.cons_append, List.mapM_cons, hz, ih hbefore]
      rfl

end Except

/-! ## Assignments -/

/-- The identifiers of a name are its parts, where all of these are identifiers. -/
theorem identParts_eq_ok_iff (name : Name) (parts : List Ident) :
    identParts name = .ok parts ↔ name = Name.ofIdents parts := by
  induction name generalizing parts with
  | nil => cases parts <;> simp [identParts, Name.ofIdents]
  | cons part rest ih =>
    cases part with
    | call _ _ => cases parts <;> simp [identParts, Name.ofIdents]
    | ident found =>
      cases parts with
      | nil => cases h : identParts rest <;> simp [identParts, Name.ofIdents, Except.map, h]
      | cons p ps =>
        have tail := ih ps
        cases h : identParts rest <;> simp_all [identParts, Name.ofIdents, Except.map]

/-- An assignment that assigns what an item assigns, to the column that its name ends with. -/
structure Assignment.Carries (a : Assignment) (item : SetItem) : Prop where
  target : item.target = .column (Name.ofIdents (a.qualifier ++ [a.column]))
  value : a.value = item.value

theorem Assignment.ofItem_eq_ok_iff (item : SetItem) (a : Assignment) :
    ofItem item = .ok a ↔ a.Carries item := by
  obtain ⟨target, value⟩ := item
  cases target with
  | tuple names => exact ⟨fun h => (by cases h), fun h => (by cases h.target)⟩
  | column name =>
    constructor
    · intro h
      simp only [ofItem] at h
      cases hparts : identParts name with
      | error fault => rw [hparts] at h; cases h
      | ok parts =>
        simp only [hparts, bind, Except.bind] at h
        split at h
        next => cases h
        next column hlast =>
          cases h
          have hend := List.dropLast_append_getLast? column hlast
          exact ⟨by rw [(identParts_eq_ok_iff name parts).mp hparts, hend], rfl⟩
    · intro h
      have hparts := (identParts_eq_ok_iff name _).mpr (Sql.AssignmentTarget.column.inj h.target)
      simp only [ofItem, hparts, bind, Except.bind, List.getLast?_concat, List.dropLast_concat]
      exact congrArg Except.ok (congrArg (Assignment.mk a.qualifier a.column) h.value.symm)

/-- The items of a list, one assignment for each. -/
abbrev Assignment.CarryAll (assignments : List Assignment) (items : List SetItem) : Prop :=
  List.Forall₂ (fun item a => Carries a item) items assignments

/-- A `SET` list narrows if and only if each item carries an assignment. -/
theorem Assignment.mapM_ofItem_eq_ok_iff (items : List SetItem) (assignments : List Assignment) :
    items.mapM ofItem = .ok assignments ↔ CarryAll assignments items := by
  simp only [mapM_eq_ok_iff, ofItem_eq_ok_iff]

/-- An item that assigns to one column, by a name that has a part and no part that is computed. -/
def Sql.SetItem.NamesColumn (item : SetItem) : Prop :=
  ∃ parts, parts ≠ [] ∧ item.target = .column (Name.ofIdents parts)

/-- An item names a column if and only if it carries an assignment. -/
theorem Sql.SetItem.namesColumn_iff_carried (item : SetItem) :
    item.NamesColumn ↔ ∃ a, Assignment.Carries a item := by
  constructor
  · rintro ⟨parts, hne, htarget⟩
    refine ⟨⟨parts.dropLast, parts.getLast hne, item.value⟩, ?_, rfl⟩
    rw [List.dropLast_append_getLast]
    exact htarget
  · rintro ⟨a, h⟩
    exact ⟨_, by simp, h.target⟩

/-- Items can be carried when each of them can. -/
theorem Sql.SetItem.forall_namesColumn_iff_carried (items : List SetItem) :
    (∀ item ∈ items, item.NamesColumn) ↔ ∃ assignments, Assignment.CarryAll assignments items := by
  induction items with
  | nil => simp [Assignment.CarryAll]
  | cons item items ih =>
    rw [List.forall_mem_cons, ih, Sql.SetItem.namesColumn_iff_carried]
    constructor
    · rintro ⟨⟨a, ha⟩, assignments, h⟩
      exact ⟨a :: assignments, .cons ha h⟩
    · rintro ⟨_, h⟩
      cases h with
      | cons ha h => exact ⟨⟨_, ha⟩, _, h⟩

/-! ## Statements that narrow -/

/-- A payload that holds what a node inserts: its assignments where it has no query, and otherwise its column
list and its listed rows. -/
def Payload.Carries (node : Insertion) : Payload → Prop
  | .set assignments => node.source = none ∧ Assignment.CarryAll assignments node.assignments
  | .values columns rows =>
    columns = node.columns ∧
      ∃ query short explicit, node.source = some query ∧ query.body = .values short explicit rows

/-- Assignments that are those of an `ON DUPLICATE KEY UPDATE`, and none where there is no such clause. -/
def Assignment.CarryUpdates (updates : List Assignment) : Option OnInsert → Prop
  | none => updates = []
  | some (.duplicateKeyUpdate items) => CarryAll updates items
  | some (.conflict _ _ _) => False

/-- A tree that says what a node says, as far as the tree goes. -/
structure Insert.Carries (tree : Insert) (node : Insertion) : Prop where
  table : node.target = .table tree.table
  keywordCase : tree.keywordCase = leadCase node.lead
  priority : tree.priority = node.priority
  ignore : tree.ignore = node.ignore
  payload : tree.payload.Carries node
  updates : Assignment.CarryUpdates tree.onDuplicateUpdate node.onInsert

/-- A node without the clauses that are refused wherever they stand. -/
structure Sql.Insertion.Plain (node : Insertion) : Prop where
  tableAlias : node.tableAlias = none
  rowAlias : node.rowAlias = none
  partition : node.partition = none
  returning : node.returning = none

namespace Insert

/-- What a node inserts narrows to a payload if and only if it carries it. -/
theorem payloadOf_eq_ok_iff (node : Insertion) (payload : Payload) :
    payloadOf node = .ok payload ↔ payload.Carries node := by
  cases hsource : node.source with
  | none =>
    cases hitems : node.assignments.mapM Assignment.ofItem with
    | error fault =>
      have none : ∀ assignments, ¬ Assignment.CarryAll assignments node.assignments :=
        fun assignments h => by
          rw [(Assignment.mapM_ofItem_eq_ok_iff _ _).mpr h] at hitems
          cases hitems
      cases payload <;> simp [payloadOf, hsource, hitems, Except.map, Payload.Carries, none]
    | ok found =>
      have only : ∀ assignments, found = assignments ↔ Assignment.CarryAll assignments node.assignments :=
        fun assignments => by rw [← Assignment.mapM_ofItem_eq_ok_iff, hitems, Except.ok.injEq]
      cases payload <;> simp [payloadOf, hsource, hitems, Except.map, Payload.Carries, only]
  | some query =>
    cases hbody : query.body with
    | «values» short explicit rows =>
      cases payload with
      | set assignments => simp [payloadOf, hsource, hbody, Payload.Carries]
      | «values» columns rows' =>
        simp only [payloadOf, hsource, hbody, Payload.Carries, Except.ok.injEq, Payload.values.injEq,
          Option.some.injEq]
        constructor
        · rintro ⟨rfl, rfl⟩
          exact ⟨rfl, query, short, explicit, rfl, hbody⟩
        · rintro ⟨rfl, _, _, _, rfl, hbody'⟩
          rw [hbody] at hbody'
          exact ⟨rfl, (Sql.Body.values.inj hbody').2.2⟩
    | _ => cases payload <;> simp [payloadOf, hsource, hbody, Payload.Carries]

/-- What a node updates narrows to assignments if and only if it carries them. -/
theorem updatesOf_eq_ok_iff (onInsert : Option OnInsert) (updates : List Assignment) :
    updatesOf onInsert = .ok updates ↔ Assignment.CarryUpdates updates onInsert := by
  match onInsert with
  | none => simp [updatesOf, Assignment.CarryUpdates, eq_comm]
  | some (.duplicateKeyUpdate items) => exact Assignment.mapM_ofItem_eq_ok_iff items updates
  | some (.conflict _ _ _) => simp [updatesOf, Assignment.CarryUpdates]

/-- What becomes of a node without refused clauses depends on its target, its data and its updates. -/
theorem ofInsertion_of_plain {node : Insertion} (h : node.Plain) :
    ofInsertion node =
      (match node.target with
      | .call _ _ => .error (.unsupported .tableFunction)
      | .table table => do
        let payload ← payloadOf node
        let updates ← updatesOf node.onInsert
        return ⟨leadCase node.lead, node.priority, node.ignore, table, payload, updates⟩) := by
  simp only [ofInsertion, h.tableAlias, h.rowAlias, h.partition, h.returning]
  rfl

/-- A node that narrows is plain. -/
theorem plain_of_ofInsertion {node : Insertion} {tree : Insert} (h : ofInsertion node = .ok tree) :
    node.Plain := by
  cases htable : node.tableAlias with
  | some _ => simp only [ofInsertion, htable] at h; cases h
  | none =>
    cases hrow : node.rowAlias with
    | some _ => simp only [ofInsertion, htable, hrow] at h; cases h
    | none =>
      cases hpartition : node.partition with
      | some _ => simp only [ofInsertion, htable, hrow, hpartition] at h; cases h
      | none =>
        cases hreturning : node.returning with
        | some _ => simp only [ofInsertion, htable, hrow, hpartition, hreturning] at h; cases h
        | none => exact ⟨htable, hrow, hpartition, hreturning⟩

/-- A node narrows to a tree exactly when it has no clause that is refused and the tree carries it. -/
theorem ofInsertion_eq_ok_iff (node : Insertion) (tree : Insert) :
    ofInsertion node = .ok tree ↔ node.Plain ∧ tree.Carries node := by
  constructor
  · intro h
    have hplain := plain_of_ofInsertion h
    refine ⟨hplain, ?_⟩
    rw [ofInsertion_of_plain hplain] at h
    split at h
    next => cases h
    next table htarget =>
      cases hpayload : payloadOf node with
      | error fault => rw [hpayload] at h; cases h
      | ok payload =>
        cases hupdates : updatesOf node.onInsert with
        | error fault => rw [hpayload, hupdates] at h; cases h
        | ok updates =>
          rw [hpayload, hupdates] at h
          cases h
          exact ⟨htarget, rfl, rfl, rfl, (payloadOf_eq_ok_iff _ _).mp hpayload,
            (updatesOf_eq_ok_iff _ _).mp hupdates⟩
  · rintro ⟨hplain, h⟩
    rw [ofInsertion_of_plain hplain, h.table, (payloadOf_eq_ok_iff _ _).mpr h.payload,
      (updatesOf_eq_ok_iff _ _).mpr h.updates, ← h.keywordCase, ← h.priority, ← h.ignore]
    rfl

/-! ## Faults -/

/-- A fault that names a construct which no tree can hold. -/
def NamesConstruct (fault : ReadFault) : Prop :=
  ∃ construct, fault = .unsupported construct

/-- A table's name that is refused is refused for a construct in it. -/
theorem namesConstruct_of_identParts {name : Name} {fault : ReadFault}
    (h : identParts name = .error fault) : NamesConstruct fault := by
  induction name with
  | nil => cases h
  | cons part rest ih =>
    cases part with
    | call _ _ => cases h; exact ⟨_, rfl⟩
    | ident found =>
      cases hrest : identParts rest with
      | error fault' =>
        simp only [identParts, hrest, Except.map] at h
        cases h
        exact ih hrest
      | ok parts => simp [identParts, hrest, Except.map] at h

/-- An item that is refused is refused for a construct in it. -/
theorem namesConstruct_of_ofItem {item : SetItem} {fault : ReadFault}
    (h : Assignment.ofItem item = .error fault) : NamesConstruct fault := by
  obtain ⟨target, value⟩ := item
  cases target with
  | tuple names => cases h; exact ⟨_, rfl⟩
  | column name =>
    simp only [Assignment.ofItem] at h
    cases hparts : identParts name with
    | error fault' =>
      rw [hparts] at h
      cases h
      exact namesConstruct_of_identParts hparts
    | ok parts =>
      simp only [hparts, bind, Except.bind] at h
      split at h
      next => cases h; exact ⟨_, rfl⟩
      next => cases h

/-- A `SET` list that is refused is refused for a construct in it. -/
theorem namesConstruct_of_mapM_ofItem {items : List SetItem} {fault : ReadFault}
    (h : items.mapM Assignment.ofItem = .error fault) : NamesConstruct fault := by
  obtain ⟨_, item, _, -, -, hitem⟩ := mapM_eq_error_iff.mp h
  exact namesConstruct_of_ofItem hitem

/-- A payload that is refused is refused for a construct in it. -/
theorem namesConstruct_of_payloadOf {node : Insertion} {fault : ReadFault}
    (h : payloadOf node = .error fault) : NamesConstruct fault := by
  unfold payloadOf at h
  split at h
  next =>
    cases hitems : node.assignments.mapM Assignment.ofItem with
    | error fault' =>
      rw [hitems] at h
      cases h
      exact namesConstruct_of_mapM_ofItem hitems
    | ok assignments => rw [hitems] at h; cases h
  next =>
    split at h
    next => cases h
    next => cases h; exact ⟨_, rfl⟩

/-- An upsert that is refused is refused for a construct in it. -/
theorem namesConstruct_of_updatesOf {onInsert : Option OnInsert} {fault : ReadFault}
    (h : updatesOf onInsert = .error fault) : NamesConstruct fault := by
  match onInsert with
  | none => cases h
  | some (.duplicateKeyUpdate items) => exact namesConstruct_of_mapM_ofItem h
  | some (.conflict _ _ _) => cases h; exact ⟨_, rfl⟩

/-- A node that is refused is refused for a construct in it. -/
theorem namesConstruct_of_ofInsertion {node : Insertion} {fault : ReadFault}
    (h : ofInsertion node = .error fault) : NamesConstruct fault := by
  by_cases hplain : node.Plain
  · rw [ofInsertion_of_plain hplain] at h
    split at h
    next => cases h; exact ⟨_, rfl⟩
    next =>
      cases hpayload : payloadOf node with
      | error fault' =>
        rw [hpayload] at h
        cases h
        exact namesConstruct_of_payloadOf hpayload
      | ok payload =>
        cases hupdates : updatesOf node.onInsert with
        | error fault' =>
          rw [hpayload, hupdates] at h
          cases h
          exact namesConstruct_of_updatesOf hupdates
        | ok updates => rw [hpayload, hupdates] at h; cases h
  · cases htable : node.tableAlias with
    | some _ => simp only [ofInsertion, htable] at h; cases h; exact ⟨_, rfl⟩
    | none =>
      cases hrow : node.rowAlias with
      | some _ => simp only [ofInsertion, htable, hrow] at h; cases h; exact ⟨_, rfl⟩
      | none =>
        cases hpartition : node.partition with
        | some _ => simp only [ofInsertion, htable, hrow, hpartition] at h; cases h; exact ⟨_, rfl⟩
        | none =>
          cases hreturning : node.returning with
          | some _ =>
            simp only [ofInsertion, htable, hrow, hpartition, hreturning] at h
            cases h
            exact ⟨_, rfl⟩
          | none => exact absurd ⟨htable, hrow, hpartition, hreturning⟩ hplain

/-- What narrows to no tree is refused for a construct. -/
theorem namesConstruct_of_ofStatement {statement : Sql.Statement} {fault : ReadFault}
    (h : ofStatement statement = .error fault) : NamesConstruct fault := by
  match statement with
  | .insert node => exact namesConstruct_of_ofInsertion h
  | .directory _ => cases h; exact ⟨_, rfl⟩
  | .other => cases h; exact ⟨_, rfl⟩

end Insert

/-! ## What is dropped -/

/-- A query with nothing around its body. -/
structure Sql.Query.Bare (query : Query) : Prop where
  bindings : query.bindings = []
  order : query.order = []
  limit : query.limit = none
  fetch : query.fetch = none
  locks : query.locks = []
  output : query.output = none

/-- A node of which narrowing drops nothing: it has no clause that is passed over without a look. -/
structure Sql.Insertion.KeepsAll (node : Insertion) : Prop where
  inserts : node.replaces = false
  conflict : node.conflict = none
  overwrite : node.overwrite = false
  data :
    match node.source with
    | none => node.columns = [] ∧ node.assignments ≠ []
    | some query => node.assignments = [] ∧ query.Bare

/-- A node that says nothing but what one of the two forms can say. -/
structure Sql.Insertion.Representable (node : Insertion) : Prop where
  plain : node.Plain
  inserts : node.replaces = false
  conflict : node.conflict = none
  overwrite : node.overwrite = false
  table : ∃ name, node.target = .table name
  items : ∀ item ∈ node.assignments, item.NamesColumn
  updates :
    node.onInsert = none ∨
      ∃ items, node.onInsert = some (.duplicateKeyUpdate items) ∧ ∀ item ∈ items, item.NamesColumn
  data :
    node.source = none ∧ node.columns = [] ∧ node.assignments ≠ [] ∨
      node.assignments = [] ∧
        ∃ query short explicit rows,
          node.source = some query ∧ query.body = .values short explicit rows ∧ query.Bare

/-- Assignments are carried if there is no upsert, or one whose items all name columns. -/
theorem exists_carryUpdates_iff (onInsert : Option OnInsert) :
    (∃ updates, Assignment.CarryUpdates updates onInsert) ↔
      onInsert = none ∨
        ∃ items, onInsert = some (.duplicateKeyUpdate items) ∧ ∀ item ∈ items, item.NamesColumn := by
  match onInsert with
  | none => simp [Assignment.CarryUpdates]
  | some (.duplicateKeyUpdate items) =>
    simp [Assignment.CarryUpdates, Sql.SetItem.forall_namesColumn_iff_carried]
  | some (.conflict _ _ _) => simp [Assignment.CarryUpdates]

/-- A tree carries a representable node. -/
theorem Sql.Insertion.Representable.exists_carries {node : Insertion} (h : node.Representable) :
    ∃ tree : Insert, tree.Carries node := by
  obtain ⟨name, htable⟩ := h.table
  obtain ⟨updates, hupdates⟩ := (exists_carryUpdates_iff node.onInsert).mpr h.updates
  obtain ⟨payload, hpayload⟩ : ∃ payload : Payload, payload.Carries node := by
    obtain ⟨hsource, -, -⟩ | ⟨-, query, short, explicit, rows, hsource, hbody, -⟩ := h.data
    · obtain ⟨assignments, hassignments⟩ := (Sql.SetItem.forall_namesColumn_iff_carried _).mp h.items
      exact ⟨.set assignments, hsource, hassignments⟩
    · exact ⟨.values node.columns rows, rfl, query, short, explicit, hsource, hbody⟩
  exact ⟨⟨Insert.leadCase node.lead, node.priority, node.ignore, name, payload, updates⟩,
    htable, rfl, rfl, rfl, hpayload, hupdates⟩

/-- A node that can be represented is kept whole. -/
theorem Sql.Insertion.Representable.keepsAll {node : Insertion} (h : node.Representable) : node.KeepsAll := by
  refine ⟨h.inserts, h.conflict, h.overwrite, ?_⟩
  obtain ⟨hsource, hcolumns, hitems⟩ | ⟨hitems, query, _, _, _, hsource, -, hbare⟩ := h.data
  · rw [hsource]
    exact ⟨hcolumns, hitems⟩
  · rw [hsource]
    exact ⟨hitems, hbare⟩

/-- A node that narrows is representable when nothing of it is dropped. -/
theorem Sql.Insertion.KeepsAll.representable {node : Insertion} {tree : Insert} (h : node.KeepsAll)
    (hplain : node.Plain) (htree : tree.Carries node) : node.Representable := by
  refine ⟨hplain, h.inserts, h.conflict, h.overwrite, ⟨_, htree.table⟩, ?_,
    (exists_carryUpdates_iff _).mp ⟨_, htree.updates⟩, ?_⟩
  · have hdata := h.data
    have hpayload := htree.payload
    cases hp : tree.payload with
    | set assignments =>
      rw [hp] at hpayload
      exact (Sql.SetItem.forall_namesColumn_iff_carried _).mpr ⟨_, hpayload.2⟩
    | «values» columns rows =>
      rw [hp] at hpayload
      obtain ⟨-, query, _, _, hsource, -⟩ := hpayload
      rw [hsource] at hdata
      simp [hdata.1]
  · have hdata := h.data
    have hpayload := htree.payload
    cases hp : tree.payload with
    | set assignments =>
      rw [hp] at hpayload
      rw [hpayload.1] at hdata
      exact .inl ⟨hpayload.1, hdata⟩
    | «values» columns rows =>
      rw [hp] at hpayload
      obtain ⟨-, query, short, explicit, hsource, hbody⟩ := hpayload
      rw [hsource] at hdata
      exact .inr ⟨hdata.1, query, short, explicit, rows, hsource, hbody, hdata.2⟩

/-! ## Narrowing -/

namespace Insert

/-- Narrowing yields a tree exactly for an `INSERT` that has no refused clause and that the tree carries, and
names a construct for every other statement. What narrows is representable exactly when nothing of it is
dropped. -/
theorem ofStatement_exact (statement : Sql.Statement) :
    (∀ tree, ofStatement statement = .ok tree ↔
      ∃ node, statement = .insert node ∧ node.Plain ∧ tree.Carries node) ∧
    ((∃ tree, ofStatement statement = .ok tree) ∨
      ∃ construct, ofStatement statement = .error (.unsupported construct)) ∧
    (∀ node, statement = .insert node →
      (node.Representable ↔ (∃ tree, ofStatement statement = .ok tree) ∧ node.KeepsAll)) := by
  have narrows (tree : Insert) : ofStatement statement = .ok tree ↔
      ∃ node, statement = .insert node ∧ node.Plain ∧ tree.Carries node := by
    match statement with
    | .insert node => simp [ofStatement, ofInsertion_eq_ok_iff]
    | .directory _ => simp [ofStatement]
    | .other => simp [ofStatement]
  refine ⟨narrows, ?_, fun node hnode => ?_⟩
  · cases h : ofStatement statement with
    | ok tree => exact .inl ⟨tree, rfl⟩
    | error fault =>
      obtain ⟨construct, rfl⟩ := namesConstruct_of_ofStatement h
      exact .inr ⟨construct, rfl⟩
  · constructor
    · intro h
      obtain ⟨tree, htree⟩ := h.exists_carries
      exact ⟨⟨tree, (narrows tree).mpr ⟨node, hnode, h.plain, htree⟩⟩, h.keepsAll⟩
    · rintro ⟨⟨tree, hok⟩, hkeeps⟩
      obtain ⟨node', hnode', hplain, htree⟩ := (narrows tree).mp hok
      rw [hnode] at hnode'
      cases hnode'
      exact hkeeps.representable hplain htree

/-- `REPLACE INTO t SET a = 1` narrows, and is written back as an `INSERT`. -/
theorem replace_narrows :
    (readInserts "REPLACE INTO t SET a = 1").toOption.map (List.map (·.text {})) =
        some ["INSERT INTO t SET a = 1"] ∧
      ¬ ∀ statement tree, ofStatement statement = .ok tree →
        ∃ node, statement = .insert node ∧ node.Representable := by
  refine ⟨by decide +kernel, fun all => ?_⟩
  let value : Sql.Expr := .literal (.number "1" false) .none
  let node : Insertion :=
    { lead := some "REPLACE", conflict := none, replaces := true, priority := none, ignore := false
      overwrite := false, into := true, tableWord := false, target := .table [.ident ⟨"t", none, .none⟩]
      tableAlias := none, columns := [], assignments := [⟨.column [.ident ⟨"a", none, .none⟩], value⟩]
      partition := none, source := none, rowAlias := none, onInsert := none, returning := none }
  let tree : Insert :=
    ⟨leadCase node.lead, none, false, [.ident ⟨"t", none, .none⟩], .set [⟨[], ⟨"a", none, .none⟩, value⟩], []⟩
  have hcarries : tree.Carries node := ⟨rfl, rfl, rfl, rfl, ⟨rfl, .cons ⟨rfl, rfl⟩ .nil⟩, rfl⟩
  obtain ⟨_, hnode, h⟩ :=
    all (.insert node) tree ((ofInsertion_eq_ok_iff node tree).mpr ⟨⟨rfl, rfl, rfl, rfl⟩, hcarries⟩)
  cases hnode
  cases h.inserts

end Insert

end InsertPivot
