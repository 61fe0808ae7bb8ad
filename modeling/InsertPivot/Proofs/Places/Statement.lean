import InsertPivot.Proofs.Places
import InsertPivot.Sql.Statement.Text

/-!
# Statements without their places

The nodes of an `INSERT` are erased like the trees inside them, and they are written the same without their
places.
-/

namespace InsertPivot.Sql

/-! ## Nodes -/

instance : Placed NamePart where
  unplaced
    | .ident name => .ident (unplaced name)
    | .call name arguments => .call (unplaced name) (unplaced arguments)

@[simp] theorem unplaced_namePart_ident (name : Ident) :
    unplaced (NamePart.ident name) = .ident (unplaced name) := rfl

@[simp] theorem unplaced_namePart_call (name : Ident) (arguments : List Expr) :
    unplaced (NamePart.call name arguments) = .call (unplaced name) (unplaced arguments) := rfl

@[simp] theorem Name.ofIdents_unplaced (parts : List Ident) :
    Name.ofIdents (unplaced parts) = unplaced (Name.ofIdents parts) := by
  simp [Name.ofIdents]

instance : Placed AssignmentTarget where
  unplaced
    | .column name => .column (unplaced name)
    | .tuple names => .tuple (unplaced names)

@[simp] theorem unplaced_target_column (name : Name) :
    unplaced (AssignmentTarget.column name) = .column (unplaced name) := rfl

@[simp] theorem unplaced_target_tuple (names : List Name) :
    unplaced (AssignmentTarget.tuple names) = .tuple (unplaced names) := rfl

instance : Placed SetItem := ⟨fun item => ⟨unplaced item.target, unplaced item.value⟩⟩

@[simp] theorem unplaced_setItem (target : AssignmentTarget) (value : Expr) :
    unplaced (⟨target, value⟩ : SetItem) = ⟨unplaced target, value.unplaced⟩ := rfl

instance : Placed Target where
  unplaced
    | .table name => .table (unplaced name)
    | .call name arguments => .call (unplaced name) (unplaced arguments)

@[simp] theorem unplaced_target_table (name : Name) : unplaced (Target.table name) = .table (unplaced name) := rfl

@[simp] theorem unplaced_target_call (name : Name) (arguments : List Expr) :
    unplaced (Target.call name arguments) = .call (unplaced name) (unplaced arguments) := rfl

instance : Placed ConflictTarget where
  unplaced
    | .columns names => .columns (unplaced names)
    | .constraint name => .constraint (unplaced name)

@[simp] theorem unplaced_conflict_columns (names : List Ident) :
    unplaced (ConflictTarget.columns names) = .columns (unplaced names) := rfl

@[simp] theorem unplaced_conflict_constraint (name : List Ident) :
    unplaced (ConflictTarget.constraint name) = .constraint (unplaced name) := rfl

instance : Placed RowAlias := ⟨fun label => ⟨unplaced label.name, unplaced label.columns⟩⟩

@[simp] theorem unplaced_rowAlias (name columns : List Ident) :
    unplaced (⟨name, columns⟩ : RowAlias) = ⟨unplaced name, unplaced columns⟩ := rfl

instance : Placed OnInsert where
  unplaced
    | .duplicateKeyUpdate items => .duplicateKeyUpdate (unplaced items)
    | .conflict target items condition => .conflict (unplaced target) (unplaced items) (unplaced condition)

@[simp] theorem unplaced_duplicateKeyUpdate (items : List SetItem) :
    unplaced (OnInsert.duplicateKeyUpdate items) = .duplicateKeyUpdate (unplaced items) := rfl

@[simp] theorem unplaced_conflict (target : Option ConflictTarget) (items : List SetItem)
    (condition : Option Expr) :
    unplaced (OnInsert.conflict target items condition) =
      .conflict (unplaced target) (unplaced items) (unplaced condition) := rfl

instance : Placed Insertion where
  unplaced node :=
    { node with
      target := unplaced node.target
      tableAlias := unplaced node.tableAlias
      columns := unplaced node.columns
      assignments := unplaced node.assignments
      partition := unplaced node.partition
      source := unplaced node.source
      rowAlias := unplaced node.rowAlias
      onInsert := unplaced node.onInsert
      returning := unplaced node.returning }

theorem unplaced_insertion (node : Insertion) :
    unplaced node =
      { node with
        target := unplaced node.target
        tableAlias := unplaced node.tableAlias
        columns := unplaced node.columns
        assignments := unplaced node.assignments
        partition := unplaced node.partition
        source := unplaced node.source
        rowAlias := unplaced node.rowAlias
        onInsert := unplaced node.onInsert
        returning := unplaced node.returning } := rfl

instance : Placed Directory := ⟨fun node => { node with source := unplaced node.source }⟩

@[simp] theorem unplaced_directory (overwrite isLocal : Bool) (path : String) (format : Option String)
    (source : Query) :
    unplaced (⟨overwrite, isLocal, path, format, source⟩ : Directory) =
      ⟨overwrite, isLocal, path, format, source.unplaced⟩ := rfl

instance : Placed Statement where
  unplaced
    | .insert node => .insert (unplaced node)
    | .directory node => .directory (unplaced node)
    | .other => .other

@[simp] theorem unplaced_insert (node : Insertion) : unplaced (Statement.insert node) = .insert (unplaced node) := rfl

@[simp] theorem unplaced_directory_statement (node : Directory) :
    unplaced (Statement.directory node) = .directory (unplaced node) := rfl

@[simp] theorem unplaced_other : unplaced Statement.other = .other := rfl

/-! ## What is written -/

@[simp] theorem NamePart.text_unplaced (part : NamePart) : (unplaced part).text = part.text := by
  cases part <;> simp [NamePart.text]

@[simp] theorem Name.text_unplaced (name : Name) : Name.text (unplaced name) = Name.text name := by
  simp [Name.text]

@[simp] theorem AssignmentTarget.text_unplaced (target : AssignmentTarget) :
    (unplaced target).text = target.text := by
  cases target <;> simp [AssignmentTarget.text]

@[simp] theorem SetItem.text_unplaced (item : SetItem) : (unplaced item).text = item.text := by
  obtain ⟨target, value⟩ := item
  simp [SetItem.text]

@[simp] theorem SetItem.listText_unplaced (items : List SetItem) :
    SetItem.listText (unplaced items) = SetItem.listText items := by
  simp [SetItem.listText]

@[simp] theorem Target.text_unplaced (target : Target) : (unplaced target).text = target.text := by
  cases target <;> simp [Target.text]

@[simp] theorem columnsText_unplaced (names : List Ident) : columnsText (unplaced names) = columnsText names := by
  cases names <;> simp [columnsText]

@[simp] theorem ConflictTarget.text_unplaced (target : ConflictTarget) : (unplaced target).text = target.text := by
  cases target <;> simp [ConflictTarget.text]

@[simp] theorem conflictActionText_unplaced (items : List SetItem) (condition : Option Expr) :
    conflictActionText (unplaced items) (unplaced condition) = conflictActionText items condition := by
  simp only [conflictActionText, isEmpty_unplaced, SetItem.listText_unplaced, optionText_unplaced]

@[simp] theorem duplicateKeyText_unplaced (items : List SetItem) :
    duplicateKeyText (unplaced items) = duplicateKeyText items :=
  congrArg (" ON DUPLICATE KEY UPDATE " ++ ·) (SetItem.listText_unplaced items)

@[simp] theorem OnInsert.text_unplaced (action : OnInsert) : (unplaced action).text = action.text := by
  cases action <;> simp [OnInsert.text]

@[simp] theorem Insertion.leadText_unplaced (node : Insertion) : (unplaced node).leadText = node.leadText := by
  simp [unplaced_insertion, Insertion.leadText]

@[simp] theorem Insertion.dataText_unplaced (node : Insertion) : (unplaced node).dataText = node.dataText := by
  simp only [unplaced_insertion, Insertion.dataText]
  cases node.source <;> simp

@[simp] theorem Insertion.rowAliasText_unplaced (node : Insertion) :
    (unplaced node).rowAliasText = node.rowAliasText := by
  simp only [unplaced_insertion, Insertion.rowAliasText]
  obtain _ | ⟨_, _⟩ := node.rowAlias <;> simp

@[simp] theorem Insertion.text_unplaced (node : Insertion) : (unplaced node).text = node.text := by
  simp only [Insertion.text, leadText_unplaced, dataText_unplaced, rowAliasText_unplaced]
  simp [unplaced_insertion]

@[simp] theorem Directory.text_unplaced (node : Directory) : (unplaced node).text = node.text := by
  obtain ⟨overwrite, isLocal, path, format, source⟩ := node
  simp [Directory.text]

end InsertPivot.Sql
