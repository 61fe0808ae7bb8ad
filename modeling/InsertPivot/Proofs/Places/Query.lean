import InsertPivot.Proofs.Places.Expression
import InsertPivot.Proofs.Places.Statement
import InsertPivot.Sql.Reader.Query

/-!
# Queries do not depend on places

The readers of labels, tables, `SELECT`s and queries, where the readers of what stands one level deeper do not
depend on places.
-/

namespace InsertPivot.Sql.Reader

variable {inner : Nested} [inner.Blind]

/-! ## Labels -/

@[simp] theorem label?_blind (reserved : List String) : Blind (label? reserved) := by
  refine Alike.bind (acceptKeyword_blind "AS") fun explicit => Alike.bind peek?_blind fun found => ?_
  obtain _ | ⟨_ | _ | ⟨_ | _⟩ | _, _, _⟩ := found <;> simp

@[simp] theorem columnLabel_blind : Blind columnLabel := by simp [columnLabel]

@[simp] theorem columnLabels_blind : Blind columnLabels := by simp [columnLabels]

@[simp] theorem tableLabel_blind : Blind tableLabel := by
  refine Alike.bind (by simp) fun explicit => Alike.bind (by simp) fun name => ?_
  cases name <;> simp

@[simp] theorem selectItem_blind : Blind (selectItem inner) := by
  refine Alike.bind (by simp) fun item => ?_
  cases item with
  | value e => cases e <;> simp
  | _ => simp

@[simp] theorem selectItems_blind : Blind (selectItems inner) := by simp [selectItems]

@[simp] theorem labelledText_blind : Blind (labelledText inner) := by simp [labelledText]

/-! ## Documents -/

@[simp] theorem fallbackValue_blind : Blind fallbackValue := by simp [fallbackValue]

@[simp] theorem pathFallback_blind : Blind pathFallback := by simp [pathFallback]

@[simp] theorem pathFallbacks_alike (bound : List Lexeme) (empty failure : Option String) :
    Alike (pathFallbacks (unplaced bound) empty failure) (pathFallbacks bound empty failure) := by
  induction bound generalizing empty failure with
  | nil => simp [pathFallbacks]
  | cons _ bound ih =>
    rw [unplaced_cons]
    refine Alike.bind pathFallback_blind fun found => ?_
    cases found <;> simp [ih]

@[simp] theorem plainJsonColumn_blind : Blind plainJsonColumn := by simp [plainJsonColumn]

@[simp] theorem jsonColumn_alike (bound : List Lexeme) :
    Alike (jsonColumn (unplaced bound)) (jsonColumn bound) := by
  induction bound with
  | nil => simp [jsonColumn]
  | cons _ bound ih => simp [jsonColumn, ih.commaSeparated.inParens]

@[simp] theorem restOfJsonTable_blind : Blind (restOfJsonTable inner) := by
  refine Alike.inParens fun ls => ?_
  simp [(jsonColumn_alike _).commaSeparated.inParens]

@[simp] theorem pathText_blind : Blind pathText := by
  refine Alike.bind peekToken?_blind fun next => ?_
  simp only [unplaced_eq]
  split <;> simp

@[simp] theorem openColumn_blind : Blind openColumn := by simp [openColumn]

@[simp] theorem openDocument_blind : Blind (openDocument inner) := by simp [openDocument]

@[simp] theorem restOfOpenJson_blind : Blind (restOfOpenJson inner) := by
  have columns := inParens_blind (commaSeparated_blind openColumn_blind)
  simp [restOfOpenJson, columns]

@[simp] theorem xmlNamespace_blind : Blind (xmlNamespace inner) := by simp [xmlNamespace]

@[simp] theorem passedDocument_blind : Blind (passedDocument inner) := by simp [passedDocument]

@[simp] theorem xmlColumn_blind : Blind (xmlColumn inner) := by simp [xmlColumn]

@[simp] theorem restOfXmlTable_blind : Blind (restOfXmlTable inner) := by simp [restOfXmlTable, inParens]

/-! ## What may follow the name of a table -/

@[simp] theorem indexHint_blind : Blind indexHint := by
  refine Alike.bind (by simp) fun word => ?_
  cases word with
  | none => simp
  | some word =>
    refine Alike.bind (by simp) fun kind => ?_
    cases kind <;> simp

@[simp] theorem indexHints_blind : Blind indexHints := by simp [indexHints]

@[simp] theorem withHints_blind : Blind (withHints inner) := by simp [withHints]

@[simp] theorem sizeWord_blind : Blind sizeWord := by
  refine Alike.bind (by simp) fun next => ?_
  obtain _ | ⟨_ | _, _, _⟩ := next <;> simp

@[simp] theorem sampleNumber_blind : Blind (sampleNumber inner) := by
  refine Alike.bind (by simp) fun found => ?_
  cases found <;> simp

@[simp] theorem sampleQuantity_blind : Blind (sampleQuantity inner) := by simp [sampleQuantity]

@[simp] theorem restOfBuckets_blind : Blind (restOfBuckets inner) := by simp [restOfBuckets]

@[simp] theorem sampleSize_blind : Blind (sampleSize inner) := by simp [sampleSize]

@[simp] theorem sampleSeed_blind : Blind sampleSeed := by
  refine Alike.bind (by simp) fun word => ?_
  cases word <;> simp

@[simp] theorem sample_blind : Blind (sample inner) := by
  refine Alike.bind (by simp) fun word => ?_
  cases word <;> simp

@[simp] theorem tableArguments_blind : Blind (tableArguments inner) := by simp [tableArguments]

@[simp] theorem optionalArguments_blind : Blind (optionalArguments inner) := by simp [optionalArguments]

/-! ## Turned tables -/

@[simp] theorem aggregateName_blind : Blind aggregateName := by
  refine Alike.bind (by simp) fun next => ?_
  obtain _ | ⟨_ | _, _, _⟩ := next <;> simp

@[simp] theorem pivotAggregate_blind : Blind (pivotAggregate inner) := by simp [pivotAggregate]

@[simp] theorem pivotKeys_blind : Blind (pivotKeys inner) := by
  refine Alike.bind (by simp) fun paren => ?_
  cases paren with
  | false => simp
  | true =>
    refine Alike.bind (by simp) fun keys => ?_
    obtain _ | ⟨_, _ | _⟩ := keys <;> simp [exprTexts]

@[simp] theorem pivotValues_blind : Blind (pivotValues inner) := by simp [pivotValues]

@[simp] theorem pivotContent_blind : Blind (pivotContent inner) := by simp [pivotContent]

@[simp] theorem restOfPivot_blind : Blind (restOfPivot inner) := by simp [restOfPivot]

@[simp] theorem unpivotNulls_blind : Blind unpivotNulls := by simp [unpivotNulls]

@[simp] theorem unpivotContent_blind : Blind (unpivotContent inner) := by simp [unpivotContent]

@[simp] theorem restOfUnpivot_blind : Blind (restOfUnpivot inner) := by simp [restOfUnpivot]

/-- Tables are turned alike. -/
@[simp] theorem turned_alike (bound : List Lexeme) (table : Table) :
    Alike (turned inner (unplaced bound) table.unplaced) (turned inner bound table) := by
  induction bound generalizing table with
  | nil => simp [turned]
  | cons _ bound ih =>
    have again (text : String) (label : Option TableLabel) := ih (.special text label)
    simp only [Table.unplaced] at again
    simp [turned, again]

/-! ## One table -/

@[simp] theorem namedTable_blind : Blind (namedTable inner) := by
  have partitions := inParens_blind (commaSeparated_blind ident_blind)
  refine Alike.bind dottedName_blind fun name =>
    Alike.bind (behindKeyword_blind "PARTITION" partitions) fun partitions =>
    Alike.bind optionalArguments_blind fun arguments =>
    Alike.bind (acceptKeywords_blind ["WITH", "ORDINALITY"]) fun ordinality =>
    Alike.bind tableLabel_blind fun label => Alike.bind indexHints_blind fun indexes =>
    Alike.bind withHints_blind fun hints => Alike.bind sample_blind fun drawn =>
    Alike.bind get_blind fun bound => ?_
  simpa using turned_alike bound
    (.named name (partitions.getD []) arguments ordinality label (indexes ++ hints ++ drawn))

@[simp] theorem restOfDerived_blind (lateral : Bool) : Blind (restOfDerived inner lateral) := by
  simp [restOfDerived]

@[simp] theorem restOfLateral_blind : Blind (restOfLateral inner) := by simp [restOfLateral]

@[simp] theorem isAlone_unplaced (content : Joined) : isAlone content.unplaced = isAlone content := by
  obtain ⟨table, joins⟩ := content
  cases table <;> simp [isAlone]

omit [inner.Blind] in
theorem Alike.restOfJoinedParens {inside' inside : Reader Joined} (h : Alike inside' inside) :
    Alike (Reader.restOfJoinedParens inside') (Reader.restOfJoinedParens inside) := by
  simp [Reader.restOfJoinedParens, h]

theorem Alike.restOfTableParens {inside' inside : Reader Joined} (h : Alike inside' inside) :
    Alike (Reader.restOfTableParens inner inside') (Reader.restOfTableParens inner inside) := by
  refine Alike.bind (by simp) fun found => ?_
  cases found <;> simp [h.restOfJoinedParens]

@[simp] theorem acceptBeforeParen_blind (keyword : String) : Blind (acceptBeforeParen keyword) := by
  refine Alike.bind get_blind fun ls => ?_
  cases h : ls[1]? <;> simp [h]

/-- A table is read alike if the joined tables in its parentheses are. -/
theorem Alike.table {inside' inside : Reader Joined} (h : Alike inside' inside) :
    Alike (Reader.table inner inside') (Reader.table inner inside) := by
  simp [Reader.table, h.restOfTableParens]

/-! ## Joins -/

@[simp] theorem joinConstraint_alike (join : Join) :
    Alike (joinConstraint inner join.unplaced) (joinConstraint inner join) := by
  cases join
  simp [joinConstraint]

@[simp] theorem joinConstraint_mk_alike (isGlobal : Bool) (kind : JoinKind) (table : Table) (natural : Bool) :
    Alike (joinConstraint inner { isGlobal, kind, table := table.unplaced, natural })
      (joinConstraint inner { isGlobal, kind, table, natural }) := by
  simpa using @joinConstraint_alike inner _ { isGlobal, kind, table, natural }

@[simp] theorem sidedKind_blind (word : String) (alone withOuter withSemi withAnti : JoinKind) :
    Blind (sidedKind word alone withOuter withSemi withAnti) := by
  refine Alike.bind (oneOf?_blind _) fun word => ?_
  simp only [unplaced_eq]
  split <;> simp

@[simp] theorem joinKind?_blind (natural : Bool) : Blind (joinKind? natural) := by simp [joinKind?]

theorem Alike.restOfNearest {inside' inside : Reader Joined} (h : Alike inside' inside) (isGlobal : Bool) :
    Alike (Reader.restOfNearest inner inside' isGlobal) (Reader.restOfNearest inner inside isGlobal) := by
  refine Alike.bind (expectKeyword_blind "JOIN") fun _ => Alike.bind h.table fun table =>
    Alike.bind (expectKeyword_blind "MATCH_CONDITION") fun _ =>
    Alike.bind (inParens_blind Nested.value_blind) fun nearest => ?_
  simpa using @joinConstraint_alike inner _ { isGlobal, kind := .asof, table, nearest := some nearest }

theorem Alike.worded? {inside' inside : Reader Joined} (h : Alike inside' inside) (isGlobal : Bool) :
    Alike (Reader.worded? inner inside' isGlobal) (Reader.worded? inner inside isGlobal) := by
  refine Alike.bind (by simp) fun natural => Alike.bind (by simp) fun kind => ?_
  cases kind <;> simp [h.table]

/-- A join is read alike if the joined tables in parentheses are. -/
theorem Alike.join? {inside' inside : Reader Joined} (h : Alike inside' inside) :
    Alike (Reader.join? inner inside') (Reader.join? inner inside) := by
  simp [Reader.join?, h.table, h.restOfNearest, h.worded?]

/-- Joined tables nest in parentheses, so their readers are alike by induction on the bound. -/
@[simp] theorem joinedWithin_alike (bound : List Lexeme) :
    Alike (joinedWithin inner (unplaced bound)) (joinedWithin inner bound) := by
  induction bound with
  | nil => simp [joinedWithin]
  | cons _ bound ih => simp [joinedWithin, ih.table, ih.join?.repeated]

@[simp] theorem joinedTable_blind : Blind (joinedTable inner) := by simp [joinedTable]

@[simp] theorem singleTable_blind : Blind (singleTable inner) := joinedTable_blind.table

@[simp] theorem tables_blind : Blind (tables inner) := by simp [tables]

/-! ## `SELECT`s -/

@[simp] theorem distinctness_blind : Blind (distinctness inner) := by
  refine Alike.bind (by simp) fun which => ?_
  obtain _ | _ | _ := which <;> simp

@[simp] theorem topRows_blind : Blind (topRows inner) := by simp [topRows]

@[simp] theorem restOfInto_blind : Blind restOfInto := by simp [restOfInto]

@[simp] theorem lateralView_blind : Blind (lateralView inner) := by
  have rest : Blind (do
      let outer ← acceptKeyword "OUTER"
      let rows ← inner.value
      let name ← dottedName
      let columns := (← commaSeparated (label? viewReserved)).filterMap id
      return "LATERAL VIEW" ++ wordIf outer " OUTER" ++ " " ++ rows.text ++ " " ++ dotted name ++
        listText " AS " (columns.map Ident.text)) := by
    simp
  exact behindKeywords_blind _ rest

@[simp] theorem groupingSet_blind : Blind (groupingSet inner) := by simp [groupingSet]

instance : Placed Grouping := ⟨fun g => ⟨g.all, unplaced g.keys, unplaced g.sets⟩⟩

@[simp] theorem unplaced_grouping (all : Bool) (keys : List Expr) (sets : List (List Expr)) :
    unplaced (⟨all, keys, sets⟩ : Grouping) = ⟨all, unplaced keys, unplaced sets⟩ := rfl

@[simp] theorem all_unplaced_grouping (g : Grouping) : (unplaced g).all = g.all := rfl

@[simp] theorem keys_unplaced_grouping (g : Grouping) : (unplaced g).keys = unplaced g.keys := rfl

@[simp] theorem sets_unplaced_grouping (g : Grouping) : (unplaced g).sets = unplaced g.sets := rfl

@[simp] theorem grouping_blind : Blind (grouping inner) := by
  have sets := inParens_blind (commaSeparated_blind (@groupingSet_blind inner _))
  simp [grouping, sets]

@[simp] theorem spreading_blind : Blind (spreading inner) := by simp [spreading]

@[simp] theorem windowList_blind : Blind (windowList inner) := by simp [windowList]

@[simp] theorem windowCondition_blind : Blind (windowCondition inner) := by simp [windowCondition]

@[simp] theorem windows_blind : Blind (windows inner) := by
  refine Alike.bind (by simp) fun list => ?_
  cases list with
  | some list => simp
  | none =>
    refine Alike.bind (by simp) fun condition => ?_
    cases condition <;> simp

@[simp] theorem restOfSelect_blind : Blind (restOfSelect inner) := by simp [restOfSelect]

/-! ## `INSERT`s -/

@[simp] theorem assignmentTarget_blind : Blind assignmentTarget := by simp [assignmentTarget]

@[simp] theorem setItem_blind : Blind (setItem inner) := by simp [setItem]

@[simp] theorem setItems_blind : Blind (setItems inner) := by simp [setItems]

@[simp] theorem conflictClause_blind : Blind conflictClause := by simp [conflictClause]

@[simp] theorem priority_blind : Blind priority := by simp [priority]

instance : Placed Source :=
  ⟨fun s => ⟨unplaced s.columns, unplaced s.partition, unplaced s.assignments, unplaced s.query⟩⟩

@[simp] theorem unplaced_source (columns : List Ident) (partition : Option (List Expr))
    (assignments : List SetItem) (query : Option Query) :
    unplaced (⟨columns, partition, assignments, query⟩ : Source) =
      ⟨unplaced columns, unplaced partition, unplaced assignments, unplaced query⟩ := rfl

@[simp] theorem columns_unplaced_source (s : Source) : (unplaced s).columns = unplaced s.columns := rfl

@[simp] theorem partition_unplaced_source (s : Source) : (unplaced s).partition = unplaced s.partition := rfl

@[simp] theorem assignments_unplaced_source (s : Source) :
    (unplaced s).assignments = unplaced s.assignments := rfl

@[simp] theorem query_unplaced_source (s : Source) : (unplaced s).query = unplaced s.query := rfl

@[simp] theorem source_blind : Blind (source inner) := by simp [source]

@[simp] theorem rowAlias_blind : Blind rowAlias := by simp [rowAlias]

@[simp] theorem conflictTarget_blind : Blind conflictTarget := by simp [conflictTarget]

@[simp] theorem restOfOn_blind : Blind (restOfOn inner) := by simp [restOfOn]

@[simp] theorem returning_blind : Blind (returning inner) := by simp [returning]

@[simp] theorem fileFormat_blind : Blind fileFormat := by
  refine Alike.bind (by simp) fun word => ?_
  cases word <;> simp

instance : PlaceFree Front := {}

@[simp] theorem front_blind : Blind front := by simp [front]

@[simp] theorem restOfDirectory_blind (overwrite isLocal : Bool) :
    Blind (restOfDirectory inner overwrite isLocal) := by
  simp [restOfDirectory]

@[simp] theorem restOfInsertion_blind (lead : Option String) (replaces : Bool) (front : Front) :
    Blind (restOfInsertion inner lead replaces front) := by
  simp [restOfInsertion, unplaced_insertion]

/-- Insertions are read alike. -/
@[simp] theorem insertion_alike (lead : Lexeme) (replaces : Bool) :
    Alike (insertion inner (unplaced lead) replaces) (insertion inner lead replaces) := by
  simp [insertion]

/-! ## Other changes -/

@[simp] theorem row_blind : Blind (row inner) := by simp [row]

@[simp] theorem restOfValues_blind (short : Bool) : Blind (restOfValues inner short) := by simp [restOfValues]

@[simp] theorem whereText_blind : Blind (whereText inner) := by simp [whereText]

@[simp] theorem returningText_blind : Blind (returningText inner) := by simp [returningText]

@[simp] theorem tablesText_blind (keyword : String) : Blind (tablesText inner keyword) := by simp [tablesText]

@[simp] theorem restOfUpdate_blind : Blind (restOfUpdate inner) := by simp [restOfUpdate]

@[simp] theorem restOfLimit_blind : Blind (restOfLimit inner) := by simp [restOfLimit]

@[simp] theorem deletedNames_blind : Blind deletedNames := by simp [deletedNames]

@[simp] theorem restOfDelete_blind : Blind (restOfDelete inner) := by
  simp [restOfDelete]

instance : PlaceFree Matching := {}

@[simp] theorem matching_blind : Blind matching := by simp [matching]

@[simp] theorem mergedRow_blind : Blind (mergedRow inner) := by simp [mergedRow]

@[simp] theorem refuseWord_alike (matching : Matching) (word : String) (place : Option Text.Position) :
    Alike (refuseWord matching word (unplaced place)) (refuseWord matching word place) := by
  simp [refuseWord, -String.reduceAppend]

@[simp] theorem mergeAction_blind (matching : Matching) : Blind (mergeAction inner matching) := by
  refine Alike.bind place?_blind fun place => Alike.bind (oneOf?_blind _) fun word => ?_
  simp only [unplaced_eq]
  split <;> simp [-String.reduceAppend]

@[simp] theorem mergeClause_blind : Blind (mergeClause inner) := by simp [mergeClause]

@[simp] theorem mergeOutput_blind : Blind (mergeOutput inner) := by
  refine Alike.bind (by simp) fun word => ?_
  cases word <;> simp

@[simp] theorem restOfMerge_blind : Blind (restOfMerge inner) := by simp [restOfMerge]

/-! ## Queries -/

@[simp] theorem skippedRows_blind : Blind (skippedRows inner) := by
  refine Alike.bind (behindKeyword_blind "OFFSET" Nested.value_blind) fun skipped => ?_
  cases skipped <;> simp

@[simp] theorem limit_blind : Blind (limit inner) := by
  refine Alike.bind skippedRows_blind fun ⟨before, unit⟩ =>
    Alike.bind (behindKeyword_blind "LIMIT" restOfLimit_blind) fun count => ?_
  obtain _ | _ | count := count
  · simp
  · cases before <;> simp
  · cases before <;> simp

@[simp] theorem restOfFetch_blind : Blind restOfFetch := by simp [restOfFetch]

@[simp] theorem enclosedText_blind : Blind enclosedText := by simp [enclosedText]

@[simp] theorem optionalText_blind : Blind optionalText := by simp [optionalText]

@[simp] theorem documentPhrase_blind (phrases : List (List String)) : Blind (documentPhrase phrases) := by
  refine Alike.bind peekKeyword?_blind fun next => ?_
  simp only [unplaced_eq]
  split <;> simp

@[simp] theorem documentOption_blind (phrases : List (List String)) : Blind (documentOption phrases) := by
  simp [documentOption]

@[simp] theorem documentOptions_blind (readable written : List (List String)) :
    Blind (documentOptions readable written) := by
  simp [documentOptions]

@[simp] theorem xmlShape_blind : Blind xmlShape := by
  refine Alike.bind (by simp) fun word => ?_
  cases word <;> simp

@[simp] theorem restOfXml_blind : Blind restOfXml := by simp [restOfXml]

@[simp] theorem jsonShape_blind : Blind jsonShape := by
  refine Alike.bind (by simp) fun word => ?_
  cases word <;> simp

@[simp] theorem restOfJson_blind : Blind restOfJson := by simp [restOfJson]

@[simp] theorem document?_blind : Blind document? := by
  refine Alike.bind (oneOf?_blind _) fun word => ?_
  simp only [unplaced_eq]
  split <;> simp

@[simp] theorem lockWait_blind : Blind lockWait := by simp [lockWait]

@[simp] theorem lock_blind : Blind lock := by simp [lock]

@[simp] theorem locks_alike (bound : List Lexeme) : Alike (locks (unplaced bound)) (locks bound) := by
  induction bound with
  | nil => simp [locks]
  | cons _ bound ih =>
    rw [unplaced_cons]
    refine Alike.bind (acceptKeyword_blind "FOR") fun found => ?_
    cases found with
    | false => simp
    | true =>
      refine Alike.bind document?_blind fun output => ?_
      cases output <;> simp [ih]

@[simp] theorem wordOf_alike (what : String) (found : Option Lexeme) :
    Alike (wordOf what (unplaced found)) (wordOf what found) := by
  obtain _ | ⟨_ | _, _, _⟩ := found <;> simp [wordOf]

@[simp] theorem restOfTable_blind : Blind restOfTable := by
  refine Alike.bind (by simp) fun first => Alike.bind (by simp) fun second =>
    Alike.bind (by simp) fun third => ?_
  cases second <;> simp

@[simp] theorem simpleBody_blind : Blind (simpleBody inner) := by simp [simpleBody]

@[simp] theorem setOp?_blind : Blind setOp? := by
  refine Alike.bind peekKeyword?_blind fun word => ?_
  simp only [unplaced_eq]
  split <;> simp

@[simp] theorem setMode_blind : Blind setMode := by simp [setMode]

/-- Bodies that set operations join are read alike, whatever the places in what was read so far. -/
@[simp] theorem bodies_alike (least : Nat) (bound : List Lexeme) (left : Body) :
    Alike (bodies inner least (unplaced bound) left.unplaced) (bodies inner least bound left) := by
  induction bound generalizing least left with
  | nil => simp [bodies]
  | cons _ bound ih =>
    have again (op : SetOp) (mode : SetMode) (right : Body) := ih least (.combined left op mode right)
    simp only [Body.unplaced] at again
    rw [unplaced_cons]
    refine Alike.bind setOp?_blind fun op => ?_
    obtain _ | ⟨op, tightness⟩ := op <;> simp [ih, again]

@[simp] theorem binding_blind : Blind (binding inner) := by simp [binding]

@[simp] theorem insertionText_alike (lead : Lexeme) :
    Alike (insertionText inner (unplaced lead)) (insertionText inner lead) := by
  refine Alike.bind (by simp) fun found => ?_
  cases found <;> simp

@[simp] theorem change?_blind : Blind (change? inner) := by
  refine Alike.bind peek?_blind fun lead => ?_
  cases lead with
  | none => simp
  | some lead =>
    refine Alike.bind (oneOf?_blind _) fun word => ?_
    simp only [unplaced_eq]
    split <;> simp

@[simp] theorem bindings_blind : Blind (bindings inner) := by simp [bindings]

@[simp] theorem restOfQuery_alike (isRecursive : Bool) (bindings : List Binding) :
    Alike (restOfQuery inner isRecursive (unplaced bindings)) (restOfQuery inner isRecursive bindings) := by
  simp [restOfQuery]

/-- Queries are read alike. -/
@[simp] theorem query_blind : Blind (query inner) := by
  refine Alike.bind bindings_blind fun found => Alike.bind change?_blind fun body => ?_
  obtain ⟨isRecursive, bindings⟩ := found
  cases body with
  | none => exact restOfQuery_alike isRecursive bindings
  | some _ => simp

end InsertPivot.Sql.Reader
