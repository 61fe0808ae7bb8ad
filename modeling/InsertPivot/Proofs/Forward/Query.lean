import InsertPivot.Proofs.Forward.Expression
import InsertPivot.Sql.Reader.Query

/-!
# Queries go forward

The readers of tables, of `SELECT`, of an `INSERT`, of the other statements that change data and of whole queries,
where the readers of what stands one level deeper go forward.
-/

namespace InsertPivot.Sql.Reader

variable {inner : Nested} [inner.Forward]

/-! ## Labels and lists -/

instance (reserved : List String) : Forward (label? reserved) := by
  refine forward_bind fun explicit => ?_
  refine forward_bind fun found => ?_
  split <;> infer_instance

instance : Forward columnLabel := by
  unfold columnLabel
  infer_instance

instance : Forward columnLabels := by
  unfold columnLabels
  infer_instance

instance : Forward tableLabel := by
  refine forward_bind fun explicit => ?_
  refine forward_bind fun found => ?_
  cases found <;> infer_instance

instance : Forward (selectItem inner) := by
  refine forward_bind fun found => ?_
  split
  · infer_instance
  · split <;> infer_instance
  · infer_instance
  · infer_instance

instance : Forward (selectItems inner) := by
  unfold selectItems
  infer_instance

instance : Forward (labelledText inner) := by
  unfold labelledText
  infer_instance

/-! ## Documents -/

instance : Forward fallbackValue := by
  unfold fallbackValue
  infer_instance

instance : Forward pathFallback := by
  unfold pathFallback
  infer_instance

instance (bound : List Lexeme) (empty failure : Option String) : Forward (pathFallbacks bound empty failure) := by
  induction bound generalizing empty failure with
  | nil =>
    unfold pathFallbacks
    infer_instance
  | cons l bound ih =>
    refine forward_bind fun what => ?_
    cases what <;> infer_instance

instance : Forward plainJsonColumn := by
  unfold plainJsonColumn
  infer_instance

instance (bound : List Lexeme) : Forward (jsonColumn bound) := by
  induction bound with
  | nil =>
    unfold jsonColumn
    infer_instance
  | cons l bound ih =>
    unfold jsonColumn
    infer_instance

instance : Forward (restOfJsonTable inner) := by
  unfold restOfJsonTable
  infer_instance

instance : Forward pathText := by
  refine forward_bind fun next => ?_
  split <;> infer_instance

instance : Forward openColumn := by
  unfold openColumn
  infer_instance

instance : Forward (openDocument inner) := by
  unfold openDocument
  infer_instance

instance : Forward (restOfOpenJson inner) := by
  unfold restOfOpenJson
  infer_instance

instance : Forward (xmlNamespace inner) := by
  unfold xmlNamespace
  infer_instance

instance : Forward (passedDocument inner) := by
  unfold passedDocument
  infer_instance

instance : Forward (xmlColumn inner) := by
  unfold xmlColumn
  infer_instance

instance : Forward (restOfXmlTable inner) := by
  unfold restOfXmlTable
  infer_instance

/-! ## Tables -/

instance : Forward indexHint := by
  refine forward_bind fun word => ?_
  cases word with
  | none => infer_instance
  | some word =>
    refine forward_bind fun kind => ?_
    cases kind <;> infer_instance

instance : Forward indexHints := by
  unfold indexHints
  infer_instance

/-- Where no hints stand behind `WITH`, the reader goes back to that word. -/
instance : Forward (withHints inner) := by
  exact forward_of_within fun start => inferInstance

instance : Forward sizeWord := by
  refine forward_bind fun found => ?_
  split <;> infer_instance

instance : Forward (sampleNumber inner) := by
  refine forward_bind fun value => ?_
  cases value <;> infer_instance

instance : Forward (sampleQuantity inner) := by
  unfold sampleQuantity
  infer_instance

instance : Forward (restOfBuckets inner) := by
  unfold restOfBuckets
  infer_instance

instance : Forward (sampleSize inner) := by
  unfold sampleSize
  infer_instance

instance : Forward sampleSeed := by
  refine forward_bind fun keyword => ?_
  cases keyword <;> infer_instance

instance : Forward (sample inner) := by
  refine forward_bind fun word => ?_
  cases word <;> infer_instance

instance : Forward (tableArguments inner) := by
  unfold tableArguments
  infer_instance

instance : Forward (optionalArguments inner) := by
  unfold optionalArguments
  infer_instance

instance : Forward aggregateName := by
  refine forward_bind fun found => ?_
  split <;> infer_instance

instance : Forward (pivotAggregate inner) := by
  unfold pivotAggregate
  infer_instance

instance : Forward (pivotKeys inner) := by
  refine forward_bind fun several => ?_
  split
  · refine forward_bind fun keys => ?_
    split <;> infer_instance
  · infer_instance

instance : Forward (pivotValues inner) := by
  unfold pivotValues
  infer_instance

instance : Forward (pivotContent inner) := by
  unfold pivotContent
  infer_instance

instance : Forward (restOfPivot inner) := by
  unfold restOfPivot
  infer_instance

instance : Forward unpivotNulls := by
  unfold unpivotNulls
  infer_instance

instance : Forward (unpivotContent inner) := by
  unfold unpivotContent
  infer_instance

instance : Forward (restOfUnpivot inner) := by
  unfold restOfUnpivot
  infer_instance

instance (bound : List Lexeme) (table : Table) : Forward (turned inner bound table) := by
  induction bound generalizing table with
  | nil =>
    unfold turned
    infer_instance
  | cons l bound ih =>
    unfold turned
    infer_instance

instance : Forward (namedTable inner) := by
  unfold namedTable
  infer_instance

instance (lateral : Bool) : Forward (restOfDerived inner lateral) := by
  unfold restOfDerived
  infer_instance

instance : Forward (restOfLateral inner) := by
  unfold restOfLateral
  infer_instance

section Inside

variable {inside : Reader Joined} [Forward inside]

instance : Forward (restOfJoinedParens inside) := by
  unfold restOfJoinedParens
  infer_instance

instance : Forward (restOfTableParens inner inside) := by
  refine forward_bind fun derived => ?_
  cases derived <;> infer_instance

instance (keyword : String) : Forward (acceptBeforeParen keyword) := by
  unfold acceptBeforeParen
  infer_instance

instance : Forward (table inner inside) := by
  unfold table
  infer_instance

instance (join : Join) : Forward (joinConstraint inner join) := by
  unfold joinConstraint
  infer_instance

instance (word : String) (alone withOuter withSemi withAnti : JoinKind) :
    Forward (sidedKind word alone withOuter withSemi withAnti) := by
  refine forward_bind fun found => ?_
  split <;> infer_instance

instance (natural : Bool) : Forward (joinKind? natural) := by
  unfold joinKind?
  infer_instance

instance (isGlobal : Bool) : Forward (restOfNearest inner inside isGlobal) := by
  unfold restOfNearest
  infer_instance

instance (isGlobal : Bool) : Forward (worded? inner inside isGlobal) := by
  refine forward_bind fun natural => ?_
  refine forward_bind fun kind => ?_
  cases kind <;> infer_instance

instance : Forward (join? inner inside) := by
  unfold join?
  infer_instance

end Inside

instance (bound : List Lexeme) : Forward (joinedWithin inner bound) := by
  induction bound with
  | nil =>
    unfold joinedWithin
    infer_instance
  | cons l bound ih =>
    unfold joinedWithin
    infer_instance

instance : Forward (joinedTable inner) := by
  unfold joinedTable
  infer_instance

instance : Forward (singleTable inner) := by
  unfold singleTable
  infer_instance

instance : Forward (tables inner) := by
  unfold tables
  infer_instance

/-! ## Selections -/

instance : Forward (distinctness inner) := by
  refine forward_bind fun found => ?_
  split <;> infer_instance

instance : Forward (topRows inner) := by
  unfold topRows
  infer_instance

instance : Forward restOfInto := by
  unfold restOfInto
  infer_instance

instance : Forward (lateralView inner) := by
  unfold lateralView
  infer_instance

instance : Forward (groupingSet inner) := by
  unfold groupingSet
  infer_instance

instance : Forward (grouping inner) := by
  unfold grouping
  infer_instance

instance : Forward (spreading inner) := by
  unfold spreading
  infer_instance

instance : Forward (windowList inner) := by
  unfold windowList
  infer_instance

instance : Forward (windowCondition inner) := by
  unfold windowCondition
  infer_instance

instance : Forward (windows inner) := by
  refine forward_bind fun list => ?_
  cases list with
  | some list => infer_instance
  | none =>
    refine forward_bind fun condition => ?_
    cases condition <;> infer_instance

instance : Forward (restOfSelect inner) := by
  unfold restOfSelect
  infer_instance

/-! ## Insertions -/

instance : Forward assignmentTarget := by
  unfold assignmentTarget
  infer_instance

instance : Forward (setItem inner) := by
  unfold setItem
  infer_instance

instance : Forward (setItems inner) := by
  unfold setItems
  infer_instance

instance : Forward conflictClause := by
  unfold conflictClause
  infer_instance

instance : Forward priority := by
  unfold priority
  infer_instance

instance : Forward front := by
  unfold front
  infer_instance

instance : Forward (source inner) := by
  refine forward_bind fun default => ?_
  split
  · infer_instance
  · refine forward_bind fun parenthesis => forward_bind fun further => ?_
    dsimp only
    split
    · refine forward_bind fun columns => forward_bind fun partition => ?_
      infer_instance
    · refine forward_bind fun columns => forward_bind fun partition => ?_
      infer_instance

instance : Forward rowAlias := by
  unfold rowAlias
  infer_instance

instance : Forward conflictTarget := by
  unfold conflictTarget
  infer_instance

instance : Forward (restOfOn inner) := by
  unfold restOfOn
  infer_instance

instance : Forward (returning inner) := by
  unfold returning
  infer_instance

instance : Forward fileFormat := by
  refine forward_bind fun format => ?_
  cases format <;> infer_instance

instance (overwrite isLocal : Bool) : Forward (restOfDirectory inner overwrite isLocal) := by
  unfold restOfDirectory
  infer_instance

instance (lead : Option String) (replaces : Bool) (front : Front) :
    Forward (restOfInsertion inner lead replaces front) := by
  unfold restOfInsertion
  infer_instance

instance (lead : Lexeme) (replaces : Bool) : Forward (insertion inner lead replaces) := by
  unfold insertion
  infer_instance

instance : Forward (row inner) := by
  unfold row
  infer_instance

instance (short : Bool) : Forward (restOfValues inner short) := by
  unfold restOfValues
  infer_instance

/-! ## Other changes -/

instance : Forward (whereText inner) := by
  unfold whereText
  infer_instance

instance : Forward (returningText inner) := by
  unfold returningText
  infer_instance

instance (keyword : String) : Forward (tablesText inner keyword) := by
  unfold tablesText
  infer_instance

instance : Forward (restOfUpdate inner) := by
  unfold restOfUpdate
  infer_instance

instance : Forward (restOfLimit inner) := by
  unfold restOfLimit
  infer_instance

instance : Forward deletedNames := by
  unfold deletedNames
  infer_instance

instance : Forward (restOfDelete inner) := by
  unfold restOfDelete
  infer_instance

instance : Forward matching := by
  unfold matching
  infer_instance

instance : Forward (mergedRow inner) := by
  unfold mergedRow
  infer_instance

instance (matching : Matching) (word : String) (place : Option Text.Position) :
    Forward (refuseWord matching word place) := by
  unfold refuseWord
  infer_instance

instance (matching : Matching) : Forward (mergeAction inner matching) := by
  refine forward_bind fun place => ?_
  refine forward_bind fun word => ?_
  split <;> infer_instance

instance : Forward (mergeClause inner) := by
  unfold mergeClause
  infer_instance

instance : Forward (mergeOutput inner) := by
  refine forward_bind fun word => ?_
  cases word <;> infer_instance

instance : Forward (restOfMerge inner) := by
  unfold restOfMerge
  infer_instance

/-! ## Queries -/

instance : Forward (skippedRows inner) := by
  refine forward_bind fun skipped => ?_
  cases skipped <;> infer_instance

instance : Forward (limit inner) := by
  refine forward_bind fun ⟨before, unit⟩ => forward_bind fun count => ?_
  cases count with
  | none => infer_instance
  | some count => cases before <;> cases count <;> infer_instance

instance : Forward restOfFetch := by
  unfold restOfFetch
  infer_instance

instance : Forward enclosedText := by
  unfold enclosedText
  infer_instance

instance : Forward optionalText := by
  unfold optionalText
  infer_instance

instance (phrases : List (List String)) : Forward (documentPhrase phrases) := by
  refine forward_bind fun next => ?_
  split <;> infer_instance

instance (phrases : List (List String)) : Forward (documentOption phrases) := by
  unfold documentOption
  infer_instance

instance (readable written : List (List String)) : Forward (documentOptions readable written) := by
  unfold documentOptions
  infer_instance

instance : Forward xmlShape := by
  refine forward_bind fun word => ?_
  cases word <;> infer_instance

instance : Forward restOfXml := by
  unfold restOfXml
  infer_instance

instance : Forward jsonShape := by
  refine forward_bind fun word => ?_
  cases word <;> infer_instance

instance : Forward restOfJson := by
  unfold restOfJson
  infer_instance

instance : Forward document? := by
  refine forward_bind fun word => ?_
  split <;> infer_instance

instance : Forward lockWait := by
  unfold lockWait
  infer_instance

instance : Forward lock := by
  unfold lock
  infer_instance

instance (bound : List Lexeme) : Forward (locks bound) := by
  induction bound with
  | nil =>
    unfold locks
    infer_instance
  | cons l bound ih =>
    refine forward_bind fun announced => ?_
    split
    · refine forward_bind fun document => ?_
      cases document <;> infer_instance
    · infer_instance

instance (what : String) (found : Option Lexeme) : Forward (wordOf what found) := by
  unfold wordOf
  split <;> infer_instance

instance : Forward restOfTable := by
  unfold restOfTable
  infer_instance

instance : Forward (simpleBody inner) := by
  unfold simpleBody
  infer_instance

instance : Forward setOp? := by
  refine forward_bind fun keyword => ?_
  split <;> infer_instance

instance : Forward setMode := by
  unfold setMode
  infer_instance

instance (least : Nat) (bound : List Lexeme) (left : Body) : Forward (bodies inner least bound left) := by
  induction bound generalizing least left with
  | nil =>
    unfold bodies
    infer_instance
  | cons l bound ih =>
    refine forward_bind fun op => ?_
    split <;> infer_instance

instance : Forward (binding inner) := by
  unfold binding
  infer_instance

instance (lead : Lexeme) : Forward (insertionText inner lead) := by
  refine forward_bind fun statement => ?_
  split <;> infer_instance

instance : Forward (change? inner) := by
  refine forward_bind fun lead => ?_
  cases lead with
  | none => infer_instance
  | some lead =>
    refine forward_bind fun word => ?_
    split <;> infer_instance

instance : Forward (bindings inner) := by
  unfold bindings
  infer_instance

instance (isRecursive : Bool) (bindings : List Binding) : Forward (restOfQuery inner isRecursive bindings) := by
  unfold restOfQuery
  infer_instance

instance : Forward (query inner) := by
  refine forward_bind fun ⟨isRecursive, bindings⟩ => forward_bind fun body => ?_
  cases body <;> infer_instance

end InsertPivot.Sql.Reader
