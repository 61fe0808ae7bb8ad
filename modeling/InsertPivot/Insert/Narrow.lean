import InsertPivot.Insert
import InsertPivot.Sql.Reader.Statement

/-!
# From what was read to an `INSERT`

A statement that was read may have clauses that neither form of an `INSERT` can carry. `Insert.ofStatement`
refuses such a statement and names the construct. What is checked first decides which construct is named.
-/

namespace InsertPivot

/-- What a statement was refused for. -/
inductive Construct where
  | executableComment
  | otherStatement
  | rowAlias
  | partition
  | returning
  | tableFunction
  | tupleAssignment
  | functionInColumn
  | emptyColumn
  | select
  | onConflict
deriving DecidableEq, Repr

/-- What messages call a construct. -/
def Construct.label : Construct → String
  | executableComment => "MySQL executable comment"
  | otherStatement => "statement other than INSERT"
  | rowAlias => "INSERT alias"
  | partition => "INSERT ... PARTITION"
  | returning => "INSERT ... RETURNING"
  | tableFunction => "INSERT INTO FUNCTION"
  | tupleAssignment => "tuple assignment"
  | functionInColumn => "function in column name"
  | emptyColumn => "empty column name"
  | select => "INSERT ... SELECT"
  | onConflict => "ON CONFLICT"

/-- Why a text is read as no list of `INSERT`s. -/
inductive ReadFault where
  /-- The text is not well formed. -/
  | syntaxFault (fault : Sql.Fault)
  | tooDeep
  | unsupported (construct : Construct)
  /-- Another reader refuses it, with this message. -/
  | codec (message : String)
deriving DecidableEq, Repr

namespace ReadFault

/-- The fault of a text that is refused; nesting is a cause of its own. -/
def ofFault : Sql.Fault → ReadFault
  | .tooDeep => tooDeep
  | fault => syntaxFault fault

/-- The message of a fault. -/
def message : ReadFault → String
  | syntaxFault fault => fault.message
  | tooDeep => s!"Statement nests deeper than {Sql.Reader.depthLimit} levels"
  | unsupported construct => "Unsupported " ++ construct.label
  | codec message => message

end ReadFault

/-- The identifiers of a name, if each part is one. -/
def identParts : Sql.Name → Except ReadFault (List Sql.Ident)
  | [] => .ok []
  | .ident name :: rest => (identParts rest).map (name :: ·)
  | .call _ _ :: _ => .error (.unsupported .functionInColumn)

/-- An assignment that was read, if it assigns to one column by name. -/
def Assignment.ofItem (item : Sql.SetItem) : Except ReadFault Assignment :=
  match item.target with
  | .tuple _ => .error (.unsupported .tupleAssignment)
  | .column name => do
    let parts ← identParts name
    match parts.getLast? with
    | none => .error (.unsupported .emptyColumn)
    | some column => .ok ⟨parts.dropLast, column, item.value⟩

namespace Insert

/-- The letter case of a statement that starts with this word, or with a token that is no word. -/
def leadCase (lead : Option String) : LetterCase :=
  (lead.map LetterCase.ofWord).getD .upper

/-- What a statement inserts, if it is assignments or rows. -/
def payloadOf (node : Sql.Insertion) : Except ReadFault Payload :=
  match node.source with
  | none => (node.assignments.mapM Assignment.ofItem).map .set
  | some query =>
    match query.body with
    | .values _ _ rows => .ok (.values node.columns rows)
    | _ => .error (.unsupported .select)

/-- What a statement assigns when a row is there already. -/
def updatesOf : Option Sql.OnInsert → Except ReadFault (List Assignment)
  | none => .ok []
  | some (.duplicateKeyUpdate items) => items.mapM Assignment.ofItem
  | some (.conflict _ _ _) => .error (.unsupported .onConflict)

/-- An `INSERT` that was read, if one of the two forms can carry it. -/
def ofInsertion (node : Sql.Insertion) : Except ReadFault Insert := do
  if node.tableAlias.isSome || node.rowAlias.isSome then throw (.unsupported .rowAlias)
  if node.partition.isSome then throw (.unsupported .partition)
  if node.returning.isSome then throw (.unsupported .returning)
  match node.target with
  | .call _ _ => throw (.unsupported .tableFunction)
  | .table table =>
    let payload ← payloadOf node
    let updates ← updatesOf node.onInsert
    return ⟨leadCase node.lead, node.priority, node.ignore, table, payload, updates⟩

/-- A statement that was read, if it is an `INSERT` that one of the two forms can carry. -/
def ofStatement : Sql.Statement → Except ReadFault Insert
  | .insert node => ofInsertion node
  | .directory _ | .other => .error (.unsupported .otherStatement)

end Insert

/-- Whether a piece of a text is a comment that servers carry out. -/
def isExecutableComment (piece : Sql.Lexeme.Piece) : Bool :=
  match piece with
  | .blank (.blockComment body) => body.toList.head? = some '!'
  | _ => false

/-- The statements of a text, of whatever kind. -/
def readStatements (text : String) : Except ReadFault (List Sql.Statement) := do
  let pieces ← (Sql.Lexeme.piecesOf text).mapError fun fault => ReadFault.syntaxFault (.scan fault)
  if pieces.any fun piece => isExecutableComment piece.1 then throw (.unsupported .executableComment)
  (Sql.Statement.ofLexemes (Sql.Lexeme.ofPieces pieces)).mapError ReadFault.ofFault

/-- The `INSERT`s of a text, if it holds nothing else and each can be carried. -/
def readInserts (text : String) : Except ReadFault (List Insert) := do
  (← readStatements text).mapM Insert.ofStatement

end InsertPivot
