import InsertPivot.Sql.Expr

/-!
# The text of an expression

Each node is written in one way: keywords in upper case, single blanks around an operator, none after a
sign, and literals and names by their own rules. No parentheses are added but those that belong to a
construct, because those that were read are nodes of their own.
-/

namespace InsertPivot.Sql

/-! ## Words -/

/-- An operator before its operand, with the blank that `NOT` needs. -/
def UnaryOp.text : UnaryOp → String
  | minus => "-"
  | plus => "+"
  | bitwiseNot => "~"
  | not => "NOT "

/-- An operator between its operands. -/
def BinaryOp.text : BinaryOp → String
  | plus => "+"
  | minus => "-"
  | multiply => "*"
  | divide => "/"
  | modulo => "%"
  | integerDivide => "DIV"
  | concat => "||"
  | greater => ">"
  | less => "<"
  | greaterEq => ">="
  | lessEq => "<="
  | spaceship => "<=>"
  | equal => "="
  | notEqual => "<>"
  | assign => ":="
  | and => "AND"
  | or => "OR"
  | xor => "XOR"
  | overlaps => "OVERLAPS"
  | bitwiseOr => "|"
  | bitwiseAnd => "&"
  | bitwiseXor => "^"
  | arrow => "->"
  | longArrow => "->>"
  | contains => "@>"
  | containedIn => "<@"
  | pathExists => "@?"
  | pathMatches => "@@"
  | pattern negated like caseless =>
    wordIf negated "!" ++ (if like then "~~" else "~") ++ wordIf caseless "*"

/-- A truth value that `IS` asks for. -/
def Truth.text : Truth → String
  | null => "NULL"
  | true => "TRUE"
  | false => "FALSE"
  | unknown => "UNKNOWN"

/-- The name of a normal form. -/
def NormalForm.text : NormalForm → String
  | nfc => "NFC"
  | nfd => "NFD"
  | nfkc => "NFKC"
  | nfkd => "NFKD"

/-- The word for how many values are compared with. -/
def Reach.text : Reach → String
  | any => "ANY"
  | some => "SOME"
  | all => "ALL"

/-- The words for the rules of a match. -/
def Likeness.text : Likeness → String
  | like => "LIKE"
  | ilike => "ILIKE"
  | similar => "SIMILAR TO"

/-- An end of a text that is trimmed. -/
def TrimSide.text : TrimSide → String
  | both => "BOTH"
  | leading => "LEADING"
  | trailing => "TRAILING"

/-- The word for how duplicates are treated. -/
def Quantifier.text : Quantifier → String
  | all => "ALL"
  | distinct => "DISTINCT"

/-- The words for what is done with nulls. -/
def NullTreatment.text : NullTreatment → String
  | ignore => "IGNORE NULLS"
  | respect => "RESPECT NULLS"

/-- The word that combines two sets of rows. -/
def SetOp.text : SetOp → String
  | union => "UNION"
  | except => "EXCEPT"
  | intersect => "INTERSECT"
  | minus => "MINUS"

/-- The words behind the one that combines two sets of rows. -/
def SetMode.text (mode : SetMode) : String :=
  behind " " (mode.quantifier.map Quantifier.text) ++ wordIf mode.byName " BY NAME"

/-- The words that join a table to those before it. -/
def JoinKind.text : JoinKind → String
  | plain => "JOIN"
  | inner => "INNER JOIN"
  | cross => "CROSS JOIN"
  | straight => "STRAIGHT_JOIN"
  | left => "LEFT JOIN"
  | leftOuter => "LEFT OUTER JOIN"
  | leftSemi => "LEFT SEMI JOIN"
  | leftAnti => "LEFT ANTI JOIN"
  | right => "RIGHT JOIN"
  | rightOuter => "RIGHT OUTER JOIN"
  | rightSemi => "RIGHT SEMI JOIN"
  | rightAnti => "RIGHT ANTI JOIN"
  | full => "FULL JOIN"
  | semi => "SEMI JOIN"
  | anti => "ANTI JOIN"
  | crossApply => "CROSS APPLY"
  | outerApply => "OUTER APPLY"
  | asof => "ASOF JOIN"

/-- What stands between the name of an argument and its value. -/
def Joint.text : Joint → String
  | value => "VALUE"
  | arrow => "=>"

/-- The words for how texts are searched. -/
def SearchMode.text : SearchMode → String
  | natural => "IN NATURAL LANGUAGE MODE"
  | naturalExpanded => "IN NATURAL LANGUAGE MODE WITH QUERY EXPANSION"
  | boolean => "IN BOOLEAN MODE"
  | expanded => "WITH QUERY EXPANSION"

/-- The word `NOT` and a blank, where a test is negated. -/
def negation (negated : Bool) : String :=
  wordIf negated "NOT "

/-! ## Parts without expressions -/

/-- The format that a cast follows. -/
def CastFormat.text (format : CastFormat) : String :=
  " FORMAT " ++ format.format.text ++ behind " AT TIME ZONE " (format.zone.map Literal.text)

/-- What a number or time is rounded to, behind it. -/
def Rounding.text : Rounding → String
  | whole => ""
  | digits scale => ", " ++ scale.text
  | unit field => " TO " ++ field

/-- The unit of an interval. Two precisions of one unit share their parentheses. -/
def IntervalUnit.text (unit : IntervalUnit) : String :=
  let size (n : Nat) : String := " " ++ parenthesized (toString n)
  match unit.last, unit.precision, unit.fraction with
  | none, some precision, some fraction =>
    unit.leading ++ " " ++ parenthesized (commas [toString precision, toString fraction])
  | last, precision, fraction =>
    unit.leading ++ behind "" (precision.map size) ++ behind " TO " last ++ behind "" (fraction.map size)

/-- A column of a labelled table. -/
def ColumnLabel.text (column : ColumnLabel) : String :=
  column.name.text ++ behind " " (column.type.map DataType.text)

/-- The columns of a labelled table, where they are given. -/
def columnLabelsText : List ColumnLabel → String
  | [] => ""
  | columns => " " ++ parenthesized (commas (columns.map ColumnLabel.text))

/-- What a table is called, behind it. -/
def tableLabelText : Option TableLabel → String
  | none => ""
  | some label => wordIf label.explicit " AS" ++ " " ++ label.name.text ++ columnLabelsText label.columns

/-- What a column is called, behind it. -/
def labelText (label : Option Ident) : String :=
  behind " AS " (label.map Ident.text)

/-- The columns of one table, or all columns. -/
def wildcardText (qualifier : List Ident) : String :=
  String.join (qualifier.map fun name => name.text ++ ".") ++ "*"

/-- The first rows that are wanted. -/
def Fetch.text (fetch : Fetch) : String :=
  "FETCH FIRST " ++
    (match fetch.quantity with
      | none => ""
      | some quantity => quantity.text ++ wordIf fetch.percent " PERCENT" ++ " ") ++
    "ROWS " ++ (if fetch.ties then "WITH TIES" else "ONLY")

/-- How the rows of a query are locked. -/
def Lock.text (lock : Lock) : String :=
  "FOR " ++ (if lock.share then "SHARE" else "UPDATE") ++ behind " OF " (lock.table.map dotted) ++
    (match lock.wait with
      | none => ""
      | some .nowait => " NOWAIT"
      | some .skipLocked => " SKIP LOCKED")

/-- The letters that a type has in braces. -/
def bracedTypeName : DataType → String
  | .standard "DATE" _ _ => "d"
  | .standard "TIME" _ _ => "t"
  | _ => "ts"

/-- Words before a list, where there are any. -/
def listText (lead : String) : List String → String
  | [] => ""
  | texts => lead ++ commas texts

/-! ## Expressions and queries -/

mutual

/-- An expression as it is written. -/
def Expr.text : Expr → String
  | .literal value _ => value.text
  | .column name => name.text
  | .qualified parts => dotted parts
  | .access root path => root.text ++ pathText path
  | .array said items => wordIf said "ARRAY" ++ "[" ++ commas (exprTexts items) ++ "]"
  | .nested inner => parenthesized inner.text
  | .tuple items => parenthesized (commas (exprTexts items))
  | .unary op operand => op.text ++ operand.text
  | .binary left op right => left.text ++ " " ++ op.text ++ " " ++ right.text
  | .compared left op reach right =>
    left.text ++ " " ++ op.text ++ " " ++ reach.text ++
      (match right with
        | .subquery rows => parenthesized rows.text
        | other => parenthesized other.text)
  | .is operand negated truth => operand.text ++ " IS " ++ negation negated ++ truth.text
  | .isDistinct left negated right =>
    left.text ++ " IS " ++ negation negated ++ "DISTINCT FROM " ++ right.text
  | .isNormalized operand negated form =>
    operand.text ++ " IS " ++ negation negated ++ behind "" (form.map (·.text ++ " ")) ++ "NORMALIZED"
  | .inList operand negated items =>
    operand.text ++ " " ++ negation negated ++ "IN " ++ parenthesized (commas (exprTexts items))
  | .inQuery operand negated query =>
    operand.text ++ " " ++ negation negated ++ "IN " ++ parenthesized query.text
  | .inUnnest operand negated items =>
    operand.text ++ " " ++ negation negated ++ "IN UNNEST" ++ parenthesized items.text
  | .between operand negated low high =>
    operand.text ++ " " ++ negation negated ++ "BETWEEN " ++ low.text ++ " AND " ++ high.text
  | .like likeness operand negated any pattern escape =>
    operand.text ++ " " ++ negation negated ++ likeness.text ++ " " ++
      wordIf any (if likeness = .ilike && escape.isSome then "ANY" else "ANY ") ++ pattern.text ++
      behind " ESCAPE " (escape.map Literal.text)
  | .regexp operand negated rlike pattern =>
    operand.text ++ " " ++ negation negated ++ (if rlike then "RLIKE " else "REGEXP ") ++ pattern.text
  | .memberOf operand items => operand.text ++ " MEMBER OF" ++ parenthesized items.text
  | .atTimeZone moment zone => moment.text ++ " AT TIME ZONE " ++ zone.text
  | .collate operand collation => operand.text ++ " COLLATE " ++ dotted collation
  | .typed braced type value _ =>
    if braced then "\x7b" ++ bracedTypeName type ++ " " ++ value.text ++ "\x7d"
    else type.text ++ " " ++ value.text
  | .introduced charset value _ => charset.text ++ " " ++ value.text
  | .call function => function.text
  | .case operand branches otherwise =>
    "CASE" ++ optionText " " operand ++ String.join (branchTexts branches) ++
      optionText " ELSE " otherwise ++ " END"
  | .cast .colons operand type _ => operand.text ++ "::" ++ type.text
  | .cast kind operand type format =>
    (match kind with
      | .try => "TRY_CAST"
      | .safe => "SAFE_CAST"
      | _ => "CAST") ++
      parenthesized (operand.text ++ " AS " ++ type.text ++ behind "" (format.map CastFormat.text))
  | .convert operand type charset =>
    "CONVERT" ++
      parenthesized (operand.text ++ ", " ++ type.text ++ behind " CHARACTER SET " (charset.map dotted))
  | .transcode operand charset => "CONVERT" ++ parenthesized (operand.text ++ " USING " ++ dotted charset)
  | .round down operand unit =>
    (if down then "FLOOR" else "CEIL") ++ parenthesized (operand.text ++ unit.text)
  | .extract field operand => "EXTRACT" ++ parenthesized (field ++ " FROM " ++ operand.text)
  | .position part whole => "POSITION" ++ parenthesized (part.text ++ " IN " ++ whole.text)
  | .substring style operand start length =>
    (if style.short then "SUBSTR" else "SUBSTRING") ++
      parenthesized
        (operand.text ++ optionText (if style.commas then ", " else " FROM ") start ++
          optionText (if style.commas then ", " else " FOR ") length)
  | .overlay operand part start length =>
    "OVERLAY" ++
      parenthesized
        (operand.text ++ " PLACING " ++ part.text ++ " FROM " ++ start.text ++ optionText " FOR " length)
  | .trim side what operand =>
    "TRIM" ++
      parenthesized (behind "" (side.map (·.text ++ " ")) ++ trimmedText what ++ operand.text)
  | .matchAgainst columns value mode =>
    "MATCH " ++ parenthesized (commas (columns.map dotted)) ++ " AGAINST " ++
      parenthesized (value.text ++ behind " " (mode.map SearchMode.text))
  | .interval amount unit => "INTERVAL " ++ amount.text ++ " " ++ unit.text
  | .exists negated query => negation negated ++ "EXISTS " ++ parenthesized query.text
  | .subquery query => parenthesized query.text

/-- Expressions as they are written. -/
def exprTexts : List Expr → List String
  | [] => []
  | e :: es => e.text :: exprTexts es

/-- An expression behind a lead, where there is one. -/
def optionText (lead : String) : Option Expr → String
  | none => ""
  | some e => lead ++ e.text

/-- What is trimmed off, where it is said. -/
def trimmedText : Option Expr → String
  | none => ""
  | some e => e.text ++ " FROM "

/-- What is taken out of a value, behind it. -/
def pathText : List Access → String
  | [] => ""
  | .dot value :: rest => "." ++ value.text ++ pathText rest
  | .index value :: rest => "[" ++ value.text ++ "]" ++ pathText rest
  | .slice lower upper stride :: rest =>
    "[" ++ optionText "" lower ++ ":" ++ optionText "" upper ++ optionText ":" stride ++ "]" ++
      pathText rest

/-- The branches of a `CASE`. -/
def branchTexts : List Branch → List String
  | [] => []
  | ⟨condition, result⟩ :: rest =>
    (" WHEN " ++ condition.text ++ " THEN " ++ result.text) :: branchTexts rest

/-- A function and what it is applied to. -/
def Call.text : Call → String
  | ⟨name, arguments, braced, group, nulls, window⟩ =>
    wordIf braced "\x7bfn " ++ dotted name ++ arguments.text ++
      (match group with
        | [] => ""
        | key :: rest =>
          " WITHIN GROUP " ++ parenthesized ("ORDER BY " ++ commas (orderingTexts (key :: rest)))) ++
      behind " " (nulls.map NullTreatment.text) ++ behind " OVER " window ++ wordIf braced "\x7d"

/-- What a function is applied to, with its parentheses. -/
def Arguments.text : Arguments → String
  | .absent => ""
  | .given quantifier items clauses =>
    parenthesized
      (behind "" (quantifier.map (·.text ++ " ")) ++
        " ".intercalate ((match items with
          | [] => []
          | item :: rest => [commas (argumentTexts (item :: rest))]) ++ clauses))
  | .rows query => parenthesized query.text

/-- One argument of a function. -/
def Argument.text : Argument → String
  | .value value => value.text
  | .wildcard qualifier => wildcardText qualifier
  | .named name joint value => name.text ++ " " ++ joint.text ++ " " ++ value.text

/-- The arguments of a function. -/
def argumentTexts : List Argument → List String
  | [] => []
  | a :: rest => a.text :: argumentTexts rest

/-- A query as it is written. -/
def Query.text : Query → String
  | ⟨isRecursive, bindings, body, order, limit, fetch, locks, output⟩ =>
    (match bindings with
      | [] => ""
      | binding :: rest =>
        "WITH " ++ wordIf isRecursive "RECURSIVE " ++ commas (bindingTexts (binding :: rest)) ++ " ") ++
    body.text ++
    listText " ORDER BY " (orderingTexts order) ++
    (match limit with
      | none => ""
      | some limit => limit.text) ++
    behind " " (fetch.map Fetch.text) ++ trailing (locks.map Lock.text) ++ behind " " output

/-- The queries that `WITH` names. -/
def bindingTexts : List Binding → List String
  | [] => []
  | ⟨name, columns, query, source⟩ :: rest =>
    (name.text ++ columnLabelsText columns ++ " AS " ++ parenthesized query.text ++
      behind " FROM " (source.map Ident.text)) :: bindingTexts rest

/-- The body of a query. -/
def Body.text : Body → String
  | .select parts => parts.text
  | .values short explicit rows =>
    (if short then "VALUE " else "VALUES ") ++ commas (rowTexts (wordIf explicit "ROW") rows)
  | .nested query => parenthesized query.text
  | .combined left op mode right => left.text ++ " " ++ op.text ++ mode.text ++ " " ++ right.text
  | .table schema name => "TABLE " ++ behind "" (schema.map (· ++ ".")) ++ name
  | .change text => text

/-- A `SELECT` as it is written. -/
def Select.text : Select → String
  | ⟨lead, items, into, tables, views, condition, groupAll, groups, groupSets, spread, having, windows⟩ =>
    "SELECT" ++ trailing lead ++ listText " " (itemTexts items) ++ behind " INTO " into ++
      listText " FROM " (joinedTexts tables) ++ trailing views ++ optionText " WHERE " condition ++
      wordIf groupAll " GROUP BY ALL" ++ listText " GROUP BY " (exprTexts groups) ++
      (match groupSets with
        | [] => ""
        | set :: rest => " GROUPING SETS " ++ parenthesized (commas (rowTexts "" (set :: rest)))) ++
      trailing spread ++ optionText " HAVING " having ++ trailing windows

/-- The listed rows of a query, each behind a lead. -/
def rowTexts (lead : String) : List (List Expr) → List String
  | [] => []
  | row :: rest => (lead ++ parenthesized (commas (exprTexts row))) :: rowTexts lead rest

/-- One item of a `SELECT` list. -/
def SelectItem.text : SelectItem → String
  | .value value label => value.text ++ labelText label
  | .wildcard qualifier => wildcardText qualifier

/-- The items of a `SELECT` list. -/
def itemTexts : List SelectItem → List String
  | [] => []
  | item :: rest => item.text :: itemTexts rest

/-- A table and those that are joined to it. -/
def Joined.text : Joined → String
  | ⟨table, joins⟩ => table.text ++ String.join (joinTexts joins)

/-- The tables that a query reads from. -/
def joinedTexts : List Joined → List String
  | [] => []
  | joined :: rest => joined.text :: joinedTexts rest

/-- Tables that are joined to one before them. -/
def joinTexts : List Join → List String
  | [] => []
  | ⟨isGlobal, kind, table, nearest, natural, on, columns⟩ :: rest =>
    (" " ++ wordIf isGlobal "GLOBAL " ++ wordIf natural "NATURAL " ++ kind.text ++ " " ++ table.text ++
      (match nearest with
        | none => ""
        | some condition => " MATCH_CONDITION " ++ parenthesized condition.text) ++
      optionText " ON " on ++
      (if columns.isEmpty then "" else " USING" ++ parenthesized (commas (columns.map dotted)))) ::
      joinTexts rest

/-- A table as it is written. -/
def Table.text : Table → String
  | .named name partitions arguments ordinality label hints =>
    dotted name ++
      (if partitions.isEmpty then ""
        else "PARTITION " ++ parenthesized (commas (partitions.map Ident.text))) ++
      (match arguments with
        | none => ""
        | some items => parenthesized (commas (argumentTexts items))) ++
      wordIf ordinality " WITH ORDINALITY" ++ tableLabelText label ++ trailing hints
  | .derived lateral query label =>
    wordIf lateral "LATERAL " ++ parenthesized query.text ++ tableLabelText label
  | .computed name arguments label =>
    "LATERAL " ++ dotted name ++ parenthesized (commas (argumentTexts arguments)) ++ tableLabelText label
  | .ofExpr value label => "TABLE" ++ parenthesized value.text ++ tableLabelText label
  | .joined content label => parenthesized content.text ++ tableLabelText label
  | .special text label => text ++ tableLabelText label

/-- The items of an `ORDER BY` list. -/
def orderingTexts : List Ordering → List String
  | [] => []
  | ⟨key, ascending, nullsFirst⟩ :: rest =>
    (key.text ++ behind " " (ascending.map fun up => if up then "ASC" else "DESC") ++
      behind " NULLS " (nullsFirst.map fun first => if first then "FIRST" else "LAST")) ::
      orderingTexts rest

/-- How many rows are wanted. -/
def Limit.text : Limit → String
  | .words count skipped unit =>
    optionText " LIMIT " count ++ optionText " OFFSET " skipped ++ behind " " unit
  | .comma skipped count => " LIMIT " ++ skipped.text ++ ", " ++ count.text

end

end InsertPivot.Sql
