import InsertPivot.Insert
import InsertPivot.Insert.Tree.Leaf

/-!
# Statements as JSON

The tree of a statement, node by node, with the places where names and literals were read. An object with a
single member tells of which kind a node is. Queries, windows, and what else holds places that a tree leaves
out, are parts that are filled in last.
-/

namespace InsertPivot.Tree

open Json (tagged ofList ofOption)

mutual

/-- An expression. -/
def expr : Sql.Expr → Json Part
  | .literal value place => tagged "Value" (placedLiteral value place)
  | .column name => tagged "Identifier" (ident name)
  | .qualified parts => tagged "CompoundIdentifier" (ofList ident parts)
  | .access root path =>
    tagged "CompoundFieldAccess"
      (.object [("root", expr root), ("access_chain", .array (accesses path))])
  | .array said items =>
    tagged "Array" (.object [("elem", .array (exprs items)), ("named", .boolean said)])
  | .nested inner => tagged "Nested" (expr inner)
  | .tuple items => tagged "Tuple" (.array (exprs items))
  | .unary op operand =>
    tagged "UnaryOp" (.object [("op", .text (unaryOp op)), ("expr", expr operand)])
  | .binary left op right =>
    tagged "BinaryOp" (.object [("left", expr left), ("op", .text (binaryOp op)), ("right", expr right)])
  | .compared left op .all right =>
    tagged "AllOp"
      (.object [("left", expr left), ("compare_op", .text (binaryOp op)), ("right", expr right)])
  | .compared left op reach right =>
    tagged "AnyOp"
      (.object [("left", expr left), ("compare_op", .text (binaryOp op)), ("right", expr right),
        ("is_some", .boolean (reach = .some))])
  | .is operand negated truth => tagged (truthTest negated truth) (expr operand)
  | .isDistinct left negated right =>
    tagged (if negated then "IsNotDistinctFrom" else "IsDistinctFrom") (.array [expr left, expr right])
  | .isNormalized operand negated form =>
    tagged "IsNormalized"
      (.object [("expr", expr operand), ("form", ofOption (.text ·.text) form),
        ("negated", .boolean negated)])
  | .inList operand negated items =>
    tagged "InList"
      (.object [("expr", expr operand), ("list", .array (exprs items)), ("negated", .boolean negated)])
  | .inQuery operand negated rows =>
    tagged "InSubquery"
      (.object [("expr", expr operand), ("subquery", .part (.query rows)), ("negated", .boolean negated)])
  | .inUnnest operand negated items =>
    tagged "InUnnest"
      (.object [("expr", expr operand), ("array_expr", expr items), ("negated", .boolean negated)])
  | .between operand negated low high =>
    tagged "Between"
      (.object [("expr", expr operand), ("negated", .boolean negated), ("low", expr low),
        ("high", expr high)])
  | .like .similar operand negated false pattern escape =>
    tagged "SimilarTo"
      (.object [("negated", .boolean negated), ("expr", expr operand), ("pattern", expr pattern),
        ("escape_char", ofOption literal escape)])
  | .like likeness operand negated any pattern escape =>
    tagged (likenessKind likeness)
      (.object [("negated", .boolean negated), ("any", .boolean any), ("expr", expr operand),
        ("pattern", expr pattern), ("escape_char", ofOption literal escape)])
  | .regexp operand negated rlike pattern =>
    tagged "RLike"
      (.object [("negated", .boolean negated), ("expr", expr operand), ("pattern", expr pattern),
        ("regexp", .boolean !rlike)])
  | .memberOf operand items =>
    tagged "MemberOf" (.object [("value", expr operand), ("array", expr items)])
  | .atTimeZone moment zone =>
    tagged "AtTimeZone" (.object [("timestamp", expr moment), ("time_zone", expr zone)])
  | .collate operand collation =>
    tagged "Collate" (.object [("expr", expr operand), ("collation", identParts collation)])
  | .typed braced type value place =>
    tagged "TypedString"
      (.object [("data_type", dataType type), ("value", placedLiteral value place),
        ("uses_odbc_syntax", .boolean braced)])
  | .introduced charset value place =>
    tagged "Prefixed"
      (.object [("prefix", ident charset), ("value", tagged "Value" (placedLiteral value place))])
  | .call function => call function
  | .case operand branches otherwise => .part (.choice operand branches otherwise)
  | .cast kind operand type format =>
    tagged "Cast"
      (.object [("kind", .text (castKind kind)), ("expr", expr operand), ("data_type", dataType type),
        ("format", ofOption castFormat format)])
  | .convert operand type charset =>
    tagged "Convert"
      (.object [("is_try", .boolean false), ("expr", expr operand), ("data_type", dataType type),
        ("charset", ofOption identParts charset), ("target_before_value", .boolean false),
        ("styles", .array [])])
  | .transcode operand charset =>
    tagged "Convert"
      (.object [("is_try", .boolean false), ("expr", expr operand), ("data_type", .null),
        ("charset", identParts charset), ("target_before_value", .boolean false), ("styles", .array [])])
  | .round down operand unit =>
    tagged (if down then "Floor" else "Ceil")
      (.object [("expr", expr operand), ("field", rounding unit)])
  | .extract field operand =>
    tagged "Extract"
      (.object [("field", timeField field), ("syntax", .text "From"), ("expr", expr operand)])
  | .position part whole => tagged "Position" (.object [("expr", expr part), ("in", expr whole)])
  | .substring style operand start length =>
    tagged "Substring"
      (.object [("expr", expr operand), ("substring_from", optionalExpr start),
        ("substring_for", optionalExpr length), ("special", .boolean style.commas),
        ("shorthand", .boolean style.short)])
  | .overlay operand part start length =>
    tagged "Overlay"
      (.object [("expr", expr operand), ("overlay_what", expr part), ("overlay_from", expr start),
        ("overlay_for", optionalExpr length)])
  | .trim side what operand =>
    tagged "Trim"
      (.object [("expr", expr operand), ("trim_where", ofOption trimSide side),
        ("trim_what", optionalExpr what), ("trim_characters", .null)])
  | .matchAgainst columns value mode =>
    tagged "MatchAgainst"
      (.object [("columns", ofList identParts columns), ("match_value", literal value),
        ("opt_search_modifier", ofOption searchMode mode)])
  | .interval amount unit => tagged "Interval" (.object (("value", expr amount) :: intervalMembers unit))
  | .exists negated rows =>
    tagged "Exists" (.object [("subquery", .part (.query rows)), ("negated", .boolean negated)])
  | .subquery rows => tagged "Subquery" (.part (.query rows))

/-- Expressions. -/
def exprs : List Sql.Expr → List (Json Part)
  | [] => []
  | e :: rest => expr e :: exprs rest

/-- What is taken out of a value. -/
def accesses : List Sql.Access → List (Json Part)
  | [] => []
  | .dot e :: rest => tagged "Dot" (expr e) :: accesses rest
  | .index e :: rest => tagged "Subscript" (tagged "Index" (.object [("index", expr e)])) :: accesses rest
  | .slice lower upper stride :: rest =>
    tagged "Subscript"
      (tagged "Slice"
        (.object [("lower_bound", optionalExpr lower), ("upper_bound", optionalExpr upper),
          ("stride", optionalExpr stride)])) :: accesses rest

/-- An expression, or null. -/
def optionalExpr : Option Sql.Expr → Json Part
  | none => .null
  | some e => expr e

/-- A function and what it is applied to. -/
def call : Sql.Call → Json Part
  | ⟨name, applied, braced, group, nulls, window⟩ =>
    tagged "Function"
      (.object [("name", identParts name), ("uses_odbc_syntax", .boolean braced),
        ("parameters", .text "None"), ("args", arguments applied), ("filter", .null),
        ("null_treatment", ofOption nullTreatment nulls), ("over", ofOption (fun text => .part (.window text)) window),
        ("within_group", ofList (fun key => .part (.ordering key)) group)])

/-- What a function is applied to. -/
def arguments : Sql.Arguments → Json Part
  | .absent => .text "None"
  | .given duplicates items clauses =>
    tagged "List"
      (.object [("duplicate_treatment", quantifier duplicates), ("args", .array (argumentItems items)),
        ("clauses", ofList (fun text => .part (.clause text)) clauses)])
  | .rows rows => tagged "Subquery" (.part (.query rows))

/-- What an argument is, and its name where it has one. -/
def argumentValue : Sql.Argument → Json Part
  | .value value => tagged "Expr" (expr value)
  | .wildcard [] => .text "Wildcard"
  | .wildcard qualifier => tagged "QualifiedWildcard" (identParts qualifier)
  | .named name sign value =>
    tagged "Named"
      (.object [("name", ident name), ("arg", argumentValue value), ("operator", joint sign)])

/-- The arguments of a function. -/
def argumentItems : List Sql.Argument → List (Json Part)
  | [] => []
  | item :: rest =>
    (match item with
      | .named _ _ _ => argumentValue item
      | _ => tagged "Unnamed" (argumentValue item)) :: argumentItems rest

end

/-- A part of a table's name. -/
def namePart : Sql.NamePart → Json Part
  | .ident name => tagged "Identifier" (ident name)
  | .call name values =>
    tagged "Function" (.object [("name", ident name), ("args", .array (exprs values))])

/-- An assignment. -/
def assignment (item : Assignment) : Json Part :=
  .object [("qualifier", ofList ident item.qualifier), ("column", ident item.column),
    ("value", expr item.value)]

/-- What a statement inserts. -/
def payload : Payload → Json Part
  | .set items => tagged "Set" (ofList assignment items)
  | .values columns rows =>
    tagged "Values"
      (.object [("columns", ofList ident columns), ("rows", ofList (fun row => .array (exprs row)) rows)])

/-- A letter case. -/
def letterCase : LetterCase → Json Part
  | .upper => .text "Upper"
  | .lower => .text "Lower"

/-- A priority. -/
def priority : Sql.Priority → Json Part
  | .low => .text "Low"
  | .delayed => .text "Delayed"
  | .high => .text "High"

/-- A statement. -/
def insert (statement : Insert) : Json Part :=
  .object [("keyword_case", letterCase statement.keywordCase),
    ("priority", ofOption priority statement.priority), ("ignore", .boolean statement.ignore),
    ("table", ofList namePart statement.table), ("payload", payload statement.payload),
    ("on_duplicate_update", ofList assignment statement.onDuplicateUpdate)]

/-- Statements, with the parts that are left to others. -/
def inserts (statements : List Insert) : Json Part :=
  ofList insert statements

/-- Statements with all parts filled in. -/
def document (statements : List Insert) (encode : Encoding := .asText) : Json Empty :=
  (inserts statements).complete encode []

end InsertPivot.Tree
