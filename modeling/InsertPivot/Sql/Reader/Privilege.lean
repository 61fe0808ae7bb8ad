import InsertPivot.Sql.Reader

/-!
# Reading statements about privileges

What is granted, denied or taken back, on which objects, and to or from whom.
-/

namespace InsertPivot.Sql.Reader

/-! ## Privileges -/

/-- The privileges that have names of several words. -/
def longPrivileges : List (List String) :=
  [["IMPORTED", "PRIVILEGES"], ["ADD", "SEARCH", "OPTIMIZATION"], ["ATTACH", "LISTING"], ["ATTACH", "POLICY"],
    ["BIND", "SERVICE", "ENDPOINT"], ["EVOLVE", "SCHEMA"], ["IMPORT", "SHARE"], ["MANAGE", "VERSIONS"],
    ["MANAGE", "RELEASES"], ["OVERRIDE", "SHARE", "RESTRICTIONS"],
    ["PURCHASE", "DATA", "EXCHANGE", "LISTING"], ["RESOLVE", "ALL"], ["READ", "SESSION"]]

/-- The privileges that have names of one word. -/
def shortPrivileges : List String :=
  ["APPLYBUDGET", "AUDIT", "CONNECT", "DELETE", "DROP", "EXEC", "EXECUTE", "FAILOVER", "MONITOR", "OPERATE",
    "OWNERSHIP", "READ", "REPLICATE", "TEMPORARY", "TRIGGER", "TRUNCATE", "USAGE", "WRITE"]

/-- The privileges that may be limited to some columns. -/
def columnPrivileges : List String :=
  ["INSERT", "REFERENCES", "SELECT", "UPDATE"]

/-- The kinds of objects that may be created. -/
def creatableObjects : List (List String) :=
  [["ACCOUNT"], ["APPLICATION", "PACKAGE"], ["APPLICATION"], ["COMPUTE", "POOL"], ["DATABASE"],
    ["FAILOVER", "GROUP"], ["INTEGRATION"], ["ROLE"], ["SCHEMA"], ["SHARE"], ["USER"], ["WAREHOUSE"]]

/-- One privilege. -/
def privilege : Reader Unit := do
  if ← longPrivileges.anyM acceptKeywords then return
  else if ← acceptKeywords ["DATABASE", "ROLE"] then discard dottedName
  else if ← acceptKeyword "ROLE" then discard dottedName
  else if ← acceptKeyword "CREATE" then discard (creatableObjects.anyM acceptKeywords)
  else if ← acceptOneOf columnPrivileges then discard (optionalColumnList false)
  else
    unless ← acceptOneOf shortPrivileges do
      expected "a privilege keyword"

/-- A name of an object, the last part of which may be a star; at most one period for each lexeme of
`bound`. -/
def objectSteps (bound : List Lexeme) : Reader Unit := do
  unless ← acceptSymbol .times do
    discard ident
  match bound with
  | [] => return
  | _ :: bound =>
    if ← acceptSymbol .period then
      objectSteps bound

/-- A name of an object, the last part of which may be a star. -/
def objectName : Reader Unit := do
  objectSteps (← get)

/-- The objects that privileges are for, after the word `ON`. -/
def restOfObjects : Reader Unit := do
  discard <| [["ALL", "TABLES", "IN", "SCHEMA"], ["ALL", "SEQUENCES", "IN", "SCHEMA"],
    ["ALL", "FUNCTIONS", "IN", "SCHEMA"], ["ALL", "VIEWS", "IN", "SCHEMA"], ["SEQUENCE"], ["DATABASE"],
    ["SCHEMA"], ["TABLE"], ["VIEW"], ["WAREHOUSE"], ["INTEGRATION"], ["FUNCTION"], ["PROCEDURE"], ["ROLE"],
    ["USER"], ["CONNECTION"]].anyM acceptKeywords
  discard (commaSeparated objectName)

/-- Privileges and the objects that they are for, if they are for some. -/
def privileges : Reader Bool := do
  if ← acceptKeyword "ALL" then
    optional ["PRIVILEGES"]
  else
    discard (commaSeparated privilege)
  if ← acceptKeyword "ON" then
    restOfObjects
    return true
  else
    return false

/-! ## Grantees -/

/-- Whom privileges are given to or taken from. All users need no name. -/
def grantee : Reader Unit := do
  unless ← acceptKeyword "PUBLIC" do
    discard <| [["ROLE"], ["USER"], ["SHARE"], ["GROUP"], ["DATABASE", "ROLE"], ["APPLICATION", "ROLE"],
      ["APPLICATION"]].anyM acceptKeywords
    match ← dottedName with
    | [_] =>
      if ← acceptSymbol .atSign then
        discard ident
    | _ => return
    if ← acceptSymbol .colon then
      discard ident

/-- Who gives or takes privileges. -/
def grantor : Reader Unit :=
  clause ["GRANTED", "BY"] ident

/-! ## Statements -/

/-- A `GRANT`, after its keyword. -/
def restOfGrant : Reader Unit := do
  discard privileges
  expectKeyword "TO"
  discard (commaSeparated grantee)
  optional ["WITH", "GRANT", "OPTION"]
  discard ([["COPY", "CURRENT", "GRANTS"], ["REVOKE", "CURRENT", "GRANTS"]].anyM acceptKeywords)
  clause ["AS"] ident
  grantor

/-- A `DENY`, after its keyword. -/
def restOfDeny : Reader Unit := do
  unless ← privileges do
    refuse "DENY statements must specify an object"
  expectKeyword "TO"
  discard (commaSeparated grantee)
  discard (acceptOneOf ["CASCADE", "RESTRICT"])
  clause ["AS"] ident

/-- A `REVOKE`, after its keyword. -/
def restOfRevoke : Reader Unit := do
  discard privileges
  expectKeyword "FROM"
  discard (commaSeparated grantee)
  grantor
  discard (acceptOneOf ["CASCADE", "RESTRICT"])

end InsertPivot.Sql.Reader
