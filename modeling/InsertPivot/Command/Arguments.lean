import InsertPivot.Command.Help
import InsertPivot.Command.Range
import InsertPivot.Insert.Format

/-!
# The arguments of the command

The command is `to-values` or `to-set`, with options and a file behind it, and perhaps options before it.
Arguments are taken in order, and the first that does not fit is the one complained of. A value is looked at
only when the next argument that fits has come, or the last one, so an unknown argument right behind a bad
value hides it. What no argument alone can show is checked at the end: first which options exclude each
other, then what is missing.
-/

namespace InsertPivot.Command

/-- What the command is to do. -/
structure Invocation where
  direction : Direction
  /-- The file to convert; standard input when there is none. -/
  file : Option String := none
  /-- Whether the result goes back to the file. -/
  inPlace : Bool := false
  /-- The part of the text to convert; all of it when there is none. -/
  range : Option Text.ByteRange := none
  keywordCase : KeywordCase := .preserve
  quoteIdentifiers : Bool := false
  /-- Whether statements that cannot be converted are left as they are. -/
  keepGoing : Bool := false
  /-- Whether the statements are printed as trees. -/
  emitTrees : Bool := false
  verbosity : Nat := 0
deriving DecidableEq, Repr

/-- An option that takes no value. -/
inductive Switch where
  | inPlace
  | quoteIdentifiers
  | keepGoing
  | emitTrees
  | verbose
deriving DecidableEq, Repr

/-- What takes a value. -/
inductive Setting where
  | range
  | keywordCase
  | file
deriving DecidableEq, Repr

/-- A switch as messages name it. -/
def Switch.label : Switch → String
  | inPlace => "--in-place"
  | quoteIdentifiers => "--quote-identifiers"
  | keepGoing => "--keep-going"
  | emitTrees => "--emit-ast"
  | verbose => "--verbose..."

/-- A setting as messages name it. -/
def Setting.label : Setting → String
  | range => "--range <START..END>"
  | keywordCase => "--keyword-case <KEYWORD_CASE>"
  | file => "[FILE]"

/-- What is wrong with the arguments. -/
inductive UsageFault where
  | noArguments
  | noCommand
  | unknownCommand (name : String)
  | unknownArgument (text : String)
  | noValue (setting : Setting)
  | surplusValue (value label : String)
  | repeated (label : String)
  | badRange (value : String) (fault : RangeFault)
  | badCase (value : String)
  | excluded (first second : Switch)
  | missing
deriving DecidableEq, Repr

/-- The first line of the message of a fault. -/
def UsageFault.message : UsageFault → String
  | noArguments => purpose
  | noCommand => "error: 'sql-insert-form' requires a subcommand but one was not provided"
  | unknownCommand name => "error: unrecognized subcommand '" ++ name ++ "'"
  | unknownArgument text => "error: unexpected argument '" ++ text ++ "' found"
  | noValue setting => "error: a value is required for '" ++ setting.label ++ "' but none was supplied"
  | surplusValue value label =>
    "error: unexpected value '" ++ value ++ "' for '" ++ label ++ "' found; no more were expected"
  | repeated label => "error: the argument '" ++ label ++ "' cannot be used multiple times"
  | badRange value fault =>
    "error: invalid value '" ++ value ++ "' for '" ++ Setting.range.label ++ "': " ++ fault.message
  | badCase value => "error: invalid value '" ++ value ++ "' for '" ++ Setting.keywordCase.label ++ "'"
  | excluded first second =>
    "error: the argument '" ++ first.label ++ "' cannot be used with '" ++ second.label ++ "'"
  | missing => "error: the following required arguments were not provided:"

/-- What the arguments ask for. -/
inductive Request where
  | run (invocation : Invocation)
  | version
  | help (topic : HelpTopic)
deriving DecidableEq, Repr

/-- What ends the reading of arguments before the last of them. -/
inductive Stop where
  | fault (fault : UsageFault)
  | help
deriving DecidableEq, Repr

/-- What has been taken from the arguments so far. -/
structure Taken where
  /-- The switches, in the order in which they came. -/
  switches : List Switch := []
  /-- How often the verbosity was raised. -/
  verbosity : Nat := 0
  range : Option Text.ByteRange := none
  keywordCase : Option KeywordCase := none
  file : Option String := none
  /-- The setting that came last, with its value as far as that has come, before it is looked at. -/
  pending : Option (Setting × Option String) := none
  /-- Whether everything from here on is no option. -/
  plain : Bool := false
deriving DecidableEq, Repr

namespace Taken

/-- The letter case that a value asks for. -/
def caseOf? : String → Option KeywordCase
  | "upper" => some .upper
  | "lower" => some .lower
  | "preserve" => some .preserve
  | _ => none

/-- A setting with its value. -/
def assign (t : Taken) (setting : Setting) (value : String) : Except Stop Taken :=
  match setting with
  | .range =>
    if t.range.isSome then .error (.fault (.repeated setting.label))
    else
      match parseRange value with
      | .ok range => .ok { t with range := some range }
      | .error fault => .error (.fault (.badRange value fault))
  | .keywordCase =>
    if t.keywordCase.isSome then .error (.fault (.repeated setting.label))
    else if value.isEmpty then .error (.fault (.noValue setting))
    else
      match caseOf? value with
      | some keywordCase => .ok { t with keywordCase := some keywordCase }
      | none => .error (.fault (.badCase value))
  | .file =>
    if value.isEmpty then .error (.fault (.noValue setting)) else .ok { t with file := some value }

/-- Looks at the setting that came last. -/
def settled (t : Taken) : Except Stop Taken :=
  match t.pending with
  | none => .ok t
  | some (setting, none) => .error (.fault (.noValue setting))
  | some (setting, some value) => { t with pending := none }.assign setting value

/-- Takes a switch. -/
def switch (t : Taken) (s : Switch) : Except Stop Taken := do
  let t ← t.settled
  if s = .verbose then
    return { t with verbosity := t.verbosity + 1 }
  else if t.switches.contains s then
    throw (.fault (.repeated s.label))
  else
    return { t with switches := t.switches ++ [s] }

/-- Takes an argument that asks for help. -/
def help (t : Taken) : Except Stop Taken := do
  let _ ← t.settled
  throw .help

/-- The switch with a long name. -/
def longSwitch? : String → Option Switch
  | "in-place" => some .inPlace
  | "quote-identifiers" => some .quoteIdentifiers
  | "keep-going" => some .keepGoing
  | "emit-ast" => some .emitTrees
  | "verbose" => some .verbose
  | _ => none

/-- The setting with a long name. -/
def longSetting? : String → Option Setting
  | "range" => some .range
  | "keyword-case" => some .keywordCase
  | _ => none

/-- The name of a long option, and the value behind its first equality sign. -/
def splitLong (cs : List Char) : String × Option String :=
  let name := cs.takeWhile (· ≠ '=')
  let value := if name.length = cs.length then none else some (String.ofList (cs.drop (name.length + 1)))
  (String.ofList name, value)

/-- Takes a long option of a command, given without its dashes. -/
def long (t : Taken) (cs : List Char) : Except Stop Taken :=
  let (name, value) := splitLong cs
  match longSwitch? name, longSetting? name, value with
  | some s, _, none => t.switch s
  | some s, _, some value => .error (.fault (.surplusValue value s.label))
  | none, some setting, none => do return { ← t.settled with pending := some (setting, none) }
  | none, some setting, some value => do (← t.settled).assign setting value
  | none, none, value =>
    if name = "help" then
      match value with
      | none => t.help
      | some value => .error (.fault (.surplusValue value "--help"))
    else .error (.fault (.unknownArgument ("--" ++ name)))

/-- Takes short options of a command, given without their dash. -/
def short (t : Taken) : List Char → Except Stop Taken
  | [] => .ok t
  | 'v' :: rest => do (← t.switch .verbose).short rest
  | 'i' :: rest => do (← t.switch .inPlace).short rest
  | 'h' :: _ => t.help
  | c :: _ => .error (.fault (.unknownArgument ("-" ++ c.toString)))

/-- Takes an argument that is no option. -/
def operand (t : Taken) (text : String) : Except Stop Taken :=
  if t.file.isSome || t.pending.any (fun (setting, _) => setting = .file) then
    .error (.fault (.unknownArgument text))
  else do return { ← t.settled with pending := some (.file, some text) }

/-- Takes one argument of a command. -/
def argument (t : Taken) (text : String) : Except Stop Taken :=
  if t.plain then t.operand text
  else
    match text.toList with
    | ['-', '-'] => .ok { t with plain := true }
    | '-' :: '-' :: cs => t.long cs
    | '-' :: c :: cs => t.short (c :: cs)
    | _ =>
      match t.pending with
      | some (setting, none) => .ok { t with pending := some (setting, some text) }
      | _ => t.operand text

/-- The first two switches of a list that exclude each other. -/
def exclusion? (switches : List Switch) : Option (Switch × Switch) :=
  match switches.filter fun s => s = .inPlace || s = .emitTrees with
  | first :: second :: _ => some (first, second)
  | _ => none

/-- What the arguments of a command ask for, once all are taken. -/
def invocation (t : Taken) (direction : Direction) (verbosity : Nat) : Except Stop Invocation := do
  let t ← t.settled
  match exclusion? t.switches with
  | some (first, second) => throw (.fault (.excluded first second))
  | none =>
    if t.switches.contains .inPlace && t.file.isNone then throw (.fault .missing)
    else
      return {
        direction
        file := t.file
        inPlace := t.switches.contains .inPlace
        range := t.range
        keywordCase := t.keywordCase.getD .preserve
        quoteIdentifiers := t.switches.contains .quoteIdentifiers
        keepGoing := t.switches.contains .keepGoing
        emitTrees := t.switches.contains .emitTrees
        verbosity := if t.verbosity = 0 then verbosity else t.verbosity }

end Taken

/-- What the arguments behind a command ask for. -/
def commandRequest (direction : Direction) (verbosity : Nat) (arguments : List String) :
    Except UsageFault Request :=
  let found : Except Stop Invocation := do
    (← arguments.foldlM Taken.argument {}).invocation direction verbosity
  match found with
  | .ok invocation => .ok (.run invocation)
  | .error .help => .ok (.help (.command direction))
  | .error (.fault fault) => .error fault

/-- What a command that has a page is called. -/
def helpTopic? : String → Option HelpTopic
  | "to-values" => some (.command .toValues)
  | "to-set" => some (.command .toSet)
  | "help" => some .help
  | _ => none

/-- What the arguments behind the command for help ask for: at most one page, by the name of its command. -/
def helpRequest : List String → Except UsageFault Request
  | [] => .ok (.help .program)
  | name :: rest =>
    match helpTopic? name, rest with
    | none, _ => .error (.unknownCommand name)
    | some topic, [] => .ok (.help topic)
    | some _, surplus :: _ => .error (.unknownCommand surplus)

/-- How often some short options before the command raise the verbosity. -/
def leadingShort (verbosity : Nat) : List Char → Except UsageFault (Nat ⊕ Request)
  | [] => .ok (.inl verbosity)
  | 'v' :: rest => leadingShort (verbosity + 1) rest
  | 'V' :: _ => .ok (.inr .version)
  | 'h' :: _ => .ok (.inr (.help .program))
  | c :: _ => .error (.unknownArgument ("-" ++ c.toString))

/-- What arguments ask for, when options before them have raised the verbosity so far. -/
def requestFrom (verbosity : Nat) : List String → Except UsageFault Request
  | [] => .error .noCommand
  | "to-values" :: rest => commandRequest .toValues verbosity rest
  | "to-set" :: rest => commandRequest .toSet verbosity rest
  | "help" :: rest => helpRequest rest
  | text :: rest =>
    match text.toList with
    | '-' :: '-' :: cs =>
      match Taken.splitLong cs with
      | ("verbose", none) => requestFrom (verbosity + 1) rest
      | ("verbose", some value) => .error (.surplusValue value Switch.verbose.label)
      | ("version", none) => .ok .version
      | ("version", some value) => .error (.surplusValue value "--version")
      | ("help", none) => .ok (.help .program)
      | ("help", some value) => .error (.surplusValue value "--help")
      | (name, _) => .error (.unknownArgument ("--" ++ name))
    | '-' :: c :: cs =>
      match leadingShort verbosity (c :: cs) with
      | .ok (.inl raised) => requestFrom raised rest
      | .ok (.inr request) => .ok request
      | .error fault => .error fault
    | _ => .error (.unknownCommand text)

/-- What the arguments ask for. -/
def request (arguments : List String) : Except UsageFault Request :=
  if arguments.isEmpty then .error .noArguments else requestFrom 0 arguments

end InsertPivot.Command
