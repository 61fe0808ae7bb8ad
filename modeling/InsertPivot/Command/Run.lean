import InsertPivot.Command.Arguments
import InsertPivot.Insert.Tree
import InsertPivot.Log

/-!
# Running the command

The command reads one text, from a file or from standard input, and either prints the converted text, or
writes it back to the file, or prints the statements as trees. When anything fails, it prints nothing and
writes nothing.

`perform` is what an invocation does with its text. `execute` is a whole run, from the arguments to the exit
code, on a list of files; only the file that is converted in place differs afterwards.

How help pages are laid out, and how those parts of a statement are encoded that a tree does not hold whole, is
not decided here: a run is given a `Rendering`.
-/

namespace InsertPivot.Command

/-- How the libraries that the command is built on write what they are given. -/
structure Rendering where
  encode : Tree.Encoding := .asText
  layout : HelpPage → String := HelpPage.text

/-- The text of a run that succeeds. -/
inductive Output where
  /-- Text for standard output. -/
  | print (text : String)
  /-- The new text of the file. -/
  | write (text : String)
deriving DecidableEq, Repr

/-- The converter that an invocation asks for. -/
def Invocation.converter (i : Invocation) : Converter where
  codec := .standard ⟨i.keywordCase, i.quoteIdentifiers⟩
  policy := if i.keepGoing then .skip else .abort

/-- The document that an invocation converts. -/
def Invocation.buffer (i : Invocation) (text : String) : Buffer :=
  ⟨text, i.range⟩

/-- What an invocation makes of its text. -/
def perform (rendering : Rendering) (i : Invocation) (text : String) : Except Refusal Output :=
  let buffer := i.buffer text
  if i.emitTrees then do
    let range ← Document.targetRange buffer
    let statements ← i.converter.statements (Document.part buffer range) i.direction
    return .print ((Tree.document statements rendering.encode).pretty 0 ++ "\n")
  else do
    let (answer, converted) := Document.rewritten i.converter i.direction buffer
    let _ ← answer
    return if i.inPlace && i.file.isSome then .write converted.text else .print converted.text

/-- What an invocation reports about its text. -/
def report (i : Invocation) (text : String) : List Event :=
  let buffer := i.buffer text
  if i.emitTrees then
    match Document.targetRange buffer with
    | .error _ => []
    | .ok range => i.converter.events (Document.part buffer range) i.direction
  else
    Document.events i.converter i.direction buffer ++
      match (Document.rewritten i.converter i.direction buffer).1 with
      | .error _ => []
      | .ok range => [.done i.direction range]

/-- The lines of the log that an invocation shows. -/
def logLines (i : Invocation) (text : String) : List String :=
  ((report i text).filter (·.level.isShown i.verbosity)).map Event.line

/-- What a run leaves behind. -/
structure Outcome where
  code : Nat
  stdout : String := ""
  /-- The line that says why the run failed. -/
  error : Option String := none
  log : List String := []
  /-- The files and their texts. -/
  files : List (String × String)
deriving DecidableEq, Repr

/-- What the program and its version are called. -/
def versionLine : String :=
  "sql-insert-form 0.1.0\n"

/-- What stands on standard input. -/
inductive Stdin where
  /-- Somebody's keyboard, which is not waited for. -/
  | terminal
  /-- What another program has written, if it is text. -/
  | piped (text : Option String)
deriving DecidableEq, Repr

/-- The text that an invocation is for, or why it cannot be had. -/
def Invocation.fetch (i : Invocation) (stdin : Stdin) (files : List (String × String)) :
    Except String String :=
  match i.file, stdin with
  | some name, _ =>
    match files.lookup name with
    | some text => .ok text
    | none => .error ("failed to read " ++ name)
  | none, .terminal => .error Refusal.noTarget.message
  | none, .piped none => .error "failed to read stdin"
  | none, .piped (some text) => .ok text

/-- The files with a new text for one of them. -/
def withFile (files : List (String × String)) (name text : String) : List (String × String) :=
  files.map fun file => if file.1 = name then (name, text) else file

/-- What an invocation leaves behind, once its text was had or not. -/
def conclude (rendering : Rendering) (i : Invocation) (found : Except String String)
    (files : List (String × String)) : Outcome :=
  match found with
  | .error reason => { code := 1, error := some ("Error: " ++ reason), files }
  | .ok text =>
    let log := logLines i text
    match perform rendering i text with
    | .error refusal => { code := 1, error := some ("Error: " ++ refusal.message), log, files }
    | .ok (.print printed) => { code := 0, stdout := printed, log, files }
    | .ok (.write written) => { code := 0, log, files := withFile files (i.file.getD "") written }

/-- A whole run. -/
def execute (arguments : List String) (stdin : Stdin) (files : List (String × String))
    (rendering : Rendering := {}) : Outcome :=
  match request arguments with
  | .error fault => { code := 2, error := some fault.message, files }
  | .ok .version => { code := 0, stdout := versionLine, files }
  | .ok (.help topic) => { code := 0, stdout := rendering.layout topic.page, files }
  | .ok (.run i) => conclude rendering i (i.fetch stdin files) files

end InsertPivot.Command
