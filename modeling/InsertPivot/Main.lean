import InsertPivot.Command.Run

/-!
# The command line

The program itself: it fetches the text that an invocation is for, and carries out what `Command.conclude`
decides.
-/

namespace InsertPivot

/-- The text that an invocation is for, or why it cannot be had. -/
def fetch (i : Command.Invocation) : IO (Except String String) := do
  match i.file with
  | some name =>
    let files ← try
      pure [(name, ← IO.FS.readFile name)]
    catch _ =>
      pure []
    return i.fetch .terminal files
  | none =>
    let stdin ← IO.getStdin
    if ← stdin.isTty then
      return i.fetch .terminal []
    else
      return i.fetch (.piped (String.fromUTF8? (← stdin.readBinToEnd))) []

/-- Carries out what a run leaves behind. -/
def deliver (i : Command.Invocation) (outcome : Command.Outcome) : IO UInt32 := do
  for line in outcome.log do
    IO.eprintln line
  if let some message := outcome.error then
    IO.eprintln message
  if i.inPlace && outcome.code = 0 then
    for (name, text) in outcome.files do
      IO.FS.writeFile name text
  IO.print outcome.stdout
  return outcome.code.toUInt32

end InsertPivot

open InsertPivot in
/-- Converts the statements of a file or of standard input. -/
def main (arguments : List String) : IO UInt32 := do
  match Command.request arguments with
  | .error fault =>
    IO.eprintln fault.message
    return 2
  | .ok .version =>
    IO.print Command.versionLine
    return 0
  | .ok (.help topic) =>
    IO.print topic.page.text
    return 0
  | .ok (.run i) =>
    let found ← fetch i
    let files := match i.file, found with
      | some name, .ok text => [(name, text)]
      | _, _ => []
    deliver i (Command.conclude {} i found files)
