import InsertPivot.Insert.Form

/-!
# Help pages

What the command says about itself: one page for the whole of it, one for each of its commands, and one for
the command that shows the pages. A page lists what it is about, how the command is called, and what may stand
behind it. How the lists are set in columns and lines is left to a layout, of which `HelpPage.text` is one.
-/

namespace InsertPivot.Command

/-- A page of help. -/
structure HelpPage where
  about : String
  usage : String
  commands : List (String × String) := []
  arguments : List (String × String) := []
  options : List (String × String) := []
deriving DecidableEq, Repr

/-- What help is asked about. -/
inductive HelpTopic where
  | program
  | command (direction : Direction)
  | help
deriving DecidableEq, Repr

/-- What the command is for. -/
def purpose : String :=
  "Flip MySQL INSERT statements between the VALUES form and the SET form"

/-- What a command does. -/
def commandPurpose : Direction → String
  | .toValues => "Rewrite \x60INSERT ... SET\x60 statements as \x60INSERT ... VALUES\x60"
  | .toSet => "Rewrite \x60INSERT ... VALUES\x60 statements as \x60INSERT ... SET\x60"

/-- The word for a command. -/
def commandName : Direction → String
  | .toValues => "to-values"
  | .toSet => "to-set"

/-- What the command that shows the pages does. -/
def helpPurpose : String :=
  "Print this message or the help of the given subcommand(s)"

/-- The option for more of the log, which stands before a command or behind it. -/
def verboseRow : String × String :=
  ("-v, --verbose...", "Increase log verbosity (-v, -vv, -vvv); \x60RUST_LOG\x60 takes precedence")

/-- The option that asks for a page. -/
def helpRow : String × String :=
  ("-h, --help", "Print help")

/-- The options behind a command. -/
def commandRows : List (String × String) :=
  [("-i, --in-place", "Write the result back to FILE instead of stdout"),
    verboseRow,
    ("    --range <START..END>", "Only convert the byte range START..END of the input"),
    ("    --keyword-case <KEYWORD_CASE>",
      "Letter case of keywords in converted statements [default: preserve] [possible values: upper, lower, preserve]"),
    ("    --quote-identifiers", "Backtick every table and column name"),
    ("    --keep-going", "Leave statements that fail to convert unchanged instead of aborting"),
    ("    --emit-ast", "Print the converted statement trees as JSON instead of SQL"),
    helpRow]

/-- The page about a topic. -/
def HelpTopic.page : HelpTopic → HelpPage
  | program =>
    { about := purpose
      usage := "sql-insert-form [OPTIONS] <COMMAND>"
      commands :=
        ([.toValues, .toSet].map fun direction => (commandName direction, commandPurpose direction)) ++
          [("help", helpPurpose)]
      options := [verboseRow, helpRow, ("-V, --version", "Print version")] }
  | command direction =>
    { about := commandPurpose direction
      usage := "sql-insert-form " ++ commandName direction ++ " [OPTIONS] [FILE]"
      arguments := [("[FILE]", "Input file; stdin when omitted")]
      options := commandRows }
  | help =>
    { about := helpPurpose
      usage := "sql-insert-form help [COMMAND]..."
      arguments := [("[COMMAND]...", "Print help for the subcommand(s)")] }

/-- The lines of a list with its title, each text behind its label. -/
def listLines (title : String) (rows : List (String × String)) : List String :=
  let width := (rows.map (·.1.length)).foldl max 0
  let line (label text : String) : String :=
    "  " ++ label ++ String.ofList (List.replicate (width - label.length) ' ') ++ "  " ++ text
  if rows.isEmpty then [] else "" :: (title ++ ":") :: rows.map fun (label, text) => line label text

/-- A page with its texts in columns, each on one line however long. -/
def HelpPage.text (page : HelpPage) : String :=
  "\n".intercalate
    ([page.about, "", "Usage: " ++ page.usage] ++ listLines "Commands" page.commands ++
      listLines "Arguments" page.arguments ++ listLines "Options" page.options) ++ "\n"

end InsertPivot.Command
