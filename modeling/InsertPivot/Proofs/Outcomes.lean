import InsertPivot.Command.Run
import InsertPivot.Proofs.Arguments
import InsertPivot.Proofs.Editing
import InsertPivot.Proofs.Trees

/-!
# What a run leaves behind

A run of the command either succeeds as a whole or leaves everything as it was. `Command.Succeeds` lists the ways to
succeed with what is printed and what the files are afterwards: the trees of the target, or the whole text with its
target converted, which is printed or takes the place of the file's text. The target is told by `Document.Target`, so
all of them are about the same part of the input. That the trees are printed is told by `Tree.Shows`, so no other
statements could have been printed so.

A run that prints trees and one that converts fail together and for the same reason, since both stop at the first
statement of the target that cannot be converted.

Reading and writing are taken to succeed where a file is there and holds text. What is logged is left out. How help
pages are laid out and how the parts of a tree are encoded may be anything.
-/

namespace InsertPivot.Command

open Document (Target Misplaced misplaced_or_target)

/-! ## Files -/

variable {files : List (String × String)} {name : String}

/-- The text that an invocation is for; none where its file is missing or holds no text, or where it would have to wait
for a keyboard. -/
def Invocation.input (i : Invocation) (stdin : Stdin) (files : List (String × String)) : Option String :=
  match i.file, stdin with
  | some name, _ => files.lookup name
  | none, .terminal => none
  | none, .piped text => text

variable {rendering : Rendering} {i : Invocation} {text : String} {range : Text.ByteRange} {before part behind : String}

/-- A run that is asked for fetches its text and concludes. -/
theorem execute_of_request {arguments : List String} {stdin : Stdin} (h : request arguments = .ok (.run i)) :
    execute arguments stdin files rendering = conclude rendering i (i.fetch stdin files) files := by
  rw [execute, h]

/-- Without a file and with a keyboard in the place of another program's text, a run fails as one without a document
does. -/
theorem execute_terminal {arguments : List String} {c : Converter} {direction : Direction} {refusal : Refusal}
    (h : request arguments = .ok (.run i)) (hfile : i.file = none)
    (hrefusal : (Document.run c direction (none : Option Buffer)).1 = .error refusal) :
    execute arguments .terminal files rendering =
      { code := 1, error := some ("Error: " ++ refusal.message), files } := by
  cases hrefusal
  have hfetch : i.fetch .terminal files = .error Refusal.noTarget.message := by simp only [Invocation.fetch, hfile]
  rw [execute_of_request h, hfetch]
  rfl

end InsertPivot.Command
