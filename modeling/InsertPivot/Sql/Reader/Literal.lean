import InsertPivot.Sql.Literal
import InsertPivot.Sql.Reader

/-!
# Reading literals

Strings that stand side by side, in either kind of quotes, are one string of the first one's kind; their
bodies are joined as written. A colon or an at sign makes the word or number directly behind it a
placeholder.
-/

namespace InsertPivot.Sql.Reader

/-- The bodies of the strings that some lexemes start with, and the lexemes after them. -/
def adjacentBodies : List Lexeme → List String × List Lexeme
  | [] => ([], [])
  | l :: ls =>
    match l.token with
    | .string .single body => let (bodies, rest) := adjacentBodies ls; (body :: bodies, rest)
    | .string .double body => let (bodies, rest) := adjacentBodies ls; (body :: bodies, rest)
    | _ => ([], l :: ls)

/-- The body of a string that goes on in the strings beside it. -/
def joinedBody (body : String) : Reader String := fun ls =>
  let (bodies, rest) := adjacentBodies ls
  .ok (String.join (body :: bodies), rest)

/-- The placeholder that a sign makes of what directly follows it, and where that ends. -/
def boundPlaceholder (sign : Symbol) (from_ : Lexeme) : Reader (Literal × Text.Span) := do
  match from_.gap with
  | some blank => throw (.expected "placeholder" (some (blank.text, from_.span.last)))
  | none =>
    match ← next? with
    | some ⟨.word text _, span, _⟩ =>
      return (.placeholder (sign.text ++ text), ⟨from_.span.first, span.last⟩)
    | some ⟨.number text false, span, _⟩ =>
      return (.placeholder (sign.text ++ text), ⟨from_.span.first, span.last⟩)
    | found => expectedAt "placeholder" found

/-- A literal and its place. The place of strings side by side is that of the first. -/
def literal : Reader (Literal × Text.Span) := do
  match ← next? with
  | none => expectedAt "a value" none
  | some found =>
    match found.token with
    | .word _ (some _) => expectedAt "A value?" (some found)
    | .word _ none =>
      match found.token.keyword? with
      | some "TRUE" => return (.boolean true, found.span)
      | some "FALSE" => return (.boolean false, found.span)
      | some "NULL" => return (.null, found.span)
      | _ => expectedAt "a concrete value" (some found)
    | .number text long => return (.number text long, found.span)
    | .string .single body => return (.single (← joinedBody body), found.span)
    | .string .double body => return (.double (← joinedBody body), found.span)
    | .string .hex digits => return (.hex digits, found.span)
    | .string .bits body => return (.bits body, found.span)
    | .string .bitsDouble body => return (.bitsDouble body, found.span)
    | .string .national body => return (.national body, found.span)
    | .placeholder text => return (.placeholder text, found.span)
    | .symbol .colon => boundPlaceholder .colon found
    | .symbol .atSign => boundPlaceholder .atSign found
    | _ => expectedAt "a value" (some found)

/-- A string behind the name of its character set, not joined to the strings beside it. -/
def introducedString : Reader (Literal × Text.Span) := do
  match ← next? with
  | some ⟨.string .single body, span, _⟩ => return (.single body, span)
  | some ⟨.string .double body, span, _⟩ => return (.double body, span)
  | some ⟨.string .hex digits, span, _⟩ => return (.hex digits, span)
  | found => expectedAt "a string" found

end InsertPivot.Sql.Reader
