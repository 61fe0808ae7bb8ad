import InsertPivot.Text.Position

/-!
# Identifiers

An identifier keeps its body as it was written between its quotes, so a doubled quote stays doubled and a
backslash stays a backslash. Writing it back puts the quotes around the body again, and `escape` doubles
only those quotes of the body that would end it: one that follows a backslash or stands in a pair is kept.
So a body that was read from a text is written as it was.
-/

namespace InsertPivot.Sql

/-- The body of a quoted text, with a quote doubled where it would end the text. `escaped` says that the
last character that was no quote is a backslash and that only quotes kept for its sake have followed. -/
def escapeFrom (quote : Char) (escaped : Bool) : List Char → List Char
  | [] => []
  | c :: cs =>
    if c = quote then
      if escaped then c :: escapeFrom quote true cs
      else
        match cs with
        | [] => [c, c]
        | d :: ds =>
          if d = quote then c :: d :: escapeFrom quote false ds
          else c :: c :: escapeFrom quote false (d :: ds)
    else c :: escapeFrom quote (c = '\\') cs

/-- The body of a quoted text, with each quote doubled that would end the text. -/
def escape (quote : Char) (body : String) : String :=
  String.ofList (escapeFrom quote false body.toList)

/-- A body between its quotes. -/
def enclose (quote : Char) (body : String) : String :=
  quote.toString ++ escape quote body ++ quote.toString

/-- A name, quoted or not. -/
structure Ident where
  /-- The body, as written between the quotes. -/
  value : String
  /-- The opening quote. -/
  quote : Option Char := none
  span : Text.Span := .none
deriving DecidableEq, Repr

namespace Ident

/-- An identifier as it is written. A bracketed body is written unchanged. -/
def text (name : Ident) : String :=
  match name.quote with
  | none => name.value
  | some '[' => "[" ++ name.value ++ "]"
  | some quote => enclose quote name.value

/-- The identifier between backticks, wherever it was read. -/
def backticked (name : Ident) : Ident :=
  ⟨name.value, some '\x60', .none⟩

end Ident

/-- Names joined by periods. -/
def dotted (names : List Ident) : String :=
  ".".intercalate (names.map Ident.text)

end InsertPivot.Sql
