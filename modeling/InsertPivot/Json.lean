/-!
# JSON documents

A JSON value whose objects keep the order of their members, and its text over several lines: two blanks of
indentation for each level, one member or element a line, and nothing between the brackets of an empty one.
Characters beyond ASCII stand as they are.

A document may leave parts to others, who know how to write them. `Json α` has parts of the type `α`, and a
`Json Empty` has none; only such a document has a text.
-/

namespace InsertPivot

/-- A JSON value with parts that are left to others. -/
inductive Json (α : Type) where
  | null
  | boolean (value : Bool)
  | number (value : Int)
  | text (value : String)
  | array (elements : List (Json α))
  | object (members : List (String × Json α))
  /-- A part that is written by other means. -/
  | part (part : α)

namespace Json

/-! ## Parts -/

section Parts

variable {α : Type} (encode : List Nat → α → Json Empty)

mutual

/-- A document with all parts filled in. Each is encoded in view of its place, which is told by the numbers of
the elements and members on the way to it. -/
def complete (place : List Nat) : Json α → Json Empty
  | null => null
  | boolean value => boolean value
  | number value => number value
  | text value => text value
  | array elements => array (completeElements place 0 elements)
  | object members => object (completeMembers place 0 members)
  | part found => encode place found

/-- The elements of an array from a number on. -/
def completeElements (place : List Nat) (number : Nat) : List (Json α) → List (Json Empty)
  | [] => []
  | element :: rest => complete (place ++ [number]) element :: completeElements place (number + 1) rest

/-- The members of an object from a number on. -/
def completeMembers (place : List Nat) (number : Nat) : List (String × Json α) → List (String × Json Empty)
  | [] => []
  | (name, value) :: rest =>
    (name, complete (place ++ [number]) value) :: completeMembers place (number + 1) rest

end

end Parts

/-! ## Text -/

/-- The digit of a number below sixteen. -/
def hexDigit (n : Nat) : Char :=
  if n < 10 then Char.ofNat (0x30 + n) else Char.ofNat (0x57 + n)

/-- A character inside a text. -/
def escapeChar (c : Char) : List Char :=
  match c with
  | '\x22' => ['\\', '\x22']
  | '\\' => ['\\', '\\']
  | '\n' => ['\\', 'n']
  | '\r' => ['\\', 'r']
  | '\t' => ['\\', 't']
  | '\x08' => ['\\', 'b']
  | '\x0c' => ['\\', 'f']
  | c =>
    if c.toNat < 0x20 then ['\\', 'u', '0', '0', hexDigit (c.toNat / 16), hexDigit (c.toNat % 16)]
    else [c]

/-- A text between double quotes. -/
def quote (value : String) : String :=
  "\x22" ++ String.ofList (value.toList.flatMap escapeChar) ++ "\x22"

/-- A line end, and the indentation of a level. -/
def newline (level : Nat) : String :=
  String.ofList ('\n' :: List.replicate (2 * level) ' ')

/-- Lines between brackets, the brackets on lines of a level; the brackets alone when there are no lines. -/
def bracketed (opening closing : String) (level : Nat) : List String → String
  | [] => opening ++ closing
  | line :: lines =>
    opening ++ newline (level + 1) ++ ("," ++ newline (level + 1)).intercalate (line :: lines) ++
      newline level ++ closing

mutual

/-- A value as it stands at a level. -/
def pretty (level : Nat) : Json Empty → String
  | null => "null"
  | boolean value => if value then "true" else "false"
  | number value => toString value
  | text value => quote value
  | array elements => bracketed "[" "]" level (prettyElements (level + 1) elements)
  | object members => bracketed "\x7b" "\x7d" level (prettyMembers (level + 1) members)

/-- The elements of an array. -/
def prettyElements (level : Nat) : List (Json Empty) → List String
  | [] => []
  | element :: rest => pretty level element :: prettyElements level rest

/-- The members of an object. -/
def prettyMembers (level : Nat) : List (String × Json Empty) → List String
  | [] => []
  | (name, value) :: rest => (quote name ++ ": " ++ pretty level value) :: prettyMembers level rest

end

/-! ## Shapes -/

section Shapes

variable {α ι : Type}

/-- An object with one member. -/
def tagged (name : String) (value : Json α) : Json α :=
  object [(name, value)]

/-- An array of the values of some items. -/
def ofList (value : ι → Json α) (items : List ι) : Json α :=
  array (items.map value)

/-- The value of an item, or null. -/
def ofOption (value : ι → Json α) : Option ι → Json α
  | none => null
  | some item => value item

end Shapes

end Json

end InsertPivot
