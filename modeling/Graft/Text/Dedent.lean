set_option autoImplicit false

/-! # Removing common indentation

The blanks that all lines of a text begin with are removed.  Lines that consist of blanks alone do
not count and become empty.  Tabs and spaces are told apart. -/

namespace Graft.Text

/-- The lines of a text; there is one more of them than line feeds. -/
def splitLines : List Char → List (List Char)
  | [] => [[]]
  | '\n' :: cs => [] :: splitLines cs
  | c :: cs =>
    match splitLines cs with
    | [] => [[c]]
    | line :: rest => (c :: line) :: rest

/-- Lines with line feeds between them. -/
def joinLines : List (List Char) → List Char
  | [] => []
  | [line] => line
  | line :: rest => line ++ '\n' :: joinLines rest

/-- What two texts begin with. -/
def commonStart : List Char → List Char → List Char
  | a :: as, b :: bs => if a == b then a :: commonStart as bs else []
  | _, _ => []

/-- Whether a character indents. -/
def isIndent (c : Char) : Bool := c == ' ' || c == '\t'

/-- The indentation that the lines with content have in common. -/
def commonIndent (lines : List (List Char)) : List Char :=
  let indents := lines.filterMap fun line =>
    if line.all isIndent then none else some (line.takeWhile isIndent)
  match indents with
  | [] => []
  | first :: rest => rest.foldl commonStart first

/-- The text without the indentation that its lines have in common. -/
def dedent (cs : List Char) : List Char :=
  let lines := splitLines cs
  let n := (commonIndent lines).length
  joinLines (lines.map fun line => if line.all isIndent then [] else line.drop n)

end Graft.Text
