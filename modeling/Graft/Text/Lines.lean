set_option autoImplicit false

/-! # Lines with their ends

Text is cut behind every line end.  A line feed, a carriage return and both together end a line
wherever text is cut; program text has no other line ends, while text at large is also cut at the
other separators that Unicode knows. -/

namespace Graft.Text

/-- Whether a character ends a line of program text. -/
def endsProgramLine (c : Char) : Bool := c == '\n' || c == '\r'

/-- Whether a character ends a line of text. -/
def endsLine (c : Char) : Bool :=
  let n := c.toNat
  (10 ≤ n && n ≤ 13) || (28 ≤ n && n ≤ 30) || n == 0x85 || n == 0x2028 || n == 0x2029

/-- Cuts text behind the characters that end a line.  A carriage return and a line feed behind it are
    one end. -/
def cutLines (ends : Char → Bool) (cs : List Char) : List (List Char) :=
  go cs []
where
  /-- The lines from a place on; the given characters come before it, in reverse. -/
  go : List Char → List Char → List (List Char)
    | [], [] => []
    | [], line => [line.reverse]
    | '\r' :: '\n' :: rest, line => ('\n' :: '\r' :: line).reverse :: go rest []
    | c :: rest, line =>
      if ends c then (c :: line).reverse :: go rest [] else go rest (c :: line)

/-- The lines of a text with their ends. -/
def linesWithEnds (cs : List Char) : List (List Char) := cutLines endsLine cs

/-- The lines of program text with their ends. -/
def programLines (cs : List Char) : List (List Char) := cutLines endsProgramLine cs

/-- A line without its end. -/
def withoutEnd (line : List Char) : List Char :=
  match line.reverse with
  | '\n' :: '\r' :: rest | '\n' :: rest | '\r' :: rest => rest.reverse
  | _ => line

end Graft.Text
