import Graft.Syntax.Fault

set_option autoImplicit false

/-! # Tokens

A token is a piece of source text with its place.  Lines count from one and columns from zero;
columns count the bytes of the UTF-8 form, as positions in the syntax tree do.  Layout tokens
(indentation, its end, the end of the text) stand for no text and have no column.

Besides its own place a token remembers how far the reader had come when it was complete: faults
that are raised "here" are reported there. -/

namespace Graft.Syntax

/-- The classes of tokens the grammar tells apart. -/
inductive TokenKind
  | name
  | keyword
  | number
  | string
  | operator
  | newline
  | indent
  | dedent
  | endMarker
  | broken
deriving DecidableEq, Repr

/-- How far the reader had come: the line, the bytes read of it, and the line on which the
    text that is being held for the present token begins. -/
structure Reach where
  line : Nat
  column : Nat
  heldFrom : Nat
deriving DecidableEq, Repr

/-- A piece of source text with its place. -/
structure Token where
  kind : TokenKind
  text : String
  line : Nat
  column : Option Nat
  endLine : Nat
  endColumn : Option Nat
  /-- How many brackets are open behind the token. -/
  depth : Nat
  reach : Reach
deriving DecidableEq, Repr

/-- Whether a token is layout that no syntax tree node extends over. -/
def Token.isLayout (t : Token) : Bool :=
  match t.kind with
  | .newline | .indent | .dedent | .endMarker => true
  | _ => false

/-- A bracket that has been opened and not closed yet. -/
structure OpenBracket where
  bracket : Char
  line : Nat
  column : Nat
deriving DecidableEq, Repr

/-- Why the text cannot be cut into tokens any further. -/
inductive Break
  /-- A fault with its own message and place. -/
  | fault (f : Fault)
  /-- The text ended within brackets or after a line continuation. -/
  | endOfText
  /-- A line is indented like no open block. -/
  | dedent
  /-- Tabs and spaces are mixed so that the indentation depends on the width of a tab. -/
  | tabs
  /-- There are too many open blocks. -/
  | tooDeep
  /-- A backslash is followed by something else than the end of its line. -/
  | continuation
deriving DecidableEq, Repr

/-- Source text cut into tokens.  The last token is the end marker, or a broken one if the
    text could not be cut to its end. -/
structure Tokens where
  /-- The lines of the text, each without its end. -/
  lines : Array (List Char)
  /-- The tokens in order. -/
  tokens : Array Token
  /-- Why the last token is broken. -/
  broken : Option Break := none
  /-- The brackets that were open at the end, innermost first. -/
  openBrackets : List OpenBracket := []

/-- The words that are never names. -/
def keywords : List String :=
  ["False", "None", "True", "and", "as", "assert", "async", "await", "break", "class",
   "continue", "def", "del", "elif", "else", "except", "finally", "for", "from", "global", "if",
   "import", "in", "is", "lambda", "nonlocal", "not", "or", "pass", "raise", "return", "try",
   "while", "with", "yield"]

end Graft.Syntax
