import Graft.Syntax.Lexer

set_option autoImplicit false

/-! # Where a definition ends

The extent of a definition at the beginning of a text, found from its tokens alone: decorators are
passed over, and the definition ends where a block that it has opened is closed again, or, if its
body is on its own line, at the end of that line.  Text behind it does not matter. -/

namespace Graft.Splice

open Graft.Syntax

/-- How far a definition has been followed. -/
structure Extent where
  /-- The definition has begun. -/
  isStarted : Bool := false
  isLambda : Bool := false
  inDecorator : Bool := false
  /-- The decorator has arguments in brackets. -/
  hasArguments : Bool := false
  /-- The rest of the line does not matter. -/
  skipsLine : Bool := false
  /-- How many blocks are open. -/
  depth : Int := 0
  /-- The last line that belongs to the definition. -/
  last : Nat := 1

namespace Extent

/-- Follows a definition over a token, or finds that it has ended. -/
def step (e : Extent) (t : Token) : Option Extent :=
  if !e.isStarted && !e.inDecorator then
    let e := { e with skipsLine := true }
    some (if t.text == "@" then { e with inDecorator := true }
      else if t.text == "lambda" then { e with isStarted := true, isLambda := true }
      else if t.text == "def" || t.text == "class" then { e with isStarted := true }
      else e)
  else if t.text == "(" then
    some (if e.inDecorator then { e with hasArguments := true } else e)
  else if t.text == ")" then
    some (if e.inDecorator then { e with inDecorator := false, hasArguments := false } else e)
  else
    match t.kind with
    | .newline =>
      let e := { e with skipsLine := false, last := t.line }
      if e.isLambda then none
      else some (if e.inDecorator && !e.hasArguments then { e with inDecorator := false } else e)
    | kind =>
      if e.skipsLine then some e
      else
        match kind with
        | .indent => some { e with depth := e.depth + 1, skipsLine := true }
        | .dedent => if e.depth ≤ 1 then none else some { e with depth := e.depth - 1 }
        | _ => if e.depth == 0 then none else some e

/-- Follows a definition over tokens; gives the last line that belongs to it. -/
def follow : Extent → List Token → Nat
  | e, [] => e.last
  | e, t :: ts =>
    if t.kind == .broken then e.last
    else
      match e.step t with
      | some e => follow e ts
      | none => e.last

end Extent

/-- The number of lines of the definition that a text begins with. -/
def definitionLines (source : List Char) : Nat :=
  ({} : Extent).follow (Tokens.ofText source).tokens.toList

/-- Whether a line begins like a definition, a decorator or a line with an anonymous function. -/
def beginsDefinition (line : List Char) : Bool :=
  let cs := line.dropWhile fun c => c == ' ' || c == '\t' || c == '\x0c'
  let word (s : String) (cs : List Char) : Option (List Char) :=
    let rest := cs.drop s.length
    match rest with
    | c :: _ =>
      if s.toList.isPrefixOf cs && (c == ' ' || c == '\t') then some rest else none
    | [] => none
  let isDefinition := (word "def" cs).isSome
    || ((word "async" cs).bind fun rest =>
      word "def" (rest.dropWhile fun c => c == ' ' || c == '\t')).isSome
  isDefinition || cs.head? == some '@' || mentionsLambda none line
where
  /-- Whether the word for anonymous functions occurs, and not at the end of a longer word. -/
  mentionsLambda (before : Option Char) : List Char → Bool
    | [] => false
    | c :: cs =>
      let isPart := match before with
        | some b => b.isAlphanum || b == '_'
        | none => false
      let follows := match cs.drop 5 with
        | d :: _ => d == ':' || d == ' ' || d == '\t'
        | [] => false
      (!isPart && "lambda".toList.isPrefixOf (c :: cs) && follows) || mentionsLambda (some c) cs

/-- The index of the line that a definition begins at, which is the given one or else the next one
    before it that begins like a definition. -/
def beginning (lines : List String) : Nat → Option Nat
  | 0 => some 0
  | n + 1 =>
    match lines[n + 1]? with
    | none => none
    | some line =>
      if beginsDefinition line.toList then some (n + 1) else beginning lines n

/-- The text of the definition that begins at a line, counted from zero. -/
def definitionText (lines : List String) (line : Nat) : Option String :=
  (beginning lines line).map fun first =>
    let rest := lines.drop first
    String.join (rest.take (definitionLines (String.join rest).toList))

end Graft.Splice
