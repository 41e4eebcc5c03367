import Graft.Syntax.StringLiteral

set_option autoImplicit false

/-! # Formatted string literals

The body of a formatted string is literal text with fields in braces: an expression, possibly an
equals sign that has the expression's own text shown, a conversion, and a format that may have
fields of its own.  The expressions are read by a function given from outside. -/

namespace Graft.Syntax

/-- Why a string literal is faulty: a message to be raised where the literal ends, a message about
    the literal itself, or a fault within a field. -/
inductive StringFault
  | here (message : String)
  | literal (message : String)
  | field (f : Fault)

namespace FormatString

/-- A part of a formatted string. -/
inductive Part
  | text (cs : List Char)
  | field (value : Expr) (conversion : Conversion) (format : Option (List Part))

/-- Adds literal text behind parts. -/
def addText (parts : List Part) (cs : List Char) : List Part :=
  match cs, parts with
  | [], _ => parts
  | _, .text before :: rest => .text (before ++ cs) :: rest
  | _, _ => .text cs :: parts

/-- Reads an expression's text; the number says how many characters of the literal precede the
    brace. -/
abbrev FieldReader := Nat → List Char → Except StringFault Expr

/-! ## Literal text -/

/-- How a piece of literal text ends. -/
inductive TextEnd
  /-- A doubled brace: the text goes on behind it. -/
  | doubled
  /-- A brace, or the end of the string. -/
  | stop

/-- Takes literal text up to a brace.  At the outermost level doubled braces stand for themselves
    and a closing brace on its own is a fault. -/
def takeText (raw top : Bool) :
    Nat → List Char → List Char → Except StringFault (List Char × TextEnd × List Char)
  | 0, cs, acc => .ok (acc.reverse, .stop, cs)
  | _, [], acc => .ok (acc.reverse, .stop, [])
  | n + 1, c :: rest, acc =>
    if !raw && c == '\\' && !rest.isEmpty then
      match rest with
      | 'N' :: '{' :: inner =>
        let name := inner.takeWhile (· != '}')
        let taken := if name.length < inner.length then name ++ ['}'] else name
        takeText raw top n (inner.drop taken.length) ((['\\', 'N', '{'] ++ taken).reverse ++ acc)
      | 'N' :: d :: rest => takeText raw top n rest (d :: 'N' :: '\\' :: acc)
      | d :: rest =>
        if d == '{' || d == '}' then brace d rest ('\\' :: acc)
        else takeText raw top n rest (d :: '\\' :: acc)
      | [] => .ok (('\\' :: acc).reverse, .stop, [])
    else if c == '{' || c == '}' then brace c rest acc
    else takeText raw top n rest (c :: acc)
where
  /-- Decides at a brace. -/
  brace (c : Char) (rest acc : List Char) :
      Except StringFault (List Char × TextEnd × List Char) :=
    if top && rest.head? == some c then .ok ((c :: acc).reverse, .doubled, rest.drop 1)
    else if top && c == '}' then .error (.here "f-string: single '\x7d' is not allowed")
    else .ok (acc.reverse, .stop, c :: rest)

/-! ## Fields -/

/-- Takes the text of an expression: everything up to the conversion, format, equals sign or
    closing brace outside of brackets and strings. -/
def takeExpr : Nat → List Char → List Char → Option (Char × Bool) → List Char →
    Except StringFault (List Char × List Char)
  | 0, cs, acc, _, _ => .ok (acc.reverse, cs)
  | n + 1, cs, acc, quote, brackets =>
    match cs with
    | [] =>
      match quote, brackets with
      | some _, _ => .error (.here "f-string: unterminated string")
      | none, b :: _ => .error (.here ("f-string: unmatched '" ++ b.toString ++ "'"))
      | none, [] => .ok (acc.reverse, [])
    | c :: rest =>
      if c == '\\' then
        .error (.here "f-string expression part cannot include a backslash")
      else match quote with
        | some (q, long) =>
          if c == q then
            if long then
              match rest with
              | a :: b :: rest' =>
                if a == q && b == q then takeExpr n rest' (b :: a :: c :: acc) none brackets
                else takeExpr n rest (c :: acc) quote brackets
              | _ => takeExpr n rest (c :: acc) quote brackets
            else takeExpr n rest (c :: acc) none brackets
          else takeExpr n rest (c :: acc) quote brackets
        | none =>
          if c == '\'' || c == '"' then
            match rest with
            | a :: b :: rest' =>
              if a == c && b == c then takeExpr n rest' (b :: a :: c :: acc) (some (c, true)) brackets
              else takeExpr n rest (c :: acc) (some (c, false)) brackets
            | _ => takeExpr n rest (c :: acc) (some (c, false)) brackets
          else if c == '[' || c == '{' || c == '(' then
            if maxBrackets ≤ brackets.length then
              .error (.here "f-string: too many nested parenthesis")
            else takeExpr n rest (c :: acc) none (c :: brackets)
          else if c == '#' then .error (.here "f-string expression part cannot include '#'")
          else if brackets.isEmpty && (c == '!' || c == ':' || c == '}' || c == '=' || c == '<'
              || c == '>') then
            if rest.head? == some '=' && (c == '!' || c == '=' || c == '<' || c == '>') then
              takeExpr n (rest.drop 1) ('=' :: c :: acc) none brackets
            else if c == '<' || c == '>' then takeExpr n rest (c :: acc) none brackets
            else .ok (acc.reverse, c :: rest)
          else if c == ']' || c == '}' || c == ')' then
            match brackets with
            | [] => .error (.here ("f-string: unmatched '" ++ c.toString ++ "'"))
            | b :: outer =>
              if Scanner.closing b == c then takeExpr n rest (c :: acc) none outer
              else .error (.here ("f-string: closing parenthesis '" ++ c.toString
                ++ "' does not match opening parenthesis '" ++ b.toString ++ "'"))
          else takeExpr n rest (c :: acc) none brackets

/-- The white space that an expression may consist of without being one. -/
def isFieldBlank (c : Char) : Bool :=
  c == ' ' || c == '\t' || c == '\n' || c == '\x0c'

/-- Reads the conversion behind an exclamation mark. -/
def takeConversion (cs : List Char) : Except StringFault (Conversion × List Char) :=
  match cs with
  | [] => .error (.here "f-string: expecting '\x7d'")
  | 's' :: rest => .ok (.str, rest)
  | 'r' :: rest => .ok (.repr, rest)
  | 'a' :: rest => .ok (.ascii, rest)
  | _ => .error (.here "f-string: invalid conversion character: expected 's', 'r', or 'a'")

/-- The text that an equals sign behind an expression has shown, and what follows. -/
def takeShown (source rest : List Char) : List Char × List Char :=
  match rest with
  | '=' :: more =>
    let blanks := more.takeWhile (fun c => isFieldBlank c || c == '\r' || c == '\x0b')
    (source ++ ['='] ++ blanks, more.drop blanks.length)
  | _ => ([], rest)

/-- The conversion of a field, if there is one, and what follows. -/
def takeConversion? (rest : List Char) : Except StringFault (Option Conversion × List Char) :=
  match rest with
  | '!' :: more => do
    let (c, rest) ← takeConversion more
    .ok (some c, rest)
  | _ => .ok (none, rest)

/-- The format of a field, if there is one, and what follows.  Its parts are taken by a function
    given from outside. -/
def takeFormat? (parts : List Char → Except StringFault (List Part × List Char))
    (rest : List Char) : Except StringFault (Option (List Part) × List Char) :=
  match rest with
  | ':' :: more =>
    if more.isEmpty then .error (.here "f-string: expecting '\x7d'") else do
    let (parts, rest) ← parts more
    .ok (some parts, rest)
  | _ => .ok (none, rest)

/-- The conversion of a field: the one that is written, and otherwise that of a shown expression
    without a format. -/
def conversionOf (written : Option Conversion) (shown : List Char) (format : Option (List Part)) :
    Conversion :=
  match written with
  | some c => c
  | none => if !shown.isEmpty && format.isNone then .repr else .none

/-- Takes a field behind its opening brace and adds it to the parts. -/
def takeField (total : Nat) (read : FieldReader)
    (parts : List Char → Except StringFault (List Part × List Char)) (inner : List Char)
    (acc : List Part) : Except StringFault (List Part × List Char) := do
  let (source, rest) ← takeExpr (inner.length + 1) inner [] none []
  if rest.isEmpty then .error (.here "f-string: expecting '\x7d'") else do
  if source.all isFieldBlank then .error (.here "f-string: empty expression not allowed") else do
  let value ← read (total - inner.length - 1) source
  let (shown, rest) := takeShown source rest
  let (written, rest) ← takeConversion? rest
  let (format, rest) ← takeFormat? parts rest
  match rest with
  | '}' :: rest =>
    .ok (.field value (conversionOf written shown format) format :: addText acc shown, rest)
  | _ => .error (.here "f-string: expecting '\x7d'")

/-- A piece of literal text with its escapes replaced. -/
def decodePiece (raw : Bool) (text : List Char) : Except StringFault (List Char) :=
  if raw then .ok text
  else match decodeText (text.length + 1) 0 text with
    | .ok t => .ok t
    | .error message => .error (.here message)

/-- Ends the parts where no field follows. -/
def endParts (top : Bool) (acc : List Part) (rest : List Char) :
    Except StringFault (List Part × List Char) :=
  match top, rest with
  | true, [] => .ok (acc.reverse, [])
  | false, [] => .error (.here "f-string: expecting '\x7d'")
  | true, _ => .error (.here "f-string: unexpected end of string")
  | false, _ => .ok (acc.reverse, rest)

/-- Parts up to the end of the string or, within a format, up to its closing brace.  The first
    number bounds the number of parts; `levels` says how deep fields may still nest. -/
def takeParts (raw : Bool) (total : Nat) (read : FieldReader) :
    Nat → Nat → Bool → List Char → List Part → Except StringFault (List Part × List Char)
  | 0, _, _, cs, acc => .ok (acc.reverse, cs)
  | n + 1, levels, top, cs, acc => do
    let (text, how, rest) ← takeText raw top (cs.length + 1) cs []
    let text ← decodePiece raw text
    match how, rest with
    | .doubled, rest => takeParts raw total read n levels top rest (addText acc text)
    | .stop, '{' :: inner =>
      if levels == 0 then .error (.here "f-string: expressions nested too deeply") else do
      let (acc, rest) ← takeField total read
        (fun cs => takeParts raw total read n (levels - 1) false cs []) inner (addText acc text)
      takeParts raw total read n levels top rest acc
    | .stop, rest => endParts top (addText acc text) rest

/-- The expressions of parts, each spanning the whole literal. -/
def exprs (sp : Span) (mark : Bool) : List Part → List Expr
  | [] => []
  | .text cs :: rest => .constant sp (.str cs mark) :: exprs sp mark rest
  | .field value conversion none :: rest => .formatted sp value conversion none :: exprs sp mark rest
  | .field value conversion (some parts) :: rest =>
    .formatted sp value conversion (some (.joined sp (exprs sp false parts))) :: exprs sp mark rest

/-- Joins the parts of literals in a row. -/
def append (a b : List Part) : List Part :=
  match a.reverse, b with
  | .text x :: front, .text y :: rest => front.reverse ++ .text (x ++ y) :: rest
  | _, _ => a ++ b

end FormatString

end Graft.Syntax
