import Graft.Syntax.Token
import Graft.Syntax.Number
import Graft.Text.Printable
import Graft.Text.Identifier

set_option autoImplicit false

/-! # Cutting source text into tokens

`Tokens.ofText` cuts a whole text.  Lines end at a line feed, a carriage return or both, and the
last line is ended if it is not.  Indentation is measured twice, with tab stops every eight columns
and with tabs as wide as one column; only where the two agree is a line's depth well defined. -/

namespace Graft.Syntax

/-- The text with every line end written as one line feed, the last line's included. -/
def normalizeLineEnds : List Char → List Char
  | [] => ['\n']
  | ['\n'] => ['\n']
  | '\r' :: '\n' :: [] => ['\n']
  | '\r' :: [] => ['\n']
  | '\r' :: '\n' :: rest => '\n' :: normalizeLineEnds rest
  | '\r' :: rest => '\n' :: normalizeLineEnds rest
  | c :: rest => c :: normalizeLineEnds rest

/-- The lines of a text whose lines all end in a line feed, without it. -/
def textLines (cs : List Char) : List (List Char) :=
  go cs []
where
  go : List Char → List Char → List (List Char)
    | [], [] => []
    | [], line => [line.reverse]
    | '\n' :: rest, line => line.reverse :: go rest []
    | c :: rest, line => go rest (c :: line)

/-- The number of bytes of characters in UTF-8. -/
def byteLength (cs : List Char) : Nat :=
  cs.foldl (fun n c => n + c.utf8Size) 0

/-- The number of characters that the first `n` bytes hold in whole or in part. -/
def charsInBytes : List Char → Nat → Nat
  | _, 0 => 0
  | [], _ => 0
  | c :: rest, n => 1 + charsInBytes rest (n - c.utf8Size)

/-- The greatest number of brackets that may be open at once. -/
def maxBrackets : Nat := 200

/-- The greatest number of indentation levels, the outermost one included. -/
def maxIndents : Nat := 100

/-! ## The reader -/

/-- The state of the reader between two tokens. -/
structure Scanner where
  /-- The characters that have not been read. -/
  rest : List Char
  /-- The number of the present line; zero before the first. -/
  line : Nat := 0
  /-- The bytes that have been read of the present line, its end included. -/
  column : Nat := 0
  /-- Whether the present line has been read to its end. -/
  spent : Bool := true
  /-- The line on which the text held for the present token begins. -/
  heldFrom : Nat := 0
  /-- Whether the next token begins a line, so that its indentation counts. -/
  lineStart : Bool := true
  /-- The open indentation levels by both measures, innermost first. -/
  indents : List (Nat × Nat) := [(0, 0)]
  /-- Indentations (positive) or ends of blocks (negative) that are still to be handed out. -/
  pending : Int := 0
  /-- The open brackets, innermost first. -/
  brackets : List OpenBracket := []

namespace Scanner

/-- Enters the next line if the present one is spent; within a token the held text grows. -/
def enter (s : Scanner) (inToken : Bool) : Scanner :=
  if s.spent && !s.rest.isEmpty then
    { s with line := s.line + 1, column := 0, spent := false,
             heldFrom := if inToken then s.heldFrom else s.line + 1 }
  else s

/-- Reads one character, which is the first of the rest. -/
def take (s : Scanner) : Scanner :=
  match s.rest with
  | [] => s
  | c :: rest => { s with rest, column := s.column + c.utf8Size, spent := c == '\n' }

/-- Reads `n` characters of the present line. -/
def takeMany (s : Scanner) : Nat → Scanner
  | 0 => s
  | n + 1 => s.take.takeMany n

/-- Reads the rest of the present line, its end included. -/
def takeLine (s : Scanner) : Scanner :=
  s.takeMany (s.rest.takeWhile (· != '\n')).length |>.take

/-- Where the reader is. -/
def reach (s : Scanner) : Reach :=
  ⟨s.line, s.column, s.heldFrom⟩

/-- The text of the present line. -/
def lineText (lines : Array (List Char)) (line : Nat) : List Char :=
  (lines[line - 1]?).getD []

/-- A fault of the present line, noticed when so many bytes of it had been read. -/
def faultAt (lines : Array (List Char)) (line column : Nat) (message : String) : Break :=
  let text := lineText lines line
  .fault { message, line := some line, column := some (charsInBytes text column),
           text := some (String.ofList text) }

/-! ## Layout -/

/-- The blanks before the first token of a line: both measures, and the depth at the first line
    continuation, if there was one. -/
structure Margin where
  wide : Nat := 0
  narrow : Nat := 0
  continued : Option Nat := none

/-- Steps over a backslash that has been read: the end of its line has to follow, and more text. -/
def continueLine (s : Scanner) (inToken : Bool) : Except (Break × Scanner) Scanner :=
  match s.rest with
  | '\n' :: _ =>
    let s := s.take
    if s.rest.isEmpty then .error (.endOfText, s) else .ok (s.enter inToken)
  | _ => .error (.continuation, s)

/-- Reads the blanks at the start of a line. -/
def readMargin : Nat → Scanner → Margin → Except (Break × Scanner) (Scanner × Margin)
  | 0, s, m => .ok (s, m)
  | n + 1, s, m =>
    match s.rest with
    | ' ' :: _ => readMargin n s.take { m with wide := m.wide + 1, narrow := m.narrow + 1 }
    | '\t' :: _ => readMargin n s.take { m with wide := (m.wide / 8 + 1) * 8, narrow := m.narrow + 1 }
    | '\x0c' :: _ => readMargin n s.take { m with wide := 0, narrow := 0 }
    | '\\' :: _ => do
      let continued := match m.continued with
        | some (k + 1) => some (k + 1)
        | _ => some m.wide
      let s ← continueLine s.take false
      readMargin n s { m with continued }
    | _ => .ok (s, m)

/-- Compares a line's margin with the open levels: opens a level, closes some, or neither. -/
def indent (s : Scanner) (wide narrow : Nat) : Except (Break × Scanner) Scanner :=
  match s.indents with
  | [] => .ok s
  | (w, n) :: outer =>
    if wide == w then
      if narrow == n then .ok s else .error (.tabs, s.takeLine)
    else if w < wide then
      if s.indents.length ≥ maxIndents then .error (.tooDeep, s.takeLine)
      else if narrow ≤ n then .error (.tabs, s.takeLine)
      else .ok { s with indents := (wide, narrow) :: s.indents, pending := s.pending + 1 }
    else close s ((w, n) :: outer)
where
  /-- Closes levels until one as deep as the line is found. -/
  close (s : Scanner) : List (Nat × Nat) → Except (Break × Scanner) Scanner
    | [] => .ok s
    | (w, n) :: outer =>
      if wide < w && !outer.isEmpty then close { s with pending := s.pending - 1 } outer
      else if wide != w then .error (.dedent, { s with indents := (w, n) :: outer }.takeLine)
      else if narrow != n then .error (.tabs, { s with indents := (w, n) :: outer }.takeLine)
      else .ok { s with indents := (w, n) :: outer }

/-! ## Single tokens -/

/-- The two and three character operators. -/
def longOperator (c d : Char) : Bool :=
  match c, d with
  | '!', '=' | '%', '=' | '&', '=' | '*', '*' | '*', '=' | '+', '=' | '-', '=' | '-', '>'
  | '/', '/' | '/', '=' | ':', '=' | '<', '<' | '<', '=' | '<', '>' | '=', '=' | '>', '='
  | '>', '>' | '@', '=' | '^', '=' | '|', '=' => true
  | _, _ => false

/-- How many characters an operator at the front has. -/
def operatorLength : List Char → Nat
  | '.' :: '.' :: '.' :: _ => 3
  | '*' :: '*' :: '=' :: _ | '/' :: '/' :: '=' :: _ | '<' :: '<' :: '=' :: _
  | '>' :: '>' :: '=' :: _ => 3
  | c :: d :: _ => if longOperator c d then 2 else 1
  | _ => 1

/-- The length of a string prefix, if a quote follows the letters. -/
def stringPrefix (cs : List Char) : Option Nat :=
  go cs false false false false 0
where
  go : List Char → Bool → Bool → Bool → Bool → Nat → Option Nat
    | [], _, _, _, _, _ => none
    | c :: rest, b, r, u, f, n =>
      if c == '"' || c == '\'' then some n
      else if !(b || u || f) && (c == 'b' || c == 'B') then go rest true r u f (n + 1)
      else if !(b || u || r || f) && (c == 'u' || c == 'U') then go rest b r true f (n + 1)
      else if !(r || u) && (c == 'r' || c == 'R') then go rest b true u f (n + 1)
      else if !(f || b || u) && (c == 'f' || c == 'F') then go rest b r u true (n + 1)
      else none

/-- How a string literal goes on behind its opening quotes. -/
inductive StringEnd
  /-- It was closed. -/
  | closed
  /-- The line or the text ended first. -/
  | unterminated
deriving DecidableEq

/-- Reads a string to its closing quotes.  A long string may hold line ends. -/
def readString (quote : Char) (long : Bool) : Nat → Scanner → Nat → Scanner × StringEnd
  | 0, s, _ => (s, .unterminated)
  | n + 1, s, run =>
    let s := s.enter true
    match s.rest with
    | [] => (s, .unterminated)
    | c :: _ =>
      if c == '\n' && !long then (s, .unterminated)
      else if c == quote then
        let s := s.take
        if run + 1 == (if long then 3 else 1) then (s, .closed)
        else readString quote long n s (run + 1)
      else if c == '\\' then readString quote long n (s.take.enter true).take 0
      else readString quote long n s.take 0

/-- Upper case hexadecimal digits, at least four. -/
def hexCode (n : Nat) : String :=
  let digit (k : Nat) : Char := if k < 10 then Char.ofNat (48 + k) else Char.ofNat (55 + k)
  let rec digits : Nat → Nat → List Char → List Char
    | 0, _, acc => acc
    | fuel + 1, n, acc =>
      if n == 0 then acc else digits fuel (n / 16) (digit (n % 16) :: acc)
  let ds := digits 8 n []
  String.ofList (List.replicate (4 - ds.length) '0' ++ ds)

/-- The message about a character that has no place in program text. -/
def strangeCharacter (c : Char) : String :=
  if Text.isPrintable c then
    "invalid character '" ++ c.toString ++ "' (U+" ++ hexCode c.toNat ++ ")"
  else "invalid non-printable character U+" ++ hexCode c.toNat

/-- The closing bracket that belongs to an opening one. -/
def closing (c : Char) : Char :=
  if c == '(' then ')' else if c == '[' then ']' else '}'

/-- A token from where the reader was to where it is. -/
def token (kind : TokenKind) (start s : Scanner) (text : List Char) : Token :=
  { kind, text := String.ofList text, line := s.line, column := some start.column,
    endLine := s.line, endColumn := some s.column, depth := s.brackets.length, reach := s.reach }

/-- A token that stands for no text. -/
def layout (kind : TokenKind) (s : Scanner) : Token :=
  { kind, text := "", line := s.line, column := none, endLine := s.line, endColumn := none,
    depth := s.brackets.length, reach := s.reach }

/-- The first character of a would-be name that cannot stand where it does, and its index. -/
def badNameChar (text : List Char) : Option (Nat × Char) :=
  match text with
  | [] => none
  | c :: rest =>
    if !Text.isIdentifierStart c then some (0, c)
    else go rest 1
where
  go : List Char → Nat → Option (Nat × Char)
    | [], _ => none
    | c :: rest, n => if Text.isIdentifierContinue c then go rest (n + 1) else some (n, c)

/-- The result of reading a token: the token, a break, or nothing but blanks and line ends. -/
inductive Piece
  | token (t : Token)
  | broken (b : Break)
  | nothing

/-- Reads a name or keyword. -/
def readName (lines : Array (List Char)) (s : Scanner) : Piece × Scanner :=
  let text := s.rest.takeWhile NumberScan.nameLike
  match badNameChar text with
  | some (n, c) =>
    let s := s.takeMany (n + 1)
    (.broken (faultAt lines s.line s.column (strangeCharacter c)), s)
  | none =>
    let stop := s.takeMany text.length
    let kind := if keywords.contains (String.ofList text) then .keyword else .name
    (.token (token kind s stop text), stop)

/-- Reads a number. -/
def readNumber (lines : Array (List Char)) (s : Scanner) : Piece × Scanner :=
  match scanNumber s.rest with
  | .literal n =>
    let stop := s.takeMany n
    (.token (token .number s stop (s.rest.take n)), stop)
  | .bad message n =>
    let stop := s.takeMany n
    (.broken (faultAt lines stop.line stop.column message), stop)
  | .leadingZeros =>
    (.broken (.fault {
      message := "leading zeros in decimal integer literals are not permitted; "
        ++ "use an 0o prefix for octal integers",
      line := some s.line, column := some (s.column + 1),
      text := some (String.ofList (lineText lines s.line)) }), s.take)

/-- Reads a string whose prefix has the given length. -/
def readQuoted (lines : Array (List Char)) (s : Scanner) (before : Nat) : Piece × Scanner :=
  let open' := s.takeMany before
  let quote := open'.rest.headD '"'
  let long := match open'.rest with
    | a :: b :: c :: _ => a == b && b == c
    | _ => false
  let inner := open'.takeMany (if long then 3 else 1)
  let (stop, how) := readString quote long (inner.rest.length + 1) inner 0
  match how with
  | .closed =>
    let text := s.rest.take (s.rest.length - stop.rest.length)
    (.token { token .string s stop text with line := s.line }, stop)
  | .unterminated =>
    let what := if long then "unterminated triple-quoted string literal"
      else "unterminated string literal"
    let message := what ++ " (detected at line " ++ toString stop.line ++ ")"
    (.broken (faultAt lines s.line (s.column + 1) message), stop)

/-- Reads an operator or bracket. -/
def readOperator (lines : Array (List Char)) (s : Scanner) (c : Char) : Piece × Scanner :=
  let n := operatorLength s.rest
  let stop := s.takeMany n
  let text := s.rest.take n
  let bad (message : String) : Piece × Scanner :=
    (.broken (faultAt lines stop.line stop.column message), stop)
  if n > 1 then (.token (token .operator s stop text), stop)
  else if c == '(' || c == '[' || c == '{' then
    if s.brackets.length ≥ maxBrackets then bad "too many nested parentheses"
    else
      let stop := { stop with brackets := ⟨c, s.line, s.column⟩ :: s.brackets }
      (.token (token .operator s stop text), stop)
  else if c == ')' || c == ']' || c == '}' then
    match s.brackets with
    | [] => bad ("unmatched '" ++ c.toString ++ "'")
    | b :: outer =>
      if closing b.bracket == c then
        let stop := { stop with brackets := outer }
        (.token (token .operator s stop text), stop)
      else
        let message := "closing parenthesis '" ++ c.toString
          ++ "' does not match opening parenthesis '" ++ b.bracket.toString ++ "'"
        let (p, stop) :=
          if b.line == s.line then bad message
          else bad (message ++ " on line " ++ toString b.line)
        (p, { stop with brackets := outer })
  else if !Text.isPrintable c then bad (strangeCharacter c)
  else (.token (token .operator s stop text), stop)

/-- Skips blanks within a line. -/
def skipBlanks (s : Scanner) : Scanner :=
  s.takeMany (s.rest.takeWhile (fun c => c == ' ' || c == '\t' || c == '\x0c')).length

/-- Reads what comes behind the margin: a token, or a line end that counts for nothing because
    the line is blank or a bracket is open. -/
def readPiece (lines : Array (List Char)) (blank : Bool) :
    Nat → Scanner → Piece × Scanner
  | 0, s => (.nothing, s)
  | n + 1, s =>
    let s := (s.enter false).skipBlanks
    let s := if s.rest.head? == some '#' then
        s.takeMany (s.rest.takeWhile (· != '\n')).length
      else s
    match s.rest with
    | [] =>
      if s.brackets.isEmpty then (.token (layout .endMarker s), s) else (.broken .endOfText, s)
    | c :: rest =>
      if NumberScan.nameLike c && !c.isDigit then
        match stringPrefix s.rest with
        | some k => readQuoted lines s k
        | none => readName lines s
      else if c == '\n' then
        let stop := { s.take with lineStart := true }
        if blank || !s.brackets.isEmpty then (.nothing, stop)
        else (.token { token .newline s stop [] with endColumn := some s.column }, stop)
      else if c.isDigit || (c == '.' && (rest.head?.map Char.isDigit).getD false) then
        readNumber lines s
      else if c == '"' || c == '\'' then readQuoted lines s 0
      else if c == '\\' then
        match continueLine s.take true with
        | .error (b, s) => (.broken b, s)
        | .ok s => readPiece lines blank n s
      else readOperator lines s c

/-- Reads the margin of a line that begins here, unless an indentation is still pending. -/
def readLineStart (s : Scanner) : Except (Break × Scanner) (Scanner × Bool) :=
  if s.lineStart then do
    let s := { s.enter false with lineStart := false }
    let (s, m) ← readMargin (s.rest.length + 1) s {}
    let blank := match s.rest with
      | '#' :: _ | '\n' :: _ => true
      | _ => false
    if blank || !s.brackets.isEmpty then .ok (s, blank)
    else
      let depth := match m.continued with
        | some (k + 1) => (k + 1, k + 1)
        | _ => (m.wide, m.narrow)
      .ok (← s.indent depth.1 depth.2, false)
  else .ok (s, false)

/-- Reads on until there is a token or a break. -/
def next (lines : Array (List Char)) : Nat → Scanner → Piece × Scanner
  | 0, s => (.nothing, s)
  | n + 1, s =>
    match s.readLineStart with
    | .error (b, s) => (.broken b, s)
    | .ok (s, blank) =>
      if s.pending < 0 then (.token (layout .dedent s), { s with pending := s.pending + 1 })
      else if 0 < s.pending then (.token (layout .indent s), { s with pending := s.pending - 1 })
      else match s.readPiece lines blank (s.rest.length + 1) with
        | (.nothing, s) => s.next lines n
        | found => found

end Scanner

/-- The broken token that stands for a place where cutting into tokens stopped. -/
def Token.broken (s : Scanner) : Token :=
  Scanner.layout .broken s

/-- Cuts normalized text into tokens. -/
def Tokens.ofNormalized (cs : List Char) : Tokens :=
  let lines := (textLines cs).toArray
  go lines (2 * cs.length + 2 * maxIndents + 2) { rest := cs } #[]
where
  go (lines : Array (List Char)) : Nat → Scanner → Array Token → Tokens
    | 0, s, ts => { lines, tokens := ts, openBrackets := s.brackets }
    | n + 1, s, ts =>
      match s.next lines (s.rest.length + 1) with
      | (.token t, s) =>
        if t.kind == .endMarker then { lines, tokens := ts.push t, openBrackets := s.brackets }
        else go lines n s (ts.push t)
      | (.broken b, s) =>
        { lines, tokens := ts.push (Token.broken s), broken := some b, openBrackets := s.brackets }
      | (.nothing, s) => go lines n s ts

/-- Cuts text into tokens. -/
def Tokens.ofText (cs : List Char) : Tokens :=
  Tokens.ofNormalized (normalizeLineEnds cs)

end Graft.Syntax
