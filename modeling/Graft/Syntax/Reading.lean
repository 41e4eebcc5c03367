import Graft.Syntax.Grammar
import Graft.Syntax.Lexer
import Graft.Syntax.Memo

set_option autoImplicit false

/-! # Reading tokens by a grammar

The state of a reading, the faults that are raised during it, and the interpretation of items and
alternatives.  Rules are looked up through a function that is given from outside, so nothing here
is recursive beyond the items themselves. -/

namespace Graft.Syntax

/-- Tokens that are being read, and how. -/
structure Reading where
  /-- The tokens. -/
  source : Tokens
  /-- Whether mistakes are being described. -/
  diagnosing : Bool := false
  /-- Line and column the text starts at, for a field of a formatted string. -/
  origin : Option (Nat × Nat) := none

/-- The state of a reading. -/
structure ReadState where
  /-- The index of the next token. -/
  mark : Nat := 0
  /-- How many tokens have been looked at. -/
  seen : Nat := 0
  /-- What some rules have matched where, and where the match ended. -/
  memo : Memo (Option Node × Nat) := .leaf
  /-- The fault that has ended the reading. -/
  fault : Option Fault := none

/-- The result of trying to match something. -/
abbrev Match := Option Node × ReadState

/-! ## Faults -/

namespace Reading

/-- The number of the last line of the text that is available when the last token has been read,
    and the text of a line; where a token or a continuation spans lines, the text of all of them. -/
def textOf (rd : Reading) (reach : Reach) (line : Nat) : List Char :=
  let lineAt (n : Nat) : List Char := (rd.source.lines[n - 1]?).getD []
  if reach.line ≤ line then
    (List.range (reach.line + 1 - reach.heldFrom)).flatMap
      (fun k => lineAt (reach.heldFrom + k) ++ ['\n'])
  else lineAt line

/-- The number of characters that end at a byte column; a column behind the text counts as the
    first one there. -/
def columnIn (text : List Char) (column : Nat) : Nat :=
  if byteLength text < column then text.length + 1 else charsInBytes text column

/-- Text without the line ends behind it. -/
def dropLineEnds (cs : List Char) : String :=
  String.ofList (cs.reverse.dropWhile (· == '\n')).reverse

/-- The last token that has been looked at. -/
def lastSeen (rd : Reading) (st : ReadState) : Token :=
  (rd.source.tokens[st.seen - 1]?).getD
    ⟨.broken, "", 1, none, 1, none, 0, ⟨1, 0, 1⟩⟩

/-- A fault at a line and a byte column, both counted from one. -/
def faultAt (rd : Reading) (st : ReadState) (cls : FaultClass) (line column : Nat)
    (message : String) : Fault :=
  let reach := (rd.lastSeen st).reach
  match rd.origin with
  | none =>
    let text := rd.textOf reach line
    { cls, message, line := some line, column := some (columnIn text column),
      text := some (dropLineEnds text) }
  | some (l, c) =>
    let text := rd.textOf reach (line + 1 - l)
    { cls, message := "f-string: " ++ message, line := some line,
      column := some (columnIn text (column - c)), text := some (dropLineEnds text) }

/-- A fault at the last token that has been looked at. -/
def faultHere (rd : Reading) (st : ReadState) (cls : FaultClass) (message : String) : Fault :=
  let t := rd.lastSeen st
  match t.column with
  | some c => rd.faultAt st cls t.line (c + 1) message
  | none => rd.faultAt st cls t.line (t.reach.column + (rd.origin.map (·.2)).getD 0) message

/-- A fault raised by an action. -/
def faultOf (rd : Reading) (st : ReadState) (cls : FaultClass) (site : Site) (message : String) :
    Fault :=
  match site with
  | .here => rd.faultHere st cls message
  | .at line column => rd.faultAt st cls line (column + 1) message

/-- The fault of a bracket that is open at the end of the text. -/
def unclosed (rd : Reading) (st : ReadState) (b : OpenBracket) : Fault :=
  let (l, c) := match rd.origin with
    | some (l, c) => (b.line + l - 1, if b.line == 1 then b.column + c else b.column)
    | none => (b.line, b.column)
  rd.faultAt st .syntactic l (c + 1) ("'" ++ b.bracket.toString ++ "' was never closed")

/-- The fault that a break in the tokens amounts to when the reading comes to it. -/
def breakFault (rd : Reading) (st : ReadState) (b : Break) : Fault :=
  let t := rd.lastSeen st
  match b with
  | .fault f =>
    match rd.origin with
    | some (l, _) => { f with line := f.line.map (· + l - 1) }
    | none => f
  | .endOfText =>
    match rd.source.openBrackets with
    | b :: _ => rd.unclosed st b
    | [] => rd.faultHere st .syntactic "unexpected EOF while parsing"
  | .dedent =>
    rd.faultHere st .indentation "unindent does not match any outer indentation level"
  | .tabs =>
    rd.faultAt st .tabulation t.line 1 "inconsistent use of tabs and spaces in indentation"
  | .tooDeep => rd.faultAt st .indentation t.line 1 "too many levels of indentation"
  | .continuation =>
    let held := (List.range (t.reach.line - t.reach.heldFrom)).foldl
      (fun n k => n + byteLength ((rd.source.lines[t.reach.heldFrom + k - 1]?).getD []) + 1) 0
    rd.faultAt st .syntactic t.line (held + t.reach.column + 1)
      "unexpected character after line continuation character"

end Reading

/-! ## Items -/

/-- Looks at the next token.  Coming to a break raises its fault. -/
def Reading.peek (rd : Reading) (st : ReadState) : Option Token × ReadState :=
  match rd.source.tokens[st.mark]? with
  | none => (none, st)
  | some t =>
    let st := if st.seen ≤ st.mark then { st with seen := st.mark + 1 } else st
    if t.kind == .broken then
      match rd.source.broken with
      | some b => (none, { st with fault := some (rd.breakFault st b) })
      | none => (none, st)
    else (some t, st)

/-- Takes the next token if it passes a test. -/
def Reading.expect (rd : Reading) (p : Token → Bool) (st : ReadState) : Match :=
  match rd.peek st with
  | (some t, st) => if p t then (some (.token t), { st with mark := st.mark + 1 }) else (none, st)
  | (none, st) => (none, st)

/-- The names that serve as keywords in places. -/
def softKeywords : List String := ["_", "case", "match"]

/-- Whether a token is the keyword or operator of the given text. -/
def Token.isLit (t : Token) (text : String) : Bool :=
  (t.kind == .keyword || t.kind == .operator) && t.text == text

/-- The span of the tokens from one index up to another, layout at the end left out. -/
def Reading.spanFrom (rd : Reading) (start stop : Nat) : Span :=
  let first := rd.source.tokens[start]?
  let line := (first.map Token.line).getD 0
  let column := (first.bind Token.column).getD 0
  let rec back : Nat → Nat → Nat × Nat
    | 0, _ => (line, column)
    | fuel + 1, k =>
      match rd.source.tokens[k - 1]? with
      | none => (line, column)
      | some t =>
        if k == 0 then (line, column)
        else if t.isLayout then back fuel (k - 1) else (t.endLine, t.endColumn.getD 0)
  let (endLine, endColumn) := back stop stop
  ⟨line, column, endLine, endColumn⟩

/-- How rules are matched. -/
abbrev RuleMatcher := Reading → Rule → ReadState → Match

/-- How string literals in a row are turned into one expression. -/
abbrev StringJoiner := Reading → List Token → ReadState → Match

/-- Applies an action to the nodes of an alternative. -/
def Reading.act (rd : Reading) (start : Nat) (nodes : List Node) (action : Action)
    (st : ReadState) : Match :=
  match action {
      span := rd.spanFrom start st.mark
      bracketed := ((rd.source.tokens[st.mark - 1]?).map (·.depth != 0)).getD false
      nodes } with
  | .node n => (some n, st)
  | .reject => (none, st)
  | .fault cls site message => (none, { st with fault := some (rd.faultOf st cls site message) })

/-- Repeats a match, at most `n` times, until it fails or takes nothing. -/
def repeatMatch (step : ReadState → Match) : Nat → List Node → ReadState → List Node × ReadState
  | 0, acc, st => (acc.reverse, st)
  | n + 1, acc, st =>
    match step st with
    | (some x, st') =>
      if st'.mark ≤ st.mark then ((x :: acc).reverse, st') else repeatMatch step n (x :: acc) st'
    | (none, st') => (acc.reverse, { st' with mark := st.mark })

mutual

/-- Matches an item.  A failed match may leave the mark anywhere. -/
def Item.run (call : RuleMatcher) (join : StringJoiner) (rd : Reading) : Item → ReadState → Match
  | .kind k, st => rd.expect (·.kind == k) st
  | .lit text, st => rd.expect (·.isLit text) st
  | .soft text, st => rd.expect (fun t => t.kind == .name && t.text == text) st
  | .softKeyword, st => rd.expect (fun t => t.kind == .name && softKeywords.contains t.text) st
  | .rule r, st => call rd r st
  | .mistake r, st => if rd.diagnosing then call rd r st else (none, st)
  | .plainly r, st => call { rd with diagnosing := false } r st
  | .opt i, st =>
    match i.run call join rd st with
    | (some n, st) => (some n, st)
    | (none, st') =>
      if st'.fault.isSome then (none, st') else (some .absent, { st' with mark := st.mark })
  | .many i, st =>
    let (ns, st) := repeatMatch (i.run call join rd) (rd.source.tokens.size + 1) [] st
    if st.fault.isSome then (none, st) else (some (.seq ns), st)
  | .many1 i, st =>
    let (ns, st) := repeatMatch (i.run call join rd) (rd.source.tokens.size + 1) [] st
    if st.fault.isSome || ns.isEmpty then (none, st) else (some (.seq ns), st)
  | .sepBy s e, st =>
    match e.run call join rd st with
    | (none, st) => (none, st)
    | (some first, st) =>
      let step (st : ReadState) : Match :=
        match s.run call join rd st with
        | (none, st) => (none, st)
        | (some _, st) => if st.fault.isSome then (none, st) else e.run call join rd st
      let (ns, st) := repeatMatch step (rd.source.tokens.size + 1) [] st
      if st.fault.isSome then (none, st) else (some (.seq (first :: ns)), st)
  | .ahead i, st =>
    match i.run call join rd st with
    | (some _, st') =>
      if st'.fault.isSome then (none, st') else (some .absent, { st' with mark := st.mark })
    | (none, st') => (none, st')
  | .notAhead i, st =>
    match i.run call join rd st with
    | (some _, st') => (none, st')
    | (none, st') =>
      if st'.fault.isSome then (none, st') else (some .absent, { st' with mark := st.mark })
  | .cut, st => (some .absent, st)
  | .force text, st =>
    match rd.peek st with
    | (some t, st) =>
      if t.isLit text then (some (.token t), { st with mark := st.mark + 1 })
      else
        let message := "expected '" ++ text ++ "'"
        let fault := rd.faultAt st .syntactic t.line (t.column.getD 0 + 1) message
        (none, { st with fault := some fault })
    | (none, st) => (none, st)
  | .group alts, st => Alt.runAny call join rd st.mark [] alts st
  | .strings, st =>
    let (ns, st) :=
      repeatMatch (rd.expect (·.kind == .string)) (rd.source.tokens.size + 1) [] st
    if st.fault.isSome || ns.isEmpty then (none, st)
    else join rd (ns.filterMap Node.token?) st

/-- Matches items in a row.  Besides the nodes, tells whether a cut has been passed. -/
def Item.runAll (call : RuleMatcher) (join : StringJoiner) (rd : Reading) :
    List Item → List Node → Bool → ReadState → Option (List Node) × Bool × ReadState
  | [], acc, past, st => (some acc.reverse, past, st)
  | i :: rest, acc, past, st =>
    match i.run call join rd st with
    | (none, st) => (none, past, st)
    | (some n, st) =>
      if st.fault.isSome then (none, past, st)
      else match i with
        | .cut => Item.runAll call join rd rest acc true st
        | .ahead _ | .notAhead _ => Item.runAll call join rd rest acc past st
        | _ => Item.runAll call join rd rest (n :: acc) past st

/-- Matches the first alternative that does.  `before` is what the match begins with already. -/
def Alt.runAny (call : RuleMatcher) (join : StringJoiner) (rd : Reading) (start : Nat)
    (before : List Node) : List Alt → ReadState → Match
  | [], st => (none, st)
  | .mk items action :: rest, st =>
    match Item.runAll call join rd items [] false st with
    | (some nodes, _, st') => rd.act start (before ++ nodes) action st'
    | (none, past, st') =>
      if st'.fault.isSome || past then (none, st')
      else Alt.runAny call join rd start before rest { st' with mark := st.mark }

end

/-- Matches a rule's body. -/
def RuleBody.run (call : RuleMatcher) (join : StringJoiner) (rd : Reading) (st : ReadState) :
    RuleBody → Match
  | .choice alts => Alt.runAny call join rd st.mark [] alts st
  | .leftRec starts steps =>
    let start := st.mark
    match Alt.runAny call join rd start [] starts st with
    | (none, st) => (none, st)
    | (some first, st) => extend start steps (rd.source.tokens.size + 1) first st
where
  /-- Extends a match to the right as often as possible. -/
  extend (start : Nat) (steps : List Alt) : Nat → Node → ReadState → Match
    | 0, n, st => (some n, st)
    | fuel + 1, n, st =>
      match Alt.runAny call join rd start [n] steps st with
      | (some n', st') => extend start steps fuel n' st'
      | (none, st') =>
        if st'.fault.isSome then (none, st') else (some n, { st' with mark := st.mark })

end Graft.Syntax
