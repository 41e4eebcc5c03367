import Graft.Syntax.Reading
import Graft.Syntax.FormatString
import Graft.Syntax.Grammar.Mistakes
import Graft.Syntax.Grammar.Patterns

set_option autoImplicit false

/-! # Parsing

`parseModule` turns text into statements, or says why the text is not well formed.

Text is read twice if need be: first by the ordinary rules alone, and if they do not match, again
with the rules that describe mistakes.  If no rule explains the failure it is reported at the last
token the first reading has looked at.  A fault in the way the remaining text is cut into tokens
takes precedence over one that a rule has found. -/

namespace Graft.Syntax

/-! ## Rules -/

/-- The body of a rule. -/
def Rule.body (r : Rule) : RuleBody :=
  ((expressionRule? r).orElse fun _ => (statementRule? r).orElse fun _ =>
    (parameterRule? r).orElse fun _ => (patternRule? r).orElse fun _ => mistakeRule? r).getD
    (.choice [])

/-- Whether the results of a rule are remembered, so that it is matched once at a place. -/
def Rule.isRemembered : Rule → Bool
  | .simpleStmt | .block | .expression | .starExpression | .disjunction | .conjunction
  | .inversion | .factor | .awaitPrimary | .strings | .arguments | .starTarget
  | .targetWithStarAtom | .delTarget | .starPattern | .closedPattern | .invalidNamedExpression
  | .bitwiseOr | .bitwiseXor | .bitwiseAnd | .shiftExpr | .sum | .term | .primary | .tPrimary
  | .dottedName | .attr | .nameOrAttr => true
  | _ => false

/-- Matches a rule, or recalls what it has matched before. -/
def Reading.matchRule (call : RuleMatcher) (join : StringJoiner) (rd : Reading) (r : Rule)
    (st : ReadState) : Match :=
  if r.isRemembered then
    let key := st.mark * 512 + r.index
    match st.memo.get? key with
    | some (n, stop) => (n, { st with mark := stop })
    | none =>
      let (n, st) := r.body.run call join rd st
      if st.fault.isSome then (none, st)
      else (n, { st with memo := st.memo.insert key (n, st.mark) })
  else r.body.run call join rd st

/-! ## The result of a reading -/

/-- The fault to report when a rule has found one: a fault in the tokens that have not been looked
    at, or a bracket that is left open on a line before the last token, comes first. -/
def Reading.prevailing (rd : Reading) (st : ReadState) (f : Fault) : Fault :=
  if rd.source.tokens.size ≤ st.seen || f.cls == .depth then f
  else
    let atEnd : ReadState := { seen := rd.source.tokens.size }
    match rd.source.broken with
    | none => f
    | some (.fault g) => rd.breakFault atEnd (.fault g)
    | some _ =>
      match rd.source.openBrackets with
      | [] => f
      | b :: _ =>
        let g := rd.unclosed atEnd b
        if g.line.getD 0 < (rd.lastSeen st).line then g else f

/-- The fault of text that no rule matches and no rule describes; `last` is the last token that
    the ordinary rules have looked at. -/
def Reading.unexplained (rd : Reading) (st : ReadState) (last : Token) : Fault :=
  match last.kind with
  | .indent => rd.faultHere st .indentation "unexpected indent"
  | .dedent => rd.faultHere st .indentation "unexpected unindent"
  | _ =>
    let column := (last.column.map (· + 1)).getD 0
    rd.prevailing st (rd.faultAt st .syntactic last.line column "invalid syntax")

/-- Reads tokens by a rule. -/
def Reading.run (call : RuleMatcher) (rd : Reading) (start : Rule) : Except Fault Node :=
  match call rd start {} with
  | (_, st@{ fault := some f, .. }) => .error (rd.prevailing st f)
  | (some n, _) => .ok n
  | (none, st) =>
    match call { rd with diagnosing := true } start { seen := st.seen } with
    | (_, st'@{ fault := some f, .. }) => .error (rd.prevailing st' f)
    | (_, st') => .error (rd.unexplained st' (rd.lastSeen st))

/-! ## String literals -/

/-- Where the field whose brace stands behind `before` in a token begins: the line and column that
    its text counts from. -/
def fieldOrigin (t : Token) (before source : List Char) : Nat × Nat :=
  let lines := before.countP (· == '\n')
  let blank := source.dropWhile (fun c => c == ' ' || c == '\t' || c == '\x0c')
  let columns :=
    if blank.head? == some '\n' then 0
    else byteLength (before.reverse.takeWhile (· != '\n'))
  (t.line + lines, if lines == 0 then t.column.getD 0 + columns else columns)

/-- A token seen from where its text stands in the whole. -/
def Token.moved (l c : Nat) (t : Token) : Token :=
  { t with
    line := t.line + l - 1
    column := if t.line == 1 then t.column.map (· + c) else t.column
    endLine := t.endLine + l - 1
    endColumn := if t.endLine == 1 then t.endColumn.map (· + c) else t.endColumn }

/-- Reads the expression in a field of a formatted string. -/
def readField (call : RuleMatcher) (t : Token) (bodyStart : Nat) : FormatString.FieldReader :=
  fun before source =>
    let (l, c) := fieldOrigin t (t.text.toList.take (bodyStart + before)) source
    let tokens := Tokens.ofText ('(' :: source ++ [')'])
    let tokens := { tokens with tokens := tokens.tokens.map (Token.moved l c) }
    match Reading.run call { source := tokens, origin := some (l, c) } .fragment with
    | .ok n => .ok n.toExpr
    | .error f => .error (.field f)

/-- What several string literals in a row amount to so far. -/
inductive Joined
  | text (formatted : Bool) (parts : List FormatString.Part)
  | bytes (bs : List UInt8)

/-- Joins one more literal. -/
def Joined.add (call : RuleMatcher) (t : Token) (so : Option Joined) :
    Except StringFault Joined := do
  let l := StringLiteral.ofText t.text.toList
  if l.isBytes then
    if l.body.any (128 ≤ ·.toNat) then
      .error (.literal "bytes can only contain ASCII literal characters")
    else
      let bs ← match l.bytes with
        | .ok bs => .ok bs
        | .error message => .error (.here message)
      match so with
      | none => .ok (.bytes bs)
      | some (.bytes before) => .ok (.bytes (before ++ bs))
      | some (.text ..) => .error (.here mixed)
  else do
    let (formatted, before) ← match so with
      | none => .ok (false, [])
      | some (.text formatted before) => .ok (formatted, before)
      | some (.bytes _) => .error (.here mixed)
    if l.isFormatted then
      let (parts, _) ← FormatString.takeParts l.isRaw l.body.length (readField call t l.bodyStart)
        (2 * l.body.length + 2) 2 true l.body []
      .ok (.text true (FormatString.append before parts))
    else
      match l.text with
      | .ok [] => .ok (.text formatted before)
      | .ok cs => .ok (.text formatted (FormatString.append before [.text cs]))
      | .error message => .error (.here message)
where
  /-- The message about bytes beside text. -/
  mixed : String := "cannot mix bytes and nonbytes literals"

/-- Joins literals in a row, or says which of them is at fault. -/
def Joined.addAll (call : RuleMatcher) :
    List Token → Option Joined → Except (Token × StringFault) (Option Joined)
  | [], so => .ok so
  | t :: ts, so =>
    match Joined.add call t so with
    | .ok j => Joined.addAll call ts (some j)
    | .error f => .error (t, f)

/-- The expression that literals in a row amount to. -/
def Joined.expr (sp : Span) (mark : Bool) : Joined → Expr
  | .bytes bs => .constant sp (.bytes bs)
  | .text true parts => .joined sp (FormatString.exprs sp mark parts)
  | .text false (.text cs :: _) => .constant sp (.str cs mark)
  | .text false _ => .constant sp (.str [] mark)

/-- Turns string literals in a row into one expression. -/
def joinStrings (call : RuleMatcher) : StringJoiner := fun rd ts st =>
  match Joined.addAll call ts none with
  | .error (t, fault) =>
    let f := match fault with
      | .here message => rd.faultHere st .syntactic message
      | .literal message => rd.faultAt st .syntactic t.line (t.column.getD 0 + 1) message
      | .field f => f
    (none, { st with fault := some f })
  | .ok none => (none, st)
  | .ok (some j) =>
    match ts.head?, ts.getLast? with
    | some first, some last =>
      let mark := first.text.startsWith "u"
      (some (.expr (j.expr (first.span.to last.span) mark)), st)
    | _, _ => (none, st)

/-! ## Whole texts -/

/-- How deeply rules may be nested. -/
def maxRuleDepth : Nat := 4140

/-- Matches rules nested at most `n` deep. -/
def matchRules : Nat → RuleMatcher
  | 0 => fun _ _ st => (none, { st with fault := some { cls := .depth, message := "" } })
  | n + 1 => fun rd r st => rd.matchRule (matchRules n) (joinStrings (matchRules n)) r st

/-- Why text is not a program. -/
inductive Rejection
  /-- It is not well formed. -/
  | fault (f : Fault)
  /-- It contains the character with code zero. -/
  | zeroByte
  /-- It contains surrogates, from a place up to another; the first one is given. -/
  | surrogates (first last : Nat) (code : Nat)
deriving DecidableEq, Repr

/-- The run of surrogates that comes first in a text. -/
def firstSurrogates (cs : List Char) : Option Rejection :=
  let before := cs.takeWhile (!Text.isSurrogate ·)
  match cs.drop before.length with
  | [] => none
  | c :: rest =>
    let more := rest.takeWhile Text.isSurrogate
    some (.surrogates before.length (before.length + more.length) (Text.codePoint c))

/-- The statements of a text. -/
def parseModule (cs : List Char) : Except Rejection (List Stmt) :=
  match firstSurrogates cs with
  | some r => .error r
  | none =>
    if cs.contains '\x00' then .error .zeroByte
    else
      match Reading.run (matchRules maxRuleDepth) { source := Tokens.ofText cs } .file with
      | .ok n => .ok n.stmts
      | .error f => .error (.fault f)

end Graft.Syntax
