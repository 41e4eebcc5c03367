import Graft.Syntax.Tree
import Graft.Number.FloatText
import Graft.Text.Quoted

set_option autoImplicit false

/-! # Printing expressions

`Expr.print` writes an expression on one line.  It gets brackets where the binding strength asks for
them and nowhere else. -/

namespace Graft.Syntax

/-- Why a tree can not be printed. -/
inductive PrintFault
  /-- A field of a formatted string needs a backslash, which fields can not hold. -/
  | backslashInField
  /-- A number has more decimal digits than are written out. -/
  | longNumeral
deriving DecidableEq, Repr

/-- The text of a tree, unless it has none. -/
abbrev Printed := Except PrintFault String

/-! ## Binding strength -/

/-- How strongly an expression's operator binds, or how strongly its place asks it to. -/
abbrev Precedence := Nat

namespace Precedence

def named : Precedence := 1
def tuple : Precedence := 2
def yield : Precedence := 3
def test : Precedence := 4
def disjunction : Precedence := 5
def conjunction : Precedence := 6
def negation : Precedence := 7
def comparison : Precedence := 8
def bitOr : Precedence := 9
def bitXor : Precedence := 10
def bitAnd : Precedence := 11
def shift : Precedence := 12
def sum : Precedence := 13
def product : Precedence := 14
def factor : Precedence := 15
def power : Precedence := 16
def await : Precedence := 17
def atom : Precedence := 18

/-- The next stronger one. -/
def next (p : Precedence) : Precedence := min (p + 1) atom

end Precedence

/-- How a binary operator is written. -/
def BinaryOp.text : BinaryOp → String
  | .add => "+"
  | .sub => "-"
  | .mult => "*"
  | .matMult => "@"
  | .div => "/"
  | .mod => "%"
  | .pow => "**"
  | .lShift => "<<"
  | .rShift => ">>"
  | .bitOr => "|"
  | .bitXor => "^"
  | .bitAnd => "&"
  | .floorDiv => "//"

/-- How strongly a binary operator binds. -/
def BinaryOp.precedence : BinaryOp → Precedence
  | .add | .sub => .sum
  | .mult | .matMult | .div | .mod | .floorDiv => .product
  | .lShift | .rShift => .shift
  | .bitOr => .bitOr
  | .bitXor => .bitXor
  | .bitAnd => .bitAnd
  | .pow => .power

/-- How an operator with one operand is written, with the blank behind it. -/
def UnaryOp.text : UnaryOp → String
  | .invert => "~"
  | .not => "not "
  | .positive => "+"
  | .negative => "-"

/-- How strongly an operator with one operand binds. -/
def UnaryOp.precedence : UnaryOp → Precedence
  | .not => .negation
  | _ => .factor

/-- How a connective is written. -/
def BoolOp.text : BoolOp → String
  | .and => "and"
  | .or => "or"

/-- How strongly a connective binds. -/
def BoolOp.precedence : BoolOp → Precedence
  | .and => .conjunction
  | .or => .disjunction

/-- How a comparison is written. -/
def Comparison.text : Comparison → String
  | .eq => "=="
  | .notEq => "!="
  | .lt => "<"
  | .ltE => "<="
  | .gt => ">"
  | .gtE => ">="
  | .is => "is"
  | .isNot => "is not"
  | .isIn => "in"
  | .notIn => "not in"

/-- Text in brackets if its operator binds less than its place asks for. -/
def enclose (place own : Precedence) (s : String) : String :=
  if own < place then "(" ++ s ++ ")" else s

/-- Texts with commas between them. -/
def commas (ss : List String) : String := ", ".intercalate ss

/-- Texts with commas between them, and one behind a single text. -/
def tupleText : List String → String
  | [s] => s ++ ","
  | ss => commas ss

/-! ## Strings -/

/-- The quotes of strings that end with their line. -/
def shortQuotes : List (List Char) := [['\''], ['"']]

/-- The quotes of strings that may hold line ends. -/
def longQuotes : List (List Char) := [['"', '"', '"'], ['\'', '\'', '\'']]

/-- All quotes. -/
def allQuotes : List (List Char) := shortQuotes ++ longQuotes

/-- Whether characters occur in a row somewhere. -/
def occursIn (part : List Char) : List Char → Bool
  | [] => part.isEmpty
  | c :: cs => part.isPrefixOf (c :: cs) || occursIn part cs

/-- Writes the inside of a string with as few escapes as possible, and says which of some quotes
    may enclose it, the best ones first.  If none may, the text is written for the quotes of its
    usual form. -/
def writeInside (cs : List Char) (quotes : List (List Char)) (escapeBlanks : Bool) :
    List Char × List (List Char) :=
  let inside := cs.flatMap fun c =>
    if !escapeBlanks && (c == '\n' || c == '\t') then [c]
    else if c == '\\' || !Text.isPrintable c then Text.escape c
    else [c]
  let possible := if inside.contains '\n' then quotes.filter (longQuotes.contains ·) else quotes
  match possible.filter (!occursIn · inside) with
  | [] =>
    let usual := Text.quoted cs
    let q := usual.headD '\''
    ((usual.drop 1).dropLast, [(quotes.find? (·.contains q)).getD [q]])
  | best =>
    match inside.getLast? with
    | none => (inside, best)
    | some last =>
      let endsAlike (q : List Char) : Bool := q.head? == some last
      let best := best.filter (!endsAlike ·) ++ best.filter endsAlike
      if (best.head?.map endsAlike).getD false then (inside.dropLast ++ ['\\', last], best)
      else (inside, best)

/-- Writes a string with as few escapes as possible. -/
def writeSparingly (cs : List Char) (quotes : List (List Char)) : String :=
  let (inside, possible) := writeInside cs quotes false
  let q := possible.headD []
  String.ofList (q ++ inside ++ q)

/-- Writes the parts of a formatted string, of which some are literal text and may hold escapes. -/
def writeParts (parts : List (List Char × Bool)) : String :=
  let (inside, quotes) := parts.foldl (fun (acc, quotes) (cs, isText) =>
    let (inside, quotes) := writeInside cs quotes isText
    (acc ++ inside, quotes)) (([] : List Char), allQuotes)
  let q := quotes.headD []
  String.ofList (q ++ inside ++ q)

/-- Literal text of a formatted string: braces are doubled. -/
def doubleBraces (cs : List Char) : List Char :=
  cs.flatMap fun c => if c == '{' || c == '}' then [c, c] else [c]

/-! ## Constants -/

/-- Replaces what stands for infinity and for no number, which have no literals. -/
def numeralText (s : String) : String :=
  (s.replace "inf" "1e309").replace "nan" "(1e309-1e309)"

/-- The text of an imaginary number. -/
def imaginaryText (x : Float) : String :=
  Number.textOfFloat Number.imaginaryFormat x ++ "j"

/-- Writes a constant; `sparing` says to do so without escapes if possible. -/
def Constant.print (sparing : Bool) : Constant → Printed
  | .none => .ok "None"
  | .true => .ok "True"
  | .false => .ok "False"
  | .ellipsis => .ok "..."
  | .int n =>
    let s := toString n
    if 4300 < s.length then .error .longNumeral else .ok s
  | .float x => .ok (numeralText (Number.textOfFloat Number.realFormat x))
  | .imaginary x => .ok (numeralText (imaginaryText x))
  | .str cs mark =>
    let body := if sparing then writeSparingly cs allQuotes else String.ofList (Text.quoted cs)
    .ok ((if mark then "u" else "") ++ body)
  | .bytes bs => .ok (String.ofList (Text.quotedBytes bs))

/-! ## Expressions -/

/-- The mark of a conversion. -/
def Conversion.text : Conversion → String
  | .none => ""
  | .str => "!s"
  | .repr => "!r"
  | .ascii => "!a"

/-- Puts the parts of a parameter list together: positional-only, plain, starred, keyword-only and
    doubly starred ones. -/
def writeParameters (posOnly plain : List String) (star : Option String)
    (keywordOnly : List String) (doubleStar : Option String) : String :=
  commas (posOnly ++ (if posOnly.isEmpty then [] else ["/"]) ++ plain
    ++ (match star with
        | some s => ["*" ++ s]
        | none => if keywordOnly.isEmpty then [] else ["*"])
    ++ keywordOnly ++ (doubleStar.map ("**" ++ ·)).toList)

/-- The text of a field from that of its expression and its format. -/
def fieldText (value : String) (conversion : Conversion) (format : List Char) :
    Except PrintFault (List Char) :=
  if value.contains '\\' then .error .backslashInField
  else
    let gap := if value.startsWith "\x7b" then [' '] else []
    .ok ('{' :: gap ++ value.toList ++ conversion.text.toList ++ format ++ ['}'])

mutual

/-- Writes an expression for a place that asks for a binding strength; `sparing` says to write
    strings without escapes if possible. -/
def Expr.print (sparing : Bool) (place : Precedence) : Expr → Printed
  | .boolOp _ op operands => do
    let ss ← printOperands sparing op.precedence.next operands
    .ok (enclose place op.precedence ((" " ++ op.text ++ " ").intercalate ss))
  | .named _ target value => do
    .ok (enclose place .named
      ((← target.print sparing .atom) ++ " := " ++ (← value.print sparing .atom)))
  | .binary _ left op right => do
    let p := op.precedence
    let (l, r) := if op = .pow then (p.next, p) else (p, p.next)
    .ok (enclose place p
      ((← left.print sparing l) ++ " " ++ op.text ++ " " ++ (← right.print sparing r)))
  | .unary _ op operand => do
    let p := op.precedence
    .ok (enclose place p (op.text ++ (← operand.print sparing p)))
  | .lambda _ params body => do
    let ps ← params.print sparing
    let ps := if ps.isEmpty then "" else " " ++ ps
    .ok (enclose place .test ("lambda" ++ ps ++ ": " ++ (← body.print sparing .test)))
  | .ifElse _ test body orelse => do
    let b ← body.print sparing Precedence.test.next
    let t ← test.print sparing Precedence.test.next
    .ok (enclose place .test (b ++ " if " ++ t ++ " else " ++ (← orelse.print sparing .test)))
  | .dict _ items => do .ok ("\x7b" ++ commas (← printItems sparing items) ++ "\x7d")
  | .set _ elements => do
    if elements.isEmpty then .ok "\x7b*()\x7d"
    else .ok ("\x7b" ++ commas (← printAll sparing .test elements) ++ "\x7d")
  | .listComp _ element clauses => do
    .ok ("[" ++ (← element.print sparing .test) ++ (← printClauses sparing clauses) ++ "]")
  | .setComp _ element clauses => do
    .ok ("\x7b" ++ (← element.print sparing .test) ++ (← printClauses sparing clauses) ++ "\x7d")
  | .dictComp _ key value clauses => do
    .ok ("\x7b" ++ (← key.print sparing .test) ++ ": " ++ (← value.print sparing .test)
      ++ (← printClauses sparing clauses) ++ "\x7d")
  | .generator _ element clauses => do
    .ok ("(" ++ (← element.print sparing .test) ++ (← printClauses sparing clauses) ++ ")")
  | .await _ value => do
    .ok (enclose place .await ("await " ++ (← value.print sparing .atom)))
  | .yield _ value => do
    .ok (enclose place .yield ("yield" ++ (← printOption sparing .atom " " value)))
  | .yieldFrom _ value => do
    .ok (enclose place .yield ("yield from " ++ (← value.print sparing .atom)))
  | .compare _ left rest => do
    let p := Precedence.comparison.next
    .ok (enclose place .comparison ((← left.print sparing p) ++ (← printComparands sparing rest)))
  | .call _ func args keywords => do
    let f ← func.print sparing .atom
    .ok (f ++ "(" ++ commas ((← printAll sparing .test args) ++ (← printKeywords sparing keywords))
      ++ ")")
  | .formatted _ value conversion format => do
    let body ← fieldText (← value.print true Precedence.test.next) conversion
      (← formatText format)
    .ok ("f" ++ writeSparingly body allQuotes)
  | .joined _ parts => do
    let texts ← partTexts parts
    if sparing then .ok ("f" ++ writeSparingly (texts.flatMap (·.1)) allQuotes)
    else .ok ("f" ++ writeParts texts)
  | .constant _ value => value.print sparing
  | .attribute _ value attr => do
    let v ← value.print sparing .atom
    let gap := match value with
      | .constant _ (.int _) | .constant _ .true | .constant _ .false => " "
      | _ => ""
    .ok (v ++ gap ++ "." ++ attr)
  | .subscript _ value index => do
    let v ← value.print sparing .atom
    -- a tuple goes without brackets of its own
    let p := match index with
      | .tuple .. => Precedence.tuple
      | _ => Precedence.test
    .ok (v ++ "[" ++ (← index.print sparing p) ++ "]")
  | .starred _ value => do .ok ("*" ++ (← value.print sparing .bitOr))
  | .name _ id => .ok id
  | .list _ elements => do .ok ("[" ++ commas (← printAll sparing .test elements) ++ "]")
  | .tuple _ elements => do
    let s := tupleText (← printAll sparing .test elements)
    .ok (if elements.isEmpty || .tuple < place then "(" ++ s ++ ")" else s)
  | .slice _ lower upper step => do
    .ok ((← printOption sparing .test "" lower) ++ ":" ++ (← printOption sparing .test "" upper)
      ++ (← printOption sparing .test ":" step))

/-- Writes expressions for places of the same kind. -/
def printAll (sparing : Bool) (place : Precedence) : List Expr → Except PrintFault (List String)
  | [] => .ok []
  | e :: es => do .ok ((← e.print sparing place) :: (← printAll sparing place es))

/-- Writes the operands of a connective, each for a stronger place than the one before. -/
def printOperands (sparing : Bool) (place : Precedence) :
    List Expr → Except PrintFault (List String)
  | [] => .ok []
  | e :: es => do .ok ((← e.print sparing place) :: (← printOperands sparing place.next es))

/-- Writes an expression with some text before it, if there is one. -/
def printOption (sparing : Bool) (place : Precedence) (before : String) : Option Expr → Printed
  | none => .ok ""
  | some e => do .ok (before ++ (← e.print sparing place))

/-- Writes the comparisons of a chain. -/
def printComparands (sparing : Bool) : List Comparand → Printed
  | [] => .ok ""
  | .mk op right :: rest => do
    .ok (" " ++ op.text ++ " " ++ (← right.print sparing Precedence.comparison.next)
      ++ (← printComparands sparing rest))

/-- Writes the items of a dictionary. -/
def printItems (sparing : Bool) : List DictItem → Except PrintFault (List String)
  | [] => .ok []
  | .pair key value :: rest => do
    let s := (← key.print sparing .test) ++ ": " ++ (← value.print sparing .test)
    .ok (s :: (← printItems sparing rest))
  | .unpack value :: rest => do
    .ok (("**" ++ (← value.print sparing .bitOr)) :: (← printItems sparing rest))

/-- Writes the clauses of a comprehension. -/
def printClauses (sparing : Bool) : List Clause → Printed
  | [] => .ok ""
  | .mk isAsync target iter conditions :: rest => do
    let start := if isAsync then " async for " else " for "
    let t ← target.print sparing .tuple
    let i ← iter.print sparing Precedence.test.next
    let cs ← printAll sparing Precedence.test.next conditions
    .ok (start ++ t ++ " in " ++ i ++ String.join (cs.map (" if " ++ ·))
      ++ (← printClauses sparing rest))

/-- Writes keyword arguments. -/
def printKeywords (sparing : Bool) : List Keyword → Except PrintFault (List String)
  | [] => .ok []
  | .mk _ name value :: rest => do
    let v ← value.print sparing .test
    let s := match name with
      | some n => n ++ "=" ++ v
      | none => "**" ++ v
    .ok (s :: (← printKeywords sparing rest))

/-- Writes a parameter. -/
def Parameter.print (sparing : Bool) : Parameter → Printed
  | .mk _ name typeHint => do .ok (name ++ (← printOption sparing .test ": " typeHint))

/-- Writes parameters with their defaults. -/
def printDefaults (sparing : Bool) : List DefaultParameter → Except PrintFault (List String)
  | [] => .ok []
  | .mk param default :: rest => do
    let s := (← param.print sparing) ++ (← printOption sparing .test "=" default)
    .ok (s :: (← printDefaults sparing rest))

/-- Writes a parameter if there is one. -/
def printParameter? (sparing : Bool) : Option Parameter → Except PrintFault (Option String)
  | none => .ok none
  | some p => do .ok (some (← p.print sparing))

/-- Writes a parameter list. -/
def Parameters.print (sparing : Bool) : Parameters → Printed
  | .mk posOnly plain star keywordOnly doubleStar => do
    .ok (writeParameters (← printDefaults sparing posOnly) (← printDefaults sparing plain)
      (← printParameter? sparing star) (← printDefaults sparing keywordOnly)
      (← printParameter? sparing doubleStar))

/-- The texts of the parts of a formatted string, and whether they are literal text. -/
def partTexts : List Expr → Except PrintFault (List (List Char × Bool))
  | [] => .ok []
  | .constant _ (.str cs _) :: rest => do .ok ((doubleBraces cs, true) :: (← partTexts rest))
  | .formatted _ value conversion format :: rest => do
    let body ← fieldText (← value.print true Precedence.test.next) conversion
      (← formatText format)
    .ok ((body, false) :: (← partTexts rest))
  | _ :: rest => partTexts rest

/-- The text of the format of a field, with the colon before it. -/
def formatText : Option Expr → Except PrintFault (List Char)
  | some (.joined _ parts) => do .ok (':' :: (← partTexts parts).flatMap (·.1))
  | _ => .ok []

end

end Graft.Syntax
