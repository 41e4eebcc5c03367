import Graft.Syntax.Printer.Expression

set_option autoImplicit false

/-! # Printing statements

`Stmt.print` writes a statement with four blanks for each level of indentation.  Comments and the
layout of the text that a tree was read from are not kept.  A definition has an empty line before
it, unless the output begins with it. -/

namespace Graft.Syntax

/-! ## Patterns -/

mutual

/-- Writes a pattern for a place that asks for a binding strength. -/
def Pattern.print (place : Precedence) : Pattern → Printed
  | .value _ value => value.print false .test
  | .singleton _ value => value.print false
  | .sequence _ patterns => do .ok ("[" ++ commas (← printPatterns .test patterns) ++ "]")
  | .mapping _ keys patterns rest => do
    let ks ← printAll false .test keys
    let ps ← printPatterns .test patterns
    let pairs := List.zipWith (fun k p => k ++ ": " ++ p) ks ps
    .ok ("\x7b" ++ commas (pairs ++ (rest.map ("**" ++ ·)).toList) ++ "\x7d")
  | .cls _ cls patterns keywords keywordPatterns => do
    let c ← cls.print false .atom
    let ps ← printPatterns .test patterns
    let qs ← printPatterns .test keywordPatterns
    let named := List.zipWith (fun k p => k ++ "=" ++ p) keywords qs
    .ok (c ++ "(" ++ commas (ps ++ named) ++ ")")
  | .star _ name => .ok ("*" ++ name.getD "_")
  | .capture _ none name => .ok (name.getD "_")
  | .capture _ (some _) none => .ok "_"
  | .capture _ (some p) (some name) => do
    .ok (enclose place .test ((← p.print .bitOr) ++ " as " ++ name))
  | .alternatives _ patterns => do
    .ok (enclose place .bitOr (" | ".intercalate (← printPatterns Precedence.bitOr.next patterns)))

/-- Writes patterns for places of the same kind. -/
def printPatterns (place : Precedence) : List Pattern → Except PrintFault (List String)
  | [] => .ok []
  | p :: ps => do .ok ((← p.print place) :: (← printPatterns place ps))

end

/-! ## Statements -/

/-- The lines of a text: each is written without the line end before it. -/
abbrev Lines := List String

/-- A line at a level of indentation. -/
def lineAt (level : Nat) (text : String) : String :=
  String.ofList (List.replicate (4 * level) ' ') ++ text

/-- An imported name. -/
def Alias.print (a : Alias) : String :=
  a.name ++ (a.asName.map (" as " ++ ·)).getD ""

/-- A context manager. -/
def WithItem.print (w : WithItem) : Printed := do
  .ok ((← w.context.print false .test) ++ (← printOption false .test " as " w.target))

/-- Context managers. -/
def printWithItems : List WithItem → Except PrintFault (List String)
  | [] => .ok []
  | w :: ws => do .ok ((← w.print) :: (← printWithItems ws))

/-- The string that documents a definition, written on a line of its own. -/
def docLine (level : Nat) (cs : List Char) (mark : Bool) : String :=
  lineAt level ((if mark then "u" else "") ++ writeSparingly cs longQuotes)

/-- Decorators, each on its own line. -/
def decoratorLines (level : Nat) : List Expr → Except PrintFault Lines
  | [] => .ok []
  | d :: ds => do
    .ok (lineAt level ("@" ++ (← d.print false .test)) :: (← decoratorLines level ds))

/-- The target of an annotated assignment. -/
def annotatedTarget (simple : Bool) (target : Expr) : Printed := do
  let t ← target.print false .test
  match target with
  | .name .. => .ok (if simple then t else "(" ++ t ++ ")")
  | _ => .ok t

/-- The targets of an assignment, with the equals signs behind them. -/
def printTargets : List Expr → Printed
  | [] => .ok ""
  | t :: ts => do .ok ((← t.print false .tuple) ++ " = " ++ (← printTargets ts))

mutual

/-- The lines of a statement at a level of indentation. -/
def Stmt.lines (level : Nat) : Stmt → Except PrintFault Lines
  | .functionDef _ isAsync name params body decorators returns => do
    let ds ← decoratorLines level decorators
    let head := (if isAsync then "async def " else "def ") ++ name ++ "("
      ++ (← params.print false) ++ ")" ++ (← printOption false .test " -> " returns) ++ ":"
    .ok ("" :: ds ++ lineAt level head :: (← documentedLines (level + 1) body))
  | .classDef _ name bases keywords body decorators => do
    let ds ← decoratorLines level decorators
    let args := (← printAll false .test bases) ++ (← printKeywords false keywords)
    let head := "class " ++ name ++ (if args.isEmpty then "" else "(" ++ commas args ++ ")") ++ ":"
    .ok ("" :: ds ++ lineAt level head :: (← documentedLines (level + 1) body))
  | .ret _ value => do
    .ok [lineAt level ("return" ++ (← printOption false .test " " value))]
  | .delete _ targets => do
    .ok [lineAt level ("del " ++ commas (← printAll false .test targets))]
  | .assign _ targets value => do
    .ok [lineAt level ((← printTargets targets) ++ (← value.print false .test))]
  | .augAssign _ target op value => do
    let t ← target.print false .test
    .ok [lineAt level (t ++ " " ++ op.text ++ "= " ++ (← value.print false .test))]
  | .annAssign _ target typeHint value simple => do
    let t ← annotatedTarget simple target
    let a ← typeHint.print false .test
    .ok [lineAt level (t ++ ": " ++ a ++ (← printOption false .test " = " value))]
  | .forLoop _ isAsync target iter body orelse => do
    let head := (if isAsync then "async for " else "for ") ++ (← target.print false .tuple)
      ++ " in " ++ (← iter.print false .test) ++ ":"
    .ok (lineAt level head :: (← bodyLines (level + 1) body) ++ (← elseLines level orelse))
  | .whileLoop _ test body orelse => do
    let head := "while " ++ (← test.print false .test) ++ ":"
    .ok (lineAt level head :: (← bodyLines (level + 1) body) ++ (← elseLines level orelse))
  | .cond _ test body orelse => do
    let head := "if " ++ (← test.print false .test) ++ ":"
    .ok (lineAt level head :: (← bodyLines (level + 1) body) ++ (← elifLines level orelse))
  | .withBlock _ isAsync items body => do
    let head := (if isAsync then "async with " else "with ")
      ++ commas (← printWithItems items) ++ ":"
    .ok (lineAt level head :: (← bodyLines (level + 1) body))
  | .matchBlock _ subject cases => do
    let head := "match " ++ (← subject.print false .test) ++ ":"
    .ok (lineAt level head :: (← caseLines (level + 1) cases))
  | .raise _ exc cause => do
    .ok [lineAt level ("raise" ++ (← printOption false .test " " exc)
      ++ (← printOption false .test " from " cause))]
  | .tryBlock _ isStar body handlers orelse finalbody => do
    let b ← bodyLines (level + 1) body
    let hs ← handlerLines level isStar handlers
    let o ← elseLines level orelse
    let f ← bodyLines (level + 1) finalbody
    .ok (lineAt level "try:" :: b ++ hs ++ o
      ++ (if finalbody.isEmpty then [] else lineAt level "finally:" :: f))
  | .assert _ test message => do
    .ok [lineAt level ("assert " ++ (← test.print false .test)
      ++ (← printOption false .test ", " message))]
  | .importNames _ names => .ok [lineAt level ("import " ++ commas (names.map Alias.print))]
  | .importFrom _ module names dots =>
    .ok [lineAt level ("from " ++ String.ofList (List.replicate dots '.') ++ module.getD ""
      ++ " import " ++ commas (names.map Alias.print))]
  | .global _ names => .ok [lineAt level ("global " ++ commas names)]
  | .nonlocal _ names => .ok [lineAt level ("nonlocal " ++ commas names)]
  | .expr _ value => do .ok [lineAt level (← value.print false .yield)]
  | .pass _ => .ok [lineAt level "pass"]
  | .break _ => .ok [lineAt level "break"]
  | .continue _ => .ok [lineAt level "continue"]

/-- The lines of statements in a row. -/
def bodyLines (level : Nat) : List Stmt → Except PrintFault Lines
  | [] => .ok []
  | s :: ss => do .ok ((← s.lines level) ++ (← bodyLines level ss))

/-- The lines of a definition's body, which may begin with the string that documents it. -/
def documentedLines (level : Nat) : List Stmt → Except PrintFault Lines
  | [] => .ok []
  | .expr _ (.constant _ (.str cs mark)) :: ss => do
    .ok (docLine level cs mark :: (← bodyLines level ss))
  | s :: ss => do .ok ((← s.lines level) ++ (← bodyLines level ss))

/-- The lines of an `else` part, if there is one. -/
def elseLines (level : Nat) : List Stmt → Except PrintFault Lines
  | [] => .ok []
  | s :: ss => do
    .ok (lineAt level "else:" :: (← s.lines (level + 1)) ++ (← bodyLines (level + 1) ss))

/-- The lines of an `else` part of a condition; a single condition goes on with `elif`. -/
def elifLines (level : Nat) : List Stmt → Except PrintFault Lines
  | [] => .ok []
  | [.cond _ test body orelse] => do
    let head := "elif " ++ (← test.print false .test) ++ ":"
    .ok (lineAt level head :: (← bodyLines (level + 1) body) ++ (← elifLines level orelse))
  | s :: ss => do
    .ok (lineAt level "else:" :: (← s.lines (level + 1)) ++ (← bodyLines (level + 1) ss))

/-- The lines of `except` clauses. -/
def handlerLines (level : Nat) (isStar : Bool) : List Handler → Except PrintFault Lines
  | [] => .ok []
  | .mk _ type name body :: hs => do
    let head := (if isStar then "except*" else "except") ++ (← printOption false .test " " type)
      ++ (name.map (" as " ++ ·)).getD "" ++ ":"
    .ok (lineAt level head :: (← bodyLines (level + 1) body) ++ (← handlerLines level isStar hs))

/-- The lines of `case` clauses. -/
def caseLines (level : Nat) : List MatchCase → Except PrintFault Lines
  | [] => .ok []
  | .mk pattern guard body :: cs => do
    let head := "case " ++ (← pattern.print .test) ++ (← printOption false .test " if " guard) ++ ":"
    .ok (lineAt level head :: (← bodyLines (level + 1) body) ++ (← caseLines level cs))

end

/-- The text of a statement. -/
def Stmt.print (s : Stmt) : Printed := do
  let ls ← s.lines 0
  let ls := match s with
    | .functionDef .. | .classDef .. => ls.drop 1
    | _ => ls
  .ok ("\n".intercalate ls)

end Graft.Syntax
