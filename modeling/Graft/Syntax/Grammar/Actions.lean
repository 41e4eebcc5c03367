import Graft.Syntax.Grammar
import Graft.Syntax.StringLiteral

set_option autoImplicit false

/-! # Actions of the grammar

The nodes that alternatives build, and the faults that described mistakes raise. -/

namespace Graft.Syntax

/-! ## Building nodes -/

/-- The node of the `i`-th item. -/
def pick (i : Nat) : Action := fun m => .node (m.get i)

/-- An expression built from the match. -/
def expr (f : Matched → Expr) : Action := fun m => .node (.expr (f m))

/-- A statement built from the match. -/
def stmt (f : Matched → Stmt) : Action := fun m => .node (.stmt (f m))

/-- A pattern built from the match. -/
def pat (f : Matched → Pattern) : Action := fun m => .node (.pattern (f m))

/-- The matched items as a sequence. -/
def asSeq : Action := fun m => .node (.seq m.nodes)

/-- Nothing of interest. -/
def matched : Action := fun _ => .node .absent

/-- The `i`-th item as an expression. -/
def Matched.expr (m : Matched) (i : Nat) : Expr := (m.get i).toExpr

/-- The `i`-th item as an expression, if it is one. -/
def Matched.expr? (m : Matched) (i : Nat) : Option Expr := (m.get i).expr?

/-- The `i`-th item's expressions. -/
def Matched.exprs (m : Matched) (i : Nat) : List Expr := (m.get i).exprs

/-- The `i`-th item's statements. -/
def Matched.stmts (m : Matched) (i : Nat) : List Stmt := (m.get i).stmts

/-- The `i`-th item's text. -/
def Matched.text (m : Matched) (i : Nat) : String := (m.get i).text

/-- The `i`-th item's text, if the item is present. -/
def Matched.text? (m : Matched) (i : Nat) : Option String := (m.get i).token?.map Token.text

/-- The `i`-th item's token. -/
def Matched.token? (m : Matched) (i : Nat) : Option Token := (m.get i).token?

/-- The span of a token. -/
def Token.span (t : Token) : Span :=
  ⟨t.line, t.column.getD 0, t.endLine, t.endColumn.getD 0⟩

/-- A name as an expression. -/
def nameExpr (n : Node) : Node :=
  match n with
  | .token t => .expr (.name t.span t.text)
  | _ => n

/-- A name token as an expression. -/
def asName : Action := fun m => .node (nameExpr (m.get 0))

/-- A number token as a constant. -/
def asNumber : Action := fun m =>
  match m.token? 0 with
  | none => .reject
  | some t =>
    match numberValue t.text.toList with
    | .ok c => .node (.expr (.constant t.span c))
    | .error message => .fault .syntactic (.at t.line 0) message

/-- A keyword token as a constant. -/
def asConstant (c : Constant) : Action := expr fun m => .constant m.span c

/-- A first expression and those behind it, as one sequence. -/
def consSeq : Action := fun m => .node (.seq (m.get 0 :: (m.get 1).items))

/-- A connective applied to a first operand and those behind it. -/
def connective (op : BoolOp) : Action :=
  expr fun m => .boolOp m.span op (m.expr 0 :: m.exprs 1)

/-- A binary operator between the first and third item. -/
def binary (op : BinaryOp) : Action :=
  expr fun m => .binary m.span (m.expr 0) op (m.expr 2)

/-- An operator before its operand. -/
def unary (op : UnaryOp) : Action :=
  expr fun m => .unary m.span op (m.expr 1)

/-- A comparison operator of `n` tokens and its right operand. -/
def comparand (op : Comparison) (n : Nat) : Action := fun m =>
  .node (.comparand (.mk op (m.expr n)))

/-- Parameters of a list that has no star part. -/
def paramsOf (posOnly plain : List DefaultParameter) (rest : Node) : Node :=
  match rest with
  | .params (.mk _ _ star keywordOnly doubleStar) =>
    .params (.mk posOnly plain star keywordOnly doubleStar)
  | _ => .params (.mk posOnly plain none [] none)

/-- The parameter list of an item; none if it is missing. -/
def Matched.params (m : Matched) (i : Nat) : Parameters :=
  match m.get i with
  | .params p => p
  | _ => default

/-- The parameter behind two stars of an item. -/
def Matched.doubleStar? (m : Matched) (i : Nat) : Option Parameter := (m.get i).param?

/-- Positional arguments and keyword arguments of an argument list; unpacked sequences may stand
    between the keywords. -/
def callOf (sp : Span) (func : Expr) (args : List Expr) (rest : List Node) : Expr :=
  .call sp func (args ++ rest.filterMap Node.expr?)
    (rest.filterMap fun | .keyword k => some k | _ => none)

/-- The arguments of an argument list node applied to a function. -/
def applyTo (sp : Span) (func : Expr) (arguments : Node) : Expr :=
  match arguments with
  | .expr (.call _ _ args keywords) => .call sp func args keywords
  | _ => .call sp func [] []

/-- Decorates a definition. -/
def decorate (decorators : List Expr) : Node → Node
  | .stmt (.functionDef sp a name params body _ returns) =>
    .stmt (.functionDef sp a name params body decorators returns)
  | .stmt (.classDef sp name bases keywords body _) =>
    .stmt (.classDef sp name bases keywords body decorators)
  | n => n

/-- The number of dots in a row of dots and ellipses. -/
def dotCount (ns : List Node) : Nat :=
  ns.foldl (fun n t => n + t.text.length) 0

/-- A sum or difference of two numbers. -/
def complexOf (op : BinaryOp) : Action := binary op

/-! ## Raising faults -/

/-- Raises a fault at the last token that has been looked at. -/
def failHere (message : String) : Action := fun _ => .fault .syntactic .here message

/-- Raises a fault at an expression. -/
def failAtExpr (e : Expr) (message : String) : Outcome :=
  .fault .syntactic (.at e.span.line e.span.column) message

/-- Raises a fault at the `i`-th item, a token, expression, parameter or pattern. -/
def failAt (i : Nat) (message : String) : Action := fun m =>
  match m.get i with
  | .token t => .fault .syntactic (.at t.line (t.column.getD 0)) message
  | .expr e => failAtExpr e message
  | .param p => .fault .syntactic (.at p.span.line p.span.column) message
  | .pattern p => .fault .syntactic (.at p.span.line p.span.column) message
  | _ => .fault .syntactic .here message

/-- Raises the fault of a block that is missing behind a header that begins with the `i`-th
    item. -/
def failIndent (i : Nat) (what : String) : Action := fun m =>
  let line := ((m.token? i).map Token.line).getD 0
  .fault .indentation .here
    ("expected an indented block after " ++ what ++ " on line " ++ toString line)

/-- What an expression is called in messages. -/
def Expr.describe : Expr → String
  | .attribute .. => "attribute"
  | .subscript .. => "subscript"
  | .starred .. => "starred"
  | .name .. => "name"
  | .list .. => "list"
  | .tuple .. => "tuple"
  | .lambda .. => "lambda"
  | .call .. => "function call"
  | .boolOp .. | .binary .. | .unary .. => "expression"
  | .generator .. => "generator expression"
  | .yield .. | .yieldFrom .. => "yield expression"
  | .await .. => "await expression"
  | .listComp .. => "list comprehension"
  | .setComp .. => "set comprehension"
  | .dictComp .. => "dict comprehension"
  | .dict .. => "dict literal"
  | .set .. => "set display"
  | .joined .. | .formatted .. => "f-string expression"
  | .constant _ .none => "None"
  | .constant _ .true => "True"
  | .constant _ .false => "False"
  | .constant _ .ellipsis => "ellipsis"
  | .constant .. => "literal"
  | .compare .. => "comparison"
  | .ifElse .. => "conditional expression"
  | .named .. => "named expression"
  | .slice .. => "slice"

/-- What a target is for. -/
inductive TargetUse
  | assign | delete | loop
deriving DecidableEq

mutual

/-- The part of an expression that keeps it from being a target. -/
def Expr.invalidTarget (use : TargetUse) : Expr → Option Expr
  | .list _ es => invalidTargetIn use es
  | .tuple _ es => invalidTargetIn use es
  | .starred sp e => if use = .delete then some (.starred sp e) else e.invalidTarget use
  | .compare sp left rest =>
    if use = .loop then
      match rest with
      | .mk .isIn _ :: _ => left.invalidTarget use
      | _ => none
    else some (.compare sp left rest)
  | .name .. | .subscript .. | .attribute .. => none
  | e => some e

/-- The first such part of several expressions. -/
def invalidTargetIn (use : TargetUse) : List Expr → Option Expr
  | [] => none
  | e :: es =>
    match e.invalidTarget use with
    | some bad => some bad
    | none => invalidTargetIn use es

end

/-- Raises a fault at the part of the `i`-th item that can not be a target, if there is one. -/
def failTarget (use : TargetUse) (i : Nat) : Action := fun m =>
  match (m.expr i).invalidTarget use with
  | some bad =>
    failAtExpr bad ((if use = .delete then "cannot delete " else "cannot assign to ") ++ bad.describe)
  | none => .reject

/-- Whether an expression is a name that used to begin a statement. -/
def Expr.isLegacy : Expr → Bool
  | .name _ id => id == "print" || id == "exec"
  | _ => false

end Graft.Syntax
