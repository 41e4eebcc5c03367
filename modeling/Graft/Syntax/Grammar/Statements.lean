import Graft.Syntax.Grammar.Expressions

set_option autoImplicit false

/-! # Rules for statements and parameter lists -/

namespace Graft.Syntax

/-- The operators of augmented assignment. -/
def augmentedOps : List (String × BinaryOp) :=
  [("+=", .add), ("-=", .sub), ("*=", .mult), ("@=", .matMult), ("/=", .div), ("%=", .mod),
   ("&=", .bitAnd), ("|=", .bitOr), ("^=", .bitXor), ("<<=", .lShift), (">>=", .rShift),
   ("**=", .pow), ("//=", .floorDiv)]

/-- Either form of the right side of an assignment. -/
def assigned : Item :=
  .group [.mk [.rule .yieldExpr] (pick 0), .mk [.rule .starExpressions] (pick 0)]

/-- An `else` part as statements. -/
def Matched.orelse (m : Matched) (i : Nat) : List Stmt := m.stmts i

/-- A function definition; `d` is the number of items before its `def`. -/
def functionOf (isAsync : Bool) (d : Nat) : Action :=
  stmt fun m => .functionDef m.span isAsync (m.text (d + 1)) (m.params (d + 3))
    (m.stmts (d + 7)) [] (m.expr? (d + 5))

/-- A loop over an iterable; `d` is the number of items before its `for`. -/
def loopOf (isAsync : Bool) (d : Nat) : Action :=
  stmt fun m => .forLoop m.span isAsync (m.expr (d + 1)) (m.expr (d + 3)) (m.stmts (d + 5))
    (m.orelse (d + 6))

/-- The items of a function definition from its `def` on. -/
def functionItems : List Item :=
  [.lit "def", .kind .name, .force "(", .opt (.rule .params), .lit ")",
   .opt (.group [.mk [.lit "->", .rule .expression] (pick 1)]), .force ":", .rule .block]

/-- The items of a loop over an iterable from its `for` on. -/
def loopItems : List Item :=
  [.lit "for", .rule .starTargets, .lit "in", .cut, .rule .starExpressions, .lit ":",
   .rule .block, .opt (.rule .elseBlock)]

/-- The items of a `with` statement in brackets from its `with` on. -/
def bracketedWith : List Item :=
  [.lit "with", .lit "(", .sepBy (.lit ",") (.rule .withItem), .opt (.lit ","), .lit ")",
   .lit ":", .rule .block]

/-- The items of a `with` statement without brackets from its `with` on. -/
def bareWith : List Item :=
  [.lit "with", .sepBy (.lit ",") (.rule .withItem), .lit ":", .rule .block]

/-- A name an exception is bound to. -/
def asTarget : Item := .opt (.group [.mk [.lit "as", .kind .name] (pick 1)])

/-- An exception handler whose type is the item with index `i`. -/
def handlerOf (i : Nat) : Action := fun m =>
  .node (.handler (.mk m.span (some (m.expr i)) (m.text? (i + 1)) (m.stmts (i + 3))))

/-- A `try` statement whose handlers are the item with index three. -/
def tryOf (isStar : Bool) : Action :=
  stmt fun m => .tryBlock m.span isStar (m.stmts 2) (m.get 3).handlers (m.stmts 4) (m.stmts 5)

/-- An import of a name, perhaps under another one. -/
def aliasOf : Action := fun m =>
  .node (.alias { span := m.span, name := m.text 0, asName := m.text? 1 })

/-- Rules for statements. -/
def statementRule? : Rule → Option RuleBody
  | .file => choice [
      .mk [.opt (.rule .statements), .kind .endMarker] (pick 0)]
  | .fragment => choice [.mk [.rule .starExpressions] (pick 0)]
  | .statements => choice [.mk [.many1 (.rule .statement)] (pick 0)]
  | .statement => choice [
      .mk [.rule .compoundStmt] (pick 0),
      .mk [.rule .simpleStmts] (pick 0)]
  | .simpleStmts => choice [
      .mk [.rule .simpleStmt, .notAhead (.lit ";"), .kind .newline] (pick 0),
      .mk [.sepBy (.lit ";") (.rule .simpleStmt), .opt (.lit ";"), .kind .newline] (pick 0)]
  | .simpleStmt => choice [
      .mk [.rule .assignment] (pick 0),
      .mk [.rule .starExpressions] (stmt fun m => .expr m.span (m.expr 0)),
      .mk [.ahead (.lit "return"), .rule .returnStmt] (pick 0),
      .mk [.ahead (.group [.mk [.lit "import"] matched, .mk [.lit "from"] matched]),
           .rule .importStmt] (pick 0),
      .mk [.ahead (.lit "raise"), .rule .raiseStmt] (pick 0),
      .mk [.lit "pass"] (stmt fun m => .pass m.span),
      .mk [.ahead (.lit "del"), .rule .delStmt] (pick 0),
      .mk [.ahead (.lit "yield"), .rule .yieldStmt] (pick 0),
      .mk [.ahead (.lit "assert"), .rule .assertStmt] (pick 0),
      .mk [.lit "break"] (stmt fun m => .break m.span),
      .mk [.lit "continue"] (stmt fun m => .continue m.span),
      .mk [.ahead (.lit "global"), .rule .globalStmt] (pick 0),
      .mk [.ahead (.lit "nonlocal"), .rule .nonlocalStmt] (pick 0)]
  | .compoundStmt => choice [
      .mk [.ahead (.group [.mk [.lit "def"] matched, .mk [.lit "@"] matched,
             .mk [.lit "async"] matched]), .rule .functionDef] (pick 0),
      .mk [.ahead (.lit "if"), .rule .ifStmt] (pick 0),
      .mk [.ahead (.group [.mk [.lit "class"] matched, .mk [.lit "@"] matched]),
           .rule .classDef] (pick 0),
      .mk [.ahead (.group [.mk [.lit "with"] matched, .mk [.lit "async"] matched]),
           .rule .withStmt] (pick 0),
      .mk [.ahead (.group [.mk [.lit "for"] matched, .mk [.lit "async"] matched]),
           .rule .forStmt] (pick 0),
      .mk [.ahead (.lit "try"), .rule .tryStmt] (pick 0),
      .mk [.ahead (.lit "while"), .rule .whileStmt] (pick 0),
      .mk [.rule .matchStmt] (pick 0)]
  | .assignment => choice [
      .mk [.kind .name, .lit ":", .rule .expression,
           .opt (.group [.mk [.lit "=", .rule .annotatedRhs] (pick 1)])]
        (stmt fun m => .annAssign m.span (nameExpr (m.get 0)).toExpr (m.expr 2) (m.expr? 3) true),
      .mk [.group [
             .mk [.lit "(", .rule .singleTarget, .lit ")"] (pick 1),
             .mk [.rule .singleSubscriptAttributeTarget] (pick 0)],
           .lit ":", .rule .expression,
           .opt (.group [.mk [.lit "=", .rule .annotatedRhs] (pick 1)])]
        (stmt fun m => .annAssign m.span (m.expr 0) (m.expr 2) (m.expr? 3) false),
      .mk [.many1 (.group [.mk [.rule .starTargets, .lit "="] (pick 0)]), assigned,
           .notAhead (.lit "=")]
        (stmt fun m => .assign m.span (m.exprs 0) (m.expr 1)),
      .mk [.rule .singleTarget, .rule .augAssign, .cut, assigned]
        (fun m => match m.get 1 with
          | .binaryOp op => .node (.stmt (.augAssign m.span (m.expr 0) op (m.expr 2)))
          | _ => .reject),
      .mk [.mistake .invalidAssignment] (pick 0)]
  | .annotatedRhs => choice [
      .mk [.rule .yieldExpr] (pick 0), .mk [.rule .starExpressions] (pick 0)]
  | .augAssign => choice (augmentedOps.map fun (text, op) =>
      .mk [.lit text] (fun _ => .node (.binaryOp op)))
  | .returnStmt => choice [
      .mk [.lit "return", .opt (.rule .starExpressions)]
        (stmt fun m => .ret m.span (m.expr? 1))]
  | .raiseStmt => choice [
      .mk [.lit "raise", .rule .expression,
           .opt (.group [.mk [.lit "from", .rule .expression] (pick 1)])]
        (stmt fun m => .raise m.span (m.expr? 1) (m.expr? 2)),
      .mk [.lit "raise"] (stmt fun m => .raise m.span none none)]
  | .globalStmt => choice [
      .mk [.lit "global", .sepBy (.lit ",") (.kind .name)]
        (stmt fun m => .global m.span ((m.get 1).tokens.map Token.text))]
  | .nonlocalStmt => choice [
      .mk [.lit "nonlocal", .sepBy (.lit ",") (.kind .name)]
        (stmt fun m => .nonlocal m.span ((m.get 1).tokens.map Token.text))]
  | .delStmt => choice [
      .mk [.lit "del", .rule .delTargets,
           .ahead (.group [.mk [.lit ";"] matched, .mk [.kind .newline] matched])]
        (stmt fun m => .delete m.span (m.exprs 1)),
      .mk [.mistake .invalidDelStmt] (pick 0)]
  | .yieldStmt => choice [.mk [.rule .yieldExpr] (stmt fun m => .expr m.span (m.expr 0))]
  | .assertStmt => choice [
      .mk [.lit "assert", .rule .expression,
           .opt (.group [.mk [.lit ",", .rule .expression] (pick 1)])]
        (stmt fun m => .assert m.span (m.expr 1) (m.expr? 2))]
  | .importStmt => choice [.mk [.rule .importName] (pick 0), .mk [.rule .importFrom] (pick 0)]
  | .importName => choice [
      .mk [.lit "import", .rule .dottedAsNames]
        (stmt fun m => .importNames m.span (m.get 1).aliases)]
  | .importFrom => choice [
      .mk [.lit "from", .many dots, .rule .dottedName, .lit "import", .rule .importFromTargets]
        (stmt fun m => .importFrom m.span (some (m.text 2)) (m.get 4).aliases
          (dotCount (m.get 1).items)),
      .mk [.lit "from", .many1 dots, .lit "import", .rule .importFromTargets]
        (stmt fun m => .importFrom m.span none (m.get 3).aliases (dotCount (m.get 1).items))]
  | .importFromTargets => choice [
      .mk [.lit "(", .rule .importFromAsNames, .opt (.lit ","), .lit ")"] (pick 1),
      .mk [.rule .importFromAsNames, .notAhead (.lit ",")] (pick 0),
      .mk [.lit "*"]
        (fun m => .node (.seq [.alias { span := m.span, name := "*", asName := none }])),
      .mk [.mistake .invalidImportFromTargets] (pick 0)]
  | .importFromAsNames => choice [.mk [.sepBy (.lit ",") (.rule .importFromAsName)] (pick 0)]
  | .importFromAsName => choice [.mk [.kind .name, asTarget] aliasOf]
  | .dottedAsNames => choice [.mk [.sepBy (.lit ",") (.rule .dottedAsName)] (pick 0)]
  | .dottedAsName => choice [.mk [.rule .dottedName, asTarget] aliasOf]
  | .dottedName => some (.leftRec
      [.mk [.kind .name] (pick 0)]
      [.mk [.lit ".", .kind .name]
        (fun m => match m.token? 0, m.token? 2 with
          | some a, some b =>
            .node (.token { a with text := a.text ++ "." ++ b.text, endLine := b.endLine,
                                   endColumn := b.endColumn })
          | _, _ => .reject)])
  | .block => choice [
      .mk [.kind .newline, .kind .indent, .rule .statements, .kind .dedent] (pick 2),
      .mk [.rule .simpleStmts] (pick 0),
      .mk [.mistake .invalidBlock] (pick 0)]
  | .decorators => choice [
      .mk [.many1 (.group [.mk [.lit "@", .rule .namedExpression, .kind .newline] (pick 1)])]
        (pick 0)]
  | .classDef => choice [
      .mk [.rule .decorators, .rule .classDefRaw]
        (fun m => .node (decorate (m.exprs 0) (m.get 1))),
      .mk [.rule .classDefRaw] (pick 0)]
  | .classDefRaw => choice [
      .mk [.mistake .invalidClassDefRaw] (pick 0),
      .mk [.lit "class", .kind .name,
           .opt (.group [.mk [.lit "(", .opt (.rule .arguments), .lit ")"] (pick 1)]),
           .lit ":", .rule .block]
        (stmt fun m => match m.get 2 with
          | .expr (.call _ _ bases keywords) =>
            .classDef m.span (m.text 1) bases keywords (m.stmts 4) []
          | _ => .classDef m.span (m.text 1) [] [] (m.stmts 4) [])]
  | .functionDef => choice [
      .mk [.rule .decorators, .rule .functionDefRaw]
        (fun m => .node (decorate (m.exprs 0) (m.get 1))),
      .mk [.rule .functionDefRaw] (pick 0)]
  | .functionDefRaw => choice [
      .mk [.mistake .invalidDefRaw] (pick 0),
      .mk functionItems (functionOf false 0),
      .mk (.lit "async" :: functionItems) (functionOf true 1)]
  | .ifStmt => choice (.mk [.mistake .invalidIfStmt] (pick 0) :: branches "if")
  | .elifStmt => choice (.mk [.mistake .invalidElifStmt] (pick 0) :: branches "elif")
  | .elseBlock => choice [
      .mk [.mistake .invalidElseStmt] (pick 0),
      .mk [.lit "else", .force ":", .rule .block] (pick 2)]
  | .whileStmt => choice [
      .mk [.mistake .invalidWhileStmt] (pick 0),
      .mk [.lit "while", .rule .namedExpression, .lit ":", .rule .block,
           .opt (.rule .elseBlock)]
        (stmt fun m => .whileLoop m.span (m.expr 1) (m.stmts 3) (m.orelse 4))]
  | .forStmt => choice [
      .mk [.mistake .invalidForStmt] (pick 0),
      .mk loopItems (loopOf false 0),
      .mk (.lit "async" :: loopItems) (loopOf true 1),
      .mk [.mistake .invalidForTarget] (pick 0)]
  | .withStmt => choice [
      .mk [.mistake .invalidWithStmtIndent] (pick 0),
      .mk bracketedWith
        (stmt fun m => .withBlock m.span false (m.get 2).withItems (m.stmts 6)),
      .mk bareWith (stmt fun m => .withBlock m.span false (m.get 1).withItems (m.stmts 3)),
      .mk (.lit "async" :: bracketedWith)
        (stmt fun m => .withBlock m.span true (m.get 3).withItems (m.stmts 7)),
      .mk (.lit "async" :: bareWith)
        (stmt fun m => .withBlock m.span true (m.get 2).withItems (m.stmts 4)),
      .mk [.mistake .invalidWithStmt] (pick 0)]
  | .withItem => choice [
      .mk [.rule .expression, .lit "as", .rule .starTarget,
           .ahead (.group [.mk [.lit ","] matched, .mk [.lit ")"] matched,
             .mk [.lit ":"] matched])]
        (fun m => .node (.withItem { context := m.expr 0, target := some (m.expr 2) })),
      .mk [.mistake .invalidWithItem] (pick 0),
      .mk [.rule .expression]
        (fun m => .node (.withItem { context := m.expr 0, target := none }))]
  | .tryStmt => choice [
      .mk [.mistake .invalidTryStmt] (pick 0),
      .mk [.lit "try", .force ":", .rule .block, .rule .finallyBlock]
        (stmt fun m => .tryBlock m.span false (m.stmts 2) [] [] (m.stmts 3)),
      .mk [.lit "try", .force ":", .rule .block, .many1 (.rule .exceptBlock),
           .opt (.rule .elseBlock), .opt (.rule .finallyBlock)] (tryOf false),
      .mk [.lit "try", .force ":", .rule .block, .many1 (.rule .exceptStarBlock),
           .opt (.rule .elseBlock), .opt (.rule .finallyBlock)] (tryOf true)]
  | .exceptBlock => choice [
      .mk [.mistake .invalidExceptStmtIndent] (pick 0),
      .mk [.lit "except", .rule .expression, asTarget, .lit ":", .rule .block] (handlerOf 1),
      .mk [.lit "except", .lit ":", .rule .block]
        (fun m => .node (.handler (.mk m.span none none (m.stmts 2)))),
      .mk [.mistake .invalidExceptStmt] (pick 0)]
  | .exceptStarBlock => choice [
      .mk [.mistake .invalidExceptStarStmtIndent] (pick 0),
      .mk [.lit "except", .lit "*", .rule .expression, asTarget, .lit ":", .rule .block]
        (handlerOf 2),
      .mk [.mistake .invalidExceptStmt] (pick 0)]
  | .finallyBlock => choice [
      .mk [.mistake .invalidFinallyStmt] (pick 0),
      .mk [.lit "finally", .force ":", .rule .block] (pick 2)]
  | _ => none
where
  /-- A dot or an ellipsis. -/
  dots : Item := .group [.mk [.lit "."] (pick 0), .mk [.lit "..."] (pick 0)]
  /-- The forms of a condition that begins with the given keyword. -/
  branches (keyword : String) : List Alt :=
    [.mk [.lit keyword, .rule .namedExpression, .lit ":", .rule .block, .rule .elifStmt]
       (stmt fun m => .cond m.span (m.expr 1) (m.stmts 3) (m.stmts 4)),
     .mk [.lit keyword, .rule .namedExpression, .lit ":", .rule .block, .opt (.rule .elseBlock)]
       (stmt fun m => .cond m.span (m.expr 1) (m.stmts 3) (m.orelse 4))]

/-! ## Parameter lists -/

/-- The rules of a kind of parameter list: of a definition, or of an anonymous function. -/
structure ParamRules where
  noDefault : Rule
  withDefault : Rule
  maybeDefault : Rule
  param : Rule
  slashNoDefault : Rule
  slashWithDefault : Rule
  starEtc : Rule
  kwds : Rule
  /-- The token behind the last parameter. -/
  stop : String

/-- The parameter lists of definitions. -/
def ParamRules.definition : ParamRules :=
  { noDefault := .paramNoDefault, withDefault := .paramWithDefault,
    maybeDefault := .paramMaybeDefault, param := .param, slashNoDefault := .slashNoDefault,
    slashWithDefault := .slashWithDefault, starEtc := .starEtc, kwds := .kwds, stop := ")" }

/-- The parameter lists of anonymous functions. -/
def ParamRules.anonymous : ParamRules :=
  { noDefault := .lambdaParamNoDefault, withDefault := .lambdaParamWithDefault,
    maybeDefault := .lambdaParamMaybeDefault, param := .lambdaParam,
    slashNoDefault := .lambdaSlashNoDefault, slashWithDefault := .lambdaSlashWithDefault,
    starEtc := .lambdaStarEtc, kwds := .lambdaKwds, stop := ":" }

namespace ParamRules

variable (p : ParamRules)

/-- All forms of a parameter list. -/
def lists : List Alt :=
  [.mk [.rule p.slashNoDefault, .many (.rule p.noDefault), .many (.rule p.withDefault),
        .opt (.rule p.starEtc)]
     (fun m => .node (paramsOf (m.get 0).defaultParams
       ((m.get 1).defaultParams ++ (m.get 2).defaultParams) (m.get 3))),
   .mk [.rule p.slashWithDefault, .many (.rule p.withDefault), .opt (.rule p.starEtc)]
     (fun m => .node (paramsOf (m.get 0).defaultParams (m.get 1).defaultParams (m.get 2))),
   .mk [.many1 (.rule p.noDefault), .many (.rule p.withDefault), .opt (.rule p.starEtc)]
     (fun m => .node (paramsOf [] ((m.get 0).defaultParams ++ (m.get 1).defaultParams) (m.get 2))),
   .mk [.many1 (.rule p.withDefault), .opt (.rule p.starEtc)]
     (fun m => .node (paramsOf [] (m.get 0).defaultParams (m.get 1))),
   .mk [.rule p.starEtc] (fun m => .node (paramsOf [] [] (m.get 0)))]

/-- Positional parameters without defaults. -/
def slashesNoDefault : List Alt :=
  [.mk [.many1 (.rule p.noDefault), .lit "/", .lit ","] (pick 0),
   .mk [.many1 (.rule p.noDefault), .lit "/", .ahead (.lit p.stop)] (pick 0)]

/-- Positional parameters of which some have defaults. -/
def slashesWithDefault : List Alt :=
  [.mk [.many (.rule p.noDefault), .many1 (.rule p.withDefault), .lit "/", .lit ","]
     (fun m => .node (.seq ((m.get 0).items ++ (m.get 1).items))),
   .mk [.many (.rule p.noDefault), .many1 (.rule p.withDefault), .lit "/", .ahead (.lit p.stop)]
     (fun m => .node (.seq ((m.get 0).items ++ (m.get 1).items)))]

/-- What may come behind a star, given the ways a starred parameter is written. -/
def stars (mistake : Rule) (starred : List Rule) : List Alt :=
  [.mk [.mistake mistake] (pick 0)]
  ++ starred.map (fun r =>
    .mk [.lit "*", .rule r, .many (.rule p.maybeDefault), .opt (.rule p.kwds)]
      (fun m => .node (.params (.mk [] [] (m.get 1).param? (m.get 2).defaultParams
        (m.doubleStar? 3)))))
  ++ [.mk [.lit "*", .lit ",", .many1 (.rule p.maybeDefault), .opt (.rule p.kwds)]
        (fun m => .node (.params (.mk [] [] none (m.get 2).defaultParams (m.doubleStar? 3)))),
      .mk [.rule p.kwds] (fun m => .node (.params (.mk [] [] none [] (m.doubleStar? 0))))]

/-- A parameter behind two stars. -/
def doubleStars (mistake : Rule) : List Alt :=
  [.mk [.mistake mistake] (pick 0), .mk [.lit "**", .rule p.noDefault] (pick 1)]

/-- A parameter and the comma or the end behind it. -/
def plain (r : Rule) : List Alt :=
  [.mk [.rule r, .lit ","] (pick 0), .mk [.rule r, .ahead (.lit p.stop)] (pick 0)]

/-- A parameter with a default value and the comma or the end behind it. -/
def defaulted : List Alt :=
  [.mk [.rule p.param, .rule .default, .lit ","] withValue,
   .mk [.rule p.param, .rule .default, .ahead (.lit p.stop)] withValue]
where
  /-- A parameter with the value of the next item. -/
  withValue : Action := fun m =>
    match m.get 0 with
    | .param q => .node (.defaultParam (.mk q (m.expr? 1)))
    | _ => .reject

/-- A parameter that may have a default value, and the comma or the end behind it. -/
def maybeDefaulted : List Alt :=
  [.mk [.rule p.param, .opt (.rule .default), .lit ","] defaulted.withValue,
   .mk [.rule p.param, .opt (.rule .default), .ahead (.lit p.stop)] defaulted.withValue]

end ParamRules

/-- Rules for parameter lists. -/
def parameterRule? : Rule → Option RuleBody
  | .params => choice [
      .mk [.mistake .invalidParameters] (pick 0), .mk [.rule .parameters] (pick 0)]
  | .parameters => choice ParamRules.definition.lists
  | .slashNoDefault => choice ParamRules.definition.slashesNoDefault
  | .slashWithDefault => choice ParamRules.definition.slashesWithDefault
  | .starEtc => choice (ParamRules.definition.stars .invalidStarEtc
      [.paramNoDefault, .paramNoDefaultStarHint])
  | .kwds => choice (ParamRules.definition.doubleStars .invalidKwds)
  | .paramNoDefault => choice (ParamRules.definition.plain .param)
  | .paramNoDefaultStarHint => choice (ParamRules.definition.plain .paramStarHint)
  | .paramWithDefault => choice ParamRules.definition.defaulted
  | .paramMaybeDefault => choice ParamRules.definition.maybeDefaulted
  | .param => choice [
      .mk [.kind .name, .opt (.rule .typeHint)]
        (fun m => .node (.param (.mk m.span (m.text 0) (m.expr? 1))))]
  | .paramStarHint => choice [
      .mk [.kind .name, .rule .starHint]
        (fun m => .node (.param (.mk m.span (m.text 0) (m.expr? 1))))]
  | .typeHint => choice [.mk [.lit ":", .rule .expression] (pick 1)]
  | .starHint => choice [.mk [.lit ":", .rule .starExpression] (pick 1)]
  | .default => choice [
      .mk [.lit "=", .rule .expression] (pick 1), .mk [.mistake .invalidDefault] (pick 0)]
  | .lambdaParams => choice [
      .mk [.mistake .invalidLambdaParameters] (pick 0),
      .mk [.rule .lambdaParameters] (pick 0)]
  | .lambdaParameters => choice ParamRules.anonymous.lists
  | .lambdaSlashNoDefault => choice ParamRules.anonymous.slashesNoDefault
  | .lambdaSlashWithDefault => choice ParamRules.anonymous.slashesWithDefault
  | .lambdaStarEtc =>
    choice (ParamRules.anonymous.stars .invalidLambdaStarEtc [.lambdaParamNoDefault])
  | .lambdaKwds => choice (ParamRules.anonymous.doubleStars .invalidLambdaKwds)
  | .lambdaParamNoDefault => choice (ParamRules.anonymous.plain .lambdaParam)
  | .lambdaParamWithDefault => choice ParamRules.anonymous.defaulted
  | .lambdaParamMaybeDefault => choice ParamRules.anonymous.maybeDefaulted
  | .lambdaParam => choice [
      .mk [.kind .name] (fun m => .node (.param (.mk m.span (m.text 0) none)))]
  | _ => none

end Graft.Syntax
