import Graft.Syntax.Grammar.Actions

set_option autoImplicit false

/-! # Rules for expressions -/

namespace Graft.Syntax

/-- A rule with alternatives tried in order. -/
def choice (alts : List Alt) : Option RuleBody := some (.choice alts)

/-- A left associative operator: one level up, or a match so far, the operator, and one level up. -/
def leftAssoc (tighter : Rule) (ops : List (String × BinaryOp)) : Option RuleBody :=
  some (.leftRec [.mk [.rule tighter] (pick 0)]
    (ops.map fun (text, op) => .mk [.lit text, .rule tighter] (binary op)))

/-- The ways to go on after a primary expression; each has to be followed by `after`. -/
def trailers (after : List Item) : List Alt :=
  [.mk ([.lit ".", .kind .name] ++ after) (expr fun m => .attribute m.span (m.expr 0) (m.text 2)),
   .mk ([.rule .genexp] ++ after) (expr fun m => .call m.span (m.expr 0) [m.expr 1] []),
   .mk ([.lit "(", .opt (.rule .arguments), .lit ")"] ++ after)
     (expr fun m => applyTo m.span (m.expr 0) (m.get 2)),
   .mk ([.lit "[", .rule .slices, .lit "]"] ++ after)
     (expr fun m => .subscript m.span (m.expr 0) (m.expr 2))]

/-- Expressions in a row, a tuple if there is more than one or a comma at the end. -/
def tupleOf (element : Rule) : Option RuleBody :=
  choice [
    .mk [.rule element, .many1 (.group [.mk [.lit ",", .rule element] (pick 1)]), .opt (.lit ",")]
      (expr fun m => .tuple m.span (m.expr 0 :: m.exprs 1)),
    .mk [.rule element, .lit ","] (expr fun m => .tuple m.span [m.expr 0]),
    .mk [.rule element] (pick 0)]

/-- The conditional, the plain and the anonymous function forms of an expression. -/
def expressionForms : List Alt :=
  [.mk [.rule .disjunction, .lit "if", .rule .disjunction, .lit "else", .rule .expression]
     (expr fun m => .ifElse m.span (m.expr 2) (m.expr 0) (m.expr 4)),
   .mk [.rule .disjunction] (pick 0),
   .mk [.rule .lambdef] (pick 0)]

/-- An element of an argument list or a generator: no keyword, and a bare assignment expression
    is allowed. -/
def plainArgument (after : List Item) : Item :=
  .group [
    .mk [.rule .assignmentExpression] (pick 0),
    .mk ([.rule .expression, .notAhead (.lit ":=")] ++ after) (pick 0)]

/-- Rules for expressions. -/
def expressionRule? : Rule → Option RuleBody
  | .expressions => tupleOf .expression
  | .expression => choice ([
      .mk [.mistake .invalidExpression] (pick 0),
      .mk [.mistake .invalidLegacyExpression] (pick 0)] ++ expressionForms)
  | .expressionWithoutInvalid => choice expressionForms
  | .yieldExpr => choice [
      .mk [.lit "yield", .lit "from", .rule .expression]
        (expr fun m => .yieldFrom m.span (m.expr 2)),
      .mk [.lit "yield", .opt (.rule .starExpressions)]
        (expr fun m => .yield m.span (m.expr? 1))]
  | .starExpressions => tupleOf .starExpression
  | .starExpression => choice [
      .mk [.lit "*", .rule .bitwiseOr] (expr fun m => .starred m.span (m.expr 1)),
      .mk [.rule .expression] (pick 0)]
  | .starNamedExpressions => choice [
      .mk [.sepBy (.lit ",") (.rule .starNamedExpression), .opt (.lit ",")] (pick 0)]
  | .starNamedExpression => choice [
      .mk [.lit "*", .rule .bitwiseOr] (expr fun m => .starred m.span (m.expr 1)),
      .mk [.rule .namedExpression] (pick 0)]
  | .assignmentExpression => choice [
      .mk [.kind .name, .lit ":=", .cut, .rule .expression]
        (expr fun m => .named m.span (nameExpr (m.get 0)).toExpr (m.expr 2))]
  | .namedExpression => choice [
      .mk [.rule .assignmentExpression] (pick 0),
      .mk [.mistake .invalidNamedExpression] (pick 0),
      .mk [.rule .expression, .notAhead (.lit ":=")] (pick 0)]
  | .disjunction => choice [
      .mk [.rule .conjunction,
           .many1 (.group [.mk [.lit "or", .rule .conjunction] (pick 1)])] (connective .or),
      .mk [.rule .conjunction] (pick 0)]
  | .conjunction => choice [
      .mk [.rule .inversion,
           .many1 (.group [.mk [.lit "and", .rule .inversion] (pick 1)])] (connective .and),
      .mk [.rule .inversion] (pick 0)]
  | .inversion => choice [
      .mk [.lit "not", .rule .inversion] (unary .not),
      .mk [.rule .comparison] (pick 0)]
  | .comparison => choice [
      .mk [.rule .bitwiseOr, .many1 (.rule .compareOp)]
        (expr fun m => .compare m.span (m.expr 0) (m.get 1).comparands),
      .mk [.rule .bitwiseOr] (pick 0)]
  | .compareOp => choice [
      .mk [.lit "==", .rule .bitwiseOr] (comparand .eq 1),
      .mk [.lit "!=", .rule .bitwiseOr] (comparand .notEq 1),
      .mk [.lit "<=", .rule .bitwiseOr] (comparand .ltE 1),
      .mk [.lit "<", .rule .bitwiseOr] (comparand .lt 1),
      .mk [.lit ">=", .rule .bitwiseOr] (comparand .gtE 1),
      .mk [.lit ">", .rule .bitwiseOr] (comparand .gt 1),
      .mk [.lit "not", .lit "in", .rule .bitwiseOr] (comparand .notIn 2),
      .mk [.lit "in", .rule .bitwiseOr] (comparand .isIn 1),
      .mk [.lit "is", .lit "not", .rule .bitwiseOr] (comparand .isNot 2),
      .mk [.lit "is", .rule .bitwiseOr] (comparand .is 1)]
  | .bitwiseOr => leftAssoc .bitwiseXor [("|", .bitOr)]
  | .bitwiseXor => leftAssoc .bitwiseAnd [("^", .bitXor)]
  | .bitwiseAnd => leftAssoc .shiftExpr [("&", .bitAnd)]
  | .shiftExpr => leftAssoc .sum [("<<", .lShift), (">>", .rShift)]
  | .sum => leftAssoc .term [("+", .add), ("-", .sub)]
  | .term =>
    leftAssoc .factor [("*", .mult), ("/", .div), ("//", .floorDiv), ("%", .mod), ("@", .matMult)]
  | .factor => choice [
      .mk [.lit "+", .rule .factor] (unary .positive),
      .mk [.lit "-", .rule .factor] (unary .negative),
      .mk [.lit "~", .rule .factor] (unary .invert),
      .mk [.rule .power] (pick 0)]
  | .power => choice [
      .mk [.rule .awaitPrimary, .lit "**", .rule .factor] (binary .pow),
      .mk [.rule .awaitPrimary] (pick 0)]
  | .awaitPrimary => choice [
      .mk [.lit "await", .rule .primary] (expr fun m => .await m.span (m.expr 1)),
      .mk [.rule .primary] (pick 0)]
  | .primary => some (.leftRec [.mk [.rule .atom] (pick 0)] (trailers []))
  | .slices => choice [
      .mk [.rule .slice, .notAhead (.lit ",")] (pick 0),
      .mk [.sepBy (.lit ",") (.group [
             .mk [.rule .slice] (pick 0),
             .mk [.rule .starredExpression] (pick 0)]),
           .opt (.lit ",")]
        (expr fun m => .tuple m.span (m.exprs 0))]
  | .slice => choice [
      .mk [.opt (.rule .expression), .lit ":", .opt (.rule .expression),
           .opt (.group [.mk [.lit ":", .opt (.rule .expression)] (pick 1)])]
        (expr fun m => .slice m.span (m.expr? 0) (m.expr? 2) (m.expr? 3)),
      .mk [.rule .namedExpression] (pick 0)]
  | .atom => choice [
      .mk [.kind .name] asName,
      .mk [.lit "True"] (asConstant .true),
      .mk [.lit "False"] (asConstant .false),
      .mk [.lit "None"] (asConstant .none),
      .mk [.ahead (.kind .string), .rule .strings] (pick 0),
      .mk [.kind .number] asNumber,
      .mk [.ahead (.lit "("), .group [
             .mk [.rule .tuple] (pick 0), .mk [.rule .group] (pick 0),
             .mk [.rule .genexp] (pick 0)]] (pick 0),
      .mk [.ahead (.lit "["), .group [
             .mk [.rule .list] (pick 0), .mk [.rule .listcomp] (pick 0)]] (pick 0),
      .mk [.ahead (.lit "\x7b"), .group [
             .mk [.rule .dict] (pick 0), .mk [.rule .set] (pick 0),
             .mk [.rule .dictcomp] (pick 0), .mk [.rule .setcomp] (pick 0)]] (pick 0),
      .mk [.lit "..."] (asConstant .ellipsis)]
  | .group => choice [
      .mk [.lit "(", .group [
             .mk [.rule .yieldExpr] (pick 0), .mk [.rule .namedExpression] (pick 0)],
           .lit ")"] (pick 1),
      .mk [.mistake .invalidGroup] (pick 0)]
  | .lambdef => choice [
      .mk [.lit "lambda", .opt (.rule .lambdaParams), .lit ":", .rule .expression]
        (expr fun m => .lambda m.span (m.params 1) (m.expr 3))]
  | .strings => choice [.mk [.strings] (pick 0)]
  | .list => choice [
      .mk [.lit "[", .opt (.rule .starNamedExpressions), .lit "]"]
        (expr fun m => .list m.span (m.exprs 1))]
  | .tuple => choice [
      .mk [.lit "(",
           .opt (.group [
             .mk [.rule .starNamedExpression, .lit ",", .opt (.rule .starNamedExpressions)]
               fun m => .node (.seq (m.get 0 :: (m.get 2).items))]),
           .lit ")"]
        (expr fun m => .tuple m.span (m.exprs 1))]
  | .set => choice [
      .mk [.lit "\x7b", .rule .starNamedExpressions, .lit "\x7d"]
        (expr fun m => .set m.span (m.exprs 1))]
  | .dict => choice [
      .mk [.lit "\x7b", .opt (.rule .doubleStarredKvpairs), .lit "\x7d"]
        (expr fun m => .dict m.span (m.get 1).dictItems),
      .mk [.lit "\x7b", .mistake .invalidDoubleStarredKvpairs, .lit "\x7d"] (pick 1)]
  | .doubleStarredKvpairs => choice [
      .mk [.sepBy (.lit ",") (.rule .doubleStarredKvpair), .opt (.lit ",")] (pick 0)]
  | .doubleStarredKvpair => choice [
      .mk [.lit "**", .rule .bitwiseOr] (fun m => .node (.dictItem (.unpack (m.expr 1)))),
      .mk [.rule .kvpair] (pick 0)]
  | .kvpair => choice [
      .mk [.rule .expression, .lit ":", .rule .expression]
        (fun m => .node (.dictItem (.pair (m.expr 0) (m.expr 2))))]
  | .forIfClauses => choice [.mk [.many1 (.rule .forIfClause)] (pick 0)]
  | .forIfClause => choice [
      .mk [.lit "async", .lit "for", .rule .starTargets, .lit "in", .cut, .rule .disjunction,
           .many (.group [.mk [.lit "if", .rule .disjunction] (pick 1)])]
        (fun m => .node (.clause (.mk true (m.expr 2) (m.expr 4) (m.exprs 5)))),
      .mk [.lit "for", .rule .starTargets, .lit "in", .cut, .rule .disjunction,
           .many (.group [.mk [.lit "if", .rule .disjunction] (pick 1)])]
        (fun m => .node (.clause (.mk false (m.expr 1) (m.expr 3) (m.exprs 4)))),
      .mk [.mistake .invalidForTarget] (pick 0)]
  | .listcomp => choice [
      .mk [.lit "[", .rule .namedExpression, .rule .forIfClauses, .lit "]"]
        (expr fun m => .listComp m.span (m.expr 1) (m.get 2).clauses),
      .mk [.mistake .invalidComprehension] (pick 0)]
  | .setcomp => choice [
      .mk [.lit "\x7b", .rule .namedExpression, .rule .forIfClauses, .lit "\x7d"]
        (expr fun m => .setComp m.span (m.expr 1) (m.get 2).clauses),
      .mk [.mistake .invalidComprehension] (pick 0)]
  | .genexp => choice [
      .mk [.lit "(", plainArgument [], .rule .forIfClauses, .lit ")"]
        (expr fun m => .generator m.span (m.expr 1) (m.get 2).clauses),
      .mk [.mistake .invalidComprehension] (pick 0)]
  | .dictcomp => choice [
      .mk [.lit "\x7b", .rule .kvpair, .rule .forIfClauses, .lit "\x7d"]
        (fun m => match m.get 1 with
          | .dictItem (.pair k v) => .node (.expr (.dictComp m.span k v (m.get 2).clauses))
          | _ => .reject),
      .mk [.mistake .invalidDictComprehension] (pick 0)]
  | .arguments => choice [
      .mk [.rule .args, .opt (.lit ","), .ahead (.lit ")")] (pick 0),
      .mk [.mistake .invalidArguments] (pick 0)]
  | .args => choice [
      .mk [.sepBy (.lit ",") (.group [
             .mk [.rule .starredExpression] (pick 0),
             .mk [plainArgument [], .notAhead (.lit "=")] (pick 0)]),
           .opt (.group [.mk [.lit ",", .rule .kwargs] (pick 1)])]
        (expr fun m => callOf m.span default (m.exprs 0) (m.get 1).items),
      .mk [.rule .kwargs] (expr fun m => callOf m.span default [] (m.get 0).items)]
  | .kwargs => choice [
      .mk [.sepBy (.lit ",") (.rule .kwargOrStarred), .lit ",",
           .sepBy (.lit ",") (.rule .kwargOrDoubleStarred)]
        (fun m => .node (.seq ((m.get 0).items ++ (m.get 2).items))),
      .mk [.sepBy (.lit ",") (.rule .kwargOrStarred)] (pick 0),
      .mk [.sepBy (.lit ",") (.rule .kwargOrDoubleStarred)] (pick 0)]
  | .starredExpression => choice [
      .mk [.lit "*", .rule .expression] (expr fun m => .starred m.span (m.expr 1))]
  | .kwargOrStarred => choice [
      .mk [.mistake .invalidKwarg] (pick 0),
      .mk [.kind .name, .lit "=", .rule .expression]
        (fun m => .node (.keyword (.mk m.span (some (m.text 0)) (m.expr 2)))),
      .mk [.rule .starredExpression] (pick 0)]
  | .kwargOrDoubleStarred => choice [
      .mk [.mistake .invalidKwarg] (pick 0),
      .mk [.kind .name, .lit "=", .rule .expression]
        (fun m => .node (.keyword (.mk m.span (some (m.text 0)) (m.expr 2)))),
      .mk [.lit "**", .rule .expression]
        (fun m => .node (.keyword (.mk m.span none (m.expr 1))))]
  | .starTargets => choice [
      .mk [.rule .starTarget, .notAhead (.lit ",")] (pick 0),
      .mk [.rule .starTarget, .many (.group [.mk [.lit ",", .rule .starTarget] (pick 1)]),
           .opt (.lit ",")]
        (expr fun m => .tuple m.span (m.expr 0 :: m.exprs 1))]
  | .starTargetsListSeq => choice [
      .mk [.sepBy (.lit ",") (.rule .starTarget), .opt (.lit ",")] (pick 0)]
  | .starTargetsTupleSeq => choice [
      .mk [.rule .starTarget, .many1 (.group [.mk [.lit ",", .rule .starTarget] (pick 1)]),
           .opt (.lit ",")] consSeq,
      .mk [.rule .starTarget, .lit ","] (fun m => .node (.seq [m.get 0]))]
  | .starTarget => choice [
      .mk [.lit "*", .group [.mk [.notAhead (.lit "*"), .rule .starTarget] (pick 0)]]
        (expr fun m => .starred m.span (m.expr 1)),
      .mk [.rule .targetWithStarAtom] (pick 0)]
  | .targetWithStarAtom => choice (targetForms .starAtom)
  | .starAtom => choice [
      .mk [.kind .name] asName,
      .mk [.lit "(", .rule .targetWithStarAtom, .lit ")"] (pick 1),
      .mk [.lit "(", .opt (.rule .starTargetsTupleSeq), .lit ")"]
        (expr fun m => .tuple m.span (m.exprs 1)),
      .mk [.lit "[", .opt (.rule .starTargetsListSeq), .lit "]"]
        (expr fun m => .list m.span (m.exprs 1))]
  | .singleTarget => choice [
      .mk [.rule .singleSubscriptAttributeTarget] (pick 0),
      .mk [.kind .name] asName,
      .mk [.lit "(", .rule .singleTarget, .lit ")"] (pick 1)]
  | .singleSubscriptAttributeTarget => choice partTargets
  | .tPrimary => some (.leftRec
      [.mk [.rule .atom, .ahead (.rule .tLookahead)] (pick 0)]
      (trailers [.ahead (.rule .tLookahead)]))
  | .tLookahead => choice [
      .mk [.lit "("] matched, .mk [.lit "["] matched, .mk [.lit "."] matched]
  | .delTargets => choice [
      .mk [.sepBy (.lit ",") (.rule .delTarget), .opt (.lit ",")] (pick 0)]
  | .delTarget => choice (targetForms .delTAtom)
  | .delTAtom => choice [
      .mk [.kind .name] asName,
      .mk [.lit "(", .rule .delTarget, .lit ")"] (pick 1),
      .mk [.lit "(", .opt (.rule .delTargets), .lit ")"]
        (expr fun m => .tuple m.span (m.exprs 1)),
      .mk [.lit "[", .opt (.rule .delTargets), .lit "]"]
        (expr fun m => .list m.span (m.exprs 1))]
  | _ => none
where
  /-- A target that is an attribute or an element of something. -/
  partTargets : List Alt :=
    [.mk [.rule .tPrimary, .lit ".", .kind .name, .notAhead (.rule .tLookahead)]
       (expr fun m => .attribute m.span (m.expr 0) (m.text 2)),
     .mk [.rule .tPrimary, .lit "[", .rule .slices, .lit "]", .notAhead (.rule .tLookahead)]
       (expr fun m => .subscript m.span (m.expr 0) (m.expr 2))]
  /-- A target that is such a part or given by another rule. -/
  targetForms (other : Rule) : List Alt :=
    partTargets ++ [.mk [.rule other] (pick 0)]

end Graft.Syntax
