import Graft.Syntax.Grammar.Expressions

set_option autoImplicit false

/-! # Rules for `match` statements and patterns -/

namespace Graft.Syntax

/-- The literals that a pattern or a key of a mapping pattern may be, made into nodes by the
    given functions. -/
def literalForms (value : Action) (constant : Constant → Action) : List Alt :=
  [.mk [.rule .signedNumber,
        .notAhead (.group [.mk [.lit "+"] matched, .mk [.lit "-"] matched])] value,
   .mk [.rule .complexNumber] value,
   .mk [.rule .strings] value,
   .mk [.lit "None"] (constant .none),
   .mk [.lit "True"] (constant .true),
   .mk [.lit "False"] (constant .false)]

/-- A number, or one with a minus sign. -/
def signed (number : Item) : List Alt :=
  [.mk [number] (pick 0), .mk [.lit "-", number] (unary .negative)]

/-- A number token as a constant of a certain kind. -/
def numberOf (accept : Constant → Bool) (message : String) : Action := fun m =>
  match asNumber m with
  | .node (.expr (.constant sp c)) =>
    if accept c then .node (.expr (.constant sp c))
    else .fault .syntactic (.at sp.line sp.column) message
  | other => other

/-- A class pattern; the items with these indices are its patterns and keyword patterns. -/
def classOf (positional named : Nat) : Action :=
  pat fun m =>
    let pairs := (m.get named).items.filterMap fun
      | .seq [.token t, .pattern p] => some (t.text, p)
      | _ => none
    .cls m.span (m.expr 0) (m.get positional).patterns (pairs.map (·.1)) (pairs.map (·.2))

/-- A mapping pattern from its pairs and the name of the rest. -/
def mappingOf (pairs rest : Nat) : Action :=
  pat fun m =>
    let kvs := (m.get pairs).items.filterMap fun
      | .seq [.expr k, .pattern p] => some (k, p)
      | _ => none
    .mapping m.span (kvs.map (·.1)) (kvs.map (·.2)) (m.text? rest)

/-- The tokens a pattern may not be followed by if it is to be a plain name. -/
def notPartOfName : Item :=
  .notAhead (.group [.mk [.lit "."] matched, .mk [.lit "("] matched, .mk [.lit "="] matched])

/-- A name with attributes, one more each time. -/
def dottedStep : Alt :=
  .mk [.lit ".", .kind .name] (expr fun m => .attribute m.span (m.expr 0) (m.text 2))

/-- Rules for patterns. -/
def patternRule? : Rule → Option RuleBody
  | .matchStmt => choice [
      .mk [.soft "match", .rule .subjectExpr, .lit ":", .kind .newline, .kind .indent,
           .many1 (.rule .caseBlock), .kind .dedent]
        (stmt fun m => .matchBlock m.span (m.expr 1) (m.get 5).matchCases),
      .mk [.mistake .invalidMatchStmt] (pick 0)]
  | .subjectExpr => choice [
      .mk [.rule .starNamedExpression, .lit ",", .opt (.rule .starNamedExpressions)]
        (expr fun m => .tuple m.span (m.expr 0 :: m.exprs 2)),
      .mk [.rule .namedExpression] (pick 0)]
  | .caseBlock => choice [
      .mk [.mistake .invalidCaseBlock] (pick 0),
      .mk [.soft "case", .rule .patterns, .opt (.rule .guard), .lit ":", .rule .block]
        (fun m => .node (.matchCase (.mk (m.get 1).toPattern (m.expr? 2) (m.stmts 4))))]
  | .guard => choice [.mk [.lit "if", .rule .namedExpression] (pick 1)]
  | .patterns => choice [
      .mk [.rule .openSequencePattern] (pat fun m => .sequence m.span (m.get 0).patterns),
      .mk [.rule .pattern] (pick 0)]
  | .pattern => choice [.mk [.rule .asPattern] (pick 0), .mk [.rule .orPattern] (pick 0)]
  | .asPattern => choice [
      .mk [.rule .orPattern, .lit "as", .rule .patternCaptureTarget]
        (pat fun m => .capture m.span (some (m.get 0).toPattern) (m.text? 2)),
      .mk [.mistake .invalidAsPattern] (pick 0)]
  | .orPattern => choice [
      .mk [.sepBy (.lit "|") (.rule .closedPattern)]
        (fun m => match (m.get 0).patterns with
          | [p] => .node (.pattern p)
          | ps => .node (.pattern (.alternatives m.span ps)))]
  | .closedPattern => choice [
      .mk [.rule .literalPattern] (pick 0), .mk [.rule .capturePattern] (pick 0),
      .mk [.rule .wildcardPattern] (pick 0), .mk [.rule .valuePattern] (pick 0),
      .mk [.rule .groupPattern] (pick 0), .mk [.rule .sequencePattern] (pick 0),
      .mk [.rule .mappingPattern] (pick 0), .mk [.rule .classPattern] (pick 0)]
  | .literalPattern => choice (literalForms
      (pat fun m => .value m.span (m.expr 0)) (fun c => pat fun m => .singleton m.span c))
  | .literalExpr => choice (literalForms (pick 0) asConstant)
  | .complexNumber => choice [
      .mk [.rule .signedRealNumber, .lit "+", .rule .imaginaryNumber] (complexOf .add),
      .mk [.rule .signedRealNumber, .lit "-", .rule .imaginaryNumber] (complexOf .sub)]
  | .signedNumber => choice (signed (.group [.mk [.kind .number] asNumber]))
  | .signedRealNumber => choice (signed (.rule .realNumber))
  | .realNumber => choice [
      .mk [.kind .number] (numberOf (fun | .imaginary _ => false | _ => true)
        "real number required in complex literal")]
  | .imaginaryNumber => choice [
      .mk [.kind .number] (numberOf (fun | .imaginary _ => true | _ => false)
        "imaginary number required in complex literal")]
  | .capturePattern => choice [
      .mk [.rule .patternCaptureTarget] (pat fun m => .capture m.span none (m.text? 0))]
  | .patternCaptureTarget => choice [
      .mk [.notAhead (.soft "_"), .kind .name, notPartOfName] (pick 0)]
  | .wildcardPattern => choice [.mk [.soft "_"] (pat fun m => .capture m.span none none)]
  | .valuePattern => choice [
      .mk [.rule .attr, notPartOfName] (pat fun m => .value m.span (m.expr 0))]
  | .attr => some (.leftRec
      [.mk [.kind .name, .lit ".", .kind .name]
        (expr fun m => .attribute m.span (nameExpr (m.get 0)).toExpr (m.text 2))]
      [dottedStep])
  | .nameOrAttr => some (.leftRec [.mk [.kind .name] asName] [dottedStep])
  | .groupPattern => choice [.mk [.lit "(", .rule .pattern, .lit ")"] (pick 1)]
  | .sequencePattern => choice [
      .mk [.lit "[", .opt (.rule .maybeSequencePattern), .lit "]"]
        (pat fun m => .sequence m.span (m.get 1).patterns),
      .mk [.lit "(", .opt (.rule .openSequencePattern), .lit ")"]
        (pat fun m => .sequence m.span (m.get 1).patterns)]
  | .openSequencePattern => choice [
      .mk [.rule .maybeStarPattern, .lit ",", .opt (.rule .maybeSequencePattern)]
        (fun m => .node (.seq (m.get 0 :: (m.get 2).items)))]
  | .maybeSequencePattern => choice [
      .mk [.sepBy (.lit ",") (.rule .maybeStarPattern), .opt (.lit ",")] (pick 0)]
  | .maybeStarPattern => choice [
      .mk [.rule .starPattern] (pick 0), .mk [.rule .pattern] (pick 0)]
  | .starPattern => choice [
      .mk [.lit "*", .rule .patternCaptureTarget] (pat fun m => .star m.span (m.text? 1)),
      .mk [.lit "*", .rule .wildcardPattern] (pat fun m => .star m.span none)]
  | .mappingPattern => choice [
      .mk [.lit "\x7b", .lit "\x7d"] (pat fun m => .mapping m.span [] [] none),
      .mk [.lit "\x7b", .rule .doubleStarPattern, .opt (.lit ","), .lit "\x7d"] (mappingOf 9 1),
      .mk [.lit "\x7b", .rule .itemsPattern, .lit ",", .rule .doubleStarPattern,
           .opt (.lit ","), .lit "\x7d"] (mappingOf 1 3),
      .mk [.lit "\x7b", .rule .itemsPattern, .opt (.lit ","), .lit "\x7d"] (mappingOf 1 9)]
  | .itemsPattern => choice [.mk [.sepBy (.lit ",") (.rule .keyValuePattern)] (pick 0)]
  | .keyValuePattern => choice [
      .mk [.group [.mk [.rule .literalExpr] (pick 0), .mk [.rule .attr] (pick 0)],
           .lit ":", .rule .pattern]
        (fun m => .node (.seq [m.get 0, m.get 2]))]
  | .doubleStarPattern => choice [.mk [.lit "**", .rule .patternCaptureTarget] (pick 1)]
  | .classPattern => choice [
      .mk [.rule .nameOrAttr, .lit "(", .lit ")"] (classOf 9 9),
      .mk [.rule .nameOrAttr, .lit "(", .rule .positionalPatterns, .opt (.lit ","), .lit ")"]
        (classOf 2 9),
      .mk [.rule .nameOrAttr, .lit "(", .rule .keywordPatterns, .opt (.lit ","), .lit ")"]
        (classOf 9 2),
      .mk [.rule .nameOrAttr, .lit "(", .rule .positionalPatterns, .lit ",",
           .rule .keywordPatterns, .opt (.lit ","), .lit ")"] (classOf 2 4),
      .mk [.mistake .invalidClassPattern] (pick 0)]
  | .positionalPatterns => choice [.mk [.sepBy (.lit ",") (.rule .pattern)] (pick 0)]
  | .keywordPatterns => choice [.mk [.sepBy (.lit ",") (.rule .keywordPattern)] (pick 0)]
  | .keywordPattern => choice [
      .mk [.kind .name, .lit "=", .rule .pattern] (fun m => .node (.seq [m.get 0, m.get 2]))]
  | _ => none

end Graft.Syntax
