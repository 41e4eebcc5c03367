import Graft.Syntax.Grammar.Statements

set_option autoImplicit false

/-! # Rules that describe mistakes

These rules match text that is known to be malformed and raise a fault that says what is wrong
with it.  They are tried only after the ordinary rules have failed to match the whole text. -/

namespace Graft.Syntax

/-- Raises a fault that names the kind of the `i`-th item, an expression. -/
def failNaming (i : Nat) (before after : String) : Action := fun m =>
  failAtExpr (m.expr i) (before ++ (m.expr i).describe ++ after)

/-- The message about a single equals sign where a comparison is likely meant. -/
def perhapsEquals : String :=
  "invalid syntax. Maybe you meant '==' or ':=' instead of '='?"

/-- The message about a generator among other arguments. -/
def bareGenerator : String := "Generator expression must be parenthesized"

/-- One of several tokens. -/
def oneOf (texts : List String) : Item :=
  .group (texts.map fun text => .mk [.lit text] (pick 0))

/-- A header that ends without its colon. -/
def missingColon (header : List Item) : Alt :=
  .mk (header ++ [.kind .newline]) (failHere "expected ':'")

/-- A header, whose `i`-th item is the keyword it begins with, without a block behind it. -/
def missingBlock (header : List Item) (i : Nat) (what : String) : Alt :=
  .mk (header ++ [.lit ":", .kind .newline, .notAhead (.kind .indent)]) (failIndent i what)

/-- The mistakes in a header that takes a colon and a block. -/
def headerMistakes (header : List Item) (i : Nat) (what : String) : List Alt :=
  [missingColon header, missingBlock header i what]

/-- Context managers with or without brackets. -/
def contexts (inBrackets : Bool) : List Item :=
  let context (r : Rule) : Item :=
    .sepBy (.lit ",") (.group [
      .mk [.rule r, .opt (.group [.mk [.lit "as", .rule .starTarget] (pick 1)])] (pick 0)])
  let start : List Item := [.opt (.lit "async"), .lit "with"]
  if inBrackets then start ++ [.lit "(", context .expressions, .opt (.lit ","), .lit ")"]
  else start ++ [context .expression]

/-- The mistakes of parameter lists. -/
def parameterMistakes (p : ParamRules) (helper : Rule) (bracketed : Item) (what : String) :
    List Alt :=
  let slash : Item :=
    .group [.mk [.rule p.slashNoDefault] (pick 0), .mk [.rule p.slashWithDefault] (pick 0)]
  [.mk [.many (.rule p.noDefault), .rule helper, .rule p.noDefault]
     (failAt 2 "non-default argument follows default argument"),
   .mk [.many (.rule p.noDefault), .lit "(", bracketed, .opt (.lit ","), .lit ")"]
     (failAt 1 (what ++ " parameters cannot be parenthesized")),
   .mk [.lit "/", .lit ","] (failAt 0 "at least one argument must precede /"),
   .mk [slash, .many (.rule p.maybeDefault), .lit "/"] (failAt 2 "/ may appear only once"),
   .mk [.opt slash, .many (.rule p.maybeDefault), .lit "*",
        .group [.mk [.lit ","] (pick 0), .mk [.rule p.noDefault] (pick 0)],
        .many (.rule p.maybeDefault), .lit "/"] (failAt 5 "/ must be ahead of *"),
   .mk [.many1 (.rule p.maybeDefault), .lit "/", .lit "*"]
     (failAt 2 "expected comma between / and *")]

/-- The mistakes behind a star in a parameter list. -/
def starMistakes (p : ParamRules) (bare : Action) : List Alt :=
  let next : Item := .group [.mk [.rule p.noDefault] (pick 0), .mk [.lit ","] (pick 0)]
  [.mk [.lit "*", .group [
          .mk [.lit p.stop] matched,
          .mk [.lit ",", oneOf [p.stop, "**"]] matched]] bare,
   .mk [.lit "*", .rule p.param, .lit "="]
     (failAt 2 "var-positional argument cannot have default value"),
   .mk [.lit "*", next, .many (.rule p.maybeDefault), .lit "*", next]
     (failAt 3 "* argument may appear only once")]

/-- The mistakes behind two stars in a parameter list. -/
def doubleStarMistakes (p : ParamRules) : List Alt :=
  let late := failAt 3 "arguments cannot follow var-keyword argument"
  [.mk [.lit "**", .rule p.param, .lit "="]
     (failAt 2 "var-keyword argument cannot have default value"),
   .mk [.lit "**", .rule p.param, .lit ",", .rule p.param] late,
   .mk [.lit "**", .rule p.param, .lit ",", oneOf ["*", "**", "/"]] late]

/-- The mistakes in the value of a dictionary item. -/
def itemMistakes : List Alt :=
  [.mk [.rule .expression, .lit ":", .lit "*", .rule .bitwiseOr]
     (failAt 2 "cannot use a starred expression in a dictionary value"),
   .mk [.rule .expression, .lit ":", .ahead (oneOf ["\x7d", ","])]
     (failAt 1 "expression expected after dictionary key and ':'")]

/-- Raises the fault of a bare generator behind other arguments, if there are other ones. -/
def failBareGenerator : Action := fun m =>
  match m.expr 0 with
  | .call _ _ args _ =>
    match args.getLast? with
    | some last => if args.length ≤ 1 then .reject else failAtExpr last bareGenerator
    | none => .reject
  | _ => .reject

/-- Raises the fault of a positional argument behind a keyword argument. -/
def failLatePositional : Action := fun m =>
  let unpacked : Bool := match m.expr 0 with
    | .call _ _ _ keywords => keywords.any fun | .mk _ none _ => true | _ => false
    | _ => false
  failHere ("positional argument follows keyword argument"
    ++ if unpacked then " unpacking" else "") m

/-- Rules that describe mistakes. -/
def mistakeRule? : Rule → Option RuleBody
  | .invalidArguments => choice [
      .mk [.rule .args, .lit ",", .lit "*"]
        (failAt 0 "iterable argument unpacking follows keyword argument unpacking"),
      .mk [.rule .expression, .rule .forIfClauses, .lit ",", .opt (.group [
             .mk [.rule .args] (pick 0),
             .mk [.rule .expression, .rule .forIfClauses] (pick 0)])]
        (failAt 0 bareGenerator),
      .mk [.kind .name, .lit "=", .rule .expression, .rule .forIfClauses]
        (failAt 0 perhapsEquals),
      .mk [.rule .args, .rule .forIfClauses] failBareGenerator,
      .mk [.rule .args, .lit ",", .rule .expression, .rule .forIfClauses]
        (failAt 2 bareGenerator),
      .mk [.rule .args, .lit ",", .rule .args] failLatePositional]
  | .invalidKwarg => choice [
      .mk [oneOf ["True", "False", "None"], .lit "="]
        (fun m => failAt 0 ("cannot assign to " ++ m.text 0) m),
      .mk [.kind .name, .lit "=", .rule .expression, .rule .forIfClauses]
        (failAt 0 perhapsEquals),
      .mk [.notAhead (.group [.mk [.kind .name, .lit "="] matched]),
           .rule .expression, .lit "="]
        (failAt 0 "expression cannot contain assignment, perhaps you meant \"==\"?")]
  | .invalidLegacyExpression => choice [
      .mk [.kind .name, .notAhead (.lit "("), .rule .starExpressions]
        (fun m =>
          if (nameExpr (m.get 0)).toExpr.isLegacy then
            failAt 0 ("Missing parentheses in call to '" ++ m.text 0 ++ "'. Did you mean "
              ++ m.text 0 ++ "(...)?") m
          else .reject)]
  | .invalidExpression => choice [
      .mk [.notAhead (.group [
             .mk [.kind .name, .kind .string] matched, .mk [.softKeyword] matched]),
           .rule .disjunction, .plainly .expressionWithoutInvalid]
        (fun m =>
          if (m.expr 0).isLegacy || !m.bracketed then .reject
          else failAt 0 "invalid syntax. Perhaps you forgot a comma?" m),
      .mk [.rule .disjunction, .lit "if", .rule .disjunction, .notAhead (oneOf ["else", ":"])]
        (failAt 0 "expected 'else' after 'if' expression")]
  | .invalidNamedExpression => choice [
      .mk [.rule .expression, .lit ":=", .rule .expression]
        (failNaming 0 "cannot use assignment expressions with " ""),
      .mk [.kind .name, .lit "=", .rule .bitwiseOr, .notAhead (oneOf ["=", ":="])]
        (failAt 0 perhapsEquals),
      .mk [.notAhead (.group [
             .mk [.rule .list] matched, .mk [.rule .tuple] matched, .mk [.rule .genexp] matched,
             .mk [.lit "True"] matched, .mk [.lit "None"] matched, .mk [.lit "False"] matched]),
           .rule .bitwiseOr, .lit "=", .rule .bitwiseOr, .notAhead (oneOf ["=", ":="])]
        (failNaming 0 "cannot assign to " " here. Maybe you meant '==' instead of '='?")]
  | .invalidAssignment => choice [
      .mk [.mistake .invalidAnnAssignTarget, .lit ":", .rule .expression]
        (failNaming 0 "only single target (not " ") can be annotated"),
      .mk [.rule .starNamedExpression, .lit ",", .many (.rule .starNamedExpressions),
           .lit ":", .rule .expression]
        (failAt 0 "only single target (not tuple) can be annotated"),
      .mk [.rule .expression, .lit ":", .rule .expression]
        (failAt 0 "illegal target for annotation"),
      .mk [.many (.group [.mk [.rule .starTargets, .lit "="] (pick 0)]),
           .rule .starExpressions, .lit "="] (failTarget .assign 1),
      .mk [.many (.group [.mk [.rule .starTargets, .lit "="] (pick 0)]),
           .rule .yieldExpr, .lit "="]
        (failAt 1 "assignment to yield expression not possible"),
      .mk [.rule .starExpressions, .rule .augAssign, assigned]
        (failNaming 0 "'" "' is an illegal expression for augmented assignment")]
  | .invalidAnnAssignTarget => choice [
      .mk [.rule .list] (pick 0), .mk [.rule .tuple] (pick 0),
      .mk [.lit "(", .mistake .invalidAnnAssignTarget, .lit ")"] (pick 1)]
  | .invalidDelStmt => choice [
      .mk [.lit "del", .rule .starExpressions] (failTarget .delete 1)]
  | .invalidBlock => choice [
      .mk [.kind .newline, .notAhead (.kind .indent)]
        (fun _ => .fault .indentation .here "expected an indented block")]
  | .invalidComprehension => choice [
      .mk [oneOf ["[", "(", "\x7b"], .rule .starredExpression, .rule .forIfClauses]
        (failAt 1 "iterable unpacking cannot be used in comprehension"),
      .mk [oneOf ["[", "\x7b"], .rule .starNamedExpression, .lit ",",
           .rule .starNamedExpressions, .rule .forIfClauses]
        (failAt 1 "did you forget parentheses around the comprehension target?"),
      .mk [oneOf ["[", "\x7b"], .rule .starNamedExpression, .lit ",", .rule .forIfClauses]
        (failAt 1 "did you forget parentheses around the comprehension target?")]
  | .invalidDictComprehension => choice [
      .mk [.lit "\x7b", .lit "**", .rule .bitwiseOr, .rule .forIfClauses, .lit "\x7d"]
        (failAt 1 "dict unpacking cannot be used in dict comprehension")]
  | .invalidParameters => choice (parameterMistakes .definition .invalidParametersHelper
      (.many1 (.rule .paramNoDefault)) "Function")
  | .invalidParametersHelper => choice [
      .mk [.rule .slashWithDefault] (pick 0), .mk [.many1 (.rule .paramWithDefault)] (pick 0)]
  | .invalidDefault => choice [
      .mk [.lit "=", .ahead (oneOf [")", ","])] (failAt 0 "expected default value expression")]
  | .invalidStarEtc =>
    choice (starMistakes .definition (failAt 0 "named arguments must follow bare *"))
  | .invalidKwds => choice (doubleStarMistakes .definition)
  | .invalidLambdaParameters => choice (parameterMistakes .anonymous .invalidLambdaParametersHelper
      (.sepBy (.lit ",") (.rule .lambdaParam)) "Lambda expression")
  | .invalidLambdaParametersHelper => choice [
      .mk [.rule .lambdaSlashWithDefault] (pick 0),
      .mk [.many1 (.rule .lambdaParamWithDefault)] (pick 0)]
  | .invalidLambdaStarEtc =>
    choice (starMistakes .anonymous (failHere "named arguments must follow bare *"))
  | .invalidLambdaKwds => choice (doubleStarMistakes .anonymous)
  | .invalidWithItem => choice [
      .mk [.rule .expression, .lit "as", .rule .expression, .ahead (oneOf [",", ")", ":"])]
        (failTarget .assign 2)]
  | .invalidForTarget => choice [
      .mk [.opt (.lit "async"), .lit "for", .rule .starExpressions] (failTarget .loop 2)]
  | .invalidGroup => choice [
      .mk [.lit "(", .rule .starredExpression, .lit ")"]
        (failAt 1 "cannot use starred expression here"),
      .mk [.lit "(", .lit "**", .rule .expression, .lit ")"]
        (failAt 1 "cannot use double starred expression here")]
  | .invalidImportFromTargets => choice [
      .mk [.rule .importFromAsNames, .lit ",", .kind .newline]
        (failHere "trailing comma not allowed without surrounding parentheses")]
  | .invalidWithStmt => choice [missingColon (contexts false), missingColon (contexts true)]
  | .invalidWithStmtIndent => choice [
      missingBlock (contexts false) 1 "'with' statement",
      missingBlock (contexts true) 1 "'with' statement"]
  | .invalidTryStmt => choice [
      missingBlock [.lit "try"] 0 "'try' statement",
      .mk [.lit "try", .lit ":", .rule .block, .notAhead (oneOf ["except", "finally"])]
        (failHere "expected 'except' or 'finally' block"),
      .mk [.lit "try", .lit ":", .many (.rule .block),
           .group [
             .mk [.many1 (.rule .exceptBlock), .rule .exceptStarBlock] (pick 0),
             .mk [.many1 (.rule .exceptStarBlock), .rule .exceptBlock] (pick 0)],
           .many (.rule .block)]
        (failHere "cannot have both 'except' and 'except*' on the same 'try'")]
  | .invalidExceptStmt => choice [
      .mk [.lit "except", .opt (.lit "*"), .rule .expression, .lit ",", .rule .expressions,
           asTarget, .lit ":"]
        (failAt 2 "multiple exception types must be parenthesized"),
      missingColon [.lit "except", .opt (.lit "*"), .rule .expression, asTarget],
      missingColon [.lit "except"],
      .mk [.lit "except", .lit "*", .group [.mk [.kind .newline] matched, .mk [.lit ":"] matched]]
        (failHere "expected one or more exception types")]
  | .invalidFinallyStmt => choice [missingBlock [.lit "finally"] 0 "'finally' statement"]
  | .invalidExceptStmtIndent => choice [
      missingBlock [.lit "except", .rule .expression, asTarget] 0 "'except' statement",
      missingBlock [.lit "except"] 0 "'except' statement"]
  | .invalidExceptStarStmtIndent => choice [
      missingBlock [.lit "except", .lit "*", .rule .expression, asTarget] 0 "'except*' statement"]
  | .invalidMatchStmt =>
    choice (headerMistakes [.soft "match", .rule .subjectExpr] 0 "'match' statement")
  | .invalidCaseBlock =>
    choice (headerMistakes [.soft "case", .rule .patterns, .opt (.rule .guard)] 0
      "'case' statement")
  | .invalidAsPattern => choice [
      .mk [.rule .orPattern, .lit "as", .soft "_"] (failAt 2 "cannot use '_' as a target"),
      .mk [.rule .orPattern, .lit "as", .notAhead (.kind .name), .rule .expression]
        (failAt 2 "invalid pattern target")]
  | .invalidClassPattern => choice [
      .mk [.rule .nameOrAttr, .lit "(", .mistake .invalidClassArgumentPattern]
        (fun m => match (m.get 2).patterns with
          | p :: _ => .fault .syntactic (.at p.span.line p.span.column)
              "positional patterns follow keyword patterns"
          | [] => .reject)]
  | .invalidClassArgumentPattern => choice [
      .mk [.opt (.group [.mk [.rule .positionalPatterns, .lit ","] (pick 0)]),
           .rule .keywordPatterns, .lit ",", .rule .positionalPatterns] (pick 3)]
  | .invalidIfStmt =>
    choice (headerMistakes [.lit "if", .rule .namedExpression] 0 "'if' statement")
  | .invalidElifStmt =>
    choice (headerMistakes [.lit "elif", .rule .namedExpression] 0 "'elif' statement")
  | .invalidElseStmt => choice [missingBlock [.lit "else"] 0 "'else' statement"]
  | .invalidWhileStmt =>
    choice (headerMistakes [.lit "while", .rule .namedExpression] 0 "'while' statement")
  | .invalidForStmt =>
    choice (headerMistakes [.opt (.lit "async"), .lit "for", .rule .starTargets, .lit "in",
      .rule .starExpressions] 1 "'for' statement")
  | .invalidDefRaw => choice [
      missingBlock [.opt (.lit "async"), .lit "def", .kind .name, .lit "(",
        .opt (.rule .params), .lit ")",
        .opt (.group [.mk [.lit "->", .rule .expression] (pick 1)])] 1 "function definition"]
  | .invalidClassDefRaw => choice (headerMistakes [.lit "class", .kind .name,
      .opt (.group [.mk [.lit "(", .opt (.rule .arguments), .lit ")"] (pick 1)])] 0
      "class definition")
  | .invalidDoubleStarredKvpairs => choice ([
      .mk [.sepBy (.lit ",") (.rule .doubleStarredKvpair), .lit ",", .mistake .invalidKvpair]
        (pick 2)] ++ itemMistakes)
  | .invalidKvpair => choice ([
      .mk [.rule .expression, .notAhead (.lit ":")]
        (fun m =>
          let sp := (m.expr 0).span
          .fault .syntactic (.at sp.line (sp.endColumn - 1)) "':' expected after dictionary key")]
      ++ itemMistakes)
  | _ => none

end Graft.Syntax
