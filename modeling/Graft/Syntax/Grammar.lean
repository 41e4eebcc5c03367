import Graft.Syntax.Token
import Graft.Syntax.Tree

set_option autoImplicit false

/-! # Parsing expression grammars

A grammar is data: every rule is a list of alternatives, an alternative is a sequence of items with
an action that turns what the items matched into a node.  Alternatives are tried in order and the
first that matches is taken.

Two kinds of grammar rules are told apart.  Ordinary rules say what is well formed.  Rules of the
second kind describe common mistakes; they are tried only once the text is known not to be well
formed, and their actions raise a fault that explains the mistake. -/

namespace Graft.Syntax

/-! ## Nodes -/

/-- What a rule or an item has matched. -/
inductive Node
  | absent
  | token (t : Token)
  | expr (e : Expr)
  | stmt (s : Stmt)
  | pattern (p : Pattern)
  | alias (a : Alias)
  | withItem (w : WithItem)
  | handler (h : Handler)
  | matchCase (c : MatchCase)
  | clause (c : Clause)
  | dictItem (d : DictItem)
  | keyword (k : Keyword)
  | param (p : Parameter)
  | defaultParam (p : DefaultParameter)
  | params (p : Parameters)
  | comparand (c : Comparand)
  | binaryOp (op : BinaryOp)
  | seq (ns : List Node)

namespace Node

/-- The parts of a sequence. -/
def items : Node → List Node
  | .seq ns => ns
  | _ => []

/-- The token of a node that is one. -/
def token? : Node → Option Token
  | .token t => some t
  | _ => none

/-- The expression of a node that is one. -/
def expr? : Node → Option Expr
  | .expr e => some e
  | _ => none

/-- The expression of a node that is known to be one. -/
def toExpr (n : Node) : Expr :=
  n.expr?.getD default

/-- The expressions of a sequence. -/
def exprs (n : Node) : List Expr :=
  n.items.filterMap expr?

/-- The statements of a sequence, whose parts may be sequences themselves. -/
def stmts : Node → List Stmt
  | .stmt s => [s]
  | .seq ns => stmtsOf ns
  | _ => []
where
  /-- The statements of several nodes. -/
  stmtsOf : List Node → List Stmt
    | [] => []
    | n :: ns => stmts n ++ stmtsOf ns

/-- The pattern of a node that is known to be one. -/
def toPattern : Node → Pattern
  | .pattern p => p
  | _ => .star default none

/-- The patterns of a sequence. -/
def patterns (n : Node) : List Pattern :=
  n.items.filterMap fun | .pattern p => some p | _ => none

/-- The imported names of a sequence. -/
def aliases (n : Node) : List Alias :=
  n.items.filterMap fun | .alias a => some a | _ => none

/-- The context managers of a sequence. -/
def withItems (n : Node) : List WithItem :=
  n.items.filterMap fun | .withItem w => some w | _ => none

/-- The `except` clauses of a sequence. -/
def handlers (n : Node) : List Handler :=
  n.items.filterMap fun | .handler h => some h | _ => none

/-- The `case` clauses of a sequence. -/
def matchCases (n : Node) : List MatchCase :=
  n.items.filterMap fun | .matchCase c => some c | _ => none

/-- The comprehension clauses of a sequence. -/
def clauses (n : Node) : List Clause :=
  n.items.filterMap fun | .clause c => some c | _ => none

/-- The dictionary items of a sequence. -/
def dictItems (n : Node) : List DictItem :=
  n.items.filterMap fun | .dictItem d => some d | _ => none

/-- The keyword arguments of a sequence. -/
def keywords (n : Node) : List Keyword :=
  n.items.filterMap fun | .keyword k => some k | _ => none

/-- The parameter of a node that is one. -/
def param? : Node → Option Parameter
  | .param p => some p
  | _ => none

/-- The parameters with defaults of a sequence; a parameter alone has no default. -/
def defaultParams (n : Node) : List DefaultParameter :=
  n.items.filterMap fun
    | .defaultParam p => some p
    | .param p => some (.mk p none)
    | _ => none

/-- The comparisons of a sequence. -/
def comparands (n : Node) : List Comparand :=
  n.items.filterMap fun | .comparand c => some c | _ => none

/-- The tokens of a sequence. -/
def tokens (n : Node) : List Token :=
  n.items.filterMap token?

/-- The text of a token node. -/
def text (n : Node) : String :=
  (n.token?.map Token.text).getD ""

/-- Whether a node stands for something. -/
def isPresent : Node → Bool
  | .absent => false
  | _ => true

end Node

/-! ## Actions -/

/-- Where a fault is raised. -/
inductive Site
  /-- At the last token that has been looked at. -/
  | here
  /-- At a position; the column counts bytes from zero. -/
  | at (line column : Nat)

/-- What an action yields. -/
inductive Outcome
  /-- A node. -/
  | node (n : Node)
  /-- Nothing; the rule does not match, and its other alternatives are not tried. -/
  | reject
  /-- A fault. -/
  | fault (cls : FaultClass) (site : Site) (message : String)

/-- What an action may look at besides the matched nodes. -/
structure Matched where
  /-- The span of the matched text. -/
  span : Span
  /-- Whether the last matched token stands within brackets. -/
  bracketed : Bool
  /-- The nodes of the alternative's items. -/
  nodes : List Node

/-- The node of the `i`-th item. -/
def Matched.get (m : Matched) (i : Nat) : Node :=
  (m.nodes[i]?).getD .absent

/-- An action. -/
abbrev Action := Matched → Outcome

/-! ## Rules -/

/-- The rules of the grammar. -/
inductive Rule
  | file | fragment | statements | statement | simpleStmts | simpleStmt | compoundStmt
  | assignment | annotatedRhs | augAssign | returnStmt | raiseStmt | globalStmt | nonlocalStmt
  | delStmt | yieldStmt | assertStmt | importStmt | importName | importFrom | importFromTargets
  | importFromAsNames | importFromAsName | dottedAsNames | dottedAsName | dottedName
  | block | decorators | classDef | classDefRaw | functionDef | functionDefRaw
  | params | parameters | slashNoDefault | slashWithDefault | starEtc | kwds
  | paramNoDefault | paramNoDefaultStarHint | paramWithDefault | paramMaybeDefault
  | param | paramStarHint | typeHint | starHint | default
  | ifStmt | elifStmt | elseBlock | whileStmt | forStmt | withStmt | withItem
  | tryStmt | exceptBlock | exceptStarBlock | finallyBlock
  | matchStmt | subjectExpr | caseBlock | guard | patterns | pattern | asPattern | orPattern
  | closedPattern | literalPattern | literalExpr | complexNumber | signedNumber
  | signedRealNumber | realNumber | imaginaryNumber | capturePattern | patternCaptureTarget
  | wildcardPattern | valuePattern | attr | nameOrAttr | groupPattern | sequencePattern
  | openSequencePattern | maybeSequencePattern | maybeStarPattern | starPattern | mappingPattern
  | itemsPattern | keyValuePattern | doubleStarPattern | classPattern | positionalPatterns
  | keywordPatterns | keywordPattern
  | expressions | expression | yieldExpr | starExpressions | starExpression
  | starNamedExpressions | starNamedExpression | assignmentExpression | namedExpression
  | disjunction | conjunction | inversion | comparison | compareOp
  | bitwiseOr | bitwiseXor | bitwiseAnd | shiftExpr | sum | term | factor | power | awaitPrimary
  | primary | slices | slice | atom | group
  | lambdef | lambdaParams | lambdaParameters | lambdaSlashNoDefault | lambdaSlashWithDefault
  | lambdaStarEtc | lambdaKwds | lambdaParamNoDefault | lambdaParamWithDefault
  | lambdaParamMaybeDefault | lambdaParam
  | strings | list | tuple | set | dict | doubleStarredKvpairs | doubleStarredKvpair | kvpair
  | forIfClauses | forIfClause | listcomp | setcomp | genexp | dictcomp
  | arguments | args | kwargs | starredExpression | kwargOrStarred | kwargOrDoubleStarred
  | starTargets | starTargetsListSeq | starTargetsTupleSeq | starTarget | targetWithStarAtom
  | starAtom | singleTarget | singleSubscriptAttributeTarget | tPrimary | tLookahead
  | delTargets | delTarget | delTAtom
  | invalidArguments | invalidKwarg | expressionWithoutInvalid | invalidLegacyExpression
  | invalidExpression | invalidNamedExpression | invalidAssignment | invalidAnnAssignTarget
  | invalidDelStmt | invalidBlock | invalidComprehension | invalidDictComprehension
  | invalidParameters | invalidParametersHelper | invalidDefault | invalidStarEtc | invalidKwds
  | invalidLambdaParameters | invalidLambdaParametersHelper | invalidLambdaStarEtc
  | invalidLambdaKwds | invalidWithItem | invalidForTarget | invalidGroup
  | invalidImportFromTargets | invalidWithStmt | invalidWithStmtIndent | invalidTryStmt
  | invalidExceptStmt | invalidFinallyStmt | invalidExceptStmtIndent
  | invalidExceptStarStmtIndent | invalidMatchStmt | invalidCaseBlock | invalidAsPattern
  | invalidClassPattern | invalidClassArgumentPattern | invalidIfStmt | invalidElifStmt
  | invalidElseStmt | invalidWhileStmt | invalidForStmt | invalidDefRaw | invalidClassDefRaw
  | invalidDoubleStarredKvpairs | invalidKvpair
deriving DecidableEq, Repr

/-- The number of a rule. -/
def Rule.index (r : Rule) : Nat := r.ctorIdx

mutual

/-- The items that alternatives are made of. -/
inductive Item
  /-- A token of a kind. -/
  | kind (k : TokenKind)
  /-- A keyword or operator. -/
  | lit (text : String)
  /-- A name with the given text. -/
  | soft (text : String)
  /-- A name that serves as a keyword in places. -/
  | softKeyword
  /-- A rule. -/
  | rule (r : Rule)
  /-- A rule that describes a mistake. -/
  | mistake (r : Rule)
  /-- An item that may be missing. -/
  | opt (i : Item)
  /-- An item any number of times. -/
  | many (i : Item)
  /-- An item at least once. -/
  | many1 (i : Item)
  /-- Items with separators between them, at least one. -/
  | sepBy (separator element : Item)
  /-- An item that has to follow but is not taken. -/
  | ahead (i : Item)
  /-- An item that must not follow. -/
  | notAhead (i : Item)
  /-- Once this is reached no further alternative is tried. -/
  | cut
  /-- A token without which the text is known to be malformed. -/
  | force (text : String)
  /-- One of several alternatives. -/
  | group (alts : List Alt)
  /-- A rule within which mistakes are not described. -/
  | plainly (r : Rule)
  /-- String literals in a row, taken as one. -/
  | strings

/-- A sequence of items with an action. -/
inductive Alt
  | mk (items : List Item) (action : Action)

end

/-- The alternatives of a rule.  A rule that extends its own match to the right lists the ways to
    begin and the ways to go on; the latter see the match so far as their first node. -/
inductive RuleBody
  | choice (alts : List Alt)
  | leftRec (starts : List Alt) (steps : List Alt)

end Graft.Syntax
