set_option autoImplicit false

/-! # Syntax trees

Expressions, statements and patterns of Python 3.11.  Every node carries the span of source text
it came from; two trees are the same program when they agree up to spans. -/

namespace Graft.Syntax

/-- A stretch of source text: lines count from one, columns count bytes from zero. -/
structure Span where
  line : Nat
  column : Nat
  endLine : Nat
  endColumn : Nat
deriving DecidableEq, Repr, Inhabited

/-- The stretch from the start of one span to the end of another. -/
def Span.to (a b : Span) : Span :=
  ⟨a.line, a.column, b.endLine, b.endColumn⟩

/-- Literal values. -/
inductive Constant
  | none
  | true
  | false
  | ellipsis
  | int (n : Nat)
  | float (x : Float)
  | imaginary (x : Float)
  | str (s : List Char) (unicodeMark : Bool)
  | bytes (bs : List UInt8)

/-- The binary operators. -/
inductive BinaryOp
  | add | sub | mult | matMult | div | mod | pow | lShift | rShift | bitOr | bitXor | bitAnd
  | floorDiv
deriving DecidableEq, Repr

/-- The operators with one operand. -/
inductive UnaryOp
  | invert | not | positive | negative
deriving DecidableEq, Repr

/-- The connectives. -/
inductive BoolOp
  | and | or
deriving DecidableEq, Repr

/-- The comparisons. -/
inductive Comparison
  | eq | notEq | lt | ltE | gt | gtE | is | isNot | isIn | notIn
deriving DecidableEq, Repr

/-- How a field of a formatted string is turned into text first. -/
inductive Conversion
  | none | str | repr | ascii
deriving DecidableEq, Repr

mutual

/-- Expressions. -/
inductive Expr
  | boolOp (sp : Span) (op : BoolOp) (operands : List Expr)
  | named (sp : Span) (target : Expr) (value : Expr)
  | binary (sp : Span) (left : Expr) (op : BinaryOp) (right : Expr)
  | unary (sp : Span) (op : UnaryOp) (operand : Expr)
  | lambda (sp : Span) (params : Parameters) (body : Expr)
  | ifElse (sp : Span) (test : Expr) (body : Expr) (orelse : Expr)
  | dict (sp : Span) (items : List DictItem)
  | set (sp : Span) (elements : List Expr)
  | listComp (sp : Span) (element : Expr) (clauses : List Clause)
  | setComp (sp : Span) (element : Expr) (clauses : List Clause)
  | dictComp (sp : Span) (key : Expr) (value : Expr) (clauses : List Clause)
  | generator (sp : Span) (element : Expr) (clauses : List Clause)
  | await (sp : Span) (value : Expr)
  | yield (sp : Span) (value : Option Expr)
  | yieldFrom (sp : Span) (value : Expr)
  | compare (sp : Span) (left : Expr) (rest : List Comparand)
  | call (sp : Span) (func : Expr) (args : List Expr) (keywords : List Keyword)
  | formatted (sp : Span) (value : Expr) (conversion : Conversion) (format : Option Expr)
  | joined (sp : Span) (parts : List Expr)
  | constant (sp : Span) (value : Constant)
  | attribute (sp : Span) (value : Expr) (attr : String)
  | subscript (sp : Span) (value : Expr) (index : Expr)
  | starred (sp : Span) (value : Expr)
  | name (sp : Span) (id : String)
  | list (sp : Span) (elements : List Expr)
  | tuple (sp : Span) (elements : List Expr)
  | slice (sp : Span) (lower upper step : Option Expr)

/-- One comparison of a chain: the operator and its right operand. -/
inductive Comparand
  | mk (op : Comparison) (right : Expr)

/-- An item of a dictionary display: a pair, or a mapping that is unpacked. -/
inductive DictItem
  | pair (key : Expr) (value : Expr)
  | unpack (value : Expr)

/-- A `for` clause of a comprehension with its conditions. -/
inductive Clause
  | mk (isAsync : Bool) (target : Expr) (iter : Expr) (conditions : List Expr)

/-- A keyword argument of a call, or a mapping that is unpacked. -/
inductive Keyword
  | mk (sp : Span) (name : Option String) (value : Expr)

/-- A parameter. -/
inductive Parameter
  | mk (sp : Span) (name : String) (typeHint : Option Expr)

/-- A parameter with its default value, if it has one. -/
inductive DefaultParameter
  | mk (param : Parameter) (default : Option Expr)

/-- A parameter list. -/
inductive Parameters
  | mk (posOnly : List DefaultParameter) (plain : List DefaultParameter)
      (star : Option Parameter) (keywordOnly : List DefaultParameter)
      (doubleStar : Option Parameter)

end

/-- Patterns of `match` statements. -/
inductive Pattern
  | value (sp : Span) (value : Expr)
  | singleton (sp : Span) (value : Constant)
  | sequence (sp : Span) (patterns : List Pattern)
  | mapping (sp : Span) (keys : List Expr) (patterns : List Pattern) (rest : Option String)
  | cls (sp : Span) (cls : Expr) (patterns : List Pattern) (keywords : List String)
      (keywordPatterns : List Pattern)
  | star (sp : Span) (name : Option String)
  | capture (sp : Span) (pattern : Option Pattern) (name : Option String)
  | alternatives (sp : Span) (patterns : List Pattern)

/-- An imported name and the name it is bound to, if that is another. -/
structure Alias where
  span : Span
  name : String
  asName : Option String

/-- A context manager of a `with` statement and the target it is bound to. -/
structure WithItem where
  context : Expr
  target : Option Expr

mutual

/-- Statements. -/
inductive Stmt
  | functionDef (sp : Span) (isAsync : Bool) (name : String) (params : Parameters)
      (body : List Stmt) (decorators : List Expr) (returns : Option Expr)
  | classDef (sp : Span) (name : String) (bases : List Expr) (keywords : List Keyword)
      (body : List Stmt) (decorators : List Expr)
  | ret (sp : Span) (value : Option Expr)
  | delete (sp : Span) (targets : List Expr)
  | assign (sp : Span) (targets : List Expr) (value : Expr)
  | augAssign (sp : Span) (target : Expr) (op : BinaryOp) (value : Expr)
  | annAssign (sp : Span) (target : Expr) (typeHint : Expr) (value : Option Expr)
      (simple : Bool)
  | forLoop (sp : Span) (isAsync : Bool) (target : Expr) (iter : Expr) (body : List Stmt)
      (orelse : List Stmt)
  | whileLoop (sp : Span) (test : Expr) (body : List Stmt) (orelse : List Stmt)
  | cond (sp : Span) (test : Expr) (body : List Stmt) (orelse : List Stmt)
  | withBlock (sp : Span) (isAsync : Bool) (items : List WithItem) (body : List Stmt)
  | matchBlock (sp : Span) (subject : Expr) (cases : List MatchCase)
  | raise (sp : Span) (exc : Option Expr) (cause : Option Expr)
  | tryBlock (sp : Span) (isStar : Bool) (body : List Stmt) (handlers : List Handler)
      (orelse : List Stmt) (finalbody : List Stmt)
  | assert (sp : Span) (test : Expr) (message : Option Expr)
  | importNames (sp : Span) (names : List Alias)
  | importFrom (sp : Span) (module : Option String) (names : List Alias) (level : Nat)
  | global (sp : Span) (names : List String)
  | nonlocal (sp : Span) (names : List String)
  | expr (sp : Span) (value : Expr)
  | pass (sp : Span)
  | break (sp : Span)
  | continue (sp : Span)

/-- An `except` clause. -/
inductive Handler
  | mk (sp : Span) (type : Option Expr) (name : Option String) (body : List Stmt)

/-- A `case` clause. -/
inductive MatchCase
  | mk (pattern : Pattern) (guard : Option Expr) (body : List Stmt)

end

/-! ## Spans -/

/-- The span of an expression. -/
def Expr.span : Expr → Span
  | .boolOp sp .. | .named sp .. | .binary sp .. | .unary sp .. | .lambda sp .. | .ifElse sp ..
  | .dict sp .. | .set sp .. | .listComp sp .. | .setComp sp .. | .dictComp sp ..
  | .generator sp .. | .await sp .. | .yield sp .. | .yieldFrom sp .. | .compare sp ..
  | .call sp .. | .formatted sp .. | .joined sp .. | .constant sp .. | .attribute sp ..
  | .subscript sp .. | .starred sp .. | .name sp .. | .list sp .. | .tuple sp .. | .slice sp .. => sp

/-- The span of a pattern. -/
def Pattern.span : Pattern → Span
  | .value sp .. | .singleton sp .. | .sequence sp .. | .mapping sp .. | .cls sp .. | .star sp ..
  | .capture sp .. | .alternatives sp .. => sp

/-- The span of a statement.  A decorated definition's span begins at its `def` or `class`. -/
def Stmt.span : Stmt → Span
  | .functionDef sp .. | .classDef sp .. | .ret sp .. | .delete sp .. | .assign sp ..
  | .augAssign sp .. | .annAssign sp .. | .forLoop sp .. | .whileLoop sp .. | .cond sp ..
  | .withBlock sp .. | .matchBlock sp .. | .raise sp .. | .tryBlock sp .. | .assert sp ..
  | .importNames sp .. | .importFrom sp .. | .global sp .. | .nonlocal sp .. | .expr sp ..
  | .pass sp | .break sp | .continue sp => sp

/-- What the kind of a statement is called. -/
def Stmt.kindName : Stmt → String
  | .functionDef _ isAsync .. => if isAsync then "AsyncFunctionDef" else "FunctionDef"
  | .classDef .. => "ClassDef"
  | .ret .. => "Return"
  | .delete .. => "Delete"
  | .assign .. => "Assign"
  | .augAssign .. => "AugAssign"
  | .annAssign .. => "AnnAssign"
  | .forLoop _ isAsync .. => if isAsync then "AsyncFor" else "For"
  | .whileLoop .. => "While"
  | .cond .. => "If"
  | .withBlock _ isAsync .. => if isAsync then "AsyncWith" else "With"
  | .matchBlock .. => "Match"
  | .raise .. => "Raise"
  | .tryBlock _ isStar .. => if isStar then "TryStar" else "Try"
  | .assert .. => "Assert"
  | .importNames .. => "Import"
  | .importFrom .. => "ImportFrom"
  | .global .. => "Global"
  | .nonlocal .. => "Nonlocal"
  | .expr .. => "Expr"
  | .pass .. => "Pass"
  | .break .. => "Break"
  | .continue .. => "Continue"

/-- The span of a parameter. -/
def Parameter.span : Parameter → Span
  | .mk sp _ _ => sp

/-- The name of a parameter. -/
def Parameter.name : Parameter → String
  | .mk _ name _ => name

/-- The span of a keyword argument. -/
def Keyword.span : Keyword → Span
  | .mk sp _ _ => sp

/-- The value of a keyword argument. -/
def Keyword.value : Keyword → Expr
  | .mk _ _ value => value

instance : Inhabited Expr := ⟨.constant default .none⟩
instance : Inhabited Stmt := ⟨.pass default⟩
instance : Inhabited Parameters := ⟨.mk [] [] none [] none⟩

end Graft.Syntax
