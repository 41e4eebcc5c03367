import Graft.Syntax.Parser
import Graft.Syntax.MapSpan
import Graft.Text.Dedent

set_option autoImplicit false

/-! # Fragments of program text

Two kinds of text are read: the text of one function definition, and a snippet of statements.

A definition may be indented, as the text of a method is.  It is then read as the body of a header
line of its own and never shifted to the left, so that strings over several lines keep their text.
Lines are counted from the definition's own first line in either case.  A snippet, on the other
hand, loses the indentation that its lines have in common. -/

namespace Graft.Splice

open Graft.Syntax

/-- The definition of a function. -/
structure Definition where
  span : Span
  isAsync : Bool
  name : String
  params : Parameters
  body : List Stmt
  decorators : List Expr
  returns : Option Expr

/-- The statement that a definition is. -/
def Definition.toStmt (d : Definition) : Stmt :=
  .functionDef d.span d.isAsync d.name d.params d.body d.decorators d.returns

/-- The definition that a statement is, if it is one. -/
def Definition.ofStmt? : Stmt → Option Definition
  | .functionDef span isAsync name params body decorators returns =>
    some { span, isAsync, name, params, body, decorators, returns }
  | _ => none

/-- The two kinds of fragments. -/
inductive FragmentKind
  | definition
  | snippet
deriving DecidableEq, Repr

/-- Why text is not a fragment. -/
inductive FragmentFault
  /-- The text is not well formed. -/
  | malformed (kind : FragmentKind) (source : List Char) (fault : Fault)
  /-- The text is nested too deeply to be read. -/
  | tooDeep
  /-- The text is no program text at all. -/
  | unreadable (reason : Rejection)
  /-- The text is something else than a definition: a statement of another kind, or nothing. -/
  | notDefinition (found : Option String)
deriving DecidableEq, Repr

/-- The fault of a fragment whose text was rejected. -/
def FragmentFault.ofRejection (kind : FragmentKind) (source : List Char) :
    Rejection → FragmentFault
  | .fault f => if f.cls = .depth then .tooDeep else .malformed kind source f
  | r => .unreadable r

/-- Whether a text begins with a blank. -/
def isIndented : List Char → Bool
  | ' ' :: _ | '\t' :: _ => true
  | _ => false

/-- The line that an indented definition is read under. -/
def blockHeader : List Char := ['i', 'f', ' ', '1', ':', '\n']

/-- The statements of a text that may be indented as a whole.  Line numbers within the message of
    a fault count the header line, the fault's own does not. -/
def parseBlock (source : List Char) : Except Rejection (List Stmt) :=
  if isIndented source then
    match parseModule (blockHeader ++ source) with
    | .error (.fault f) => .error (.fault (f.shiftLines 1))
    | .error r => .error r
    | .ok (.cond _ _ body _ :: _) => .ok (mapStmtSpans (Span.shiftLines 1) body)
    | .ok _ => .ok []
  else parseModule source

/-- Reads the definition that a text begins with. -/
def parseDefinition (source : List Char) : Except FragmentFault Definition :=
  match parseBlock source with
  | .error r => .error (.ofRejection .definition source r)
  | .ok [] => .error (.notDefinition none)
  | .ok (s :: _) =>
    match Definition.ofStmt? s with
    | some d => .ok d
    | none => .error (.notDefinition (some s.kindName))

/-- Reads the statements of a snippet. -/
def parseSnippet (code : List Char) : Except FragmentFault (List Stmt) :=
  match parseModule (Text.dedent code) with
  | .ok ss => .ok ss
  | .error r => .error (.ofRejection .snippet code r)

end Graft.Splice
