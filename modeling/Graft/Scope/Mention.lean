import Graft.Scope.Private
import Graft.Syntax.Tree

set_option autoImplicit false

/-! # Mentions

What a piece of program says about names, in the order in which it says it: which names it reads,
which it binds, which it declares, and the blocks inside it with what they say in turn.  Everything
about scopes is worked out from mentions; the syntax tree is not looked at again. -/

namespace Graft.Scope

open Graft.Syntax

/-- The kinds of comprehensions. -/
inductive ComprehensionKind
  | list | set | dict | generator
deriving DecidableEq, Repr

/-- The kinds of blocks. -/
inductive BlockKind
  | module
  | function
  | cls
  | comprehension (kind : ComprehensionKind)
deriving DecidableEq, Repr

/-- What a block is called and where it stands. -/
structure BlockHead where
  kind : BlockKind
  name : String
  span : Span
deriving DecidableEq, Repr

/-- A thing that is said about a name. -/
inductive Mention
  /-- The name is read. -/
  | read (name : String)
  /-- The name is bound by an assignment. -/
  | bind (name : String)
  /-- The name is bound by an import. -/
  | imported (name : String)
  /-- The name is a parameter. -/
  | param (sp : Span) (name : String)
  /-- The name gets a type. -/
  | typed (sp : Span) (name : String)
  /-- The name is the variable of a comprehension. -/
  | iterated (sp : Span) (name : String)
  /-- The name is declared to be one of the module. -/
  | declaredGlobal (sp : Span) (name : String)
  /-- The name is declared to be one of an enclosing function. -/
  | declaredNonlocal (sp : Span) (name : String)
  /-- The name is bound by a named expression in a comprehension. -/
  | walrus (sp : Span) (name : String)
  /-- There is a named expression in the iterable of a comprehension. -/
  | walrusInIterable (sp : Span)
  /-- All names of a module are imported. -/
  | starImport (sp : Span)
  /-- The block yields. -/
  | yields (sp : Span)
  /-- The block waits. -/
  | awaits
  /-- A block inside. -/
  | block (head : BlockHead) (inner : List Mention)

/-- What mentions depend on. -/
structure Setting where
  /-- The class that private names belong to. -/
  owner : Option String := none
  /-- Whether the block is a function of some sort. -/
  inFunction : Bool := false
  /-- Whether the block is a comprehension. -/
  inComprehension : Bool := false
  /-- Whether the iterable of a comprehension is looked at. -/
  inIterable : Bool := false

/-- A name as it is known in the setting. -/
def Setting.known (c : Setting) (name : String) : String := mangle c.owner name

/-- The setting inside a function. -/
def Setting.function (c : Setting) : Setting :=
  { c with inFunction := true, inComprehension := false }

/-- The setting inside a comprehension. -/
def Setting.comprehension (c : Setting) : Setting :=
  { c with inFunction := true, inComprehension := true }

/-- The setting inside a class. -/
def Setting.inside (c : Setting) (cls : String) : Setting :=
  { c with owner := some cls, inFunction := false, inComprehension := false }

/-- The setting of the iterable of a comprehension. -/
def Setting.iterable (c : Setting) : Setting := { c with inIterable := true }

/-- The name that a call of `super` reads without saying so. -/
def classCell : String := "__class__"

/-- What reading a name mentions. -/
def readName (c : Setting) (name : String) : List Mention :=
  .read (c.known name) :: if c.inFunction && name == "super" then [.read classCell] else []

/-- The name that the first iterable of a comprehension is passed under. -/
def iterableParam : String := ".0"

/-- The name of a comprehension's block. -/
def ComprehensionKind.blockName : ComprehensionKind → String
  | .list => "<listcomp>"
  | .set => "<setcomp>"
  | .dict => "<dictcomp>"
  | .generator => "<genexpr>"

/-- The name of a lambda's block. -/
def lambdaName : String := "<lambda>"

/-- What the names of parameters mention. -/
def paramMentions (c : Setting) : Parameters → List Mention
  | .mk posOnly plain star keywordOnly doubleStar =>
    let one : Parameter → Mention := fun p => .param p.span (c.known p.name)
    let defaulted : DefaultParameter → Mention := fun
      | .mk p _ => one p
    posOnly.map defaulted ++ plain.map defaulted ++ keywordOnly.map defaulted
      ++ star.toList.map one ++ doubleStar.toList.map one

mutual

/-- What an expression mentions when its value is wanted. -/
def exprMentions (c : Setting) : Expr → List Mention
  | .boolOp _ _ operands => exprsMentions c operands
  | .named sp target value =>
    (if c.inIterable then [.walrusInIterable sp]
     else if c.inComprehension then walrusMentions c target
     else [])
      ++ exprMentions c value ++ targetMentions c target
  | .binary _ l _ r => exprMentions c l ++ exprMentions c r
  | .unary _ _ e => exprMentions c e
  | .lambda sp params body =>
    defaultsMentions c params
      ++ [.block ⟨.function, lambdaName, sp⟩
        (paramMentions c.function params ++ exprMentions c.function body)]
  | .ifElse _ test body orelse =>
    exprMentions c test ++ exprMentions c body ++ exprMentions c orelse
  | .dict _ items => keysMentions c items ++ valuesMentions c items
  | .set _ es => exprsMentions c es
  | .listComp sp element clauses =>
    comprehensionMentions c .list sp clauses (exprMentions c.comprehension element)
  | .setComp sp element clauses =>
    comprehensionMentions c .set sp clauses (exprMentions c.comprehension element)
  | .dictComp sp key value clauses =>
    comprehensionMentions c .dict sp clauses
      (exprMentions c.comprehension value ++ exprMentions c.comprehension key)
  | .generator sp element clauses =>
    comprehensionMentions c .generator sp clauses (exprMentions c.comprehension element)
  | .await _ e => exprMentions c e ++ [.awaits]
  | .yield sp e => optionMentions c e ++ [.yields sp]
  | .yieldFrom sp e => exprMentions c e ++ [.yields sp]
  | .compare _ l rest => exprMentions c l ++ comparandsMentions c rest
  | .call _ f args keywords =>
    exprMentions c f ++ exprsMentions c args ++ keywordsMentions c keywords
  | .formatted _ e _ format => exprMentions c e ++ optionMentions c format
  | .joined _ parts => exprsMentions c parts
  | .constant _ _ => []
  | .attribute _ e _ => exprMentions c e
  | .subscript _ e i => exprMentions c e ++ exprMentions c i
  | .starred _ e => exprMentions c e
  | .name _ id => readName c id
  | .list _ es => exprsMentions c es
  | .tuple _ es => exprsMentions c es
  | .slice _ l u s => optionMentions c l ++ optionMentions c u ++ optionMentions c s

/-- What expressions mention one after the other. -/
def exprsMentions (c : Setting) : List Expr → List Mention
  | [] => []
  | e :: es => exprMentions c e ++ exprsMentions c es

/-- What an expression that may be missing mentions. -/
def optionMentions (c : Setting) : Option Expr → List Mention
  | none => []
  | some e => exprMentions c e

/-- What an expression mentions when it is assigned to or deleted. -/
def targetMentions (c : Setting) : Expr → List Mention
  | .name _ id => [.bind (c.known id)]
  | .tuple _ es => targetsMentions c es
  | .list _ es => targetsMentions c es
  | .starred _ e => targetMentions c e
  | .attribute _ e _ => exprMentions c e
  | .subscript _ e i => exprMentions c e ++ exprMentions c i
  | _ => []

/-- What targets mention one after the other. -/
def targetsMentions (c : Setting) : List Expr → List Mention
  | [] => []
  | e :: es => targetMentions c e ++ targetsMentions c es

/-- What the target of a named expression in a comprehension mentions. -/
def walrusMentions (c : Setting) : Expr → List Mention
  | .name sp id => [.walrus sp (c.known id)]
  | _ => []

/-- What the target of a comprehension mentions. -/
def iteratedMentions (c : Setting) : Expr → List Mention
  | .name sp id => [.iterated sp (c.known id)]
  | .tuple _ es => iteratedAllMentions c es
  | .list _ es => iteratedAllMentions c es
  | .starred _ e => iteratedMentions c e
  | .attribute _ e _ => exprMentions c e
  | .subscript _ e i => exprMentions c e ++ exprMentions c i
  | _ => []

/-- What targets of a comprehension mention one after the other. -/
def iteratedAllMentions (c : Setting) : List Expr → List Mention
  | [] => []
  | e :: es => iteratedMentions c e ++ iteratedAllMentions c es

/-- What the keys of a dictionary display mention. -/
def keysMentions (c : Setting) : List DictItem → List Mention
  | [] => []
  | .pair k _ :: rest => exprMentions c k ++ keysMentions c rest
  | .unpack _ :: rest => keysMentions c rest

/-- What the values of a dictionary display mention. -/
def valuesMentions (c : Setting) : List DictItem → List Mention
  | [] => []
  | .pair _ v :: rest => exprMentions c v ++ valuesMentions c rest
  | .unpack v :: rest => exprMentions c v ++ valuesMentions c rest

/-- What the right operands of comparisons mention. -/
def comparandsMentions (c : Setting) : List Comparand → List Mention
  | [] => []
  | .mk _ e :: rest => exprMentions c e ++ comparandsMentions c rest

/-- What keyword arguments mention. -/
def keywordsMentions (c : Setting) : List Keyword → List Mention
  | [] => []
  | .mk _ _ e :: rest => exprMentions c e ++ keywordsMentions c rest

/-- What a comprehension mentions, given what its element does.  The first iterable belongs to the
    block around it. -/
def comprehensionMentions (c : Setting) (kind : ComprehensionKind) (sp : Span)
    (clauses : List Clause) (element : List Mention) : List Mention :=
  match clauses with
  | [] => [.block ⟨.comprehension kind, kind.blockName, sp⟩ element]
  | .mk isAsync target iter conditions :: rest =>
    exprMentions c.iterable iter
      ++ [.block ⟨.comprehension kind, kind.blockName, sp⟩
        ((if isAsync then [.awaits] else []) ++ [.param sp iterableParam]
          ++ iteratedMentions c.comprehension target ++ exprsMentions c.comprehension conditions
          ++ clausesMentions c.comprehension rest ++ element)]

/-- What further clauses of a comprehension mention. -/
def clausesMentions (c : Setting) : List Clause → List Mention
  | [] => []
  | .mk isAsync target iter conditions :: rest =>
    iteratedMentions c target ++ exprMentions c.iterable iter ++ exprsMentions c conditions
      ++ (if isAsync then [.awaits] else []) ++ clausesMentions c rest

/-- What the defaults of parameters mention, those of keyword-only parameters last. -/
def defaultsMentions (c : Setting) : Parameters → List Mention
  | .mk posOnly plain _ keywordOnly _ =>
    defaultListMentions c posOnly ++ defaultListMentions c plain
      ++ defaultListMentions c keywordOnly

/-- What the defaults in a list mention. -/
def defaultListMentions (c : Setting) : List DefaultParameter → List Mention
  | [] => []
  | .mk _ d :: rest => optionMentions c d ++ defaultListMentions c rest

end

/-- What the type of a parameter mentions. -/
def typeHintMentions (c : Setting) : Parameter → List Mention
  | .mk _ _ hint => optionMentions c hint

/-- What the types of parameters and of the result mention. -/
def typeHintsMentions (c : Setting) (params : Parameters) (returns : Option Expr) : List Mention :=
  match params with
  | .mk posOnly plain star keywordOnly doubleStar =>
    let one : DefaultParameter → List Mention := fun
      | .mk p _ => typeHintMentions c p
    posOnly.flatMap one ++ plain.flatMap one ++ star.toList.flatMap (typeHintMentions c)
      ++ doubleStar.toList.flatMap (typeHintMentions c) ++ keywordOnly.flatMap one
      ++ optionMentions c returns

/-- The name that an import binds: the first part of a dotted one. -/
def Alias.bound (a : Alias) : String :=
  match a.asName with
  | some name => name
  | none => String.ofList (a.name.toList.takeWhile (· != '.'))

/-- What an import mentions. -/
def aliasMentions (c : Setting) (a : Alias) : List Mention :=
  if a.name == "*" then [.starImport a.span] else [.imported (c.known (Alias.bound a))]

mutual

/-- What a pattern mentions. -/
def patternMentions (c : Setting) : Pattern → List Mention
  | .value _ e => exprMentions c e
  | .singleton _ _ => []
  | .sequence _ ps => patternsMentions c ps
  | .mapping _ keys ps rest =>
    exprsMentions c keys ++ patternsMentions c ps ++ rest.toList.map fun n => .bind (c.known n)
  | .cls _ e ps _ keywordPatterns =>
    exprMentions c e ++ patternsMentions c ps ++ patternsMentions c keywordPatterns
  | .star _ name => name.toList.map fun n => .bind (c.known n)
  | .capture _ pattern name =>
    patternMentions? c pattern ++ name.toList.map fun n => .bind (c.known n)
  | .alternatives _ ps => patternsMentions c ps

/-- What patterns mention one after the other. -/
def patternsMentions (c : Setting) : List Pattern → List Mention
  | [] => []
  | p :: ps => patternMentions c p ++ patternsMentions c ps

/-- What a pattern that may be missing mentions. -/
def patternMentions? (c : Setting) : Option Pattern → List Mention
  | none => []
  | some p => patternMentions c p

end

/-- What the items of a `with` statement mention. -/
def withItemMentions (c : Setting) (w : WithItem) : List Mention :=
  exprMentions c w.context ++ match w.target with
    | some t => targetMentions c t
    | none => []

/-- What the target of an assignment with a type mentions. -/
def typedTargetMentions (c : Setting) (sp : Span) (target : Expr) (simple hasValue : Bool) :
    List Mention :=
  match target with
  | .name _ id =>
    if simple then [.typed sp (c.known id)] else if hasValue then [.bind (c.known id)] else []
  | e => targetMentions c e

mutual

/-- What a statement mentions. -/
def stmtMentions (c : Setting) : Stmt → List Mention
  | .functionDef sp _ name params body decorators returns =>
    .bind (c.known name) :: (defaultsMentions c params ++ typeHintsMentions c params returns
      ++ exprsMentions c decorators
      ++ [.block ⟨.function, name, sp⟩
        (paramMentions c.function params ++ stmtsMentions c.function body)])
  | .classDef sp name bases keywords body decorators =>
    .bind (c.known name) :: (exprsMentions c bases ++ keywordsMentions c keywords
      ++ exprsMentions c decorators
      ++ [.block ⟨.cls, name, sp⟩ (stmtsMentions (c.inside name) body)])
  | .ret _ e => optionMentions c e
  | .delete _ targets => targetsMentions c targets
  | .assign _ targets e => targetsMentions c targets ++ exprMentions c e
  | .augAssign _ target _ e => targetMentions c target ++ exprMentions c e
  | .annAssign sp target hint value simple =>
    typedTargetMentions c sp target simple value.isSome ++ exprMentions c hint
      ++ optionMentions c value
  | .forLoop _ _ target iter body orelse =>
    targetMentions c target ++ exprMentions c iter ++ stmtsMentions c body ++ stmtsMentions c orelse
  | .whileLoop _ test body orelse =>
    exprMentions c test ++ stmtsMentions c body ++ stmtsMentions c orelse
  | .cond _ test body orelse =>
    exprMentions c test ++ stmtsMentions c body ++ stmtsMentions c orelse
  | .withBlock _ _ items body => items.flatMap (withItemMentions c) ++ stmtsMentions c body
  | .matchBlock _ subject cases => exprMentions c subject ++ casesMentions c cases
  | .raise _ exc cause => optionMentions c exc ++ optionMentions c cause
  | .tryBlock _ _ body handlers orelse finalbody =>
    stmtsMentions c body ++ stmtsMentions c orelse ++ handlersMentions c handlers
      ++ stmtsMentions c finalbody
  | .assert _ test message => exprMentions c test ++ optionMentions c message
  | .importNames _ names => names.flatMap (aliasMentions c)
  | .importFrom _ _ names _ => names.flatMap (aliasMentions c)
  | .global sp names => names.map fun n => .declaredGlobal sp (c.known n)
  | .nonlocal sp names => names.map fun n => .declaredNonlocal sp (c.known n)
  | .expr _ e => exprMentions c e
  | .pass _ => []
  | .break _ => []
  | .continue _ => []

/-- What statements mention one after the other. -/
def stmtsMentions (c : Setting) : List Stmt → List Mention
  | [] => []
  | s :: ss => stmtMentions c s ++ stmtsMentions c ss

/-- What `except` clauses mention. -/
def handlersMentions (c : Setting) : List Handler → List Mention
  | [] => []
  | .mk _ type name body :: rest =>
    optionMentions c type ++ (name.toList.map fun n => .bind (c.known n)) ++ stmtsMentions c body
      ++ handlersMentions c rest

/-- What `case` clauses mention. -/
def casesMentions (c : Setting) : List MatchCase → List Mention
  | [] => []
  | .mk pattern guard body :: rest =>
    patternMentions c pattern ++ optionMentions c guard ++ stmtsMentions c body
      ++ casesMentions c rest

end

end Graft.Scope
