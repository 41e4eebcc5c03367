import Graft.Code.Expression

set_option autoImplicit false

/-! # Instructions for statements

Statements become instructions that leave the stack as they found it.  The body of a definition
becomes code of its own, which the instruction that makes the function or class holds. -/

namespace Graft.Code

open Graft.Syntax Graft.Machine

/-- Returns nothing. -/
def returnNone : List Instr := [.push .none, .ret]

/-- The text that documents a definition: a string at the beginning of its body. -/
def docOf : List Stmt → Option String
  | .expr _ (.constant _ (.str cs _)) :: _ => some (String.ofList cs)
  | _ => none

/-- The line that a definition begins on, its decorators included. -/
def firstLineOf (sp : Span) : List Expr → Nat
  | [] => sp.line
  | d :: _ => d.span.line

/-- Calls decorators, which are below the top, on it. -/
def applyDecorators (decorators : List Expr) : List Instr :=
  decorators.map fun _ => .call 1 []

/-- A loop around a body, left when the test fails. -/
def whileCode (test body orelse : List Instr) : List Instr :=
  [.beginLoop (test.length + body.length + orelse.length + 3) false] ++ test
    ++ [.jumpIf false (body.length + 1)] ++ body
    ++ [.jumpBack (test.length + body.length + 1), .endBlock] ++ orelse

/-- A loop over what the iterator on the stack gives. -/
def forCode (target body orelse : List Instr) : List Instr :=
  [.beginLoop (target.length + body.length + orelse.length + 3) true,
    .next (target.length + body.length + 1)] ++ target ++ body
    ++ [.jumpBack (target.length + body.length + 1), .endBlock] ++ orelse

/-- A choice between two bodies. -/
def branchCode (test body orelse : List Instr) : List Instr :=
  if orelse.isEmpty then test ++ [.jumpIf false body.length] ++ body
  else test ++ [.jumpIf false (body.length + 1)] ++ body ++ [.jump orelse.length] ++ orelse

/-- A body after which something else runs in any case. -/
def finallyCode (body final : List Instr) : List Instr :=
  [.beginFinally (body.length + 2)] ++ body ++ [.endBlock, .enterFinally] ++ final ++ [.endFinally]

/-- A body whose failures are handled; the handlers end with raising what none of them takes. -/
def tryCode (body orelse handlers : List Instr) : List Instr :=
  [.beginTry (body.length + orelse.length + 2)] ++ body ++ [.endBlock] ++ orelse
    ++ [.jump handlers.length] ++ handlers

/-- A handler for what matches a class, with the other handlers behind it. -/
def handlerCode (type : Option (List Instr)) (body rest : List Instr) : List Instr :=
  match type with
  | none => body ++ [.endBlock, .jump rest.length] ++ rest
  | some type =>
    [.copy 0] ++ type ++ [.matches, .jumpIf false (body.length + 2)] ++ body
      ++ [.endBlock, .jump rest.length] ++ rest

/-- Runs a body with the variable bound to what was raised, and unbinds it again. -/
def namedHandlerBody (store delete body : List Instr) : List Instr :=
  store ++ finallyCode body ([.push .none] ++ store ++ delete)

/-- A body inside a context whose manager is on the stack. -/
def withCode (target body : List Instr) : List Instr :=
  [.beginWith (target.length + body.length + 2)] ++ target ++ body
    ++ [.endBlock, .enterFinally, .exitWith, .endFinally, .pop]

/-- The types of parameters and of the result. -/
def typeHints (c : Context) (params : Parameters) (returns : Option Expr) :
    List (String × Expr) :=
  (typedParameters params).map (fun (n, e) => (c.known n, e))
    ++ returns.toList.map fun e => ("return", e)

/-- What is known of the code of a definition. -/
def functionInfo (inner : Context) (name : String) (firstLine : Nat) (params : Parameters)
    (body : List Stmt) : CodeInfo :=
  { kind := .function, name, qualname := inner.qualname, file := inner.file, firstLine
    isAsync := inner.isAsync, yields := inner.scope.yields
    signature := signatureOf inner params
    cells := inner.scope.cells, frees := inner.scope.frees, doc := docOf body }

/-- What the body of a class begins with. -/
def classPrologue (qualname : String) (doc : Option String) : List Instr :=
  [.load .global "__name__", .store .table "__module__",
    .push (.str qualname), .store .table "__qualname__"]
    ++ match doc with
      | some text => [.push (.str text), .store .table "__doc__"]
      | none => []

/-- What the body of a class ends with: the cell for the class, if blocks inside refer to it. -/
def classEpilogue (scope : Scope) : List Instr :=
  if scope.hasClassCell then [.pushCell Scope.classCell, .ret] else returnNone

/-- The operation of an assignment with an operator on a name, an attribute or an item. -/
def augmented (c : Context) (target : Expr) (op : BinaryOp) (value : List Instr) :
    Except Fault (List Instr) := do
  match target with
  | .name sp id =>
    .ok ([loadName c id] ++ value ++ [.binary op true] ++ (← storeName c sp id))
  | .attribute sp e name => do
    checkBindable sp name
    .ok ((← expr c e) ++ [.copy 0, .getAttr (c.known name)] ++ value
      ++ [.binary op true, .rotate 1, .setAttr (c.known name)])
  | .subscript _ e i => do
    .ok ((← expr c e) ++ (← expr c i) ++ [.copy 1, .copy 1, .getItem] ++ value
      ++ [.binary op true, .rotate 2, .setItem])
  | _ => .ok []

mutual

/-- Unbinds or removes a target. -/
def deleteTarget (c : Context) : Expr → Except Fault (List Instr)
  | .name sp id => deleteName c sp id
  | .attribute _ e name => do .ok ((← expr c e) ++ [.delAttr (c.known name)])
  | .subscript _ e i => do .ok ((← expr c e) ++ (← expr c i) ++ [.delItem])
  | .tuple _ es => deleteTargets c es
  | .list _ es => deleteTargets c es
  | _ => .ok []

/-- Unbinds or removes targets, the first one first. -/
def deleteTargets (c : Context) : List Expr → Except Fault (List Instr)
  | [] => .ok []
  | e :: es => do .ok ((← deleteTarget c e) ++ (← deleteTargets c es))

end

/-- Assigns the top to each of the targets. -/
def assignEach (c : Context) : List Expr → Except Fault (List Instr)
  | [] => .ok [.pop]
  | [e] => assignTo c e
  | e :: es => do .ok ([.copy 0] ++ (← assignTo c e) ++ (← assignEach c es))

/-- The managers and targets of a `with` statement's items. -/
def withItems (c : Context) : List WithItem → Except Fault (List (List Instr × List Instr))
  | [] => .ok []
  | w :: ws => do
    let context ← expr c w.context
    let target ← match w.target with
      | some t => assignTo c t
      | none => .ok [.pop]
    .ok ((context, target) :: (← withItems c ws))

/-- Refuses a statement that has to be inside an `async` function. -/
def checkAsync (c : Context) (sp : Span) (what : String) : Except Fault Unit :=
  if c.isAsync then .ok () else failAt sp ("'async " ++ what ++ "' outside async function")

/-- The names that an import binds. -/
def importStores (c : Context) : List Alias → Except Fault (List Instr)
  | [] => .ok []
  | a :: rest => do
    if a.name == "*" then importStores c rest
    else .ok ((← storeName c a.span (Scope.Alias.bound a)) ++ (← importStores c rest))

mutual

/-- The instructions of a statement. -/
def stmt (c : Context) : Stmt → Except Fault (List Instr)
  | .functionDef sp isAsync name params body decorators returns => do
    checkParameters sp params
    let applied ← exprs c decorators
    let defaults ← defaultValues c params
    let hints ← exprs c ((typeHints c params returns).map Prod.snd)
    let inner := c.inside (c.scopeAt sp name .function) .function isAsync
      (c.qualnameOfDefinition name)
    let code := Code.mk (functionInfo inner name (firstLineOf sp decorators) params body)
      ((← stmts inner body) ++ returnNone)
    .ok (applied ++ defaults ++ hints
      ++ [.function code (defaultCount params) (keywordDefaultNames c params)
        ((typeHints c params returns).map Prod.fst)]
      ++ applyDecorators decorators ++ (← storeName c sp name))
  | .classDef sp name bases keywords body decorators => do
    let applied ← exprs c decorators
    let scope := c.scopeAt sp name .cls
    let inner := { c.inside scope .cls false (c.qualnameOfDefinition name) with owner := some name }
    let code := Code.mk {
      kind := .cls, name, qualname := inner.qualname, file := c.file,
      firstLine := firstLineOf sp decorators,
      cells := if scope.hasClassCell then [Scope.classCell] else [],
      frees := scope.frees, doc := docOf body }
      (classPrologue inner.qualname (docOf body) ++ (← stmts inner body) ++ classEpilogue scope)
    checkKeywords keywords
    let given ← exprs c bases
    let named ← keywordValues c keywords
    .ok (applied ++ given ++ named
      ++ [.buildClass code bases.length (keywords.map keywordName)]
      ++ applyDecorators decorators ++ (← storeName c sp name))
  | .ret sp value => do
    if !c.inFunction then failAt sp "'return' outside function"
    else if value.isSome && c.isAsync && c.scope.yields then
      failAt sp "'return' with value in async generator"
    else .ok ((← exprOr c (.push .none) value) ++ [.ret])
  | .delete _ targets => deleteTargets c targets
  | .assign _ targets value => do .ok ((← expr c value) ++ (← assignEach c targets))
  | .augAssign _ target op value => do augmented c target op (← expr c value)
  | .annAssign _ target hint value simple => do
    let assigned ← match value with
      | some e => do .ok ((← expr c e) ++ (← assignTo c target))
      | none => .ok []
    match target with
    | .name sp id =>
      checkBindable sp id
      if simple && (c.kind == .module || c.kind == .cls) then
        .ok (assigned ++ (← expr c hint) ++ [.noteType (c.known id)])
      else .ok assigned
    | .attribute sp _ name =>
      checkBindable sp name
      .ok assigned
    | _ => .ok assigned
  | .forLoop sp isAsync target iter body orelse => do
    if isAsync then checkAsync c sp "for"
    let iter ← expr c iter
    let target ← assignTo c target
    let body ← stmts { c with inLoop := true } body
    let orelse ← stmts c orelse
    .ok (iter ++ (if isAsync then [.missing "asynchronous loops"] else [.getIter])
      ++ forCode target body orelse)
  | .whileLoop _ test body orelse => do
    let test ← expr c test
    let body ← stmts { c with inLoop := true } body
    let orelse ← stmts c orelse
    .ok (whileCode test body orelse)
  | .cond _ test body orelse => do
    let test ← expr c test
    let body ← stmts c body
    let orelse ← stmts c orelse
    .ok (branchCode test body orelse)
  | .withBlock sp isAsync items body => do
    if isAsync then checkAsync c sp "with"
    let items ← withItems c items
    let body ← stmts c body
    .ok ((if isAsync then [.missing "asynchronous contexts"] else [])
      ++ items.foldr (fun (context, target) code => context ++ withCode target code) body)
  | .matchBlock _ subject cases => do
    .ok ((← expr c subject) ++ [.missing "match statements"] ++ (← matchCases c cases))
  | .raise _ exc cause => do
    match exc, cause with
    | none, _ => .ok [.raise 0]
    | some e, none => .ok ((← expr c e) ++ [.raise 1])
    | some e, some cause => .ok ((← expr c e) ++ (← expr c cause) ++ [.raise 2])
  | .tryBlock _ isStar body handlers orelse finalbody => do
    let body ← stmts c body
    let orelse ← stmts c orelse
    let rest ← tryHandlers c handlers
    let inner := if handlers.isEmpty then body ++ orelse else tryCode body orelse rest
    let inner := if isStar then .missing "exception groups" :: inner else inner
    let final ← stmts c finalbody
    .ok (if finalbody.isEmpty then inner else finallyCode inner final)
  | .assert _ test message => do
    let test ← expr c test
    let message ← match message with
      | some e => do .ok ((← expr c e) ++ [.call 1 []])
      | none => .ok [.call 0 []]
    .ok (test ++ [.jumpIf true (message.length + 2), .push (.cls "AssertionError")] ++ message
      ++ [.raise 1])
  | .importNames _ names => do .ok (.missing "imports" :: (← importStores c names))
  | .importFrom sp module names _ => do
    if module == some "__future__" then
      failAt sp "from __future__ imports must occur at the beginning of the file"
    else .ok (.missing "imports" :: (← importStores c names))
  | .global _ _ => .ok []
  | .nonlocal _ _ => .ok []
  | .expr _ (.constant _ _) => .ok []
  | .expr _ e => do .ok ((← expr c e) ++ [.pop])
  | .pass _ => .ok []
  | .break sp => if c.inLoop then .ok [.break] else failAt sp "'break' outside loop"
  | .continue sp => if c.inLoop then .ok [.continue] else failAt sp "'continue' not properly in loop"

/-- The instructions of statements one after the other. -/
def stmts (c : Context) : List Stmt → Except Fault (List Instr)
  | [] => .ok []
  | s :: ss => do .ok ((← stmt c s) ++ (← stmts c ss))

/-- The handlers of a `try` statement; what was raised is on the stack. -/
def tryHandlers (c : Context) : List Handler → Except Fault (List Instr)
  | [] => .ok [.raise 0]
  | .mk sp type name body :: rest => do
    if type.isNone && !rest.isEmpty then failAt sp "default 'except:' must be last"
    else
      let type ← match type with
        | some e => do .ok (some (← expr c e))
        | none => .ok none
      let body ← do
        match name with
        | some n =>
          let store ← storeName c sp n
          let body ← stmts c body
          .ok (namedHandlerBody store (← deleteName c sp n) body)
        | none => do .ok (.pop :: (← stmts c body))
      .ok (handlerCode type body (← tryHandlers c rest))

/-- The bodies of `case` clauses, which are not reached. -/
def matchCases (c : Context) : List MatchCase → Except Fault (List Instr)
  | [] => .ok []
  | .mk _ guard body :: rest => do
    let guard ← exprOr c (.push .none) guard
    .ok (guard ++ [.pop] ++ (← stmts c body) ++ (← matchCases c rest))

end

/-- The code of a module. -/
def ofModule (file : String) (body : List Stmt) : Except Fault Code := do
  let scope ← Scope.ofModule body
  let c : Context := { file, scope, kind := .module }
  let instrs ← stmts c body
  .ok (.mk { kind := .module, name := "<module>", qualname := "<module>", file, firstLine := 1,
             doc := docOf body } (instrs ++ returnNone))

/-- The code that the instructions of some code make functions and classes from. -/
def inner (code : Code) : List Code :=
  code.body.filterMap fun
    | .function c .. => some c
    | .buildClass c .. => some c
    | _ => none

/-- The first code of the given name among the definitions directly inside some code. -/
def innerNamed? (code : Code) (name : String) : Option Code :=
  code.inner.find? (·.info.name == name)

end Graft.Code
