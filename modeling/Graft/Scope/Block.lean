import Graft.Scope.Mention
import Graft.Syntax.Fault

set_option autoImplicit false

/-! # Blocks

A block gathers what is said about each name inside it.  What contradicts itself, such as a name
that is a parameter and declared global, is a fault of the first mention that does so. -/

namespace Graft.Scope

open Graft.Syntax

/-- What is said about a name in a block. -/
structure Symbol where
  name : String
  isRead : Bool := false
  isBound : Bool := false
  isImported : Bool := false
  isParam : Bool := false
  isTyped : Bool := false
  isIterated : Bool := false
  isGlobal : Bool := false
  isNonlocal : Bool := false
deriving DecidableEq, Repr

/-- A block, the names mentioned in it in the order of their first mention, the places of its
    declarations and the blocks inside. -/
inductive Block
  | mk (head : BlockHead) (symbols : List Symbol) (declarations : List (String × Span))
      (yields : Bool) (awaits : Bool) (children : List Block)

/-- A block that is being gathered. -/
structure Draft where
  head : BlockHead
  symbols : List Symbol := []
  declarations : List (String × Span) := []
  yields : Bool := false
  awaits : Bool := false
  /-- The blocks inside, the last one first. -/
  children : List Block := []
  /-- The names that are bound in the function around this comprehension. -/
  outward : List String := []

/-- A block around another, with its symbols so far. -/
structure Enclosing where
  kind : BlockKind
  symbols : List Symbol

/-- What is said about a name among symbols. -/
def symbolOf (symbols : List Symbol) (name : String) : Symbol :=
  (symbols.find? (·.name == name)).getD { name }

/-- Changes what is said about a name; a new name is put at the end. -/
def changeSymbol (name : String) (f : Symbol → Symbol) : List Symbol → List Symbol
  | [] => [f { name }]
  | s :: ss => if s.name == name then f s :: ss else s :: changeSymbol name f ss

/-- Changes what is said about a name. -/
def Draft.change (d : Draft) (name : String) (f : Symbol → Symbol) : Draft :=
  { d with symbols := changeSymbol name f d.symbols }

/-- The draft seen from inside. -/
def Draft.enclosing (d : Draft) : Enclosing := ⟨d.head.kind, d.symbols⟩

/-- A fault at the start of a span. -/
def faultAt (sp : Span) (message : String) : Fault :=
  { message, line := some sp.line, column := some (sp.column + 1) }

/-- A name in the text of a fault. -/
def inQuotes (name : String) : String := "'" ++ name ++ "'"

/-- The words for the two declarations. -/
def declarationWord (isGlobal : Bool) : String := if isGlobal then "global" else "nonlocal"

/-- Why a name can not be declared after what is said about it already. -/
def declarationFault? (isGlobal : Bool) (s : Symbol) : Option String :=
  let name := inQuotes s.name
  let word := declarationWord isGlobal
  if s.isParam then some ("name " ++ name ++ " is parameter and " ++ word)
  else if s.isRead then some ("name " ++ name ++ " is used prior to " ++ word ++ " declaration")
  else if s.isTyped then some ("annotated name " ++ name ++ " can't be " ++ word)
  else if s.isBound then
    some ("name " ++ name ++ " is assigned to before " ++ word ++ " declaration")
  else none

/-- Declares a name. -/
def Draft.declare (d : Draft) (isGlobal : Bool) (sp : Span) (name : String) :
    Except Fault Draft :=
  match declarationFault? isGlobal (symbolOf d.symbols name) with
  | some message => .error (faultAt sp message)
  | none =>
    .ok { d.change name (fun s =>
        if isGlobal then { s with isGlobal := true } else { s with isNonlocal := true }) with
      declarations := d.declarations ++ [(name, sp)] }

/-- Where a name goes that is bound by a named expression in a comprehension. -/
inductive WalrusHome
  /-- The function around, in which the name may be declared global. -/
  | function (isGlobal : Bool)
  | module

/-- Finds the home of a name that is bound by a named expression in a comprehension. -/
def walrusHome (sp : Span) (name : String) : List Enclosing → Except Fault WalrusHome
  | [] => .ok .module
  | e :: es =>
    let s := symbolOf e.symbols name
    match e.kind with
    | .comprehension _ =>
      if s.isIterated && s.isBound then
        .error (faultAt sp ("assignment expression cannot rebind comprehension iteration variable "
          ++ inQuotes name))
      else walrusHome sp name es
    | .function => .ok (.function s.isGlobal)
    | .module => .ok .module
    | .cls =>
      .error (faultAt sp
        "assignment expression within a comprehension cannot be used in a class body")

/-- What a block that yields inside a comprehension is told. -/
def ComprehensionKind.described : ComprehensionKind → String
  | .list => "list comprehension"
  | .set => "set comprehension"
  | .dict => "dict comprehension"
  | .generator => "generator expression"

/-- Takes over the names that comprehensions inside bind. -/
def Draft.adopt (d : Draft) (names : List String) : Draft :=
  match d.head.kind with
  | .comprehension _ => { d with outward := d.outward ++ names }
  | .module => names.foldl (fun d n => d.change n fun s => { s with isGlobal := true }) d
  | _ => names.foldl (fun d n => d.change n fun s => { s with isBound := true }) d

mutual

/-- Takes note of a mention, in a block inside others. -/
def Draft.note (outer : List Enclosing) (d : Draft) : Mention → Except Fault Draft
  | .read n => .ok (d.change n fun s => { s with isRead := true })
  | .bind n => .ok (d.change n fun s => { s with isBound := true })
  | .imported n => .ok (d.change n fun s => { s with isImported := true })
  | .param sp n =>
    if (symbolOf d.symbols n).isParam then
      .error (faultAt sp ("duplicate argument " ++ inQuotes n ++ " in function definition"))
    else .ok (d.change n fun s => { s with isParam := true })
  | .typed sp n =>
    let s := symbolOf d.symbols n
    if (s.isGlobal || s.isNonlocal) && d.head.kind != .module then
      .error (faultAt sp ("annotated name " ++ inQuotes n ++ " can't be "
        ++ declarationWord s.isGlobal))
    else .ok (d.change n fun s => { s with isTyped := true, isBound := true })
  | .iterated sp n =>
    let s := symbolOf d.symbols n
    if s.isGlobal || s.isNonlocal then
      .error (faultAt sp ("comprehension inner loop cannot rebind assignment expression target "
        ++ inQuotes n))
    else .ok (d.change n fun s => { s with isBound := true, isIterated := true })
  | .declaredGlobal sp n => d.declare true sp n
  | .declaredNonlocal sp n => d.declare false sp n
  | .walrus sp n => do
    let d := { d with declarations := d.declarations ++ [(n, sp)], outward := d.outward ++ [n] }
    match (← walrusHome sp n (d.enclosing :: outer)) with
    | .function false => .ok (d.change n fun s => { s with isNonlocal := true })
    | _ => .ok (d.change n fun s => { s with isGlobal := true })
  | .walrusInIterable sp =>
    .error (faultAt sp "assignment expression cannot be used in a comprehension iterable expression")
  | .starImport sp =>
    if d.head.kind == .module then .ok d
    else .error (faultAt sp "import * only allowed at module level")
  | .yields sp =>
    match d.head.kind with
    | .comprehension k => .error (faultAt sp ("'yield' inside " ++ k.described))
    | _ => .ok { d with yields := true }
  | .awaits => .ok { d with awaits := true }
  | .block head inner => do
    let child ← Draft.noteAll (d.enclosing :: outer) { head } inner
    let block := Block.mk head child.symbols child.declarations child.yields child.awaits
      child.children.reverse
    let d := { d with children := block :: d.children }
    .ok (d.adopt child.outward)

/-- Takes note of mentions one after the other. -/
def Draft.noteAll (outer : List Enclosing) (d : Draft) : List Mention → Except Fault Draft
  | [] => .ok d
  | m :: ms => do Draft.noteAll outer (← d.note outer m) ms

end

/-- The span of a module. -/
def moduleSpan : Span := ⟨1, 0, 1, 0⟩

/-- The block of a module. -/
def Block.ofModule (body : List Stmt) : Except Fault Block := do
  let head : BlockHead := ⟨.module, "<module>", moduleSpan⟩
  let d ← Draft.noteAll [] { head } (stmtsMentions {} body)
  .ok (.mk head d.symbols d.declarations d.yields d.awaits d.children.reverse)

end Graft.Scope
