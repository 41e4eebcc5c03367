import Graft.Code.Context

set_option autoImplicit false

/-! # Instructions for expressions

Each expression becomes instructions that leave its value on the stack.  Faults are those that can
not be told from the form of the text alone, such as a `yield` outside of functions; the first one
in the order of the instructions is reported. -/

namespace Graft.Code

open Graft.Syntax Graft.Machine

/-- What a list of targets is when the value is spread over it: how many stand before the starred
    one and how many behind. -/
def starShape (sp : Span) (targets : List Expr) : Except Fault (Option (Nat × Nat)) :=
  let before := targets.takeWhile (!isStarred ·)
  match targets.drop before.length with
  | [] => .ok none
  | _ :: behind =>
    if behind.any isStarred then failAt sp "multiple starred expressions in assignment"
    else .ok (some (before.length, behind.length))

/-- Spreads the top over targets. -/
def unpackInstr (sp : Span) (targets : List Expr) : Except Fault Instr := do
  match (← starShape sp targets) with
  | none => .ok (.unpack targets.length)
  | some (before, after) => .ok (.unpackAround before after)

/-- What is around the operands of a chain of comparisons: leaves the chain if one fails. -/
def chainStep (op : Comparison) (right rest : List Instr) : List Instr :=
  right ++ [.copy 0, .rotate 2, .compare op, .jumpIfKeep false (rest.length + 1)] ++ rest
    ++ [.jump 2, .rotate 1, .pop]

/-- Where the yield of a function may not stand. -/
def checkYield (c : Context) (sp : Span) : Except Fault Unit :=
  if c.inFunction then .ok () else failAt sp "'yield' outside function"

/-- Where waiting is allowed. -/
def checkAwait (c : Context) (sp : Span) : Except Fault Unit :=
  if !c.inFunction then failAt sp "'await' outside function"
  else if c.isAsync || c.kind == .comprehension then .ok ()
  else failAt sp "'await' outside async function"

/-- The context inside a comprehension. -/
def comprehensionContext (c : Context) (kind : Scope.ComprehensionKind) (sp : Span) : Context :=
  c.inside (c.scopeAt sp kind.blockName (.comprehension kind)) .comprehension c.isAsync
    (c.qualnameOf kind.blockName)

/-- The function that a comprehension is. -/
def comprehensionCode (c inner : Context) (kind : Scope.ComprehensionKind) (sp : Span)
    (body : List Instr) : Code :=
  let scope := inner.scope
  .mk { kind := .comprehension, name := kind.blockName, qualname := inner.qualname, file := c.file,
        firstLine := sp.line, yields := kind == .generator,
        isAsync := scope.awaits,
        signature := { posOnly := [Scope.iterableParam] }, cells := scope.cells,
        frees := scope.frees } body

/-- The loop of one clause of a comprehension around the instructions inside; its iterator is on
    the stack. -/
def clauseLoop (target conditions inner : List Instr) : List Instr :=
  [.next (target.length + conditions.length + inner.length + 1)] ++ target ++ conditions ++ inner
    ++ [.jumpBack (target.length + conditions.length + inner.length + 1)]

/-- A condition of a comprehension, given how many instructions of the clause follow it. -/
def skipUnless (test : List Instr) (behind : Nat) : List Instr := test ++ [.jumpIf false behind]

/-- What the innermost clause of a comprehension does with an element; `depth` iterators are above
    the result. -/
def collect (kind : Scope.ComprehensionKind) (depth : Nat) (element : List Instr) : List Instr :=
  match kind with
  | .list => element ++ [.append depth]
  | .set => element ++ [.addToSet depth]
  | .dict => element ++ [.addEntry depth]
  | .generator => element ++ [.yield, .pop]

/-- What a comprehension begins with: an empty result. -/
def emptyResult : Scope.ComprehensionKind → List Instr
  | .list => [.list 0]
  | .set => [.set 0]
  | .dict => [.dict 0]
  | .generator => [.push .none]

mutual

/-- The instructions that leave the value of an expression on the stack. -/
def expr (c : Context) : Expr → Except Fault (List Instr)
  | .boolOp _ op operands => operandChain c (op == .or) operands
  | .named _ target value => do
    .ok ((← expr c value) ++ [.copy 0] ++ (← assignTo c target))
  | .binary _ l op r => do .ok ((← expr c l) ++ (← expr c r) ++ [.binary op false])
  | .unary _ op e => do .ok ((← expr c e) ++ [.unary op])
  | .lambda sp params body => do
    checkParameters sp params
    let defaults ← defaultValues c params
    let scope := c.scopeAt sp Scope.lambdaName .function
    let inner := c.inside scope .lambda false (c.qualnameOf Scope.lambdaName)
    let code := Code.mk {
      kind := .lambda, name := Scope.lambdaName, qualname := inner.qualname, file := c.file,
      firstLine := sp.line, yields := scope.yields,
      signature := signatureOf inner params, cells := scope.cells, frees := scope.frees }
      ((← expr inner body) ++ [.ret])
    .ok (defaults ++ [.function code (defaultCount params) (keywordDefaultNames c params) []])
  | .ifElse _ test body orelse => do
    let t ← expr c test
    let b ← expr c body
    let o ← expr c orelse
    .ok (t ++ [.jumpIf false (b.length + 1)] ++ b ++ [.jump o.length] ++ o)
  | .dict _ items => do .ok (.dict 0 :: (← dictItems c items))
  | .set _ es => do
    if es.any isStarred then .ok (.list 0 :: (← collected c es) ++ [.listToSet])
    else .ok ((← exprs c es) ++ [.set es.length])
  | .listComp sp element clauses =>
    comprehension c .list sp clauses (expr (comprehensionContext c .list sp) element)
  | .setComp sp element clauses =>
    comprehension c .set sp clauses (expr (comprehensionContext c .set sp) element)
  | .dictComp sp key value clauses =>
    comprehension c .dict sp clauses (do
      .ok ((← expr (comprehensionContext c .dict sp) key)
        ++ (← expr (comprehensionContext c .dict sp) value)))
  | .generator sp element clauses =>
    comprehension c .generator sp clauses (expr (comprehensionContext c .generator sp) element)
  | .await sp e => do
    checkAwait c sp
    .ok ((← expr c e) ++ [.getDelegate true, .push .none, .delegate])
  | .yield sp e => do
    checkYield c sp
    .ok ((← exprOr c (.push .none) e) ++ [.yield])
  | .yieldFrom sp e => do
    checkYield c sp
    if c.isAsync then failAt sp "'yield from' inside async function"
    else .ok ((← expr c e) ++ [.getDelegate false, .push .none, .delegate])
  | .compare _ l rest => do .ok ((← expr c l) ++ (← comparisons c rest))
  | .call _ f args keywords => do
    checkKeywords keywords
    let f ← expr c f
    if args.any isStarred || keywords.any isUnpacked then
      .ok (f ++ [.list 0] ++ (← collected c args) ++ [.listToTuple, .dict 0]
        ++ (← mergedKeywords c keywords) ++ [.callSpread])
    else
      .ok (f ++ (← exprs c args) ++ (← keywordValues c keywords)
        ++ [.call args.length (keywords.map keywordName)])
  | .formatted _ e conversion format => do
    match format with
    | none => .ok ((← expr c e) ++ [.format conversion false])
    | some spec => .ok ((← expr c e) ++ (← expr c spec) ++ [.format conversion true])
  | .joined _ parts => do .ok ((← exprs c parts) ++ [.joinText parts.length])
  | .constant _ k => .ok [literal k]
  | .attribute _ e name => do .ok ((← expr c e) ++ [.getAttr (c.known name)])
  | .subscript _ e i => do .ok ((← expr c e) ++ (← expr c i) ++ [.getItem])
  | .starred sp _ => failAt sp "can't use starred expression here"
  | .name _ id => .ok [loadName c id]
  | .list _ es => do
    if es.any isStarred then .ok (.list 0 :: (← collected c es))
    else .ok ((← exprs c es) ++ [.list es.length])
  | .tuple _ es => do
    if es.any isStarred then .ok (.list 0 :: (← collected c es) ++ [.listToTuple])
    else .ok ((← exprs c es) ++ [.tuple es.length])
  | .slice _ l u s => do
    .ok ((← exprOr c (.push .none) l) ++ (← exprOr c (.push .none) u)
      ++ (← exprOr c (.push .none) s) ++ [.slice])

/-- The instructions for expressions one after the other. -/
def exprs (c : Context) : List Expr → Except Fault (List Instr)
  | [] => .ok []
  | e :: es => do .ok ((← expr c e) ++ (← exprs c es))

/-- The instructions for an expression that may be missing. -/
def exprOr (c : Context) (otherwise : Instr) : Option Expr → Except Fault (List Instr)
  | none => .ok [otherwise]
  | some e => expr c e

/-- Appends the values of expressions to the list on the stack; a starred one gives many. -/
def collected (c : Context) : List Expr → Except Fault (List Instr)
  | [] => .ok []
  | .starred _ e :: es => do .ok ((← expr c e) ++ [.extend] ++ (← collected c es))
  | e :: es => do .ok ((← expr c e) ++ [.append 0] ++ (← collected c es))

/-- The operands of a connective, each of which may decide the outcome. -/
def operandChain (c : Context) (sense : Bool) : List Expr → Except Fault (List Instr)
  | [] => .ok []
  | e :: es => do
    let e ← expr c e
    if es.isEmpty then .ok e
    else
      let rest ← operandChain c sense es
      .ok (e ++ [.jumpIfKeep sense rest.length] ++ rest)

/-- The comparisons of a chain, whose left operand is on the stack. -/
def comparisons (c : Context) : List Comparand → Except Fault (List Instr)
  | [] => .ok []
  | .mk op right :: rest => do
    let right ← expr c right
    if rest.isEmpty then .ok (right ++ [.compare op])
    else .ok (chainStep op right (← comparisons c rest))

/-- Adds the items of a dictionary display to the dictionary on the stack. -/
def dictItems (c : Context) : List DictItem → Except Fault (List Instr)
  | [] => .ok []
  | .pair k v :: rest => do
    .ok ((← expr c k) ++ (← expr c v) ++ [.addEntry 0] ++ (← dictItems c rest))
  | .unpack e :: rest => do .ok ((← expr c e) ++ [.merge false] ++ (← dictItems c rest))

/-- The values of keyword arguments. -/
def keywordValues (c : Context) : List Keyword → Except Fault (List Instr)
  | [] => .ok []
  | .mk _ _ e :: rest => do .ok ((← expr c e) ++ (← keywordValues c rest))

/-- Adds keyword arguments to the dictionary on the stack. -/
def mergedKeywords (c : Context) : List Keyword → Except Fault (List Instr)
  | [] => .ok []
  | .mk _ none e :: rest => do .ok ((← expr c e) ++ [.merge true] ++ (← mergedKeywords c rest))
  | .mk _ (some name) e :: rest => do
    .ok ([.dict 0, .push (.str name)] ++ (← expr c e) ++ [.addEntry 0, .merge true]
      ++ (← mergedKeywords c rest))

/-- The defaults of parameters: first those by position, then those of keyword-only ones. -/
def defaultValues (c : Context) : Parameters → Except Fault (List Instr)
  | .mk posOnly plain _ keywordOnly _ => do
    .ok ((← defaultList c posOnly) ++ (← defaultList c plain) ++ (← defaultList c keywordOnly))

/-- The defaults in a list. -/
def defaultList (c : Context) : List DefaultParameter → Except Fault (List Instr)
  | [] => .ok []
  | .mk _ none :: rest => defaultList c rest
  | .mk _ (some e) :: rest => do .ok ((← expr c e) ++ (← defaultList c rest))

/-- A comprehension, given the instructions for its element. -/
def comprehension (c : Context) (kind : Scope.ComprehensionKind) (sp : Span)
    (clauses : List Clause) (element : Except Fault (List Instr)) : Except Fault (List Instr) := do
  let inner := comprehensionContext c kind sp
  if inner.scope.awaits && kind != .generator && !(c.isAsync && c.inFunction)
      && c.kind != .comprehension then
    failAt sp "asynchronous comprehension outside of an asynchronous function"
  else
    match clauses with
    | [] => .ok []
    | .mk isAsync target iter conditions :: rest => do
      let target ← assignTo inner target
      let innermost ← clausesLoops inner kind 1 element rest
      let conditions ← tests inner innermost.length conditions
      let body := emptyResult kind ++ [.load .own Scope.iterableParam]
        ++ (if isAsync then [.missing "asynchronous comprehensions"] else [])
        ++ clauseLoop target conditions innermost ++ [.ret]
      let iter ← expr c iter
      .ok ([.function (comprehensionCode c inner kind sp body) 0 [] []] ++ iter
        ++ [.getIter, .call 1 []]
        ++ (if inner.scope.awaits && kind != .generator then
            [.getDelegate true, .push .none, .delegate]
          else []))

/-- The loops of further clauses around the element; `depth` iterators are on the stack above the
    result. -/
def clausesLoops (c : Context) (kind : Scope.ComprehensionKind) (depth : Nat)
    (element : Except Fault (List Instr)) : List Clause → Except Fault (List Instr)
  | [] => do .ok (collect kind depth (← element))
  | .mk isAsync target iter conditions :: rest => do
    let iter ← expr c iter
    let target ← assignTo c target
    let innermost ← clausesLoops c kind (depth + 1) element rest
    let conditions ← tests c innermost.length conditions
    .ok (iter ++ (if isAsync then [.missing "asynchronous comprehensions"] else [])
      ++ [.getIter] ++ clauseLoop target conditions innermost)

/-- The conditions of a clause, each of which skips what is behind it. -/
def tests (c : Context) (behind : Nat) : List Expr → Except Fault (List Instr)
  | [] => .ok []
  | e :: es => do
    let test ← expr c e
    let rest ← tests c behind es
    .ok (skipUnless test (rest.length + behind) ++ rest)

/-- Assigns the top to a target and pops it. -/
def assignTo (c : Context) : Expr → Except Fault (List Instr)
  | .name sp id => storeName c sp id
  | .attribute sp e name => do
    let e ← expr c e
    checkBindable sp name
    .ok (e ++ [.setAttr (c.known name)])
  | .subscript _ e i => do .ok ((← expr c e) ++ (← expr c i) ++ [.setItem])
  | .tuple sp es => do .ok ((← unpackInstr sp es) :: (← assignToAll c es))
  | .list sp es => do .ok ((← unpackInstr sp es) :: (← assignToAll c es))
  | .starred sp _ => failAt sp "starred assignment target must be in a list or tuple"
  | _ => .ok [.pop]

/-- Assigns the values on top of the stack to targets, the first one first. -/
def assignToAll (c : Context) : List Expr → Except Fault (List Instr)
  | [] => .ok []
  | .starred _ e :: es => do .ok ((← assignTo c e) ++ (← assignToAll c es))
  | e :: es => do .ok ((← assignTo c e) ++ (← assignToAll c es))

end

end Graft.Code
