import Graft.Machine.Operator
import Graft.Machine.Tell
import Graft.Scope.Mention

set_option autoImplicit false

/-! # Running instructions

One instruction after the other, until the call returns, is suspended or raises.  Leaving a stretch
of code goes through the guards around it from the inside out. -/

namespace Graft

open Machine Data Code

/-- What an instruction leads to. -/
inductive Transition
  | go (a : Activation)
  /-- A stretch of code is left. -/
  | leave (a : Activation) (reason : Reason)
  | yields (v : Value) (a : Activation)

/-- How a stretch of a call ends. -/
inductive Completion
  | returned (v : Value)
  | yielded (v : Value) (a : Activation)

namespace Machine.Activation

/-! ## The stack -/

/-- Puts a value on the stack. -/
def push (a : Activation) (v : Value) : Activation := { a with stack := v :: a.stack }

/-- Takes a value from the stack. -/
def pop (a : Activation) : Run (Value × Activation) :=
  match a.stack with
  | v :: stack => return (v, { a with stack })
  | [] => Run.raise "SystemError" "the stack is empty"

/-- Takes so many values from the stack, in the order in which they were put there. -/
def popMany (a : Activation) (n : Nat) : Run (List Value × Activation) :=
  if a.stack.length < n then Run.raise "SystemError" "the stack is empty"
  else return ((a.stack.take n).reverse, { a with stack := a.stack.drop n })

/-- The value so many places below the top. -/
def peek (a : Activation) (depth : Nat) : Run Value :=
  match a.stack[depth]? with
  | some v => return v
  | none => Run.raise "SystemError" "the stack is empty"

/-- Goes on so many instructions later. -/
def skip (a : Activation) (n : Nat) : Activation := { a with pc := a.pc + n }

/-- Enters a stretch of code. -/
def guarded (a : Activation) (g : Guard) : Activation := { a with guards := g :: a.guards }

/-! ## Leaving code -/

/-- Leaves code for a reason: either there is a place inside the call to go on at, or the call
    ends. -/
def unwind (a : Activation) (reason : Reason) : List Guard → Activation ⊕ Reason
  | [] => .inr reason
  | .loop exit exitStack restart restartStack :: guards =>
    match reason with
    | .breaks => .inl { a with pc := exit, stack := exitStack, guards }
    | .continues =>
      .inl { a with
        pc := restart, stack := restartStack
        guards := .loop exit exitStack restart restartStack :: guards }
    | reason => unwind a reason guards
  | .handlers start stack :: guards =>
    match reason with
    | .raises e => .inl { a with pc := start, stack := e :: stack, guards := .handling e :: guards }
    | reason => unwind a reason guards
  | .finalizer start stack :: guards =>
    .inl { a with pc := start, stack, guards := .pending reason :: guards }
  | .handling _ :: guards => unwind a reason guards
  | .pending _ :: guards => unwind a reason guards

/-- What is being handled. -/
def handled? : List Guard → Option Value
  | [] => none
  | .handling e :: _ => some e
  | .pending (.raises e) :: _ => some e
  | _ :: guards => handled? guards

/-! ## Names -/

/-- The value that the language gives a name. -/
def supplied? (name : String) : Option Value :=
  if Builtin.namedFunctions.contains name then some (.builtin name)
  else if Builtin.namedClasses.contains name || Builtin.isException name then some (.cls name)
  else if name == "IOError" || name == "EnvironmentError" then some (.cls "OSError")
  else if name == "Ellipsis" then some .ellipsis
  else none

/-- Complains about a name. -/
def undefined {α : Type} (name : String) : Run α :=
  Run.raise "NameError" ("name '" ++ name ++ "' is not defined")

/-- Complains about a variable without a value. -/
def unbound {α : Type} (a : Activation) (name : String) : Run α :=
  if a.info.frees.contains name then
    Run.raise "NameError" ("cannot access free variable '" ++ name
      ++ "' where it is not associated with a value in enclosing scope")
  else
    Run.raise "UnboundLocalError" ("cannot access local variable '" ++ name
      ++ "' where it is not associated with a value")

/-- The value of a name of the module. -/
def loadGlobal (a : Activation) (name : String) : Run Value := do
  match ((← Run.world).table a.globals).get? name with
  | some v => return v
  | none =>
    match supplied? name with
    | some v => return v
    | none => undefined name

/-- The cell of a name. -/
def cell? (a : Activation) (name : String) : Option Ref :=
  (a.cells.find? (·.1 == name)).map Prod.snd

/-- The value in the cell of a name. -/
def loadCell (a : Activation) (name : String) : Run Value := do
  match (a.cell? name).bind (← Run.world).thing? with
  | some { body := .cell (some v), .. } => return v
  | _ => a.unbound name

/-- The value of a name in the table that the body of a class fills. -/
def tabled? (w : World) (a : Activation) (name : String) : Option Value :=
  a.table.bind fun r => (w.table r).get? name

/-- The value of a name. -/
def load (a : Activation) (home : Home) (name : String) : Run Value := do
  match home with
  | .own =>
    match a.locals.get? name with
    | some v => return v
    | none => a.unbound name
  | .cell => a.loadCell name
  | .global => a.loadGlobal name
  | .table =>
    match tabled? (← Run.world) a name with
    | some v => return v
    | none => a.loadGlobal name
  | .tableOrCell =>
    match tabled? (← Run.world) a name with
    | some v => return v
    | none => a.loadCell name

/-- Says what a cell holds from now on. -/
def fill (cell : Ref) (content : Option Value) : Run Unit := do
  match (← Run.bodyOf (.thing cell)) with
  | some (.cell _) => Run.setBody cell (.cell content)
  | _ => return ()

/-- Gives a name a value. -/
def store (a : Activation) (home : Home) (name : String) (v : Value) : Run Activation := do
  match home, a.table with
  | .own, _ => return { a with locals := a.locals.set name v }
  | .cell, _ | .tableOrCell, _ =>
    match a.cell? name with
    | some r => fill r (some v)
    | none => pure ()
    return a
  | .table, some r => do
    Run.changeTable r (·.set name v)
    return a
  | .global, _ | .table, none => do
    Run.changeTable a.globals (·.set name v)
    return a

/-- Takes the value of a name away. -/
def delete (a : Activation) (home : Home) (name : String) : Run Activation := do
  let fromTable (r : Ref) : Run Activation := do
    if ((← Run.world).table r).has name then
      Run.changeTable r (·.erase name)
      return a
    else undefined name
  match home, a.table with
  | .own, _ =>
    if a.locals.has name then return { a with locals := a.locals.erase name } else a.unbound name
  | .cell, _ | .tableOrCell, _ => do
    let _ ← a.loadCell name
    match a.cell? name with
    | some r => fill r none
    | none => pure ()
    return a
  | .table, some r => fromTable r
  | .global, _ | .table, none => fromTable a.globals

/-! ## Definitions -/

/-- The cells for the variables that a definition takes from functions around. -/
def capture (a : Activation) (frees : List String) : List (String × Ref) :=
  frees.filterMap fun n => (a.cell? n).map fun r => (n, r)

/-- A function with the values of its defaults and types. -/
def makeFunction (a : Activation) (code : Code) (defaults : List Value) (keywordDefaults : Table)
    (hints : Table) : Run Value := do
  let info := code.info
  let keywordDefaults ←
    if keywordDefaults.isEmpty then pure Value.none else World.dictOfTable keywordDefaults
  let annotations ←
    if hints.isEmpty then pure none else
      match (← World.dictOfTable hints) with
      | .thing r => pure (some r)
      | _ => pure none
  let module := (((← Run.world).table a.globals).get? "__name__").getD .none
  Run.newValue (.function {
    behaviour := .code code, name := info.name, qualname := info.qualname, module
    doc := (info.doc.map Value.str).getD .none, globals := a.globals
    defaults := if defaults.isEmpty then none else some defaults
    keywordDefaults, annotations, closure := a.capture info.frees })

/-- Puts the orders of classes together so that each class is before those it inherits from. -/
def mergeOrders : Nat → List (List Value) → Option (List Value)
  | 0, _ => none
  | n + 1, orders =>
    let orders := orders.filter (!·.isEmpty)
    if orders.isEmpty then some []
    else
      let heads := orders.filterMap List.head?
      match heads.find? fun c => orders.all fun o => !((o.drop 1).any (·.same c)) with
      | none => none
      | some c =>
        (mergeOrders n (orders.map fun o => match o with
          | d :: o => if d.same c then o else d :: o
          | [] => [])).map (c :: ·)

/-- The attributes that the text of `__slots__` allows. -/
def slotNames (v : Value) (items : List Value) : List String :=
  match v.text? with
  | some s => [s]
  | none => items.filterMap Value.text?

/-- Makes a class of what its body has put into a table. -/
def makeClass (name qualname : String) (bases : List Value) (table : Table) : Run Value := do
  let w ← Run.world
  let bases := if bases.isEmpty then [Value.cls "object"] else bases
  match bases.find? (!w.isClass ·) with
  | some b => Run.raise "TypeError" ("'" ++ w.typeName b ++ "' object is not callable")
  | none =>
    let orders := bases.map w.classOrder ++ [bases]
    match mergeOrders 1000 orders with
    | none =>
      Run.raise "TypeError" ("Cannot create a consistent method resolution\norder (MRO) for bases "
        ++ ", ".intercalate (bases.map w.className))
    | some rest =>
      let inherited := bases.filterMap w.madeClass?
      let slots := (table.get? "__slots__").map fun v =>
        slotNames v (((w.items? v).map Prod.snd).getD [])
      let isPlain := bases.all fun b => b.same (.cls "object") || (w.madeClass? b).isSome
      let hasTable := slots.isNone || inherited.any MadeClass.hasTable || !isPlain
      let r ← Run.new .namespace
      let self : Value := .thing r
      Run.setBody r (.cls {
        name, qualname, bases, order := self :: rest, hasTable, slots := slots.getD []
        isWeak := slots.isNone || inherited.any MadeClass.isWeak || !isPlain
        isFalsy := inherited.any MadeClass.isFalsy
        equalBy := inherited.findSome? MadeClass.equalBy
        isHashable := inherited.all MadeClass.isHashable
        shownAs := inherited.findSome? MadeClass.shownAs
        refuses := inherited.any MadeClass.refuses })
      let table := table.filter fun (n, _) => n != "__qualname__"
      Run.changeTable r fun _ =>
        if Table.has table "__doc__" then table else table ++ [("__doc__", .none)]
      return self

/-- Runs the body of a class and makes the class. -/
def buildClass (call : Caller) (a : Activation) (code : Code) (bases : List Value) : Run Value := do
  let body ← a.makeFunction code [] [] []
  let r ← Run.new .namespace
  let cell ← call body { positional := [.thing r] }
  let table := (← Run.world).table r
  let qualname := match table.get? "__qualname__" with
    | some (.str s) => s
    | _ => code.info.qualname
  let cls ← makeClass code.info.name qualname bases table
  match cell with
  | .thing c => fill c (some cls)
  | _ => pure ()
  return cls

/-- The receiver and the class that `super` means in a method. -/
def superOf (a : Activation) : Run Value := do
  match a.info.signature.positional with
  | [] => Run.raise "RuntimeError" "super(): no arguments"
  | first :: _ =>
    let receiver ← match a.locals.get? first with
      | some v => pure v
      | none =>
        match (a.cell? first).bind (← Run.world).thing? with
        | some { body := .cell (some v), .. } => pure v
        | _ => Run.raise "RuntimeError" "super(): arg[0] deleted"
    match a.cell? Scope.classCell with
    | none => Run.raise "RuntimeError" "super(): __class__ cell not found"
    | some r =>
      match (← Run.world).thing? r with
      | some { body := .cell (some cls), .. } =>
        let w ← Run.world
        if w.isInstance receiver cls || w.isSubclass receiver cls then
          Run.newValue (.super cls receiver)
        else
          Run.raise "TypeError" "super(type, obj): obj must be an instance or subtype of type"
      | _ => Run.raise "RuntimeError" "super(): empty __class__ cell"

/-- Calls a function.  Two functions of the language depend on where they are called. -/
def callFrom (call : Caller) (a : Activation) (f : Value) (args : Args) : Run Value :=
  match f, args.positional, args.keywords with
  | .cls "super", [], [] => a.superOf
  | .builtin "globals", [], [] => World.attributesOf a.globals
  | f, _, _ => call f args

/-- The arguments by keyword that a dictionary holds. -/
def keywordsOf (v : Value) : Run Table := do
  match v with
  | .thing r =>
    (← Run.world).entriesOf r |>.mapM fun e =>
      match e.key with
      | .str s => return (s, e.value)
      | _ => Run.raise "TypeError" "keywords must be strings"
  | _ => return []

/-- Adds the entries of a mapping to a dictionary. -/
def merge (forCall : Bool) (dict mapping : Value) : Run Unit := do
  let w ← Run.world
  match dict, mapping with
  | .thing d, .thing m =>
    if w.isMapping mapping then
      for e in w.entriesOf m do
        if forCall && (w.entriesOf d).any (·.hash == e.hash) then
          Run.raise "TypeError"
            ("got multiple values for keyword argument " ++ w.literal e.key)
        World.putEntry d e.key e.value
    else bad
  | _, _ => bad
where
  /-- Complains about what is no mapping. -/
  bad : Run Unit := do
    let t := (← Run.world).attrTypeName mapping
    Run.raise "TypeError" (if forCall then "argument after ** must be a mapping, not " ++ t
      else "'" ++ t ++ "' object is not a mapping")

/-- The class of what is raised by raising a class or an instance of one. -/
def toRaise (call : Caller) (v : Value) : Run Value := do
  let w ← Run.world
  let base : Value := .cls "BaseException"
  let v ← if w.isClass v && w.isSubclass v base then call v {} else pure v
  if (← Run.world).isInstance v base then return v
  else Run.raise "TypeError" "exceptions must derive from BaseException"

/-- Whether something that was raised matches what a handler is for. -/
def isMatch (e type : Value) : Run Bool := do
  let w ← Run.world
  let types := match type with
    | .tuple ts => ts
    | t => [t]
  if types.all fun t => w.isClass t && w.isSubclass t (.cls "BaseException") then
    return types.any (w.isInstance e)
  else
    Run.raise "TypeError"
      "catching classes that do not inherit from BaseException is not allowed"

/-- The value that the end of an iteration carries. -/
def stopValue (e : Value) : Run Value := do
  match (← Run.bodyOf e) with
  | some (.exception _ (v :: _)) => return v
  | _ => return .none

/-- Sends a value to an iterator: what it yields, or what it ends with. -/
def send (call : Caller) (it sent : Value) : Run (Value ⊕ Value) := do
  match (← Run.bodyOf it) with
  | some (.suspended _) =>
    Run.recover "StopIteration" (do return .inl (← Run.apply call (.bound it "send") [sent]))
      fun e => do return .inr (← stopValue e)
  | _ =>
    match (← World.next? call it) with
    | some v => return .inl v
    | none => return .inr .none

/-- The iterator of what a call delegates to. -/
def delegateOf (call : Caller) (isAwait : Bool) (v : Value) : Run Value := do
  let w ← Run.world
  match w.body? v with
  | some (.suspended s) =>
    match s.kind, isAwait with
    | .coroutine, true | .generator, false => return v
    | .coroutine, false =>
      Run.raise "TypeError" "cannot 'yield from' a coroutine object in a non-coroutine generator"
    | _, true => cannotAwait w
    | .asyncGenerator, false => Run.raise "TypeError" (w.notIterable v)
  | _ =>
    if isAwait then
      match w.findMade (w.classOf v) "__await__" with
      | some f => Run.apply call f [v]
      | none => cannotAwait w
    else World.getIter call v
where
  /-- Complains about what can not be waited for. -/
  cannotAwait (w : World) : Run Value :=
    Run.raise "TypeError"
      ("object " ++ w.attrTypeName v ++ " can't be used in 'await' expression")

/-- Enters the context of a manager: its exit, and what entering gives. -/
def enterContext (call : Caller) (manager : Value) : Run (Value × Value) := do
  let w ← Run.world
  let cls := w.classOf manager
  let complaint := "'" ++ w.attrTypeName manager
    ++ "' object does not support the context manager protocol"
  match w.findMade cls "__enter__", w.findMade cls "__exit__" with
  | none, _ => Run.raise "TypeError" complaint
  | some _, none => Run.raise "TypeError" (complaint ++ " (missed __exit__ method)")
  | some enter, some exit => do
    let exit ← World.bindMember cls manager exit
    return (exit, ← call (← World.bindMember cls manager enter) {})

/-- Leaves the context whose exit is on the stack; the exit may take care of what was raised. -/
def exitContext (call : Caller) (a : Activation) : Run Activation := do
  let exit ← a.peek 0
  match a.guards with
  | .pending (.raises e) :: guards => do
    let cls := (← Run.world).classOf e
    let result ← Run.apply call exit [cls, e, .none]
    if (← Run.world).truth result then return { a with guards := .pending .done :: guards }
    else return a
  | _ => do
    let _ ← Run.apply call exit [.none, .none, .none]
    return a

/-- The text of a field of a formatted string. -/
def formatted (call : Caller) (conversion : Syntax.Conversion) (v : Value) : Run String := do
  match conversion with
  | .none => World.tellField call v
  | .str => World.tell call v
  | .repr => World.tellLiteral call v
  | .ascii => do
    return String.ofList ((← World.tellLiteral call v).toList.flatMap fun c =>
      if c.toNat < 128 then [c] else Text.escape c)

/-- A new cell with a value. -/
def newCell (v : Option Value) : Run Ref := Run.new (.cell v)

/-- The keys of the elements of a set. -/
def addToSet (items : List (Key × Value)) (v : Value) : Run (List (Key × Value)) := do
  let k ← World.hashOf v
  return if items.any (·.1 == k) then items else items ++ [(k, v)]

/-- A set of values. -/
def makeSet (xs : List Value) : Run Value := do
  Run.newValue (.set (← xs.foldlM addToSet []))

/-- Notes the type of a variable of a module or class. -/
def noteType (a : Activation) (name : String) (type : Value) : Run Unit := do
  let r := a.table.getD a.globals
  let dict ← match ((← Run.world).table r).get? "__annotations__" with
    | some v => pure v
    | none => do
      let d ← Run.newValue (.dict [])
      Run.changeTable r (·.set "__annotations__" d)
      pure d
  match dict with
  | .thing d => World.putEntry d (.str name) type
  | _ => return ()

/-! ## Instructions -/

/-- Runs an instruction on values. -/
def valueStep (call : Caller) (a : Activation) (i : Instr) : Run Activation := do
  match i with
  | .push v => return a.push v
  | .load home name => return a.push (← a.load home name)
  | .store home name => do
    let (v, a) ← a.pop
    a.store home name v
  | .delete home name => a.delete home name
  | .pushCell name =>
    match a.cell? name with
    | some r => return a.push (.thing r)
    | none => return a.push .none
  | .pop => do
    let (_, a) ← a.pop
    return a
  | .copy depth => return a.push (← a.peek depth)
  | .rotate n => do
    let (v, a) ← a.pop
    return { a with stack := a.stack.take n ++ v :: a.stack.drop n }
  | .unary op => do
    let (v, a) ← a.pop
    return a.push (← World.unary op v)
  | .binary op inPlace => do
    let (y, a) ← a.pop
    let (x, a) ← a.pop
    return a.push (← if inPlace then World.binaryInPlace call op x y else World.binary op false x y)
  | .compare op => do
    let (y, a) ← a.pop
    let (x, a) ← a.pop
    return a.push (← World.comparison call op x y)
  | .getAttr name => do
    let (v, a) ← a.pop
    return a.push (← World.getAttr call v name)
  | .setAttr name => do
    let (v, a) ← a.pop
    let (x, a) ← a.pop
    World.setAttr call v name x
    return a
  | .delAttr name => do
    let (v, a) ← a.pop
    World.deleteAttr v name
    return a
  | .getItem => do
    let (i, a) ← a.pop
    let (v, a) ← a.pop
    return a.push (← World.getItem call v i)
  | .setItem => do
    let (i, a) ← a.pop
    let (v, a) ← a.pop
    let (x, a) ← a.pop
    World.setItem call v i x
    return a
  | .delItem => do
    let (i, a) ← a.pop
    let (v, a) ← a.pop
    World.deleteItem v i
    return a
  | .getIter => do
    let (v, a) ← a.pop
    return a.push (← World.getIter call v)
  | .getDelegate isAwait => do
    let (v, a) ← a.pop
    return a.push (← delegateOf call isAwait v)
  | .format conversion hasSpec => do
    let (spec, a) ← if hasSpec then a.pop else pure (.str "", a)
    let (v, a) ← a.pop
    if spec.text? == some "" then return a.push (.str (← formatted call conversion v))
    else Run.raise "NotImplementedError" "format specifications"
  | .matches => do
    let (type, a) ← a.pop
    let (e, a) ← a.pop
    return a.push (.bool (← isMatch e type))
  | .noteType name => do
    let (type, a) ← a.pop
    a.noteType name type
    return a
  | _ => return a

/-- Runs an instruction on containers. -/
def containerStep (call : Caller) (a : Activation) (i : Instr) : Run Activation := do
  match i with
  | .slice => do
    let (vs, a) ← a.popMany 3
    match vs with
    | [x, y, z] => return a.push (← Run.newValue (.slice x y z))
    | _ => return a
  | .tuple n => do
    let (vs, a) ← a.popMany n
    return a.push (.tuple vs)
  | .list n => do
    let (vs, a) ← a.popMany n
    return a.push (← World.newList vs)
  | .set n => do
    let (vs, a) ← a.popMany n
    return a.push (← makeSet vs)
  | .dict _ => return a.push (← World.newDict [])
  | .append depth => do
    let (v, a) ← a.pop
    match (← a.peek depth) with
    | .thing r =>
      match (← Run.world).thing? r with
      | some { body := .list xs, .. } => Run.setBody r (.list (xs ++ [v]))
      | _ => pure ()
    | _ => pure ()
    return a
  | .addToSet depth => do
    let (v, a) ← a.pop
    match (← a.peek depth) with
    | .thing r =>
      match (← Run.world).thing? r with
      | some { body := .set xs, .. } => Run.setBody r (.set (← addToSet xs v))
      | _ => pure ()
    | _ => pure ()
    return a
  | .addEntry depth => do
    let (v, a) ← a.pop
    let (k, a) ← a.pop
    match (← a.peek depth) with
    | .thing r => World.putEntry r k v
    | _ => pure ()
    return a
  | .extend => do
    let (v, a) ← a.pop
    match (← a.peek 0) with
    | .thing r => do
      let ys ← match (← World.getIter? call v) with
        | some it => World.drainAll call it
        | none =>
          Run.raise "TypeError" ("Value after * must be an iterable, not "
            ++ (← Run.world).attrTypeName v)
      match (← Run.world).thing? r with
      | some { body := .list xs, .. } => Run.setBody r (.list (xs ++ ys))
      | _ => pure ()
    | _ => pure ()
    return a
  | .merge forCall => do
    let (mapping, a) ← a.pop
    merge forCall (← a.peek 0) mapping
    return a
  | .listToTuple => do
    let (v, a) ← a.pop
    return a.push (.tuple (((← Run.world).listItems? v).getD []))
  | .listToSet => do
    let (v, a) ← a.pop
    return a.push (← makeSet (((← Run.world).listItems? v).getD []))
  | .unpack n => do
    let (v, a) ← a.pop
    let vs ← World.unpack call n v
    return { a with stack := vs ++ a.stack }
  | .unpackAround before after => do
    let (v, a) ← a.pop
    let vs ← World.unpackAround call before after v
    return { a with stack := vs ++ a.stack }
  | .joinText n => do
    let (vs, a) ← a.popMany n
    return a.push (.str (String.join (vs.filterMap Value.text?)))
  | _ => return a

/-- Runs an instruction that calls or defines something. -/
def callStep (call : Caller) (a : Activation) (i : Instr) : Run Activation := do
  match i with
  | .call n names => do
    let (named, a) ← a.popMany names.length
    let (positional, a) ← a.popMany n
    let (f, a) ← a.pop
    return a.push (← a.callFrom call f { positional, keywords := names.zip named })
  | .callSpread => do
    let (keywords, a) ← a.pop
    let (args, a) ← a.pop
    let (f, a) ← a.pop
    let keywords ← keywordsOf keywords
    let positional := match args with
      | .tuple vs => vs
      | _ => []
    return a.push (← a.callFrom call f { positional, keywords })
  | .function code defaults keywordDefaults hints => do
    let (types, a) ← a.popMany hints.length
    let (named, a) ← a.popMany keywordDefaults.length
    let (values, a) ← a.popMany defaults
    return a.push (← a.makeFunction code values (keywordDefaults.zip named) (hints.zip types))
  | .buildClass code bases keywords => do
    let (_, a) ← a.popMany keywords.length
    let (bases, a) ← a.popMany bases
    if keywords.isEmpty then return a.push (← a.buildClass call code bases)
    else Run.raise "NotImplementedError" "keyword arguments of classes"
  | _ => return a

/-- Runs an instruction that says where to go on. -/
def controlStep (call : Caller) (a : Activation) (i : Instr) : Run Transition := do
  match i with
  | .jump n => return .go (a.skip n)
  | .jumpBack n => return .go { a with pc := a.pc - 1 - n }
  | .jumpIf sense n => do
    let (v, a) ← a.pop
    return .go (if (← Run.world).truth v == sense then a.skip n else a)
  | .jumpIfKeep sense n => do
    let v ← a.peek 0
    if (← Run.world).truth v == sense then return .go (a.skip n)
    else do
      let (_, a) ← a.pop
      return .go a
  | .next n => do
    let it ← a.peek 0
    match (← World.next? call it) with
    | some v => return .go (a.push v)
    | none => do
      let (_, a) ← a.pop
      return .go (a.skip n)
  | .ret => do
    let (v, a) ← a.pop
    return .leave a (.returns v)
  | .yield => do
    let (v, a) ← a.pop
    return .yields v a
  | .delegate => do
    let (sent, a) ← a.pop
    let it ← a.peek 0
    match (← send call it sent) with
    | .inl v => return .yields v { a with pc := a.pc - 1 }
    | .inr v => do
      let (_, a) ← a.pop
      return .go (a.push v)
  | .raise n => do
    match n with
    | 0 =>
      match handled? a.guards with
      | some e => return .leave a (.raises e)
      | none => Run.raise "RuntimeError" "No active exception to reraise"
    | 1 => do
      let (v, a) ← a.pop
      return .leave a (.raises (← toRaise call v))
    | _ => do
      let (cause, a) ← a.pop
      let (v, a) ← a.pop
      let e ← toRaise call v
      let cause ← if cause.isNone then pure cause else toRaise call cause
      match e with
      | .thing r => Run.changeTable r (·.set "__cause__" cause)
      | _ => pure ()
      return .leave a (.raises e)
  | .beginLoop exit isFor =>
    let exitStack := if isFor then a.stack.drop 1 else a.stack
    return .go (a.guarded (.loop (a.pc + exit) exitStack a.pc a.stack))
  | .beginTry handler => return .go (a.guarded (.handlers (a.pc + handler) a.stack))
  | .beginFinally handler => return .go (a.guarded (.finalizer (a.pc + handler) a.stack))
  | .beginWith handler => do
    let (manager, a) ← a.pop
    let (exit, entered) ← enterContext call manager
    let a := a.push exit
    return .go ((a.guarded (.finalizer (a.pc + handler) a.stack)).push entered)
  | .exitWith => return .go (← a.exitContext call)
  | .endBlock => return .go { a with guards := a.guards.drop 1 }
  | .enterFinally => return .go (a.guarded (.pending .done))
  | .endFinally =>
    match a.guards with
    | .pending .done :: guards => return .go { a with guards }
    | .pending reason :: guards => return .leave { a with guards } reason
    | guards => return .go { a with guards := guards.drop 1 }
  | .break => return .leave a .breaks
  | .continue => return .leave a .continues
  | .missing what => Run.raise "NotImplementedError" what
  | _ => return .go a

/-- The four sorts of instructions. -/
inductive InstrSort
  | values | containers | calls | control

/-- The sort of an instruction. -/
def sortOf : Instr → InstrSort
  | .push _ | .load _ _ | .store _ _ | .delete _ _ | .pushCell _ | .pop | .copy _ | .rotate _
  | .unary _ | .binary _ _ | .compare _ | .getAttr _ | .setAttr _ | .delAttr _ | .getItem | .setItem
  | .delItem | .getIter | .getDelegate _ | .format _ _ | .matches | .noteType _ => .values
  | .slice | .tuple _ | .list _ | .set _ | .dict _ | .append _ | .addToSet _ | .addEntry _ | .extend
  | .merge _ | .listToTuple | .listToSet | .unpack _ | .unpackAround _ _ | .joinText _ =>
    .containers
  | .call _ _ | .callSpread | .function _ _ _ _ | .buildClass _ _ _ => .calls
  | _ => .control

/-- Runs the next instruction. -/
def step (call : Caller) (a : Activation) : Run Transition := do
  match a.instrs[a.pc]? with
  | none => return .leave a (.returns .none)
  | some i =>
    let a := { a with pc := a.pc + 1 }
    match sortOf i with
    | .values => return .go (← a.valueStep call i)
    | .containers => return .go (← a.containerStep call i)
    | .calls => return .go (← a.callStep call i)
    | .control => a.controlStep call i

/-- Runs the next instruction; what it raises leaves the code it stands in. -/
def guardedStep (call : Caller) (a : Activation) : Run Transition :=
  tryCatch (a.step call) fun
    | .raised e => return .leave a (.raises e)
    | h => throw h

/-- Runs a call on, for so many instructions at most. -/
def runFor (call : Caller) : Nat → Activation → Run Completion
  | 0, _ => throw .exhausted
  | n + 1, a => do
    match (← a.guardedStep call) with
    | .go a => runFor call n a
    | .yields v a => return .yielded v a
    | .leave a reason =>
      match a.unwind reason a.guards with
      | .inl a => runFor call n a
      | .inr (.raises e) => throw (.raised e)
      | .inr (.returns v) => return .returned v
      | .inr _ => return .returned .none

/-- How many instructions a call runs at most. -/
def maxSteps : Nat := 10000000

/-- Runs a call on until it returns or is suspended. -/
def run (call : Caller) (a : Activation) : Run Completion := a.runFor call maxSteps

end Machine.Activation

end Graft
