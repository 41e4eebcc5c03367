import Graft.Code.Binding
import Graft.Flag
import Graft.Machine.Described
import Graft.Machine.Supplied
import Graft.Patch.Dispatch

set_option autoImplicit false

/-! # Calls

What a call of a value does.  Calls are nested in each other to a limited depth. -/

namespace Graft

open Machine Code

namespace Machine.Function

/-- The values for keyword-only parameters that are not given. -/
def keywordDefaultTable (w : World) (f : Function) : Table :=
  match f.keywordDefaults with
  | .thing r => (w.entriesOf r).filterMap fun e => e.key.text?.map fun n => (n, e.value)
  | _ => []

/-- Binds arguments to parameters, or complains about them. -/
def bind (f : Function) (s : Signature) (args : Args) : Run (Binding Value) := do
  match Binding.ofCall s (f.defaults.getD []) (f.keywordDefaultTable (← Run.world))
      args.positional args.keywords with
  | .ok b => return b
  | .error fault => Run.raise "TypeError" (fault.message f.qualname)

/-- The variables that arguments make up. -/
def parameterTable (f : Function) (s : Signature) (args : Args) : Run Table := do
  let b ← f.bind s args
  let rest := match s.star with
    | some n => [(n, Value.tuple b.rest)]
    | none => []
  let extra ← match s.doubleStar with
    | some n => do pure [(n, ← World.dictOfTable b.extra)]
    | none => pure []
  return b.named ++ rest ++ extra

/-- How a call begins.  The body of a class is called with the thing whose attributes it fills. -/
def enter (f : Function) (code : Code) (args : Args) : Run Activation := do
  let info := code.info
  let (table, locals) ← match info.kind, args.positional with
    | .cls, .thing r :: _ => pure (some r, [])
    | .module, _ => pure (none, [])
    | _, _ => do pure (none, ← f.parameterTable info.signature args)
  let cells ← info.cells.mapM fun n => do
    return (n, ← Activation.newCell (Table.get? locals n))
  return {
    instrs := code.body.toArray, info, globals := f.globals, table
    locals := locals.filter fun (n, _) => !info.cells.contains n
    cells := cells ++ f.closure }

/-- Runs the code of a function, or suspends the call. -/
def runCode (call : Caller) (f : Function) (code : Code) (args : Args) : Run Value := do
  let a ← f.enter code args
  let suspended (kind : SuspendedKind) : Run Value :=
    Run.newValue (.suspended { kind, name := f.qualname, progress := .fresh a })
  match code.info.isAsync, code.info.yields with
  | true, true => suspended .asyncGenerator
  | true, false => suspended .coroutine
  | false, true => suspended .generator
  | false, false =>
    match (← a.run call) with
    | .returned v | .yielded v _ => return v

/-- The parameter of the functions that mark others. -/
def markSignature : Signature := { plain := ["target"] }

/-- Calls a function of this library. -/
def runLibrary (f : Function) (name : String) (args : Args) : Run Value := do
  match (← f.bind markSignature args).named with
  | (_, v) :: _ => Run.mark (name == "allow_inject") v
  | [] => return .none

/-- Calls a function. -/
def run (call : Caller) (f : Function) (args : Args) : Run Value := do
  match f.behaviour with
  | .code code => f.runCode call code args
  | .described d => d.run call args
  | .dispatch patch id wrapped => Patch.dispatch call patch id wrapped args
  | .library name => f.runLibrary name args

end Machine.Function

namespace World

/-- Makes an instance of a class that programs have made. -/
def instantiate (call : Caller) (cls : Value) (args : Args) : Run Value := do
  let w ← Run.world
  let name := w.className cls
  let isException := w.isSubclass cls (.cls "BaseException")
  let v ← Run.newValue (if isException then .exception cls args.positional else .instance cls)
  match w.findMade cls "__init__" with
  | some init => do
    let result ← call (← bindMember cls v init) args
    if result.isNone then return v
    else
      Run.raise "TypeError" ("__init__() should return None, not '"
        ++ (← Run.world).attrTypeName result ++ "'")
  | none =>
    if isException then
      if args.keywords.isEmpty then return v
      else Run.raise "TypeError" (name ++ "() takes no keyword arguments")
    else if args.positional.isEmpty && args.keywords.isEmpty then return v
    else Run.raise "TypeError" (name ++ "() takes no arguments")

/-- Calls a value, where calls within the call are made in the given way. -/
def invoke (call : Caller) (v : Value) (args : Args) : Run Value := do
  let w ← Run.world
  let notCallable : Run Value :=
    Run.raise "TypeError" ("'" ++ w.attrTypeName v ++ "' object is not callable")
  match v with
  | .builtin name => Builtin.applyFunction call name args
  | .cls name => Builtin.construct call name args
  | .bound receiver name => Builtin.applyMethod call receiver name args
  | .slot cls name => Builtin.applyUnbound call cls name args
  | .thing r =>
    match (w.thing? r).map Thing.body with
    | some (.function f) => f.run call args
    | some (.method f receiver) =>
      call f { args with positional := receiver :: args.positional }
    | some (.staticMethod f) => call f args
    | some (.cls _) => instantiate call v args
    | some (.partialCall f positional keywords) =>
      call f {
        positional := positional ++ args.positional
        keywords := Table.update keywords args.keywords }
    | some (.instance c) =>
      match w.findMade c "__call__" with
      | some f => do call (← bindMember c v f) args
      | none => notCallable
    | _ => notCallable
  | _ => notCallable

end World

namespace Machine

/-- Calls a value; calls can be nested to the given depth. -/
def callWithin : Nat → Caller
  | 0, _, _ => Run.raise "RecursionError" "maximum recursion depth exceeded"
  | n + 1, v, args => World.invoke (callWithin n) v args

/-- How deep calls can be nested. -/
def maxCalls : Nat := 1000

/-- Calls a value. -/
def call : Caller := callWithin maxCalls

end Machine

end Graft
