import Graft.Machine.Iterate
import Graft.Machine.Tell

set_option autoImplicit false

/-! # Running hooks around a function

A call of a patched function runs the hooks of the patch.  A replacing hook takes the whole call.
Otherwise the prefix hook is called first with the arguments of the call.  It answers three things:
an early result, the arguments by position to go on with, and how to go on.  Then the patched
callable and the postfix hook are called, the latter with the result in front of the arguments.

A prefix or postfix hook that fails is logged and otherwise counts as absent.  Hooks are looked at
when their time has come, since the hooks of a patch can be changed.  Everything here takes a way to
make calls and knows nothing else of what is called. -/

namespace Graft.Patch

open Graft.Machine

/-- The hooks of a patch; a hook that is not there is nothing. -/
structure Hooks where
  before : Value := .none
  after : Value := .none
  instead : Value := .none
deriving Inhabited

/-- The hooks that a patch has. -/
def hooksOf (w : World) (patch : Ref) : Hooks :=
  match (w.thing? patch).map Thing.body with
  | some (.patch before after instead _ _) => { before, after, instead }
  | _ => {}

/-- What the prefix hook has decided. -/
inductive Decision
  /-- The call ends with a result. -/
  | stop (result : Value)
  /-- The call goes on with arguments and, unless told otherwise, with the postfix hook. -/
  | proceed (positional : List Value) (skipsAfter : Bool)

/-- The part that logs. -/
def logger : String := "wrap.engine"

/-- What is logged of a hook that has raised something, up to the text of that. -/
def failureText (w : World) (id : Value) (hook : String) (e : Value) : String :=
  "[" ++ w.text id ++ "] '" ++ hook ++ "' hook raised " ++ w.typeName e ++ ": "

/-- Runs a hook; what it raises is logged if it is an ordinary exception. -/
def guarded {α : Type} (call : Caller) (id : Value) (hook : String) (run : Run α) :
    Run (Option α) :=
  tryCatch (some <$> run) fun
    | .raised e => do
      let w ← Run.world
      if w.isException e then do
        let text ← World.tellField call e
        Run.log .warning logger (failureText w id hook e ++ text)
        return none
      else throw (.raised e)
    | h => throw h

/-- Calls the prefix hook: an early result, arguments by position and how to go on. -/
def askBefore (call : Caller) (hook : Value) (args : Args) :
    Run (Value × List Value × Value) := do
  match (← World.unpack call 3 (← call hook args)) with
  | [early, new, flow] => return (early, ← World.toList call new, flow)
  | _ => Run.raise "SystemError" "three values have been expected"

/-- Decides how a call goes on, which is up to the prefix hook if there is one. -/
def decide (call : Caller) (hook id : Value) (args : Args) : Run Decision := do
  if hook.isNone then return .proceed args.positional false
  else
    match (← guarded call id "prefix" (askBefore call hook args)) with
    | none => return .proceed args.positional false
    | some (early, new, flow) =>
      let w ← Run.world
      if w.isChoice flow (.flow .stopExec) then return .stop early
      else return .proceed new (w.isChoice flow (.flow .continueWithoutPostfix))

/-- The result of a call once the patched callable has given one. -/
def finish (call : Caller) (hook id : Value) (skipsAfter : Bool) (args : Args) (result : Value) :
    Run Value := do
  if hook.isNone || skipsAfter then return result
  else
    let args := { args with positional := result :: args.positional }
    return (← guarded call id "postfix" (call hook args)).getD result

/-- Calls a patched function. -/
def dispatch (call : Caller) (patch : Ref) (id wrapped : Value) (args : Args) : Run Value := do
  let hooks := hooksOf (← Run.world) patch
  if !hooks.instead.isNone then call hooks.instead args
  else
    match (← decide call hooks.before id args) with
    | .stop result => return result
    | .proceed positional skipsAfter => do
      let args := { args with positional }
      let result ← call wrapped args
      finish call (hooksOf (← Run.world) patch).after id skipsAfter args result

end Graft.Patch
