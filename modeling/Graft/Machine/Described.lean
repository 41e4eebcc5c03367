import Graft.Machine.Operator
import Graft.Machine.Path

set_option autoImplicit false

/-! # Described behaviour

Calls of functions that are given by a description.  Each call is traced, together with the things
as they are at the time. -/

namespace Graft

open Machine

mutual

/-- Builds the value that a form describes. -/
def Machine.Form.build (call : Caller) : Form → Run Value
  | .value v => return v
  | .list xs => do World.newList (← Form.buildAll call xs)
  | .tuple xs => return .tuple (← Form.buildAll call xs)
  | .iterator xs => do Run.newValue (.series "list_iterator" (← Form.buildAll call xs))
  | .dict keys values => do
    let keys ← Form.buildAll call keys
    World.newDict (keys.zip (← Form.buildAll call values))
  | .path p => World.atPath call p

/-- Builds the values that forms describe. -/
def Machine.Form.buildAll (call : Caller) : List Form → Run (List Value)
  | [] => return []
  | x :: xs => do return (← Form.build call x) :: (← Form.buildAll call xs)

end

namespace Run

/-- Notes a call. -/
def trace (name : String) (args : Args) : Run Unit :=
  modify fun w => { w with
    trace := ⟨name, args.positional, args.keywords, w.things⟩ :: w.trace }

end Run

namespace Machine

/-- Does what a description says with the arguments of a call. -/
def Does.run (call : Caller) (args : Args) : Does → Run Value
  | .gives form => form.build call
  | .raises cls forms => do
    let e ← Run.apply call (.cls cls) (← Form.buildAll call forms)
    throw (.raised e)
  | .echo => do
    let positional ← World.newList args.positional
    let keywords ← World.dictOfTable args.keywords
    World.newList [positional, keywords]
  | .argument i =>
    match World.place? args.positional.length i with
    | some i => return (args.positional[i]?).getD .none
    | none => Run.raise "IndexError" "tuple index out of range"
  | .sum =>
    (args.positional ++ args.keywords.map Prod.snd).foldlM (World.binary .add false) (.int 0)
  | .hook early new flow => do
    let early ← early.build call
    let new ← match new with
      | some form => form.build call
      | none => pure (.tuple args.positional)
    return .tuple [early, new, ← flow.build call]

/-- Calls a described function. -/
def Description.run (call : Caller) (d : Description) (args : Args) : Run Value := do
  let args := if d.dropsReceiver then { args with positional := args.positional.drop 1 } else args
  Run.trace d.name args
  d.does.run call args

end Machine

end Graft
