import Graft.Session.Action

set_option autoImplicit false

/-! # The beginning of a session

A session begins with a module that has a few names from the start, with described objects, and with
the text of a program that is run as that module. -/

namespace Graft.Session

open Graft.Machine

/-- What the home module is called. -/
def homeName : String := "world"

/-- The file that the program counts as. -/
def homeFile : String := "<world>"

/-- A function of this library that marks callables. -/
def newMarker (name : String) : Run Value := do
  Run.newValue (.function {
    behaviour := .library name, name, qualname := name, module := .str "hotsplice.core.flags"
    globals := (← Run.world).home })

/-- Makes the home module with the names that it has from the start. -/
def makeHome : Run Unit := do
  let home ← Run.new (.module homeName)
  modify fun w => { w with home }
  let types ← Run.newValue (.module "types")
    [("SimpleNamespace", .cls "SimpleNamespace"), ("ModuleType", .cls "module")]
  let refuser ← newMarker "no_inject"
  let accepter ← newMarker "allow_inject"
  Run.changeTable home fun _ => [("__name__", .str homeName), ("__doc__", .none),
    ("FlowControl", .cls "FlowControl"), ("types", types), ("no_inject", refuser),
    ("allow_inject", accepter)]

/-- Builds described objects and gives them their names. -/
def buildObjects (call : Caller) (objects : List (String × ObjectForm)) : Run Unit :=
  objects.forM fun (name, form) => do
    let v ← form.build call name
    modify fun w => { w with names := w.names.set name v }

/-- Runs the text of a program as the home module. -/
def runProgram (call : Caller) (text : String) : Attempt Unit := do
  modify fun w => { w with sources := w.sources.register homeFile text }
  let body ← match Syntax.parseModule text.toList with
    | .ok body => pure body
    | .error r => Attempt.refuse (.program homeFile r)
  let code ← match Code.ofModule homeFile body with
    | .ok code => pure code
    | .error f => Attempt.refuse (.program homeFile (.fault f))
  let name := code.info.name
  let function ← Run.newValue (.function {
    behaviour := .code code, name, qualname := name, module := .str homeName
    globals := (← Run.world).home })
  let _ ← call function {}
  return ()

/-- What a session is given. -/
structure Opening where
  objects : List (String × ObjectForm) := []
  program : Option String := none

/-- Begins a session. -/
def Opening.begin (call : Caller) (o : Opening) : Attempt Unit := do
  makeHome
  buildObjects call o.objects
  match o.program with
  | some text => runProgram call text
  | none => return ()

/-- Holds a session in a world: what is told about each action, or how its beginning failed. -/
def Opening.hold (call : Caller) (o : Opening) (actions : List Action) (w : World) :
    Except Outcome (List Told) :=
  match (o.begin call).run.run w with
  | (.ok (.ok _), w) => .ok (performAll call actions w).1
  | (.ok (.error r), _) => .error (.refused r)
  | (.error h, w) => .error (.ofHalt w h)

end Graft.Session
