import Graft.Machine.Iterate
import Graft.Refusal

set_option autoImplicit false

/-! # Members of targets

A target is anything that holds callables.  A mapping that can be changed holds them as items, and
everything else as attributes.  What a class keeps as a static or class method is read without its
wrapping, and is wrapped in the same way again when it is replaced. -/

namespace Graft

open Machine

/-- Runs that can be refused. -/
abbrev Attempt (α : Type) := ExceptT Refusal Run α

/-- Refuses to go on. -/
def Attempt.refuse {α : Type} (r : Refusal) : Attempt α := throw r

/-- How a member is called through its target. -/
inductive Convention
  | plain
  /-- As a static method of a class. -/
  | static
  /-- As a class method. -/
  | ofClass
deriving DecidableEq, Repr

/-- A callable that a target holds. -/
structure Member where
  target : Value
  name : String
  /-- The callable, without the wrapping of static and class methods. -/
  value : Value
  convention : Convention := .plain

namespace Member

/-- What the own members of a class and of those it inherits from have under a name, and how it is
    wrapped. -/
def unwrapped? (w : World) (cls : Value) (name : String) : Option (Convention × Value) :=
  match w.findMade cls name with
  | some member =>
    match w.body? member with
    | some (.staticMethod f) => some (.static, f)
    | some (.classMethod f) => some (.ofClass, f)
    | _ => none
  | none =>
    match w.findSupplied cls name with
    | some (_, .static) => if name == "__new__" then none else some (.static, .builtin name)
    | _ => none

/-- What a target holds under a name, and how it is called. -/
def lookup (call : Caller) (target : Value) (name : String) :
    Run (Option (Convention × Value)) := do
  let w ← Run.world
  let plain (v : Option Value) : Option (Convention × Value) := v.map fun v => (.plain, v)
  match target, w.isMutableMapping target with
  | .thing r, true => return plain (← World.getEntry? r (.str name))
  | _, _ => do
    let found ← World.getAttr? call target name
    let w ← Run.world
    if w.isClass target then return unwrapped? w target name <|> plain found
    else return plain found

/-- Finds a callable that a target holds. -/
def resolve (call : Caller) (target name : Value) : Attempt Member := do
  if target.isNone then Attempt.refuse .noTarget
  else if name.isNone then Attempt.refuse .noMember
  else
    let name := (← Run.world).text name
    match (← lookup call target name) with
    | none => Attempt.refuse (.missingMember name)
    | some (convention, value) =>
      let w ← Run.world
      if w.isCallable value then return { target, name, value, convention }
      else Attempt.refuse (.notCallable name (w.typeName value))

/-- Wraps a replacement in the way in which the member is wrapped. -/
def rewrap (m : Member) (replacement : Value) : Run Value :=
  match m.convention with
  | .plain => return replacement
  | .static => Run.newValue (.staticMethod replacement)
  | .ofClass => Run.newValue (.classMethod replacement)

/-- Puts a value in the place of the member. -/
def put (call : Caller) (m : Member) (v : Value) : Run Unit := do
  match m.target, (← Run.world).isMutableMapping m.target with
  | .thing r, true => World.putEntry r (.str m.name) v
  | _, _ => World.setAttr call m.target m.name v

/-- Replaces the member, unless the target refuses that. -/
def assign (call : Caller) (m : Member) (replacement : Value) : Attempt Unit := do
  let v ← m.rewrap replacement
  let refusal : Option Refusal ← (tryCatch (do m.put call v; return none) fun
    | .raised e => do
      let w ← Run.world
      if w.isException e then return some (.writeRefused m.name (w.text e) (w.typeName e))
      else throw (.raised e)
    | h => throw h : Run (Option Refusal))
  match refusal with
  | some r => Attempt.refuse r
  | none => return ()

end Member

end Graft
