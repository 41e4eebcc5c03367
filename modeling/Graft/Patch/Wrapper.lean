import Graft.Patch.Dispatch

set_option autoImplicit false

/-! # Wrappers

The function that is put in the place of a patched one.  It takes over what describes that one,
so that it can be told from it only by the reference that it keeps to it. -/

namespace Graft.Patch

open Graft.Machine

/-- The attributes that a wrapper takes over. -/
def copiedAttributes : List String :=
  ["__module__", "__name__", "__qualname__", "__doc__", "__annotations__"]

/-- The attribute that refers to the patched callable. -/
def wrappedAttribute : String := "__wrapped__"

/-- The function that a wrapper is before it takes anything over. -/
def bareWrapper (w : World) (spec : Ref) (id wrapped : Value) (annotations : Ref) : Function :=
  { behaviour := .dispatch spec id wrapped, name := "wrapper"
    qualname := "build_wrapper.<locals>.wrapper", module := .str "hotsplice.wrap.engine"
    globals := w.home, annotations := some annotations }

/-- Takes over an attribute, if there is such a one. -/
def copyAttribute (call : Caller) (wrapper wrapped : Value) (name : String) : Run Unit := do
  match (← World.getAttr? call wrapped name) with
  | some v => World.setAttr call wrapper name v
  | none => return ()

/-- Takes over the attributes that are the patched callable's own. -/
def copyOwn (call : Caller) (wrapper : Ref) (wrapped : Value) : Run Unit := do
  match (← World.getAttr? call wrapped "__dict__") with
  | some (.thing d) => do
    let es := (← Run.world).entriesOf d
    Run.changeTable wrapper (·.update (es.filterMap fun e => e.key.text?.map fun n => (n, e.value)))
  | _ => return ()

/-- The name that a wrapper goes by: that of the patched callable, or else that of the member. -/
def displayName (call : Caller) (wrapped : Value) (member : String) : Run Value := do
  match (← World.getAttr? call wrapped "__name__") with
  | none => return .str member
  | some name =>
    let w ← Run.world
    let isAnonymous := match name with
      | .str s => s == "<lambda>"
      | _ => false
    return if !w.truth name || isAnonymous then .str member else name

/-- Builds the wrapper of a callable. -/
def build (call : Caller) (spec : Ref) (id wrapped : Value) (member : String) : Run Value := do
  let any : Value := .cls "Any"
  match (← World.dictOfTable [("args", any), ("kwargs", any), ("return", any)]) with
  | .thing annotations => do
    let r ← Run.new (.function (bareWrapper (← Run.world) spec id wrapped annotations))
    let wrapper : Value := .thing r
    for name in copiedAttributes do
      copyAttribute call wrapper wrapped name
    copyOwn call r wrapped
    World.setAttr call wrapper wrappedAttribute wrapped
    World.setAttr call wrapper "__name__" (← displayName call wrapped member)
    return wrapper
  | _ => return .none

end Graft.Patch
