import Graft.Machine.Call

set_option autoImplicit false

/-! # Descriptions of callables and objects

What a session begins with is described: callables by what a call of them does, and objects by what
they hold. -/

namespace Graft.Session

open Graft.Machine

/-- How the class of a described callable differs from an ordinary one. -/
structure Traits where
  isFalsy : Bool := false
  isWeak : Bool := true
  isHashable : Bool := true
  equalBy : Option String := none
  shownAs : Option String := none

/-- Descriptions of callables, and of other values that stand in their place. -/
inductive CallableForm
  | value (form : Form)
  | builtin (name : String)
  | function (name qualname : String) (doc : Form) (attributes : List (String × Form)) (does : Does)
  | anonymous (does : Does)
  /-- An instance of a class of its own. -/
  | instance (cls : String) (traits : Traits) (attributes : List (String × Form)) (does : Does)
  | partialCall (inner : CallableForm)
  | staticMethod (inner : CallableForm)
  | classMethod (inner : CallableForm)
  | property (name : String) (does : Does)
deriving Inhabited

/-- The module that described functions belong to. -/
def nativeModule : Value := .str "native"

/-- A described function. -/
def describedFunction (w : World) (name qualname : String) (doc : Value) (d : Description) :
    Function :=
  { behaviour := .described d, name, qualname, module := nativeModule, doc, globals := w.home }

/-- A described function on the heap. -/
def newFunction (name : String) (does : Does) (dropsReceiver : Bool) : Run Value := do
  Run.newValue (.function (describedFunction (← Run.world) name name .none
    { name, does, dropsReceiver }))

/-- Sets attributes to what forms describe. -/
def setAttributes (call : Caller) (v : Value) (attributes : List (String × Form)) : Run Unit :=
  attributes.forM fun (name, form) => do
    World.setAttr call v name (← form.build call)

/-- The class of a described callable. -/
def newCallableClass (name : String) (traits : Traits) (does : Does) : Run Value := do
  let f ← newFunction name does true
  let object : Value := .cls "object"
  let r ← Run.new .namespace [("__module__", nativeModule), ("__call__", f), ("__doc__", .none)]
  let self : Value := .thing r
  Run.setBody r (.cls {
    name, qualname := name, bases := [object], order := [self, object]
    hasTable := traits.isWeak, isWeak := traits.isWeak, isFalsy := traits.isFalsy
    isHashable := traits.isHashable, equalBy := traits.equalBy
    shownAs := some (traits.shownAs.getD (World.angled name)) })
  return self

/-- The function or class of a name that the language supplies. -/
def supplied (name : String) : Value :=
  (Activation.supplied? name).getD (.builtin name)

/-- Builds what a description of a callable describes. -/
def CallableForm.build (call : Caller) : CallableForm → Run Value
  | .value form => form.build call
  | .builtin name => return supplied name
  | .function name qualname doc attributes does => do
    let doc ← doc.build call
    let v ← Run.newValue (.function
      (describedFunction (← Run.world) name qualname doc { name, does }))
    setAttributes call v attributes
    return v
  | .anonymous does => do
    let name := "<lambda>"
    Run.newValue (.function (describedFunction (← Run.world) name name .none
      { name, does, codeName := name }))
  | .instance cls traits attributes does => do
    let v ← Run.newValue (.instance (← newCallableClass cls traits does))
    setAttributes call v attributes
    return v
  | .partialCall inner => do Run.newValue (.partialCall (← inner.build call) [] [])
  | .staticMethod inner => do Run.newValue (.staticMethod (← inner.build call))
  | .classMethod inner => do Run.newValue (.classMethod (← inner.build call))
  | .property name does => do Run.newValue (.property (← newFunction name does false) .none)

/-- The members of a described object. -/
abbrev Members := List (String × CallableForm)

/-- Descriptions of objects. -/
inductive ObjectForm
  | namespace (members : Members)
  | module (members : Members)
  | dict (members : Members) (pairs : List (Form × CallableForm))
  | userDict (isFrozen : Bool) (members : Members) (pairs : List (Form × CallableForm))
  | proxy (members : Members) (pairs : List (Form × CallableForm))
  /-- An instance that lets no attributes be set. -/
  | refusing (members : Members)
  | cls (name : String) (bases : List String) (members : Members) (isSealed : Bool)
  | instance (cls : String) (members : Members)
  | value (form : Form)
  | builtin (name : String)

/-- Builds members. -/
def buildMembers (call : Caller) (members : Members) : Run Table :=
  members.mapM fun (name, form) => do return (name, ← form.build call)

/-- Builds a dictionary of members and other pairs. -/
def buildDict (call : Caller) (members : Members) (pairs : List (Form × CallableForm)) :
    Run Ref := do
  let r ← Run.new (.dict [])
  for (name, form) in members do
    World.putEntry r (.str name) (← form.build call)
  for (key, form) in pairs do
    World.putEntry r (← key.build call) (← form.build call)
  return r

/-- What the class is called whose instances let no attributes be set. -/
def refusingName : String := "Refusing"

/-- A class whose instances let no attributes be set. -/
def newRefusingClass : Run Value := do
  let object : Value := .cls "object"
  let r ← Run.new .namespace [("__module__", nativeModule), ("__doc__", .none)]
  let self : Value := .thing r
  Run.setBody r (.cls {
    name := refusingName, qualname := refusingName, bases := [object], order := [self, object]
    refuses := true })
  return self

/-- Builds what the description of an object with a name describes. -/
def ObjectForm.build (call : Caller) (objectName : String) : ObjectForm → Run Value
  | .namespace members => do Run.newValue .namespace (← buildMembers call members)
  | .module members => do
    let table ← buildMembers call members
    Run.newValue (.module objectName) (Table.update
      [("__name__", .str objectName), ("__doc__", .none), ("__package__", .none),
        ("__loader__", .none), ("__spec__", .none)] table)
  | .dict members pairs => do return .thing (← buildDict call members pairs)
  | .userDict isFrozen members pairs => do
    Run.newValue (.userDict isFrozen (← buildDict call members pairs))
  | .proxy members pairs => do Run.newValue (.proxy (← buildDict call members pairs))
  | .refusing members => do
    let table ← buildMembers call members
    Run.newValue (.instance (← newRefusingClass)) table
  | .cls name bases members isSealed => do
    let bases ← bases.mapM (World.atPath call)
    let table ← buildMembers call members
    let slots := if isSealed then [("__slots__", Value.tuple [])] else []
    Activation.makeClass name name bases ([("__module__", nativeModule)] ++ slots ++ table)
  | .instance path members => do
    let v ← Run.newValue (.instance (← World.atPath call path))
    for (name, form) in members do
      World.setAttr call v name (← form.build call)
    return v
  | .value form => form.build call
  | .builtin name => return supplied name

end Graft.Session
