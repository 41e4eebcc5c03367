import Graft.Machine.Show

set_option autoImplicit false

/-! # Attributes

Reading, setting and deleting attributes.  An attribute is looked for among the members of the
value's classes that insist on being asked first, then with the value itself, and then among the
other members of its classes, which are bound to it.  Getters and setters are called, so that
everything here takes a way to make calls. -/

namespace Graft

open Machine Data

namespace Run

/-- Calls a function with arguments by position. -/
def apply (call : Caller) (f : Value) (args : List Value) : Run Value :=
  call f { positional := args }

/-- Goes on after an error of a class has been raised. -/
def recover {α : Type} (cls : String) (run : Run α) (otherwise : Value → Run α) : Run α :=
  tryCatch run fun
    | .raised e => do
      if (← read (·.isInstance e (.cls cls))) then otherwise e else throw (.raised e)
    | h => throw h

/-- A run that gives nothing if there is no such attribute. -/
def orMissing {α : Type} (run : Run α) : Run (Option α) :=
  recover "AttributeError" (some <$> run) fun _ => return none

end Run

namespace World

/-! ## Members of classes -/

/-- Whether a value is a function that is bound to the instance it is found through. -/
def isFunction (w : World) (v : Value) : Bool :=
  match w.body? v with
  | some (.function _) => true
  | _ => false

/-- The dictionary that the attributes of a thing make up. -/
def attributesOf (r : Ref) : Run Value := Run.newValue (.attributes r)

/-- A member of a class, as it is found through an instance.  Getters are called elsewhere. -/
def bindMember (cls self member : Value) : Run Value := do
  match member with
  | .slot _ name => return .bound self name
  | member =>
    match (← Run.bodyOf member) with
    | some (.function _) => Run.newValue (.method member self)
    | some (.staticMethod f) => return f
    | some (.classMethod f) => Run.newValue (.method f cls)
    | _ => return member

/-- A member of a class, as it is found through the class. -/
def classMember (cls member : Value) : Run Value := do
  match (← Run.bodyOf member) with
  | some (.staticMethod f) => return f
  | some (.classMethod f) => Run.newValue (.method f cls)
  | _ => return member

/-- The value of a member that is no method, of a value that the language supplies. -/
def suppliedData (w : World) (v : Value) (name : String) : Value :=
  match name, v with
  | "__class__", v => w.classOf v
  | "real", .bool b | "numerator", .bool b => .int (if b then 1 else 0)
  | "real", v | "numerator", v => v
  | "imag", .float _ => .float 0
  | "imag", _ => .int 0
  | "denominator", _ => .int 1
  | "name", .choice c => .str c.name
  | "value", .choice c => .str c.value
  | "__doc__", .builtin f => ((Builtin.doc? f).map .str).getD .none
  | "__doc__", v => ((Builtin.doc? (w.typeName v)).map .str).getD .none
  | name, v =>
    match name, w.body? v with
    | "start", some (.range a _ _) => .int a
    | "stop", some (.range _ b _) => .int b
    | "step", some (.range _ _ c) => .int c
    | "start", some (.slice a _ _) => a
    | "stop", some (.slice _ b _) => b
    | "step", some (.slice _ _ c) => c
    | _, _ => .none

/-! ## Attributes of values of each kind -/

/-- An attribute that every function has. -/
def functionAttr (r : Ref) (f : Function) (name : String) : Run (Option Value) := do
  match name with
  | "__name__" => return some (.str f.name)
  | "__qualname__" => return some (.str f.qualname)
  | "__module__" => return some f.module
  | "__doc__" => return some f.doc
  | "__defaults__" =>
    return some (match f.defaults with
      | some vs => .tuple vs
      | none => .none)
  | "__kwdefaults__" => return some f.keywordDefaults
  | "__dict__" => return some (← attributesOf r)
  | "__globals__" => return some (← attributesOf f.globals)
  | "__closure__" =>
    return some (if f.closure.isEmpty then .none else .tuple (f.closure.map fun c => .thing c.2))
  | "__annotations__" =>
    match f.annotations with
    | some d => return some (.thing d)
    | none =>
      let d ← Run.new (.dict [])
      Run.setBody r (.function { f with annotations := some d })
      return some (.thing d)
  | _ => return none

/-- An attribute that every function of the language has. -/
def builtinAttr (name attr : String) : Option Value :=
  match attr with
  | "__name__" | "__qualname__" => some (.str name)
  | "__module__" => some (.str "builtins")
  | "__doc__" => some (((Builtin.doc? name).map .str).getD .none)
  | "__self__" => some .none
  | _ => none

/-- An attribute that a method of the language has. -/
def boundAttr (w : World) (self : Value) (name attr : String) : Option Value :=
  match attr with
  | "__name__" => some (.str name)
  | "__qualname__" => some (.str (w.typeName self ++ "." ++ name))
  | "__self__" => some self
  | "__module__" | "__doc__" => some .none
  | _ => none

/-- An attribute of a function, of whichever kind. -/
def callableAttr (v : Value) (name : String) : Run (Option Value) := do
  let w ← Run.world
  match v with
  | .builtin f => return builtinAttr f name
  | .bound self f => return w.boundAttr self f name
  | .slot cls f =>
    return match name with
      | "__name__" => some (.str f)
      | "__qualname__" => some (.str (cls ++ "." ++ f))
      | "__doc__" => some .none
      | _ => none
  | .thing r =>
    match (w.thing? r).map Thing.body with
    | some (.function f) =>
      match (← functionAttr r f name) with
      | some v => return some v
      | none => return (w.table r).get? name
    | _ => return none
  | _ => return none

/-- The names that a static or class method takes over from its function. -/
def takenOver : List String := ["__module__", "__name__", "__qualname__", "__doc__"]

/-- An attribute that a thing has by what it is, before its own attributes are looked at. -/
def bodyAttr (r : Ref) (body : Body) (name : String) : Run (Option Value) := do
  match body with
  | .function f => functionAttr r f name
  | .method f receiver =>
    match name with
    | "__func__" => return some f
    | "__self__" => return some receiver
    | "__class__" => return none
    | _ => callableAttr f name
  | .staticMethod f | .classMethod f =>
    match name with
    | "__func__" | "__wrapped__" => return some f
    | "__dict__" => return some (← attributesOf r)
    | _ => if takenOver.contains name then callableAttr f name else return none
  | .property g s =>
    match name with
    | "fget" => return some g
    | "fset" => return some s
    | "fdel" => return some .none
    | "__doc__" => callableAttr g name
    | _ => return none
  | .module n =>
    match name with
    | "__dict__" => return some (← attributesOf r)
    | "__name__" => return if (← Run.read (·.table r)).has name then none else some (.str n)
    | _ => return none
  | .namespace =>
    if name == "__dict__" then return some (← attributesOf r) else return none
  | .instance c =>
    let w ← Run.world
    let hasTable := ((w.madeClass? c).map MadeClass.hasTable).getD false
    if name == "__dict__" && hasTable && (w.findMade c name).isNone then
      return some (← attributesOf r)
    else return none
  | .exception _ args =>
    match name, args with
    | "args", _ => return some (.tuple args)
    | "__dict__", _ => return some (← attributesOf r)
    | "value", [v] | "code", [v] => return some v
    | "value", [] | "code", [] => return some .none
    | _, _ => return none
  | .userDict _ d =>
    match name with
    | "data" => return some (.thing d)
    | "__dict__" => return some (← attributesOf r)
    | _ => return none
  | .partialCall f args keywords =>
    match name with
    | "func" => return some f
    | "args" => return some (.tuple args)
    | "keywords" =>
      return some (← Run.newValue (.dict (keywords.map fun (n, v) => ⟨.ofText n, .str n, v⟩)))
    | "__dict__" => return some (← attributesOf r)
    | "__module__" => return some (.str "functools")
    | _ => return none
  | .suspended s =>
    match name with
    | "__name__" | "__qualname__" => return some (.str s.name)
    | _ => return none
  | .cell (some v) => return if name == "cell_contents" then some v else none
  | .super cls receiver =>
    match name with
    | "__thisclass__" => return some cls
    | "__self__" => return some receiver
    | _ => return none
  | _ => return none

/-- A member that the classes of a value supply. -/
def suppliedAttr (w : World) (v : Value) (name : String) : Option Value :=
  match w.findSupplied (w.classOf v) name with
  | some (_, .method) | some (_, .special) => some (.bound v name)
  | some (_, .static) => some (.builtin name)
  | some (_, .classMethod) => some (.bound (w.classOf v) name)
  | some (_, .data) => some (w.suppliedData v name)
  | none => if name == "__class__" then some (w.classOf v) else none

/-- An attribute that every class has. -/
def typeAttr (cls : Value) (name : String) : Run (Option Value) := do
  let w ← Run.world
  match cls, name with
  | .cls n, "__name__" | .cls n, "__qualname__" => return some (.str n)
  | .cls n, "__module__" =>
    return some (.str (if n == "SimpleNamespace" || n == "module" then "types" else "builtins"))
  | .cls n, "__doc__" => return some (((Builtin.doc? n).map .str).getD .none)
  | .cls n, "__dict__" => do
    let members := Builtin.methods n ++ Builtin.specials n
    let entries := members.map fun m => (⟨.ofText m, .str m, .slot n m⟩ : Entry)
    return some (← Run.newValue (.proxy (← Run.new (.dict entries))))
  | .thing r, _ =>
    match (w.thing? r).map Thing.body with
    | some (.cls c) =>
      match name with
      | "__name__" => return some (.str c.name)
      | "__qualname__" => return some (.str c.qualname)
      | "__doc__" => return some (((w.table r).get? "__doc__").getD .none)
      | "__dict__" => do
        let view ← Run.new (.attributes r)
        return some (← Run.newValue (.proxy view))
      | "__bases__" => return some (.tuple c.bases)
      | "__mro__" => return some (.tuple c.order)
      | "__annotations__" =>
        match (w.table r).get? name with
        | some v => return some v
        | none =>
          let d ← Run.newValue (.dict [])
          Run.changeTable r (·.set name d)
          return some d
      | _ => return none
    | _ => return none
  | _, "__mro__" => return some (.tuple (w.classOrder cls))
  | _, _ => return none

/-- An attribute of a class that is neither one of its members nor a method. -/
def typeData (w : World) (cls : Value) (name : String) : Option Value :=
  let bases := match w.madeClass? cls with
    | some c => c.bases
    | none => ((w.classOrder cls).drop 1).take 1
  match name with
  | "__bases__" => some (.tuple bases)
  | "__base__" => some (bases.headD .none)
  | _ => none

/-- An attribute of a class: one that every class has, or else a member of its own. -/
def classAttr (cls : Value) (name : String) : Run (Option Value) := do
  let w ← Run.world
  match (← typeAttr cls name) with
  | some v => return some v
  | none =>
    match w.findMade cls name with
    | some member => return some (← classMember cls member)
    | none =>
      match cls, name with
      | .cls "FlowControl", _ | .cls "InsertLocation", _ =>
        match (FlowControl.all.map Choice.flow ++ InsertLocation.all.map Choice.location).find?
            fun c => c.typeName == w.className cls && c.name == name with
        | some c => return some (.choice c)
        | none => return none
      | _, "__class__" => return some (w.classOf cls)
      | _, _ =>
        match w.findSupplied cls name with
        | some (_, .static) => return some (.builtin name)
        | some (_, .classMethod) => return some (.bound cls name)
        | some (c, _) => return some (.slot c name)
        | none =>
          match w.findSupplied (.cls "type") name with
          | some (_, .data) => return w.typeData cls name
          | some _ => return some (.bound cls name)
          | none => return none

/-- The classes behind a class in an order. -/
def behind (cls : Value) (order : List Value) : List Value :=
  (order.dropWhile (!·.same cls)).drop 1

/-- An attribute looked up behind a class in the order of its receiver. -/
def superAttr (call : Caller) (cls receiver : Value) (name : String) : Run (Option Value) := do
  let w ← Run.world
  let isClass := w.isClass receiver && w.isSubclass receiver cls
  let start := if isClass then receiver else w.classOf receiver
  let order := behind cls (w.classOrder start)
  match w.findInOrder name order with
  | some (_, member) =>
    match w.body? member with
    | some (.property g _) => if isClass then return some member else
      return some (← Run.apply call g [receiver])
    | some (.classMethod f) => return some (← Run.newValue (.method f start))
    | some (.function _) =>
      if isClass then return some member else return some (← bindMember start receiver member)
    | _ => return some (← bindMember start receiver member)
  | none =>
    match order.findSome? fun
        | .cls c => (Builtin.ownMember c name).map fun k => (c, k)
        | _ => none with
    | some (c, kind) =>
      if kind == .static then return some (.builtin name)
      else if isClass then return some (.slot c name)
      else return some (.bound receiver name)
    | none => return none

/-- An attribute of a value, without the last resort that its class may offer. -/
def plainAttr (call : Caller) (v : Value) (name : String) : Run (Option Value) := do
  let w ← Run.world
  if w.isClass v then classAttr v name
  else
    let cls := w.classOf v
    let member := w.findMade cls name
    match member.bind w.body? with
    | some (.property .none _) =>
      Run.raise "AttributeError"
        ("property '" ++ name ++ "' of '" ++ w.className cls ++ "' object has no getter")
    | some (.property g _) => return some (← Run.apply call g [v])
    | _ =>
      let own ← match v with
        | .thing r =>
          match w.thing? r with
          | some { body := .super start receiver, .. } =>
            match (← bodyAttr r (.super start receiver) name) with
            | some v => pure (some v)
            | none => superAttr call start receiver name
          | some t =>
            match (← bodyAttr r t.body name) with
            | some v => pure (some v)
            | none => pure (t.table.get? name)
          | none => pure none
        | v => callableAttr v name
      match own, member with
      | some v, _ => return some v
      | none, some member => return some (← bindMember cls v member)
      | none, none => return w.suppliedAttr v name

/-- What the class of a value is called where an attribute is missed. -/
def attrTypeName (w : World) (v : Value) : String :=
  match w.classOf v with
  | .cls "SimpleNamespace" => "types.SimpleNamespace"
  | .cls "partial" => "functools.partial"
  | c => w.className c

/-- What is said when there is no such attribute. -/
def missingAttr (w : World) (v : Value) (name : String) : String :=
  let rest := "has no attribute '" ++ name ++ "'"
  if w.isClass v then "type object '" ++ w.className v ++ "' " ++ rest
  else match w.body? v with
    | some (.module n) =>
      let n := match v with
        | .thing r => match (w.table r).get? "__name__" with
          | some (.str s) => s
          | _ => n
        | _ => n
      "module '" ++ n ++ "' " ++ rest
    | _ => "'" ++ w.attrTypeName v ++ "' object " ++ rest

/-- Reads an attribute. -/
def getAttr (call : Caller) (v : Value) (name : String) : Run Value := do
  let w ← Run.world
  let plain : Run Value := do
    match (← plainAttr call v name) with
    | some x => return x
    | none => Run.raise "AttributeError" ((← Run.world).missingAttr v name)
  match (if w.isClass v then none else w.findMade (w.classOf v) "__getattr__") with
  | none => plain
  | some f => Run.recover "AttributeError" plain fun _ => Run.apply call f [v, .str name]

/-- Reads an attribute, if there is one. -/
def getAttr? (call : Caller) (v : Value) (name : String) : Run (Option Value) :=
  Run.orMissing (getAttr call v name)

/-! ## Setting -/

/-- Sets an attribute that every function has; says whether there is such a one. -/
def setFunctionAttr (r : Ref) (f : Function) (name : String) (v : Value) : Run Bool := do
  let put (f : Function) : Run Bool := do
    Run.setBody r (.function f)
    return true
  match name, v with
  | "__name__", .str s => put { f with name := s }
  | "__name__", _ => Run.raise "TypeError" "__name__ must be set to a string object"
  | "__qualname__", .str s => put { f with qualname := s }
  | "__qualname__", _ => Run.raise "TypeError" "__qualname__ must be set to a string object"
  | "__module__", v => put { f with module := v }
  | "__doc__", v => put { f with doc := v }
  | "__defaults__", .none => put { f with defaults := none }
  | "__defaults__", .tuple vs => put { f with defaults := some vs }
  | "__defaults__", _ => Run.raise "TypeError" "__defaults__ must be set to a tuple object"
  | "__kwdefaults__", v =>
    match v, (← Run.bodyOf v) with
    | .none, _ => put { f with keywordDefaults := .none }
    | v, some (.dict _) => put { f with keywordDefaults := v }
    | _, _ => Run.raise "TypeError" "__kwdefaults__ must be set to a dict object"
  | "__annotations__", v =>
    match v, (← Run.bodyOf v) with
    | .none, _ => put { f with annotations := none }
    | .thing d, some (.dict _) => put { f with annotations := some d }
    | _, _ => Run.raise "TypeError" "__annotations__ must be set to a dict object"
  | "__globals__", _ | "__closure__", _ => Run.raise "AttributeError" "readonly attribute"
  | _, _ => return false

/-- Refuses to set an attribute of a value that can have none of its own. -/
def refuseAttr (v : Value) (name : String) : Run Unit := do
  let w ← Run.world
  let t := w.attrTypeName v
  let cls := w.classOf v
  let isMember := (w.findMade cls name).isSome
  match w.findSupplied cls name with
  | some (_, .data) =>
    Run.raise "AttributeError" ("attribute '" ++ name ++ "' of '" ++ t ++ "' objects is not writable")
  | supplied =>
    if isMember || supplied.isSome then
      Run.raise "AttributeError" ("'" ++ t ++ "' object attribute '" ++ name ++ "' is read-only")
    else Run.raise "AttributeError" ("'" ++ t ++ "' object has no attribute '" ++ name ++ "'")

/-- Whether a thing can have an attribute of its own. -/
def canHave (w : World) (r : Ref) (name : String) : Bool :=
  match (w.thing? r).map Thing.body with
  | some (.instance c) =>
    (w.classOrder c).any fun c =>
      match w.madeClass? c with
      | some c => c.hasTable || c.slots.contains name
      | none => false
  | some (.function _) | some (.cls _) | some (.namespace) | some (.module _)
  | some (.exception _ _) | some (.userDict _ _) | some (.partialCall _ _ _)
  | some (.staticMethod _) | some (.classMethod _) => true
  | _ => false

/-- Refuses to make something the class of a value. -/
def refuseClass (x : Value) : Run Unit := do
  Run.raise "TypeError"
    ("__class__ must be set to a class, not '" ++ (← Run.read (·.typeName x)) ++ "' object")

/-- Refuses to set an attribute that can only be read. -/
def refuseReadOnly : Run Unit := Run.raise "AttributeError" "readonly attribute"

/-- Refuses to make something the dictionary of a value. -/
def refuseDict (x : Value) : Run Unit := do
  Run.raise "TypeError"
    ("__dict__ must be set to a dictionary, not a '" ++ (← Run.read (·.typeName x)) ++ "'")

/-- Sets an attribute of a class. -/
def setClassAttr (cls : Value) (name : String) (v : Value) : Run Unit := do
  match cls with
  | .thing r =>
    let w ← Run.world
    let complaint (kind what : String) : String :=
      "can only assign " ++ kind ++ " to " ++ w.className cls ++ "." ++ name ++ ", not " ++ what
    match w.body? cls, name, v with
    | some (.cls c), "__name__", .str s => Run.setBody r (.cls { c with name := s })
    | some (.cls c), "__qualname__", .str s => Run.setBody r (.cls { c with qualname := s })
    | _, "__name__", v | _, "__qualname__", v =>
      Run.raise "TypeError" (complaint "string" ("'" ++ w.typeName v ++ "'"))
    | _, "__bases__", .tuple _ => Run.changeTable r (·.set name v)
    | _, "__bases__", v => Run.raise "TypeError" (complaint "tuple" (w.typeName v))
    | _, "__base__", _ | _, "__mro__", _ => refuseReadOnly
    | _, "__dict__", _ =>
      Run.raise "AttributeError" "attribute '__dict__' of 'type' objects is not writable"
    | _, "__class__", v =>
      if w.isClass v then Run.changeTable r (·.set name v) else refuseClass v
    | _, _, _ => Run.changeTable r (·.set name v)
  | cls =>
    Run.raise "TypeError" ("cannot set '" ++ name ++ "' attribute of immutable type '"
      ++ (← Run.read (·.className cls)) ++ "'")

/-- Refuses to set an attribute that a value has by what it is, if it is one that is not kept with
    the other ones. -/
def refuseGiven (v : Value) (name : String) (x : Value) : Run Unit := do
  let w ← Run.world
  match name, w.body? v, w.body? x with
  | "__class__", _, _ => if w.isClass x then return () else refuseClass x
  | "__dict__", some (.namespace), _ | "__dict__", some (.module _), _ => refuseReadOnly
  | "__dict__", _, some (.dict _) => return ()
  | "__dict__", some (.function _), _ | "__dict__", some (.exception _ _), _ => refuseDict x
  | "__dict__", some (.instance c), _ =>
    if ((w.madeClass? c).map MadeClass.hasTable).getD false then refuseDict x else return ()
  | _, _, _ => return ()

/-- Sets an attribute of a value that is kept with the value itself. -/
def setOwnAttr (v : Value) (name : String) (x : Value) : Run Unit := do
  let w ← Run.world
  match v with
  | .thing r =>
    match (w.thing? r).map Thing.body with
    | some (.function f) =>
      if (← setFunctionAttr r f name x) then return ()
      else Run.changeTable r (·.set name x)
    | _ => if w.canHave r name then Run.changeTable r (·.set name x) else refuseAttr v name
  | v => refuseAttr v name

/-- Sets an attribute the ordinary way. -/
def setPlainAttr (call : Caller) (v : Value) (name : String) (x : Value) : Run Unit := do
  let w ← Run.world
  if w.isClass v then setClassAttr v name x
  else
    let cls := w.classOf v
    match (w.findMade cls name).bind w.body? with
    | some (.property _ .none) =>
      Run.raise "AttributeError"
        ("property '" ++ name ++ "' of '" ++ w.className cls ++ "' object has no setter")
    | some (.property _ s) => do
      let _ ← Run.apply call s [v, x]
    | _ => do
      if (w.findMade cls name).isNone then refuseGiven v name x
      setOwnAttr v name x

/-- Sets an attribute. -/
def setAttr (call : Caller) (v : Value) (name : String) (x : Value) : Run Unit := do
  let w ← Run.world
  let cls := w.classOf v
  if ((w.madeClass? cls).map MadeClass.refuses).getD false then
    Run.raise "RuntimeError" ("no writes to " ++ name)
  else
    match (if w.isClass v then none else w.findMade cls "__setattr__") with
    | some f => do
      let _ ← Run.apply call f [v, .str name, x]
    | none => setPlainAttr call v name x

/-- Deletes an attribute. -/
def deleteAttr (v : Value) (name : String) : Run Unit := do
  let w ← Run.world
  match v with
  | .thing r =>
    if w.canHave r name && (w.table r).has name then Run.changeTable r (·.erase name)
    else if w.canHave r name then Run.raise "AttributeError" (w.missingAttr v name)
    else refuseAttr v name
  | v => if w.isClass v then setClassAttr v name .none else refuseAttr v name

end World

end Graft
