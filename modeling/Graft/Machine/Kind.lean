import Graft.Machine.Builtin
import Graft.World

set_option autoImplicit false

/-! # Kinds of values

The class of a value, which classes inherit from which, whether a value can be called and whether it
counts as true, and when two values are equal. -/

namespace Graft

open Machine Data

namespace World

/-! ## Classes -/

/-- The class of a thing. -/
def classOfBody : Body → Value
  | .function _ => .cls "function"
  | .method _ _ => .cls "method"
  | .staticMethod _ => .cls "staticmethod"
  | .classMethod _ => .cls "classmethod"
  | .property _ _ => .cls "property"
  | .cls _ => .cls "type"
  | .instance c => c
  | .exception c _ => c
  | .namespace => .cls "SimpleNamespace"
  | .module _ => .cls "module"
  | .list _ => .cls "list"
  | .set _ => .cls "set"
  | .dict _ | .attributes _ => .cls "dict"
  | .userDict isFrozen _ => .cls (if isFrozen then "FrozenDict" else "UserDict")
  | .proxy _ => .cls "mappingproxy"
  | .range _ _ _ => .cls "range"
  | .slice _ _ _ => .cls "slice"
  | .series kind _ => .cls kind
  | .listIterator _ _ => .cls "list_iterator"
  | .cell _ => .cls "cell"
  | .suspended s => .cls (match s.kind with
    | .generator => "generator"
    | .coroutine => "coroutine"
    | .asyncGenerator => "async_generator")
  | .partialCall _ _ _ => .cls "partial"
  | .super _ _ => .cls "super"
  | .patch _ _ _ _ _ => .cls "PatchSpec"

/-- The class of a value. -/
def classOf (w : World) : Value → Value
  | .none => .cls "NoneType"
  | .ellipsis => .cls "ellipsis"
  | .bool _ => .cls "bool"
  | .int _ => .cls "int"
  | .float _ => .cls "float"
  | .str _ => .cls "str"
  | .bytes _ => .cls "bytes"
  | .choice c => .cls c.typeName
  | .tuple _ => .cls "tuple"
  | .builtin _ => .cls "builtin_function_or_method"
  | .cls name =>
    .cls (if name == "FlowControl" || name == "InsertLocation" then "EnumType" else "type")
  | .bound _ name =>
    .cls (if name.startsWith "__" then "method-wrapper" else "builtin_function_or_method")
  | .slot cls name =>
    .cls (if Builtin.ownMember cls name == some .special then "wrapper_descriptor"
      else "method_descriptor")
  | .thing r =>
    match w.thing? r with
    | some t => classOfBody t.body
    | none => .cls "object"

/-- The class that a value is, if it is one that programs have made. -/
def madeClass? (w : World) (v : Value) : Option MadeClass :=
  match w.body? v with
  | some (.cls c) => some c
  | _ => none

/-- Whether a value is a class. -/
def isClass (w : World) (v : Value) : Bool :=
  match v with
  | .cls _ => true
  | v => (w.madeClass? v).isSome

/-- What a class is called. -/
def className (w : World) (cls : Value) : String :=
  match cls with
  | .cls name => name
  | v => ((w.madeClass? v).map MadeClass.name).getD "object"

/-- What the class of a value is called. -/
def typeName (w : World) (v : Value) : String := w.className (w.classOf v)

/-- A class and those it inherits from, in the order in which they are searched. -/
def classOrder (w : World) (cls : Value) : List Value :=
  match cls with
  | .cls name => (Builtin.order name).map .cls
  | v => ((w.madeClass? v).map MadeClass.order).getD []

/-- Whether a class is another one or inherits from it. -/
def isSubclass (w : World) (cls other : Value) : Bool :=
  (w.classOrder cls).any (·.same other)

/-- Whether a value is an instance of a class. -/
def isInstance (w : World) (v cls : Value) : Bool := w.isSubclass (w.classOf v) cls

/-- Whether something that was raised is an ordinary exception, which handlers for all exceptions
    take. -/
def isException (w : World) (v : Value) : Bool := w.isInstance v (.cls "Exception")

/-- The class of a value that programs have made, if they have made it. -/
def madeClassOf? (w : World) (v : Value) : Option MadeClass := w.madeClass? (w.classOf v)

/-- What the classes of a value have under a name, and the class that has it. -/
def findInOrder (w : World) (name : String) : List Value → Option (Value × Value)
  | [] => none
  | c :: cs =>
    match c with
    | .thing r =>
      match (w.table r).get? name with
      | some v => some (c, v)
      | none => findInOrder w name cs
    | _ => findInOrder w name cs

/-- What the classes in an order that programs have made have under a name. -/
def findMade (w : World) (cls : Value) (name : String) : Option Value :=
  (w.findInOrder name (w.classOrder cls)).map Prod.snd

/-- How the classes that the language supplies keep a member, and the class that does. -/
def findSupplied (w : World) (cls : Value) (name : String) : Option (String × Builtin.MemberKind) :=
  (w.classOrder cls).findSome? fun
    | .cls c => (Builtin.ownMember c name).map fun kind => (c, kind)
    | _ => none

/-! ## Calling and truth -/

/-- Whether a value can be called. -/
def isCallable (w : World) (v : Value) : Bool :=
  match v with
  | .builtin _ | .cls _ | .bound _ _ | .slot _ _ => true
  | .thing r =>
    match (w.thing? r).map Thing.body with
    | some (.function _) | some (.method _ _) | some (.cls _) | some (.partialCall _ _ _)
    | some (.staticMethod _) => true
    | some (.instance c) => (w.findMade c "__call__").isSome
    | _ => false
  | _ => false

/-- Whether a value counts as true. -/
def truth (w : World) (v : Value) : Bool :=
  match v with
  | .none => false
  | .bool b => b
  | .int n => n != 0
  | .float x => x != 0.0
  | .str s => !s.isEmpty
  | .bytes bs => !bs.isEmpty
  | .tuple xs => !xs.isEmpty
  | .thing r =>
    match (w.thing? r).map Thing.body with
    | some (.list xs) => !xs.isEmpty
    | some (.set xs) => !xs.isEmpty
    | some (.dict es) => !es.isEmpty
    | some (.attributes o) => !(w.table o).isEmpty
    | some (.userDict _ d) | some (.proxy d) =>
      match (w.thing? d).map Thing.body with
      | some (.dict es) => !es.isEmpty
      | _ => true
    | some (.range start stop step) => if 0 < step then start < stop else stop < start
    | some (.instance c) => !((w.madeClass? c).map MadeClass.isFalsy).getD false
    | _ => true
  | _ => true

/-! ## Keys and equality -/

/-- What a thing other than a method is equal by. -/
def ownPart (w : World) (r : Ref) : KeyPart :=
  match (w.thing? r).map Thing.body with
  | some (.instance c) =>
    match (w.madeClass? c).bind MadeClass.equalBy with
    | some k => .alike k
    | none => .thing r.index
  | _ => .thing r.index

/-- What the class of a thing other than a method is called, if it keeps the thing from having a
    key. -/
def ownUnhashable? (w : World) (r : Ref) : Option String :=
  match (w.thing? r).map Thing.body with
  | some (.list _) => some "list"
  | some (.set _) => some "set"
  | some (.dict _) | some (.attributes _) => some "dict"
  | some (.userDict isFrozen _) => some (if isFrozen then "FrozenDict" else "UserDict")
  | some (.proxy _) => some "mappingproxy"
  | some (.namespace) => some "types.SimpleNamespace"
  | some (.slice _ _ _) => some "slice"
  | some (.patch _ _ _ _ _) => some "PatchSpec"
  | some (.instance c) =>
    match w.madeClass? c with
    | some c => if c.isHashable then none else some c.name
    | none => none
  | _ => none

/-- What a thing is equal by.  Methods are equal if their functions are and they are bound to the
    same value. -/
def equalityParts (w : World) (r : Ref) : List KeyPart :=
  match (w.thing? r).map Thing.body with
  | some (.method (.thing s) self) => .named "method" :: w.ownPart s :: self.identityParts
  | some (.method f self) => .named "method" :: (f.identityParts ++ self.identityParts)
  | _ => [w.ownPart r]

/-- What the class is called that keeps a thing from having a key.  For a method that is the class
    of its function. -/
def unhashable? (w : World) (r : Ref) : Option String :=
  match (w.thing? r).map Thing.body with
  | some (.method (.thing s) _) => w.ownUnhashable? s
  | _ => w.ownUnhashable? r

/-- The parts of the key of a thing, or what the class is called that keeps it from having one. -/
def thingKeyParts (w : World) (r : Ref) : Except String (List KeyPart) :=
  match w.unhashable? r with
  | some cls => .error cls
  | none => .ok (w.equalityParts r)

mutual

/-- The parts of a value's key, or what its class is called if it can have none. -/
def keyParts (w : World) : Value → Except String (List KeyPart)
  | .none => .ok [.none]
  | .ellipsis => .ok [.named "Ellipsis"]
  | .bool b => .ok [.int (if b then 1 else 0)]
  | .int n => .ok [.int n]
  | .float x => .ok [.ofFloat x]
  | .str s => .ok [.str s]
  | .bytes bs => .ok [.bytes bs]
  | .choice c => .ok [.str c.value]
  | .tuple xs => do .ok (.tuple xs.length :: (← keyPartsOfAll w xs))
  | .builtin name => .ok [.named name]
  | .cls name => .ok [.named name]
  | .slot c name => .ok [.named (c ++ "." ++ name)]
  | .bound self name => .ok (.named ("." ++ name) :: self.identityParts)
  | .thing r => w.thingKeyParts r

/-- The parts of the keys of values. -/
def keyPartsOfAll (w : World) : List Value → Except String (List KeyPart)
  | [] => .ok []
  | x :: xs => do .ok ((← keyParts w x) ++ (← keyPartsOfAll w xs))

end

/-- The key of a value, or what its class is called if it can have none. -/
def keyOf (w : World) (v : Value) : Except String Key := (w.keyParts v).map Key.mk

/-- The entries of a dictionary. -/
def entriesOf (w : World) (r : Ref) : List Entry :=
  match (w.thing? r).map Thing.body with
  | some (.dict es) => es
  | some (.attributes o) => (w.table o).map fun (n, v) => ⟨.ofText n, .str n, v⟩
  | some (.userDict _ d) | some (.proxy d) =>
    match (w.thing? d).map Thing.body with
    | some (.dict es) => es
    | some (.attributes o) => (w.table o).map fun (n, v) => ⟨.ofText n, .str n, v⟩
    | _ => []
  | _ => []

/-- What two values are compared as. -/
inductive Comparable
  | items (kind : String) (xs : List Value)
  | entries (es : List Entry)
  | fields (t : Table)
  | other

/-- What a value is compared as. -/
def comparable (w : World) (v : Value) : Comparable :=
  match v with
  | .tuple xs => .items "tuple" xs
  | .thing r =>
    match (w.thing? r).map Thing.body with
    | some (.list xs) => .items "list" xs
    | some (.dict _) | some (.attributes _) | some (.userDict _ _) | some (.proxy _) =>
      .entries (w.entriesOf r)
    | some (.namespace) => .fields (w.table r)
    | _ => .other
  | _ => .other

/-- Whether values in a row are equal. -/
def allEqual (equal : Value → Value → Bool) : List Value → List Value → Bool
  | [], [] => true
  | x :: xs, y :: ys => equal x y && allEqual equal xs ys
  | _, _ => false

/-- Whether two values without parts are equal. -/
def atomEqual (w : World) (a b : Value) : Bool :=
  match a, b with
  | .thing r, .thing s =>
    match w.body? a, w.body? b with
    | some (.set xs), some (.set ys) =>
      xs.length == ys.length && xs.all fun x => ys.any (·.1 == x.1)
    | some (.range a b c), some (.range d e f) => a == d && b == e && c == f
    | _, _ => w.equalityParts r == w.equalityParts s
  | .float x, _ => x == x && keysEqual
  | _, _ => keysEqual
where
  /-- Whether two values have the same key. -/
  keysEqual : Bool :=
    match w.keyOf a, w.keyOf b with
    | .ok k, .ok l => k == l
    | _, _ => false

/-- Whether two values are equal, looking so many levels deep. -/
def equalTo (w : World) : Nat → Value → Value → Bool
  | 0, a, b => a.same b
  | n + 1, a, b =>
    match w.comparable a, w.comparable b with
    | .items k xs, .items l ys => k == l && allEqual (equalTo w n) xs ys
    | .entries es, .entries fs =>
      es.length == fs.length && es.all fun e =>
        match fs.find? (·.hash == e.hash) with
        | some f => equalTo w n e.value f.value
        | none => false
    | .fields t, .fields u =>
      t.length == u.length && t.all fun (name, v) =>
        match u.get? name with
        | some x => equalTo w n v x
        | none => false
    | .other, .other => w.atomEqual a b
    | _, _ => false

/-- How deep values are compared. -/
def maxDepth : Nat := 200

/-- Whether two values are equal. -/
def equal (w : World) (a b : Value) : Bool := w.equalTo maxDepth a b

/-- Whether a value equals a choice. -/
def isChoice (w : World) (v : Value) (c : Choice) : Bool := w.equal v (.choice c)

end World

end Graft
