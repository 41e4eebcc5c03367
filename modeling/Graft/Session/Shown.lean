import Graft.Machine.Show

set_option autoImplicit false

/-! # What is shown of values

Values as they are shown outside a session.  Plain values are shown as they are, things that have a
name by that name, and functions, classes and methods by what they are called. -/

namespace Graft.Session

open Graft.Machine

/-- What is shown of a value. -/
inductive Shown
  | none
  | bool (b : Bool)
  | int (n : Int)
  | float (x : Float)
  | str (s : String)
  | bytes (bs : List UInt8)
  | choice (c : Choice)
  | list (xs : List Shown)
  | tuple (xs : List Shown)
  | dict (entries : List (Shown × Shown))
  /-- A thing that has a name. -/
  | object (name : String)
  | function (qualname : String)
  | method (function self : Shown)
  | cls (qualname : String)
  | builtin (name : String)
  | staticMethod (inner : Shown)
  | classMethod (inner : Shown)
  | instance (typeName : String)
  /-- What is told about something, by field. -/
  | fields (fs : List (String × Shown))
deriving Inhabited

namespace Shown

/-- Shows something that may be missing. -/
def opt {α : Type} (f : α → Shown) : Option α → Shown
  | some x => f x
  | Option.none => .none

/-- The name of a thing that is shown by its name. -/
def nameOf? (w : World) (v : Value) : Option String :=
  match v with
  | .none | .bool _ | .int _ | .str _ => Option.none
  | v => (w.names.find? fun (_, x) => x.same v).map Prod.fst

/-- Shows a value, looking so many levels deep. -/
def ofValueTo (w : World) : Nat → Value → Shown
  | 0, v => .instance (w.typeName v)
  | n + 1, v =>
    match nameOf? w v with
    | some name => .object name
    | Option.none =>
      match v with
      | .none => .none
      | .bool b => .bool b
      | .int i => .int i
      | .float x => .float x
      | .str s => .str s
      | .bytes bs => .bytes bs
      | .choice c => .choice c
      | .tuple xs => .tuple (xs.map (ofValueTo w n))
      | .builtin name => .builtin name
      | .cls name => .cls name
      | .bound _ name => if name.startsWith "__" then .instance (w.typeName v) else .builtin name
      | .ellipsis | .slot _ _ => .instance (w.typeName v)
      | .thing r =>
        match (w.thing? r).map Thing.body with
        | some (.function f) => .function f.qualname
        | some (.method f self) => .method (ofValueTo w n f) (ofValueTo w n self)
        | some (.cls c) => .cls c.qualname
        | some (.staticMethod f) => .staticMethod (ofValueTo w n f)
        | some (.classMethod f) => .classMethod (ofValueTo w n f)
        | some (.list xs) => .list (xs.map (ofValueTo w n))
        | some (.dict _) | some (.attributes _) =>
          .dict ((w.entriesOf r).map fun e => (ofValueTo w n e.key, ofValueTo w n e.value))
        | _ => .instance (w.typeName v)

/-- How deep values are shown. -/
def maxDepth : Nat := 200

/-- Shows a value. -/
def ofValue (w : World) (v : Value) : Shown := ofValueTo w maxDepth v

/-- Shows a traced call, with the things as they were then. -/
def ofTrace (w : World) (t : TraceEntry) : Shown :=
  let w := { w with things := t.things }
  .list [.str t.name, .list (t.args.map (ofValue w)),
    .dict (t.keywords.map fun (n, v) => (.str n, ofValue w v))]

end Shown

end Graft.Session
