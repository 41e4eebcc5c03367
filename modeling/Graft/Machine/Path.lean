import Graft.Machine.Iterate

set_option autoImplicit false

/-! # Paths

A path leads from a thing that has a name from outside, or else from a name of the home module, to
an attribute of an attribute.  A part that begins with an exclamation mark names an entry of the
thing's own attributes as it is kept there. -/

namespace Graft.World

open Machine

/-- The entry of a value's own attributes, as it is kept there. -/
def ownEntry (call : Caller) (v : Value) (name : String) : Run Value := do
  let attributes ← getAttr call v "__dict__"
  let entry ← match attributes with
    | .thing r => getEntry? r (.str name)
    | _ => pure none
  match entry with
  | some x => return x
  | none => Run.raise "KeyError" name

/-- Goes along the parts of a path. -/
def along (call : Caller) : Value → List String → Run Value
  | v, [] => return v
  | v, part :: parts => do
    let v ← match part.toList with
      | '!' :: name => ownEntry call v (String.ofList name)
      | _ => getAttr call v part
    along call v parts

/-- What a name stands for that a path begins with. -/
def root (name : String) : Run Value := do
  let w ← Run.world
  match w.names.get? name with
  | some v => return v
  | none =>
    match (w.table w.home).get? name with
    | some v => return v
    | none => Run.raise "KeyError" name

/-- What is at a path. -/
def atPath (call : Caller) (path : String) : Run Value := do
  match path.splitOn "." with
  | [] => root path
  | first :: parts => along call (← root first) parts

end Graft.World
