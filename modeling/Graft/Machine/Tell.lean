import Graft.Machine.Attribute

set_option autoImplicit false

/-! # The text that a value gives of itself

A class can say what the text of its instances is.  Then to ask for the text is to make a call, which
can fail. -/

namespace Graft.World

open Machine

/-- The text that a class gives of a value by a method of its own, if it has such a one. -/
def ownText? (call : Caller) (method : String) (complaint : String → String) (v : Value)
    (args : List Value) : Run (Option String) := do
  let cls := (← Run.world).classOf v
  match (← Run.world).findMade cls method with
  | none => return none
  | some f => do
    let said ← Run.apply call (← bindMember cls v f) args
    match said.text? with
    | some s => return some s
    | none => Run.raise "TypeError" (complaint ((← Run.world).attrTypeName said))

/-- What is said of a method that should give text and has given something else. -/
def noText (method type : String) : String :=
  method ++ " returned non-string (type " ++ type ++ ")"

/-- The literal text of a value. -/
def tellLiteral (call : Caller) (v : Value) : Run String := do
  match (← ownText? call "__repr__" (noText "__repr__") v []) with
  | some s => return s
  | none => return (← Run.world).literal v

/-- The plain text of a value, where what was raised may hold something that was raised in turn, so
    many levels deep. -/
def tellTo (call : Caller) : Nat → Value → Run String
  | 0, v => return (← Run.world).text v
  | n + 1, v => do
    match (← ownText? call "__str__" (noText "__str__") v []) with
    | some s => return s
    | none =>
      match (← Run.bodyOf v) with
      | some (.exception c [a]) =>
        if (← Run.world).isSubclass c (.cls "KeyError") then tellLiteral call a
        else tellTo call n a
      | some (.exception _ _) => return (← Run.world).text v
      | _ =>
        match v.text? with
        | some _ => return (← Run.world).text v
        | none => tellLiteral call v

/-- The plain text of a value. -/
def tell (call : Caller) (v : Value) : Run String := tellTo call maxDepth v

/-- The text of a value as a field of other text. -/
def tellField (call : Caller) (v : Value) : Run String := do
  let complaint (type : String) : String := "__format__ must return a str, not " ++ type
  match (← ownText? call "__format__" complaint v [.str ""]) with
  | some s => return s
  | none => tell call v

end Graft.World
