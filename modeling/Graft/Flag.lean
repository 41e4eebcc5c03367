import Graft.Machine.Kind

set_option autoImplicit false

/-! # Flags

Callables can be marked as refusing or accepting injections.  A mark is kept for what a callable is
equal by, and a bound, static or class method counts as the function behind it.  Only what can be
referred to weakly and can be a key can be marked; everything else accepts injections.  Marks are
kept in the order in which they are made, the last one first, and the last one counts. -/

namespace Graft

open Machine Data

namespace World

/-- The function behind a bound, static or class method, and any other value itself. -/
def underlying (w : World) (v : Value) : Value :=
  match w.body? v with
  | some (.method f _) | some (.staticMethod f) | some (.classMethod f) => f
  | _ => v

/-- Whether a value can be referred to weakly. -/
def isWeak (w : World) (v : Value) : Bool :=
  match v with
  | .builtin _ | .cls _ | .choice _ => true
  | .bound _ name => !name.startsWith "__"
  | .thing r =>
    match (w.thing? r).map Thing.body with
    | some (.function _) | some (.method _ _) | some (.cls _) | some (.module _)
    | some (.partialCall _ _ _) | some (.suspended _) | some (.set _) | some (.userDict _ _)
    | some (.patch _ _ _ _ _) => true
    | some (.instance c) => ((w.madeClass? c).map MadeClass.isWeak).getD false
    | some (.exception c _) => (w.madeClass? c).isSome
    | _ => false
  | _ => false

/-- What a callable's mark is kept under, if it can have one. -/
def flagKey? (w : World) (v : Value) : Option Key :=
  let f := w.underlying v
  if w.isWeak f then (w.keyOf f).toOption else none

/-- Whether a callable accepts injections. -/
def accepts (w : World) (v : Value) : Bool :=
  match w.flagKey? v with
  | some k => ((w.flags.find? (·.1 == k)).map Prod.snd).getD true
  | none => true

/-- Whether a value accepts injections, if it counts as true. -/
def flag? (w : World) (v : Value) : Option Bool :=
  if w.truth v then some (w.accepts v) else none

end World

namespace Run

/-- Marks a callable, and gives it back. -/
def mark (allowed : Bool) (v : Value) : Run Value := do
  let w ← world
  match w.flagKey? v with
  | some k =>
    set { w with flags := (k, allowed) :: w.flags }
    return v
  | none =>
    raise "TypeError"
      ("cannot flag " ++ w.typeName v ++ " object: it does not support weak references")

end Run

end Graft
