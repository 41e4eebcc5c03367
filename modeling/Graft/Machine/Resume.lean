import Graft.Machine.Activation

set_option autoImplicit false

/-! # Calls that are suspended

A generator or coroutine runs until it yields, and goes on when a value is sent to it or something
is raised in it. -/

namespace Graft.Machine

/-- What a suspended call goes on with. -/
inductive Signal
  | sent (v : Value)
  | raised (e : Value)

namespace Suspended

/-- What a suspended call is called in complaints. -/
def kindName (s : Suspended) : String :=
  match s.kind with
  | .generator => "generator"
  | .coroutine => "coroutine"
  | .asyncGenerator => "async generator"

/-- Says how far a suspended call has come. -/
def keep (s : Suspended) (r : Ref) (p : Progress) : Run Unit :=
  Run.setBody r (.suspended { s with progress := p })

/-- Runs a suspended call on that has been marked as running. -/
def advance (call : Caller) (s : Suspended) (r : Ref) (a : Activation) : Run Value := do
  let completion ← tryCatch (a.run call) fun
    | .raised e => do
      s.keep r .ended
      if (← Run.world).isInstance e (.cls "StopIteration") then
        Run.raise "RuntimeError" (s.kindName ++ " raised StopIteration")
      else throw (.raised e)
    | h => throw h
  match completion with
  | .yielded v a => do
    s.keep r (.paused a)
    return v
  | .returned v => do
    s.keep r .ended
    Run.raiseWith "StopIteration" (if v.isNone then [] else [v])

/-- Raises something where a suspended call stands. -/
def raiseAt (call : Caller) (s : Suspended) (r : Ref) (a : Activation) (e : Value) : Run Value := do
  match a.unwind (.raises e) a.guards with
  | .inl a => do
    s.keep r .running
    s.advance call r a
  | .inr _ => do
    s.keep r .ended
    throw (.raised e)

/-- Goes on with a suspended call. -/
def resume (call : Caller) (s : Suspended) (r : Ref) (signal : Signal) : Run Value := do
  match s.progress, signal with
  | .running, _ => Run.raise "ValueError" (s.kindName ++ " already executing")
  | .ended, .raised e => throw (.raised e)
  | .ended, .sent _ =>
    if s.kind == .generator then Run.raiseWith "StopIteration" []
    else Run.raise "RuntimeError" "cannot reuse already awaited coroutine"
  | .fresh _, .raised e => do
    s.keep r .ended
    throw (.raised e)
  | .fresh a, .sent v =>
    if v.isNone then do
      s.keep r .running
      s.advance call r a
    else
      Run.raise "TypeError" ("can't send non-None value to a just-started " ++ s.kindName)
  | .paused a, .sent v => do
    s.keep r .running
    s.advance call r (a.push v)
  | .paused a, .raised e => s.raiseAt call r a e

/-- Ends a suspended call. -/
def close (call : Caller) (s : Suspended) (r : Ref) : Run Value := do
  let e ← Run.newValue (.exception (.cls "GeneratorExit") [])
  let ends (cls : String) (run : Run Value) : Run Value :=
    Run.recover cls run fun _ => return .none
  match s.progress with
  | .ended => return .none
  | _ =>
    ends "GeneratorExit" <| ends "StopIteration" do
      let _ ← s.resume call r (.raised e)
      Run.raise "RuntimeError" (s.kindName ++ " ignored GeneratorExit")

end Suspended

end Graft.Machine
