import Graft.Journal
import Graft.Machine.Thing
import Graft.SourceCache

set_option autoImplicit false

/-! # The world

Everything that a run reads and writes: the things on the heap, the flags, the journals of patches
and injections, registered texts, the outside, and what has been logged and traced.

A run ends with a result or is halted.  What it has done to the world remains in either case. -/

namespace Graft

open Machine Data

/-- A patch that has been applied. -/
structure PatchRecord where
  id : Value
  member : String
  /-- The hooks and data, which may be changed later. -/
  patch : Ref
  /-- What the member was before. -/
  previous : Value
  timestamp : Float

/-- An injection that has been applied. -/
structure InjectionRecord where
  id : String
  member : String
  /-- What the member was before. -/
  previous : Value
  code : Value
  line : Value
  loc : Value
  /-- The text that the function was compiled from. -/
  source : String
  timestamp : Float

/-- How much a log entry matters. -/
inductive LogLevel
  | debug | info | warning
deriving DecidableEq, Repr

/-- A log entry. -/
structure LogEntry where
  level : LogLevel
  /-- The part that logs. -/
  logger : String
  message : String
deriving DecidableEq, Repr

/-- A call of a described function, with the things as they were then. -/
structure TraceEntry where
  name : String
  args : List Value
  keywords : Table
  things : Array Thing

/-- The world. -/
structure World where
  things : Array Thing := #[]
  /-- Things that have a name from outside. -/
  names : Table := []
  /-- The module that paths lead into. -/
  home : Ref := ⟨0⟩
  /-- The marks that allow or forbid injections, by what a callable is equal by, the last one
      first. -/
  flags : List (Key × Bool) := []
  patches : Register PatchRecord := { lead := "fn" }
  injections : Register InjectionRecord := { lead := "inj" }
  sources : SourceCache := {}
  around : Surroundings := {}
  dice : Dice := {}
  /-- The time at which the next record is made. -/
  clock : Float := 0
  clockStep : Float := 1
  /-- Log entries, the last one first. -/
  logs : List LogEntry := []
  /-- Traced calls, the last one first. -/
  trace : List TraceEntry := []

namespace World

/-- A thing by its identity. -/
def thing? (w : World) (r : Ref) : Option Thing := w.things[r.index]?

/-- What a value is, if it is a thing. -/
def body? (w : World) : Value → Option Body
  | .thing r => (w.thing? r).map Thing.body
  | _ => none

/-- The attributes that a thing has itself. -/
def table (w : World) (r : Ref) : Table := ((w.thing? r).map Thing.table).getD []

/-- Puts a thing on the heap. -/
def alloc (w : World) (t : Thing) : Ref × World :=
  (⟨w.things.size⟩, { w with things := w.things.push t })

/-- Changes a thing. -/
def change (w : World) (r : Ref) (f : Thing → Thing) : World :=
  { w with things := w.things.modify r.index f }

end World

/-- Why a run is halted. -/
inductive Halt
  /-- Something has been raised. -/
  | raised (e : Value)
  /-- The run takes more steps than it may. -/
  | exhausted

/-- Runs. -/
abbrev Run (α : Type) := ExceptT Halt (StateM World) α

namespace Run

/-- Reads the world. -/
def world : Run World := get

/-- Reads something in the world. -/
def read {α : Type} (f : World → α) : Run α := do return f (← get)

/-- Puts a thing on the heap. -/
def new (body : Body) (table : Table := []) : Run Ref := do
  let (r, w) := (← get).alloc { body, table }
  set w
  return r

/-- Puts a thing on the heap and holds it. -/
def newValue (body : Body) (table : Table := []) : Run Value := do
  return .thing (← new body table)

/-- What a value is, if it is a thing. -/
def bodyOf (v : Value) : Run (Option Body) := read (·.body? v)

/-- Says what a thing is from now on. -/
def setBody (r : Ref) (body : Body) : Run Unit :=
  modify (·.change r fun t => { t with body })

/-- Changes the attributes of a thing. -/
def changeTable (r : Ref) (f : Table → Table) : Run Unit :=
  modify (·.change r fun t => { t with table := f t.table })

/-- Raises what an exception class makes of arguments. -/
def raiseWith {α : Type} (cls : String) (args : List Value) : Run α := do
  throw (.raised (← newValue (.exception (.cls cls) args)))

/-- Raises an exception with a message. -/
def raise {α : Type} (cls message : String) : Run α := raiseWith cls [.str message]

/-- Logs a message. -/
def log (level : LogLevel) (logger message : String) : Run Unit :=
  modify fun w => { w with logs := { level, logger, message } :: w.logs }

/-- The time, which moves on. -/
def tick : Run Float := do
  let w ← get
  set { w with clock := w.clock + w.clockStep }
  return w.clock

end Run

/-- The arguments of a call. -/
structure Args where
  positional : List Value := []
  keywords : Table := []

/-- A way to make calls. -/
abbrev Caller := Value → Args → Run Value

end Graft
