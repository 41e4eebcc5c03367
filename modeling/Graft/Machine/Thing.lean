import Graft.Code.Instruction
import Graft.Data.Datum

set_option autoImplicit false

/-! # Things

What is on the heap: functions, classes and their instances, containers, modules, and calls that
have been suspended. -/

namespace Graft.Machine

/-! ## Described behaviour

Functions and objects can be given by a description of what a call does instead of by code. -/

/-- A description of a value that is built anew each time it is needed. -/
inductive Form
  | value (v : Value)
  | list (xs : List Form)
  | tuple (xs : List Form)
  /-- An iterator that can be used once. -/
  | iterator (xs : List Form)
  | dict (keys : List Form) (values : List Form)
  /-- What is at a path. -/
  | path (path : String)
deriving Inhabited

/-- What a call of a described function does. -/
inductive Does
  | gives (form : Form)
  | raises (cls : String) (args : List Form)
  /-- Returns the arguments. -/
  | echo
  /-- Returns one of the arguments by position. -/
  | argument (i : Int)
  | sum
  /-- Returns what a prefix hook should: an early result, arguments and a flow.  Without arguments
      of its own it gives those that it has got. -/
  | hook (early : Form) (args : Option Form) (flow : Form)

/-- The description of a function. -/
structure Description where
  /-- The name that its calls are traced by. -/
  name : String
  does : Does
  /-- Whether the first argument is the receiver and is not shown to the description. -/
  dropsReceiver : Bool := false
  /-- The name that the function had when it was defined. -/
  codeName : String := "f"

/-! ## Functions and classes -/

/-- What a call of a function does. -/
inductive Behaviour
  | code (code : Code)
  | described (d : Description)
  /-- Runs the hooks of a patch around the patched callable. -/
  | dispatch (patch : Ref) (id : Value) (wrapped : Value)
  /-- A function of this library. -/
  | library (name : String)

/-- A function. -/
structure Function where
  behaviour : Behaviour
  name : String
  qualname : String
  module : Value
  doc : Value := .none
  /-- The module whose names its code uses. -/
  globals : Ref
  /-- The values for the last parameters by position. -/
  defaults : Option (List Value) := none
  /-- The dictionary of values for keyword-only parameters. -/
  keywordDefaults : Value := .none
  /-- The dictionary of types of parameters. -/
  annotations : Option Ref := none
  /-- The cells of the variables of functions around. -/
  closure : List (String × Ref) := []

/-- The name that a function had when it was defined. -/
def Function.codeName (f : Function) : String :=
  match f.behaviour with
  | .code code => code.info.name
  | .described d => d.codeName
  | .dispatch _ _ _ => "wrapper"
  | .library name => name

/-- The variables that a function takes from functions around. -/
def Function.frees (f : Function) : List String :=
  match f.behaviour with
  | .code code => code.info.frees
  | _ => []

/-- A class that a program has made. -/
structure MadeClass where
  name : String
  qualname : String
  bases : List Value
  /-- The class and those it inherits from, in the order in which they are searched. -/
  order : List Value
  /-- Whether instances have attributes of their own. -/
  hasTable : Bool := true
  /-- The attributes that instances can have in any case. -/
  slots : List String := []
  /-- Whether instances can be referred to weakly. -/
  isWeak : Bool := true
  /-- Whether instances count as false. -/
  isFalsy : Bool := false
  /-- What instances are equal by, if not by identity. -/
  equalBy : Option String := none
  isHashable : Bool := true
  /-- What instances are shown as. -/
  shownAs : Option String := none
  /-- Whether instances refuse to have attributes set. -/
  refuses : Bool := false

/-! ## Calls -/

/-- Why a stretch of code is left. -/
inductive Reason
  /-- Its end has been reached. -/
  | done
  | returns (v : Value)
  | raises (e : Value)
  | breaks
  | continues

/-- What to do when a stretch of code is left. -/
inductive Guard
  /-- A loop: where its end and its beginning are, and the stacks there. -/
  | loop (exit : Nat) (exitStack : List Value) (restart : Nat) (restartStack : List Value)
  /-- Handlers for what is raised. -/
  | handlers (start : Nat) (stack : List Value)
  /-- Code that runs in any case. -/
  | finalizer (start : Nat) (stack : List Value)
  /-- Something that was raised is being handled. -/
  | handling (e : Value)
  /-- Code that runs in any case is running. -/
  | pending (reason : Reason)

/-- A call while it runs. -/
structure Activation where
  instrs : Array Code.Instr
  info : Code.CodeInfo
  pc : Nat := 0
  /-- The values that are being worked on, the top one first. -/
  stack : List Value := []
  /-- The stretches of code around, the innermost first. -/
  guards : List Guard := []
  locals : Table := []
  cells : List (String × Ref) := []
  globals : Ref
  /-- The thing whose attributes the body of a class fills. -/
  table : Option Ref := none

/-- The kinds of calls that can be suspended. -/
inductive SuspendedKind
  | generator | coroutine | asyncGenerator
deriving DecidableEq, Repr

/-- How far a call has come that can be suspended. -/
inductive Progress
  | fresh (a : Activation)
  | paused (a : Activation)
  | running
  | ended

/-- A call that can be suspended. -/
structure Suspended where
  kind : SuspendedKind
  name : String
  progress : Progress

/-! ## Things -/

/-- An entry of a dictionary. -/
structure Entry where
  hash : Data.Key
  key : Value
  value : Value

/-- What a thing is. -/
inductive Body
  | function (f : Function)
  | method (function : Value) (self : Value)
  | staticMethod (wrapped : Value)
  | classMethod (wrapped : Value)
  | property (getter : Value) (setter : Value)
  | cls (c : MadeClass)
  | instance (cls : Value)
  | exception (cls : Value) (args : List Value)
  | namespace
  | module (name : String)
  | list (items : List Value)
  | set (items : List (Data.Key × Value))
  | dict (entries : List Entry)
  /-- The attributes of a thing as a dictionary. -/
  | attributes (owner : Ref)
  /-- A mapping that is a class and keeps its entries in a dictionary. -/
  | userDict (isFrozen : Bool) (data : Ref)
  /-- A dictionary that can only be read. -/
  | proxy (data : Ref)
  | range (start : Int) (stop : Int) (step : Int)
  | slice (start : Value) (stop : Value) (step : Value)
  /-- An iterator with the values that are left. -/
  | series (kind : String) (left : List Value)
  /-- An iterator over a list, which may change. -/
  | listIterator (list : Ref) (next : Nat)
  | cell (content : Option Value)
  | suspended (s : Suspended)
  | partialCall (function : Value) (args : List Value) (keywords : Table)
  | super (cls : Value) (self : Value)
  /-- The hooks and the data of a patch. -/
  | patch (prefixHook : Value) (postfixHook : Value) (replaceHook : Value) (metadata : Value)
      (allowUnsafeInjection : Value)

/-- A thing: what it is, and its attributes. -/
structure Thing where
  body : Body
  table : Table := []

end Graft.Machine
