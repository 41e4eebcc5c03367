import Graft.Machine.Value
import Graft.Syntax.Tree

set_option autoImplicit false

/-! # Instructions

Functions run as lists of instructions for a machine with a stack of values.  Jumps are relative to
the instruction behind the jump.  Blocks of the machine say where to go on when a loop is left, when
something is raised and when a `finally` clause has to run. -/

namespace Graft.Code

open Graft.Machine Graft.Syntax

/-- Where an instruction finds a name. -/
inductive Home
  /-- Among the variables of the function. -/
  | own
  /-- In a cell. -/
  | cell
  /-- With the module. -/
  | global
  /-- In the table that the body of a class fills, and else with the module. -/
  | table
  /-- In the table that the body of a class fills, and else in a cell. -/
  | tableOrCell
deriving DecidableEq, Repr

/-- The parameters of a function. -/
structure Signature where
  posOnly : List String := []
  plain : List String := []
  star : Option String := none
  keywordOnly : List String := []
  doubleStar : Option String := none
deriving DecidableEq, Repr

/-- The names that arguments are bound to by position. -/
def Signature.positional (s : Signature) : List String := s.posOnly ++ s.plain

/-- The names of all parameters but those that collect what is left. -/
def Signature.named (s : Signature) : List String := s.positional ++ s.keywordOnly

/-- What a list of instructions was made from. -/
inductive CodeKind
  | module | function | lambda | comprehension | cls
deriving DecidableEq, Repr

/-- What is known of a function before it runs. -/
structure CodeInfo where
  kind : CodeKind
  name : String
  qualname : String
  /-- The file that the lines are lines of. -/
  file : String
  firstLine : Nat
  isAsync : Bool := false
  yields : Bool := false
  signature : Signature := {}
  /-- The variables that are kept in cells of their own. -/
  cells : List String := []
  /-- The variables that are kept in cells of functions around. -/
  frees : List String := []
  doc : Option String := none

end Code

open Code Graft.Machine Graft.Syntax

mutual

/-- Instructions. -/
inductive Code.Instr
  | push (v : Value)
  | load (home : Home) (name : String)
  | store (home : Home) (name : String)
  | delete (home : Home) (name : String)
  /-- Pushes a cell itself. -/
  | pushCell (name : String)
  | pop
  /-- Pushes the value so many places below the top once more. -/
  | copy (depth : Nat)
  /-- Puts the top below the next `n` values. -/
  | rotate (n : Nat)
  | unary (op : UnaryOp)
  | binary (op : BinaryOp) (inPlace : Bool)
  | compare (op : Comparison)
  | getAttr (name : String)
  /-- Pops a thing and the new value of its attribute. -/
  | setAttr (name : String)
  | delAttr (name : String)
  | getItem
  /-- Pops an index, a container and the new value of the item. -/
  | setItem
  | delItem
  | slice
  | tuple (n : Nat)
  | list (n : Nat)
  | set (n : Nat)
  | dict (n : Nat)
  /-- Pops a value and appends it to the list so many places below. -/
  | append (depth : Nat)
  | addToSet (depth : Nat)
  /-- Pops a value and a key and adds them to the dictionary so many places below. -/
  | addEntry (depth : Nat)
  /-- Pops an iterable and appends its values to the list below. -/
  | extend
  /-- Pops a mapping and adds its entries to the dictionary below. -/
  | merge (forCall : Bool)
  | listToTuple
  | listToSet
  | unpack (n : Nat)
  | unpackAround (before : Nat) (after : Nat)
  | format (conversion : Conversion) (hasSpec : Bool)
  | joinText (n : Nat)
  /-- Pops the arguments by keyword, those by position and the function. -/
  | call (positional : Nat) (keywords : List String)
  /-- Pops a dictionary, a tuple and the function. -/
  | callSpread
  | jump (n : Nat)
  | jumpBack (n : Nat)
  | jumpIf (sense : Bool) (n : Nat)
  /-- Jumps with the top kept if its truth is `sense`, and else pops it. -/
  | jumpIfKeep (sense : Bool) (n : Nat)
  | getIter
  /-- Pushes the next value of the iterator on top, or pops that and jumps. -/
  | next (n : Nat)
  | function (code : Code) (defaults : Nat) (keywordDefaults : List String) (hints : List String)
  | buildClass (code : Code) (bases : Nat) (keywords : List String)
  | ret
  | yield
  /-- The iterator of what is delegated to. -/
  | getDelegate (isAwait : Bool)
  /-- Yields what the iterator below the top yields when it is sent the top. -/
  | delegate
  /-- Raises what is being handled, the top, or the second value with the top as its cause. -/
  | raise (n : Nat)
  | beginLoop (exit : Nat) (isFor : Bool)
  | beginTry (handler : Nat)
  | beginFinally (handler : Nat)
  /-- Enters the context of the manager on top, whose exit is called at the handler. -/
  | beginWith (handler : Nat)
  | exitWith
  | endBlock
  | enterFinally
  | endFinally
  | break
  | continue
  /-- Pops a class and a thing that was raised and pushes whether they match. -/
  | matches
  /-- Raises, as the language of this machine lacks what is named. -/
  | missing (what : String)
  /-- Pops a type and notes it as that of a variable of the module or class. -/
  | noteType (name : String)

/-- A list of instructions with what is known of it. -/
inductive Code
  | mk (info : Code.CodeInfo) (body : List Code.Instr)

end

namespace Code

/-- What is known of the code. -/
def info : Code → CodeInfo
  | .mk info _ => info

/-- The instructions. -/
def body : Code → List Instr
  | .mk _ body => body

instance : Inhabited Code := ⟨.mk ⟨.module, "", "", "", 1, false, false, {}, [], [], none⟩ []⟩

end Code

end Graft
