set_option autoImplicit false

/-! # Syntax faults

What is reported about text that is not well formed: a message and, where known, the line, the
column and the line's text.  Columns count from one. -/

namespace Graft.Syntax

/-- How a fault is classed: ordinary syntax, indentation, a mixture of tabs and spaces, or text that
    is nested too deeply to be read. -/
inductive FaultClass
  | syntactic
  | indentation
  | tabulation
  | depth
deriving DecidableEq, Repr

/-- A fault found in program text. -/
structure Fault where
  /-- The class of the fault. -/
  cls : FaultClass := .syntactic
  /-- The message, without a position. -/
  message : String
  /-- The line the fault is on; the first line has number one. -/
  line : Option Int := none
  /-- The column the fault is at; the first column has number one. -/
  column : Option Nat := none
  /-- The line's text. -/
  text : Option String := none
deriving DecidableEq, Repr

/-- The fault seen from a text in which the first `n` lines do not count. -/
def Fault.shiftLines (f : Fault) (n : Nat) : Fault :=
  { f with line := f.line.map (· - n) }

end Graft.Syntax
