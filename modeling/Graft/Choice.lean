set_option autoImplicit false

/-! # Named choices

Two settings are choices among a few named values.  A choice equals the text of its value. -/

namespace Graft

/-- What is to happen after a prefix hook. -/
inductive FlowControl
  /-- Call the patched callable and then the postfix hook. -/
  | continueExec
  /-- Call the patched callable only. -/
  | continueWithoutPostfix
  /-- Call neither. -/
  | stopExec
deriving DecidableEq, Repr

/-- On which side of the statement at a line new statements go. -/
inductive InsertLocation
  | before
  | after
deriving DecidableEq, Repr

/-- The value of a flow. -/
def FlowControl.value : FlowControl → String
  | .continueExec => "continue"
  | .continueWithoutPostfix => "continue_without_postfix"
  | .stopExec => "stop"

/-- The name of a flow. -/
def FlowControl.name : FlowControl → String
  | .continueExec => "CONTINUE_EXEC"
  | .continueWithoutPostfix => "CONTINUE_WITHOUT_POSTFIX"
  | .stopExec => "STOP_EXEC"

/-- All flows. -/
def FlowControl.all : List FlowControl := [.continueExec, .continueWithoutPostfix, .stopExec]

/-- The flow of a value. -/
def FlowControl.ofValue? (s : String) : Option FlowControl := FlowControl.all.find? (·.value == s)

/-- The value of a location. -/
def InsertLocation.value : InsertLocation → String
  | .before => "before"
  | .after => "after"

/-- The name of a location. -/
def InsertLocation.name : InsertLocation → String
  | .before => "BEFORE"
  | .after => "AFTER"

/-- All locations. -/
def InsertLocation.all : List InsertLocation := [.before, .after]

/-- The location of a value. -/
def InsertLocation.ofValue? (s : String) : Option InsertLocation :=
  InsertLocation.all.find? (·.value == s)

/-- A choice of either kind. -/
inductive Choice
  | flow (f : FlowControl)
  | location (l : InsertLocation)
deriving DecidableEq, Repr

/-- What the kind of a choice is called. -/
def Choice.typeName : Choice → String
  | .flow _ => "FlowControl"
  | .location _ => "InsertLocation"

/-- The name of a choice. -/
def Choice.name : Choice → String
  | .flow f => f.name
  | .location l => l.name

/-- The value of a choice. -/
def Choice.value : Choice → String
  | .flow f => f.value
  | .location l => l.value

/-- The choice of the named kind that has a value. -/
def Choice.ofValue? (typeName value : String) : Option Choice :=
  if typeName == "FlowControl" then (FlowControl.ofValue? value).map .flow
  else if typeName == "InsertLocation" then (InsertLocation.ofValue? value).map .location
  else none

end Graft
