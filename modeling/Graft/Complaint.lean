import Graft.Refusal

set_option autoImplicit false

/-! # Complaints

What is told about something that has failed: the kind of error that it counts as, a message, and
further data by name.  There is one complaint for each cause of failure, and nothing else is ever
told about the cause. -/

namespace Graft

open Data

/-- What is told about a failure. -/
structure Complaint where
  /-- The kind of error. -/
  kind : String
  message : String
  /-- Further data, by name. -/
  details : List (String × Datum) := []

/-- The complaint about something that takes more steps than it may. -/
def Complaint.exhausted : Complaint := { kind := "Exhausted", message := "" }

/-- A datum that may be missing. -/
def Complaint.opt {α : Type} (f : α → Datum) : Option α → Datum
  | none => .none
  | some x => f x

/-! ## Text that can not be read -/

namespace Syntax

/-- The kind of error that a fault counts as. -/
def FaultClass.kind : FaultClass → String
  | .syntactic => "SyntaxError"
  | .indentation => "IndentationError"
  | .tabulation => "TabError"
  | .depth => "MemoryError"

/-- Where a fault is. -/
def Fault.details (f : Fault) : List (String × Datum) :=
  let column : Option Int := f.column.map Int.ofNat
  [("lineno", Complaint.opt .int f.line), ("offset", Complaint.opt .int column),
    ("text", Complaint.opt .str f.text)]

/-- What is said about a run of surrogates. -/
def surrogateMessage (first last code : Nat) : String :=
  let lead := "'utf-8' codec can't encode "
  let rest := ": surrogates not allowed"
  if first == last then
    lead ++ "character '" ++ String.ofList (Text.escape (Text.charOf code)) ++ "' in position "
      ++ toString first ++ rest
  else lead ++ "characters in position " ++ toString first ++ "-" ++ toString last ++ rest

/-- The complaint about text that is no program; the text counts as the named file. -/
def Rejection.complaint (file : String) : Rejection → Complaint
  | .zeroByte => { kind := "ValueError", message := "source code string cannot contain null bytes" }
  | .surrogates first last code =>
    { kind := "UnicodeEncodeError", message := surrogateMessage first last code }
  | .fault f =>
    if f.cls = .depth then { kind := f.cls.kind, message := "" }
    else {
      kind := f.cls.kind
      message := f.message ++ " (" ++ file ++ ", line " ++ toString (f.line.getD 0) ++ ")"
      details := f.details }

/-- The complaint about a tree that can not be written down. -/
def PrintFault.complaint : PrintFault → Complaint
  | .backslashInField =>
    { kind := "ValueError", message := "Unable to avoid backslash in f-string expression part" }
  | .longNumeral => {
      kind := "ValueError"
      message := "Exceeds the limit (4300 digits) for integer string conversion; "
        ++ "use sys.set_int_max_str_digits() to increase the limit" }

end Syntax

/-! ## Settings and identifiers -/

/-- The complaint about a setting that can not be had. -/
def SettingsFault.complaint : SettingsFault → Complaint
  | .tooDeep => { kind := "RecursionError", message := "" }
  | .infinite =>
    { kind := "OverflowError", message := "cannot convert float infinity to integer" }

/-- The complaint about a datum that is no length. -/
def LengthFault.complaint : LengthFault → Complaint
  | .notComparable t => {
      kind := "TypeError"
      message := "'>' not supported between instances of '" ++ t ++ "' and 'int'" }
  | .notWhole =>
    { kind := "TypeError", message := "'float' object cannot be interpreted as an integer" }

/-- The complaint about an identifier that can not be made. -/
def MintFault.complaint : MintFault → Complaint
  | .settings f => f.complaint
  | .length f => f.complaint

/-- The complaint about an identifier that can not be handed out. -/
def Register.ReserveFault.complaint : Register.ReserveFault → Complaint
  | .mint f => f.complaint
  | .exhausted => .exhausted

/-- The complaint about a record that can not be added. -/
def Journal.AddFault.complaint : Journal.AddFault → Complaint
  | .unhashable t => { kind := "TypeError", message := "unhashable type: '" ++ t ++ "'" }
  | .taken literal => {
      kind := "KeyError"
      message := Datum.quoteText (Journal.takenText literal) }

/-! ## Choices and reports -/

/-- The complaint about a datum that is no choice of the named type. -/
def Choice.complaint (typeName : String) (d : Datum) : Complaint :=
  { kind := "ValueError", message := d.repr ++ " is not a valid " ++ typeName }

/-- The complaint about a number of seconds that is no point in time. -/
def MomentFault.complaint : MomentFault → Complaint
  | .notANumber => { kind := "ValueError", message := "Invalid value NaN (not a number)" }
  | .outOfRange =>
    { kind := "OverflowError", message := "timestamp out of range for platform time_t" }
  | .year n => { kind := "ValueError", message := "year " ++ toString n ++ " is out of range" }
  | .wrongType t =>
    { kind := "TypeError", message := "'" ++ t ++ "' object cannot be interpreted as an integer" }

/-- The complaint about a report that can not be made. -/
def ReportFault.complaint : ReportFault → Complaint
  | .moment f => f.complaint
  | .metadata t =>
    { kind := "AttributeError", message := "'" ++ t ++ "' object has no attribute 'items'" }
  | .choice c => {
      kind := "RepresenterError"
      message := "cannot represent an object: " ++ (Datum.choice c).toText }

/-! ## Refusals -/

namespace Refusal

/-- The data that a refusal of a class comes with. -/
def details (r : Refusal) : ErrorClass → List (String × Datum)
  | .general => []
  | .invalidTarget =>
    [("member", Complaint.opt .str r.member?), ("actual_type", Complaint.opt .str r.actualType?)]
  | .spec | .missingField => [("field_name", Complaint.opt .str r.field?)]
  | .sourceSyntax => match r.place? with
    | some (source, f) => ("source", .str (String.ofList source)) :: f.details
    | none => []
  | .unsupportedShape | .permissionDenied => [("member", Complaint.opt .str r.member?)]
  | .assignment =>
    [("member", Complaint.opt .str r.member?), ("cause", Complaint.opt .str r.causeClass?)]

/-- The complaint about a refusal that belongs to none of the classes. -/
def plainComplaint : Refusal → Complaint
  | .fragment (.unreadable f) | .ownerName f => f.complaint "<unknown>"
  | .program file f => f.complaint file
  | .unprintable f => f.complaint
  | .settings f => f.complaint
  | .identifier f => f.complaint
  | .unreportable f => f.complaint
  | _ => { kind := "MemoryError", message := "" }

/-- The complaint about a refusal. -/
def complaint (r : Refusal) : Complaint :=
  match r.cls? with
  | some c => { kind := c.name, message := r.text, details := r.details c }
  | none => r.plainComplaint

end Refusal

end Graft
