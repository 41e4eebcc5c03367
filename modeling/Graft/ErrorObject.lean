import Graft.Code.Binding
import Graft.Complaint

set_option autoImplicit false

/-! # Errors made by hand

Errors of this library that are made from arguments, in the way in which programs make them: what
arguments each class takes, what attributes an error has, and its text. -/

namespace Graft

open Data

/-- Where a syntax error is, as it is given. -/
structure ErrorPlace where
  line : Datum := .none
  offset : Datum := .none
  text : Datum := .none

/-- An argument that an error is made from. -/
inductive ErrorArgument
  | datum (d : Datum)
  /-- A syntax error, of which the place matters. -/
  | cause (p : ErrorPlace)

/-- Why an error can not be made. -/
inductive ErrorMakingFault
  /-- The arguments do not fit the parameters of the named function. -/
  | binding (function : String) (f : Code.BindFault)
  /-- The class takes no arguments by keyword. -/
  | keywords (cls : String)
  /-- The cause is no syntax error but of the named type. -/
  | cause (typeName : String)

/-- What is said about an error that can not be made. -/
def ErrorMakingFault.message : ErrorMakingFault → String
  | .binding function f => f.message function
  | .keywords cls => cls ++ "() takes no keyword arguments"
  | .cause t => "'" ++ t ++ "' object has no attribute 'lineno'"

/-- The complaint about an error that can not be made. -/
def ErrorMakingFault.complaint (f : ErrorMakingFault) : Complaint :=
  match f with
  | .cause _ => { kind := "AttributeError", message := f.message }
  | .binding _ _ | .keywords _ => { kind := "TypeError", message := f.message }

/-- An error. -/
structure ErrorObject where
  cls : ErrorClass
  /-- What its text is made of. -/
  args : List Datum
  /-- What it says besides, by name. -/
  attributes : List (String × Datum) := []
  place : ErrorPlace := {}

namespace ErrorClass

/-- The parameters that a class has besides the message, with their defaults. -/
def details : ErrorClass → List (String × Datum)
  | .general => []
  | .invalidTarget => [("member", .none), ("actual_type", .none)]
  | .spec | .missingField => [("field_name", .none)]
  | .sourceSyntax => [("source", .str ""), ("cause", .none)]
  | .unsupportedShape | .permissionDenied | .assignment => [("member", .none)]

/-- The class whose parameters a class has. -/
def initializer : ErrorClass → ErrorClass
  | .missingField => .spec
  | c => c

/-- The parameters of a class. -/
def signature (c : ErrorClass) : Code.Signature :=
  { plain := "self" :: "message" :: c.details.map Prod.fst }

end ErrorClass

namespace ErrorObject

/-- The datum that an argument is, if it is one. -/
def datumOf : ErrorArgument → Datum
  | .datum d => d
  | .cause _ => .none

/-- The place that an argument gives. -/
def placeOf : ErrorArgument → Except ErrorMakingFault ErrorPlace
  | .cause p => .ok p
  | .datum .none => .ok {}
  | .datum d => .error (.cause d.typeName)

/-- Makes an error. -/
def make (c : ErrorClass) (positional : List ErrorArgument)
    (keywords : List (String × ErrorArgument)) : Except ErrorMakingFault ErrorObject :=
  if c = .general then
    if keywords.isEmpty then .ok { cls := c, args := positional.map datumOf }
    else .error (.keywords c.name)
  else
    let defaults := c.details.map fun (_, d) => ErrorArgument.datum d
    let self : ErrorArgument := .datum .none
    match Code.Binding.ofCall c.signature defaults [] (self :: positional) keywords with
    | .error f => .error (.binding (c.initializer.name ++ ".__init__") f)
    | .ok b => do
      let get (name : String) : ErrorArgument :=
        ((b.named.find? (·.1 == name)).map Prod.snd).getD (.datum .none)
      let place ← placeOf (get "cause")
      let names := (c.details.map Prod.fst).filter (· != "cause")
      .ok {
        cls := c, args := [datumOf (get "message")], place
        attributes := names.map fun n => (n, datumOf (get n)) }

/-- The text of an error.  A syntax error says its line if it has one. -/
def text (e : ErrorObject) : String :=
  let message := match e.args with
    | [] => ""
    | [d] => d.toText
    | ds => (Datum.tuple ds).repr
  match e.cls, e.place.line with
  | .sourceSyntax, .int n => message ++ " (line " ++ toString n ++ ")"
  | _, _ => message

/-- All attributes of an error. -/
def allAttributes (e : ErrorObject) : List (String × Datum) :=
  e.attributes ++ if e.cls = .sourceSyntax then
    [("lineno", e.place.line), ("offset", e.place.offset), ("text", e.place.text)]
  else []

end ErrorObject

end Graft
