import Graft.Flag
import Graft.Injection.Recompile
import Graft.Splice.Extent
import Graft.Splice.Placement

set_option autoImplicit false

/-! # Applying injections

An injection puts statements into the body of a function that a target holds, near a line of the
function's own text.  The text is read, the statements are spliced in, the new text is compiled, and
the new function takes the place of the old one.  Whatever fails does so before the target is
written to. -/

namespace Graft.Injection

open Graft.Machine Graft.Data

/-- What an injection is made of. -/
structure Spec where
  code : Value
  line : Value
  loc : Value := .choice (.location .after)

/-- The part that logs. -/
def logger : String := "inject.engine"

/-- The part that logs where statements go. -/
def placementLogger : String := "inject.placement"

/-- The setting that says whether new text is registered. -/
def registerKeys : List String := ["inject", "register_source"]

/-! ## Checking what is given -/

/-- Whether code that counts as true consists of nothing but blanks. -/
def isBlank (call : Caller) (code : Value) : Run Bool := do
  let stripped ← Run.apply call (← World.getAttr call code "strip") []
  return !(← Run.world).truth stripped

/-- The line and the location of an injection, once it has been checked. -/
def check (call : Caller) (spec : Option Spec) : Attempt (Spec × Int × InsertLocation) := do
  match spec with
  | none => Attempt.refuse .noInjection
  | some s =>
    if s.line.isNone then Attempt.refuse .noLine
    else if s.loc.isNone then Attempt.refuse .noLocation
    else if !(← Run.world).truth s.code then Attempt.refuse .noCode
    else if (← isBlank call s.code) then Attempt.refuse .noCode
    else
      let w ← Run.world
      match s.line with
      | .int n =>
        if n < 1 then Attempt.refuse (.badLine (w.literal s.line))
        else
          match s.loc.text?.bind InsertLocation.ofValue? with
          | some loc => return (s, n, loc)
          | none => Attempt.refuse (.badLocation (w.literal s.loc))
      | line => Attempt.refuse (.badLine (w.literal line))

/-! ## Reading the function -/

/-- The function behind a member. -/
def functionOf (w : World) (m : Member) : Except Refusal (Ref × Value × Function) :=
  let value := match w.body? m.value with
    | some (.method f _) => f
    | _ => m.value
  match value, w.body? value with
  | .thing r, some (.function f) =>
    if f.codeName == "<lambda>" then .error (.anonymous m.name) else .ok (r, value, f)
  | _, _ => .error (.noSource m.name (w.typeName value))

/-- The program text of a function, or why it can not be had. -/
def sourceOf (w : World) (f : Function) : Except String String :=
  match f.behaviour with
  | .code code =>
    match w.sources.get? code.info.file with
    | none => .error "could not get source code"
    | some e =>
      match Splice.definitionText e.lines (code.info.firstLine - 1) with
      | some text => .ok text
      | none => .error "lineno is out of bounds"
  | _ => .error "could not get source code"

/-- The statements of a snippet. -/
def statementsOf (code : Value) : Attempt (List Syntax.Stmt) := do
  match code.text? with
  | some s =>
    match Splice.parseSnippet s.toList with
    | .ok ss => return ss
    | .error f => Attempt.refuse (.fragment f)
  | none => Run.raise "TypeError" "cannot use a string pattern on a bytes-like object"

/-! ## Splicing -/

/-- The lines of a statement. -/
def rangeOf (s : Syntax.Stmt) : Splice.LineRange := ⟨s.span.line, s.span.endLine⟩

/-- An injection that has been worked out and not been carried out yet. -/
structure Plan where
  member : Member
  /-- The function behind the member. -/
  function : Function
  /-- The function as a value, which the member's own value may be bound from. -/
  value : Value
  ref : Ref
  spec : Spec
  line : Int
  loc : InsertLocation
  /-- The function's own definition. -/
  old : Splice.Definition
  /-- The statements that are put in. -/
  new : List Syntax.Stmt

namespace Plan

/-- The index in the old body at which new statements go. -/
def index (p : Plan) : Nat := Splice.insertionIndex (p.old.body.map rangeOf) p.line p.loc

/-- The old definition with the new statements in its body. -/
def definition (p : Plan) : Splice.Definition :=
  { p.old with body := Splice.insertAt p.old.body p.index p.new }

/-- Says where the new statements go. -/
def placementText (p : Plan) : String :=
  (Splice.Placement.scan (fun n => some (compare n p.line)) 0 (p.old.body.map rangeOf)).describe
    (toString p.line) p.loc

end Plan

/-- The text of a definition. -/
def textOf (d : Splice.Definition) : Attempt String :=
  match d.toStmt.print with
  | .ok text => return text
  | .error f => Attempt.refuse (.unprintable f)

/-! ## Applying -/

/-- A new identifier. -/
def newId : Attempt String := do
  let w ← Run.world
  match w.injections.reserve w.around w.dice with
  | (.ok id, injections, dice) => do
    set { w with injections, dice }
    return id
  | (.error f, _, _) => Attempt.refuse (.identifier f)

/-- Whether new text is registered. -/
def registers : Attempt Bool := do
  match Settings.bool (← Run.world).around registerKeys (.bool true) none with
  | .ok b => return b
  | .error f => Attempt.refuse (.settings f)

/-- The file that the new text of an injection counts as. -/
def fileName (id : String) : String := "<hotsplice:" ++ id ++ ">"

/-- A replacement in the shape of the member: bound to the same receiver if it was a method. -/
def rebound (m : Member) (replacement : Value) : Run Value := do
  match (← Run.bodyOf m.value) with
  | some (.method _ receiver) => Run.newValue (.method replacement receiver)
  | _ => return replacement

/-- Keeps a record, whose identifier no other record may have. -/
def keep (record : InjectionRecord) : Run Unit := do
  let w ← Run.world
  match w.injections.journal.add? (.ofText record.id) record with
  | some journal => set { w with injections := { w.injections with journal } }
  | none => Run.raise "KeyError" (Journal.takenText (w.literal (.str record.id)))

/-- Refuses a function whose text can not be had.  The text of a wrapper is there, but it is not to
    be changed, so that with a wrapper a malformed snippet is what is found first. -/
def refuseUnavailable {α : Type} (m : Member) (f : Function) (code : Value) (reason : String) :
    Attempt α := do
  match f.behaviour with
  | .dispatch _ _ _ => do
    let _ ← statementsOf code
    Attempt.refuse (.sourceUnavailable m.name reason)
  | _ => Attempt.refuse (.sourceUnavailable m.name reason)

/-- The definition of the function behind a member. -/
def definitionOf (m : Member) (f : Function) (code : Value) : Attempt Splice.Definition := do
  let source ← match sourceOf (← Run.world) f with
    | .ok text => pure text
    | .error reason => refuseUnavailable m f code reason
  match Splice.parseDefinition source.toList with
  | .ok d => return d
  | .error fault => Attempt.refuse (.fragment fault)

/-- Works out an injection. -/
def plan (call : Caller) (target member : Value) (spec : Option Spec) : Attempt Plan := do
  let m ← Member.resolve call target member
  let (s, line, loc) ← check call spec
  let w ← Run.world
  if w.flag? m.value == some false then Attempt.refuse (.forbidden m.name)
  else
    let (ref, value, f) ← ExceptT.mk (pure (functionOf w m))
    let old ← definitionOf m f s.code
    let new ← statementsOf s.code
    let p : Plan := { member := m, function := f, value, ref, spec := s, line, loc, old, new }
    Run.log .debug placementLogger p.placementText
    return p

/-- An injection of which nothing is left to be done but to write to the target. -/
structure Prepared where
  plan : Plan
  /-- The text of the new definition. -/
  text : String
  id : String
  /-- What takes the place of the member. -/
  replacement : Value

/-- Makes the function that takes the place of the one that a plan is for, from the given text. -/
def replacementFor (call : Caller) (p : Plan) (text id : String) : Attempt Value := do
  let register ← registers
  let replacement ← materialize call text p.value p.ref p.function (fileName id) register
  rebound p.member replacement

/-- Does what an injection takes without writing to the target. -/
def prepare (call : Caller) (target member : Value) (spec : Option Spec) : Attempt Prepared := do
  let plan ← plan call target member spec
  let text ← textOf plan.definition
  Run.log .debug logger ("Regenerated source for " ++ plan.member.name ++ ":\n" ++ text)
  let id ← newId
  let replacement ← replacementFor call plan text id
  return { plan, text, id, replacement }

/-- Keeps the record of an injection that has been written to the target, and logs that. -/
def conclude (x : Prepared) : Run Unit := do
  let p := x.plan
  let timestamp ← Run.tick
  keep {
    id := x.id, member := p.member.name, previous := p.member.value, code := p.spec.code
    line := p.spec.line, loc := p.spec.loc, source := x.text, timestamp }
  Run.log .info logger ("Injected " ++ toString p.new.length ++ " statement(s) into "
    ++ p.member.name ++ " at index " ++ toString p.index ++ " (line " ++ toString p.line ++ ", "
    ++ p.loc.value ++ ") as " ++ x.id)

/-- Injects statements into a function that a target holds; gives the identifier. -/
def apply (call : Caller) (target member : Value) (spec : Option Spec) : Attempt String := do
  let x ← prepare call target member spec
  x.plan.member.assign call x.replacement
  conclude x
  return x.id

/-- The record of an injection. -/
def record? (id : Value) : Run (Option InjectionRecord) := do
  let k ← World.hashOf id
  return (← Run.world).injections.journal.get? k

end Graft.Injection
