import Graft.Complaint
import Graft.Session.Form
import Graft.Session.Record

set_option autoImplicit false

/-! # Actions

What can be done in a session, one thing after the other, and what is told about each. -/

namespace Graft.Session

open Graft.Machine

/-- How something is found. -/
inductive Lookup
  | path (p : String)
  /-- A member of what is at a path, or of nothing. -/
  | member (target : Option String) (name : Form)
  /-- It is built anew. -/
  | described (form : CallableForm)

/-- How the result of a call is taken. -/
inductive CallMode
  | plain
  /-- The values that the result gives one after the other. -/
  | collect
  /-- What the result comes to when it is run to its end. -/
  | await
deriving DecidableEq, Repr

/-- A patch as it is given. -/
structure PatchForm where
  before : Option CallableForm := none
  after : Option CallableForm := none
  instead : Option CallableForm := none
  id : Form := .value .none
  metadata : Form := .dict [] []
  allowUnsafeInjection : Form := .value (.bool false)

/-- An injection as it is given. -/
structure InjectionForm where
  code : Form
  line : Form
  loc : Form := .value (.choice (.location .after))

/-- What can be told about a function. -/
inductive FunctionField
  | type | self | name | qualname | module | doc | defaults | keywordDefaults | annotations
  | attributes | wrapped | parameters | cells | file
deriving DecidableEq, Repr

/-- Actions. -/
inductive Action
  | patch (target : Option String) (member : Form) (patch : Option PatchForm)
  | inject (target : Option String) (member : Form) (injection : Option InjectionForm)
  | call (lookup : Lookup) (args : List Form) (keywords : List (String × Form)) (mode : CallMode)
  | materialize (function : String) (source file : String) (register : Bool) (name : String)
  | resolve (target : Option String) (member : Form)
  | assign (target : Option String) (member : Form) (replacement : CallableForm)
  | raw (target : Option String) (member : Form)
  | describe (lookup : Lookup) (fields : List (String × FunctionField))
  | same (a b : String)
  | mark (allowed : Bool) (lookup : Lookup)
  | flag (lookup : Lookup)
  | patchRecord (id : Form)
  | injectionRecord (id : Form)
  | records
  | ids
  | dump
  | setHook (id : Form) (field : String) (replacement : CallableForm)
  | setRecord (id : Form) (field : String)
  | setGlobal (name : String) (value : Form)
  | lines (file : String)

/-! ## Finding things -/

/-- What is at a path, or nothing. -/
def targetAt (call : Caller) : Option String → Run Value
  | none => return .none
  | some p => World.atPath call p

/-- Finds what is looked up. -/
def Lookup.find (call : Caller) : Lookup → Run Value
  | .path p => World.atPath call p
  | .described form => form.build call
  | .member target name => do
    let target ← targetAt call target
    let name ← name.build call
    let w ← Run.world
    if w.isMutableMapping target then World.getItem call target name
    else
      match name.text? with
      | some s => World.getAttr call target s
      | none =>
        Run.raise "TypeError"
          ("attribute name must be string, not '" ++ w.attrTypeName name ++ "'")

/-- An entry of a mapping or of a thing's own attributes, as it is kept there. -/
def rawEntry (call : Caller) (target name : Value) : Run (Option Value) := do
  let w ← Run.world
  match target, w.isMutableMapping target with
  | .thing r, true => World.getEntry? r name
  | _, _ =>
    match (← World.getAttr? call target "__dict__") with
    | some (.thing d) => World.getEntry? d name
    | _ => return none

/-- Shows an entry that may be missing. -/
def Shown.ofEntry (w : World) (v : Option Value) : Shown :=
  .fields [("found", .bool v.isSome), ("value", Shown.opt (Shown.ofValue w) v)]

/-! ## Describing functions -/

/-- The content of a cell. -/
def cellContent (w : World) (r : Ref) : Value :=
  match (w.thing? r).map Thing.body with
  | some (.cell (some v)) => v
  | _ => .none

/-- The variables that a function takes from functions around, with their values. -/
def cellTable (w : World) (f : Function) : Table :=
  match f.behaviour with
  | .dispatch patch id wrapped =>
    [("original", wrapped), ("patch", .thing patch), ("patch_id", id)]
  | _ => f.closure.map fun (n, r) => (n, cellContent w r)

/-- The names of the parameters of a function, those left out that collect what is left. -/
def parameterNames (f : Function) : List String :=
  match f.behaviour with
  | .code code => code.info.signature.named
  | .library _ => Function.markSignature.named
  | .described _ | .dispatch _ _ _ => []

/-- The file that the code of a function is from. -/
def fileOf (f : Function) : String :=
  match f.behaviour with
  | .code code => code.info.file
  | _ => "(file)"

/-- The attribute that a field of a function is kept in. -/
def FunctionField.attribute : FunctionField → String
  | .self => "__self__"
  | .name => "__name__"
  | .qualname => "__qualname__"
  | .module => "__module__"
  | .doc => "__doc__"
  | .defaults => "__defaults__"
  | .keywordDefaults => "__kwdefaults__"
  | .annotations => "__annotations__"
  | .wrapped => "__wrapped__"
  | .attributes => "__dict__"
  | .type | .parameters | .cells | .file => ""

/-- Shows a field of a function that has been looked up. -/
def describeField (call : Caller) (found : Value) (field : FunctionField) : Run Shown := do
  let w ← Run.world
  let function := match w.body? found with
    | some (.method f _) => f
    | _ => found
  let code : Option Function := match w.body? function with
    | some (.function f) => some f
    | _ => none
  let told (v : Value) : Run Shown := do
    let x ← World.getAttr? call v field.attribute
    return Shown.opt (Shown.ofValue (← Run.world)) x
  match field with
  | .type => return .str (w.typeName found)
  | .self => told found
  | .attributes =>
    match (← World.getAttr? call function field.attribute) with
    | some (.thing d) => do
      let w ← Run.world
      let es := (w.entriesOf d).filter fun e => e.key.text? != some Patch.wrappedAttribute
      return .dict (es.map fun e => (.ofValue w e.key, .ofValue w e.value))
    | _ => return .dict []
  | .parameters => return Shown.opt (fun f => .list ((parameterNames f).map .str)) code
  | .cells =>
    return Shown.opt
      (fun f => .dict ((cellTable w f).map fun (n, v) => (.str n, Shown.ofValue w v))) code
  | .file => return Shown.opt (fun f => .str (fileOf f)) code
  | _ => told function

/-! ## Running calls to their end -/

/-- Runs a suspended call to its end, in so many turns at most. -/
def runToEnd (call : Caller) (v : Value) : Nat → Run Value
  | 0 => throw .exhausted
  | n + 1 => do
    let send ← World.getAttr call v "send"
    let ended ← Run.recover "StopIteration" (do
        let _ ← Run.apply call send [.none]
        return none)
      fun e => do return some (← Activation.stopValue e)
    match ended with
    | some v => return v
    | none => runToEnd call v n

/-- Takes the result of a call. -/
def CallMode.take (call : Caller) (v : Value) : CallMode → Run Value
  | .plain => return v
  | .collect => do World.newList (← World.toList call v)
  | .await => runToEnd call v World.maxItems

/-! ## Actions -/

/-- Builds a hook, if there is one. -/
def buildHook (call : Caller) : Option CallableForm → Run Value
  | none => return .none
  | some form => form.build call

/-- Builds a patch. -/
def PatchForm.build (call : Caller) (p : PatchForm) : Run Patch.Spec := do
  return {
    hooks := {
      before := ← buildHook call p.before
      after := ← buildHook call p.after
      instead := ← buildHook call p.instead }
    id := ← p.id.build call
    metadata := ← p.metadata.build call
    allowUnsafeInjection := ← p.allowUnsafeInjection.build call }

/-- Builds an injection. -/
def InjectionForm.build (call : Caller) (i : InjectionForm) : Run Injection.Spec := do
  return { code := ← i.code.build call, line := ← i.line.build call, loc := ← i.loc.build call }

/-- Builds something that may be missing. -/
def buildOpt {α β : Type} (build : α → Run β) : Option α → Run (Option β)
  | none => return none
  | some x => do return some (← build x)

/-- Sets a field of a patch that has been applied. -/
def setPatchField (r : Ref) (field : String) (v : Value) : Run Unit := do
  match (← Run.world).thing? r with
  | some { body := .patch before after instead metadata allow, .. } =>
    Run.setBody r (match field with
      | "prefix" => .patch v after instead metadata allow
      | "postfix" => .patch before v instead metadata allow
      | "replace" => .patch before after v metadata allow
      | "metadata" => .patch before after instead v allow
      | "allow_unsafe_injection" => .patch before after instead metadata v
      | _ => .patch before after instead metadata allow)
  | _ => return ()

/-- Complains about an attribute of a record that is not there. -/
def noRecord {α : Type} (field : String) : Run α := do
  Run.raise "AttributeError" ((← Run.world).missingAttr .none field)

/-- The function that is materialized anew. -/
def asFunction (call : Caller) (path : String) : Run (Value × Ref × Function) := do
  let v ← World.atPath call path
  let w ← Run.world
  let v := match w.body? v with
    | some (.method f _) => f
    | _ => v
  match v, w.body? v with
  | .thing r, some (.function f) => return (v, r, f)
  | _, _ => Run.raise "AttributeError" (w.missingAttr v "__code__")

/-- Does something in a session; tells about it. -/
def Action.run (call : Caller) : Action → Attempt Shown
  | .patch target member p => do
    let target ← targetAt call target
    let member ← member.build call
    let id ← Patch.apply call target member (← buildOpt (PatchForm.build call) p)
    return .ofValue (← Run.world) id
  | .inject target member i => do
    let target ← targetAt call target
    let member ← member.build call
    let id ← Injection.apply call target member (← buildOpt (InjectionForm.build call) i)
    let record ← Injection.record? (.str id)
    return .fields [("id", .str id), ("source", Shown.opt (fun r => .str r.source) record)]
  | .call lookup args keywords mode => do
    let f ← lookup.find call
    let positional ← Form.buildAll call args
    let keywords ← keywords.mapM fun (n, form) => do return (n, ← form.build call)
    let result ← mode.take call (← call f { positional, keywords })
    return .ofValue (← Run.world) result
  | .materialize path source file register name => do
    let (v, r, f) ← asFunction call path
    let new ← Injection.materialize call source v r f file register
    modify fun w => { w with names := w.names.set name new }
    return .str name
  | .resolve target member => do
    let target ← targetAt call target
    let m ← Member.resolve call target (← member.build call)
    let kind := match m.convention with
      | .plain => "plain"
      | .static => "static"
      | .ofClass => "class"
    return .fields [("name", .str m.name), ("kind", .str kind),
      ("value", .ofValue (← Run.world) m.value)]
  | .assign target member replacement => do
    let target ← targetAt call target
    let m ← Member.resolve call target (← member.build call)
    m.assign call (← replacement.build call)
    let entry ← rawEntry call target (.str m.name)
    return .ofEntry (← Run.world) entry
  | .raw target member => do
    let target ← targetAt call target
    let entry ← rawEntry call target (← member.build call)
    return .ofEntry (← Run.world) entry
  | .describe lookup fields => do
    let found ← lookup.find call
    return .fields (← fields.mapM fun (name, field) => do
      return (name, ← describeField call found field))
  | .same a b => do
    let x ← World.atPath call a
    let y ← World.atPath call b
    return .bool (x.same y)
  | .mark allowed lookup => do
    let v ← lookup.find call
    return .bool ((← Run.mark allowed v).same v)
  | .flag lookup => do
    let v ← lookup.find call
    return Shown.opt .bool ((← Run.world).flag? v)
  | .patchRecord id => do
    let record ← Patch.record? (← id.build call)
    return Shown.opt (Shown.ofPatch (← Run.world)) record
  | .injectionRecord id => do
    let record ← Injection.record? (← id.build call)
    return Shown.opt (Shown.ofInjection (← Run.world)) record
  | .records => do
    let w ← Run.world
    return .fields [("patches", .list (w.patches.journal.toList.map (Shown.ofPatch w))),
      ("injections", .list (w.injections.journal.toList.map (Shown.ofInjection w)))]
  | .ids => do
    let w ← Run.world
    return .list (w.patches.journal.toList.map (fun p => .ofValue w p.id)
      ++ w.injections.journal.toList.map (fun i => .str i.id))
  | .dump => do
    match (← reportText call) with
    | .ok text => return .fields [("yaml", .str text), ("stream_same", .bool true)]
    | .error f => Attempt.refuse (.unreportable f)
  | .setHook id field replacement => do
    match (← Patch.record? (← id.build call)) with
    | some p => do
      setPatchField p.patch field (← replacement.build call)
      return .none
    | none => noRecord "patch"
  | .setRecord id field => do
    let id ← id.build call
    let isThere := (← Patch.record? id).isSome || (← Injection.record? id).isSome
    if isThere then
      Run.raise "FrozenInstanceError"
        ("cannot assign to field " ++ Data.Datum.quoteText field)
    else noRecord field
  | .setGlobal name value => do
    let v ← value.build call
    Run.changeTable (← Run.world).home (·.set name v)
    return .none
  | .lines file => do
    let w ← Run.world
    return .list (((w.sources.get? file).map fun e => e.lines.map Shown.str).getD [])

/-! ## Outcomes -/

/-- How an action ends. -/
inductive Outcome
  | done (shown : Shown)
  | refused (r : Refusal)
  /-- Something of the named class has been raised. -/
  | raised (cls message : String) (isSyntaxError : Bool)
  /-- The action takes too many steps. -/
  | exhausted

/-- The complaint about an action, unless it is done. -/
def Outcome.complaint? : Outcome → Option Complaint
  | .done _ => none
  | .refused r => some r.complaint
  | .raised cls message isSyntaxError =>
    let nowhere : Syntax.Fault := { message }
    some { kind := cls, message, details := if isSyntaxError then nowhere.details else [] }
  | .exhausted => some .exhausted

/-- What is told about an action. -/
structure Told where
  outcome : Outcome
  logs : List LogEntry
  trace : List Shown

/-- How a run that was halted ends. -/
def Outcome.ofHalt (w : World) : Halt → Outcome
  | .exhausted => .exhausted
  | .raised e =>
    let isDeep := w.isInstance e (.cls "RecursionError")
    .raised (w.typeName e) (if isDeep then "" else w.text e) (w.isInstance e (.cls "SyntaxError"))

/-- Does something in a world; tells about it. -/
def Action.perform (call : Caller) (a : Action) (w : World) : Told × World :=
  let (result, w) := ((a.run call).run.run { w with logs := [], trace := [] })
  let outcome := match result with
    | .ok (.ok shown) => .done shown
    | .ok (.error r) => .refused r
    | .error h => .ofHalt w h
  ({ outcome, logs := w.logs.reverse, trace := w.trace.reverse.map (Shown.ofTrace w) }, w)

/-- Does things one after the other. -/
def performAll (call : Caller) : List Action → World → List Told × World
  | [], w => ([], w)
  | a :: as, w =>
    let (told, w) := a.perform call w
    let (rest, w) := performAll call as w
    (told :: rest, w)

end Graft.Session
