import Graft.Injection.Apply
import Graft.Patch.Apply
import Graft.Report
import Graft.Session.Shown

set_option autoImplicit false

/-! # Records in a session

What is shown of the records of patches and injections, and the report on them. -/

namespace Graft.Session

open Graft.Machine Graft.Data

/-- The hooks of a patch that has been applied, as they are now, with its other data. -/
def patchParts (w : World) (r : Ref) : Patch.Hooks × Value × Value :=
  match (w.thing? r).map Thing.body with
  | some (.patch before after instead metadata allow) =>
    ({ before, after, instead }, metadata, allow)
  | _ => ({}, .none, .none)

/-- Shows the record of a patch. -/
def Shown.ofPatch (w : World) (p : PatchRecord) : Shown :=
  let (hooks, metadata, allow) := patchParts w p.patch
  .fields [("id", .ofValue w p.id), ("member", .str p.member), ("timestamp", .float p.timestamp),
    ("original", .ofValue w p.previous), ("metadata", .ofValue w metadata),
    ("hooks", .list (hooks.present.map .str)), ("allow_unsafe_injection", .ofValue w allow)]

/-- Shows the record of an injection. -/
def Shown.ofInjection (w : World) (i : InjectionRecord) : Shown :=
  .fields [("id", .str i.id), ("member", .str i.member), ("timestamp", .float i.timestamp),
    ("original", .ofValue w i.previous), ("source", .str i.source),
    ("spec", .list [.ofValue w i.code, .ofValue w i.line, .ofValue w i.loc])]

/-! ## The report -/

/-- The datum that a value is, looking so many levels deep; what is no datum becomes its literal. -/
def datumTo (w : World) : Nat → Value → Datum
  | 0, v => .str (w.literal v)
  | n + 1, v =>
    match v with
    | .none => .none
    | .bool b => .bool b
    | .int i => .int i
    | .float x => .float x
    | .str s => .str s
    | .bytes bs => .bytes bs
    | .choice c => .choice c
    | .tuple xs => .tuple (xs.map (datumTo w n))
    | .thing r =>
      match (w.thing? r).map Thing.body with
      | some (.list xs) => .list (xs.map (datumTo w n))
      | some (.dict es) => .dict (es.map fun e => (datumTo w n e.key, datumTo w n e.value))
      | _ => .str (w.literal v)
    | v => .str (w.literal v)

/-- The datum that a value is. -/
def datumOf (w : World) (v : Value) : Datum := datumTo w World.maxDepth v

/-- An entry of metadata: the key as text, and the value as text too if it is not text already. -/
def metadataEntry (call : Caller) (e : Entry) : Run (Datum × Datum) := do
  let key ← World.tell call e.key
  if e.value.text?.isSome then return (.str key, datumOf (← Run.world) e.value)
  else return (.str key, .str (← World.tellLiteral call e.value))

/-- The metadata of a patch. -/
def metadataDatum (call : Caller) (v : Value) : Run Datum := do
  let w ← Run.world
  match v with
  | .thing r =>
    if w.isMapping v then return .dict (← (w.entriesOf r).mapM (metadataEntry call))
    else return datumOf w v
  | v => return datumOf w v

/-- What a callable goes by in a report. -/
def reportName (call : Caller) (v : Value) : Run Datum := do
  if v.isNone then return .none
  else
    let qualname := (← World.getAttr? call v "__qualname__").getD .none
    let name := (← World.getAttr? call v "__name__").getD .none
    let w ← Run.world
    if w.truth qualname then return datumOf w qualname
    else if w.truth name then return datumOf w name
    else return .str (← World.tellLiteral call v)

/-- What the callables of a patch go by: the previous one and the hooks. -/
def patchNames (call : Caller) (p : PatchRecord) (hooks : Patch.Hooks) :
    Run (Datum × Datum × Datum × Datum) := do
  let previous ← reportName call p.previous
  let before ← reportName call hooks.before
  let after ← reportName call hooks.after
  let instead ← reportName call hooks.instead
  return (previous, before, after, instead)

/-- What a report says about a patch. -/
def patchEntry (call : Caller) (p : PatchRecord) : Run PatchEntry := do
  let (hooks, metadata, allow) := patchParts (← Run.world) p.patch
  let (previous, prefixHook, postfixHook, replaceHook) ← patchNames call p hooks
  let metadata ← metadataDatum call metadata
  let w ← Run.world
  return {
    id := datumOf w p.id, member := .str p.member, timestamp := .float p.timestamp, previous
    prefixHook, postfixHook, replaceHook, metadata, allowUnsafeInjection := datumOf w allow }

/-- What a report says about an injection. -/
def injectionEntry (call : Caller) (i : InjectionRecord) : Run InjectionEntry := do
  let previous ← reportName call i.previous
  let w ← Run.world
  return {
    id := .str i.id, member := .str i.member, timestamp := .float i.timestamp, previous
    code := datumOf w i.code, line := datumOf w i.line, loc := datumOf w i.loc
    source := .str i.source }

/-- A report on some records. -/
def report {α : Type} (form : ReportForm α) (call : Caller) (patches : List PatchRecord)
    (injections : List InjectionRecord) : Run (Except ReportFault α) := do
  let patches ← patches.mapM (patchEntry call)
  let injections ← injections.mapM (injectionEntry call)
  return Report.build form patches injections

/-- The text of the report on all records. -/
def reportText (call : Caller) : Run (Except ReportFault String) := do
  let w ← Run.world
  let made ← report Report.asNode call w.patches.journal.toList w.injections.journal.toList
  return made.map Yaml.Node.document

end Graft.Session
