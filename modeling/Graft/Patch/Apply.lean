import Graft.Patch.Wrapper
import Graft.Target

set_option autoImplicit false

/-! # Applying patches

A patch takes the place of a callable that a target holds: the callable is replaced by its wrapper,
and a record is kept.  Everything is checked before the target is written to. -/

namespace Graft.Patch

open Graft.Machine Graft.Data

/-- What a patch is made of. -/
structure Spec where
  hooks : Hooks := {}
  /-- The wanted identifier. -/
  id : Value := .none
  metadata : Value := .none
  allowUnsafeInjection : Value := .bool false

namespace Hooks

/-- The hooks with the names that they go by. -/
def named (h : Hooks) : List (String × Value) :=
  [("prefix", h.before), ("postfix", h.after), ("replace", h.instead)]

/-- The names of the hooks that are there. -/
def present (h : Hooks) : List String :=
  (h.named.filter fun (_, v) => !v.isNone).map Prod.fst

/-- The first hook that can not be called. -/
def refusal? (w : World) (h : Hooks) : Option Refusal :=
  (h.named.find? fun (_, v) => !v.isNone && !w.isCallable v).map fun (name, v) =>
    .hookNotCallable name (w.typeName v)

end Hooks

/-- The wanted identifier, which must not be in use, or else a new one. -/
def chooseId (wanted : Value) : Attempt Value := do
  let w ← Run.world
  if w.truth wanted then do
    let k ← World.hashOf wanted
    if w.patches.journal.contains k then Attempt.refuse (.duplicateId (w.literal wanted))
    else return wanted
  else
    match w.patches.reserve w.around w.dice with
    | (.ok id, patches, dice) => do
      set { w with patches, dice }
      return .str id
    | (.error f, _, _) => Attempt.refuse (.identifier f)

/-- Keeps a record, whose identifier no other record may have. -/
def keep (k : Key) (record : PatchRecord) : Run Unit := do
  let w ← Run.world
  match w.patches.journal.add? k record with
  | some journal => set { w with patches := { w.patches with journal } }
  | none => Run.raise "KeyError" (Journal.takenText (w.literal record.id))

/-- A patch of which nothing is left to be done but to write to the target. -/
structure Prepared where
  member : Member
  hooks : Hooks
  id : Value
  /-- The hooks and data, which may be changed later. -/
  patch : Ref
  wrapper : Value

/-- Does what a patch takes without writing to the target. -/
def prepare (call : Caller) (target member : Value) (spec : Option Spec) : Attempt Prepared := do
  let m ← Member.resolve call target member
  match spec with
  | none => Attempt.refuse .noPatch
  | some s => do
    match s.hooks.refusal? (← Run.world) with
    | some r => Attempt.refuse r
    | none => do
      let id ← chooseId s.id
      let patch ← Run.new
        (.patch s.hooks.before s.hooks.after s.hooks.instead s.metadata s.allowUnsafeInjection)
      let wrapper ← build call patch id m.value m.name
      return { member := m, hooks := s.hooks, id, patch, wrapper }

/-- Keeps the record of a patch that has been written to the target, and logs that. -/
def conclude (x : Prepared) : Run Unit := do
  let k ← World.hashOf x.id
  let timestamp ← Run.tick
  keep k {
    id := x.id, member := x.member.name, patch := x.patch, previous := x.member.value, timestamp }
  let w ← Run.world
  let hooks := x.hooks.present
  Run.log .info logger ("Applied patch " ++ w.text x.id ++ " to " ++ x.member.name ++ " (hooks: "
    ++ (if hooks.isEmpty then "none" else ", ".intercalate hooks) ++ ")")

/-- Patches a callable that a target holds; gives the identifier of the patch. -/
def apply (call : Caller) (target member : Value) (spec : Option Spec) : Attempt Value := do
  let x ← prepare call target member spec
  x.member.assign call x.wrapper
  conclude x
  return x.id

/-- The record of a patch. -/
def record? (id : Value) : Run (Option PatchRecord) := do
  let k ← World.hashOf id
  return (← Run.world).patches.journal.get? k

end Graft.Patch
