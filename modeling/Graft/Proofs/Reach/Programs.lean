import Graft.Machine.Activation
import Graft.Proofs.Reach.Values

set_option autoImplicit false

/-! # Running instructions is confined

One lemma for each thing that an activation does, up to running a call until it returns, is
suspended or raises. -/

namespace Graft.Machine.Activation

open Data Code

variable {α : Type} {call : Caller}

/-! ## The stack and names -/

@[grind ←] theorem pop_confined (a : Activation) : (pop a).Confined := by
  unfold pop
  grind

@[grind ←] theorem popMany_confined (a : Activation) (n : Nat) : (popMany a n).Confined := by
  unfold popMany
  grind

@[grind ←] theorem peek_confined (a : Activation) (depth : Nat) : (peek a depth).Confined := by
  unfold peek
  grind

@[grind ←] theorem undefined_confined (name : String) : (undefined name : Run α).Confined :=
  .raise _ _

@[grind ←] theorem unbound_confined (a : Activation) (name : String) :
    (unbound a name : Run α).Confined := by
  unfold unbound
  grind

@[grind ←] theorem loadGlobal_confined (a : Activation) (name : String) :
    (loadGlobal a name).Confined := by
  unfold loadGlobal
  grind

@[grind ←] theorem loadCell_confined (a : Activation) (name : String) :
    (loadCell a name).Confined := by
  unfold loadCell
  grind

@[grind ←] theorem load_confined (a : Activation) (home : Home) (name : String) :
    (load a home name).Confined := by
  unfold load
  grind

@[grind ←] theorem fill_confined (cell : Ref) (content : Option Value) :
    (fill cell content).Confined := by
  unfold fill
  refine .bind_bodyOf fun w => ?_
  split
  · rename_i hbody
    exact .setBody ⟨_, hbody, rfl⟩
  · exact .of (.pure _)

@[grind ←] theorem store_confined (a : Activation) (home : Home) (name : String) (v : Value) :
    (store a home name v).Confined := by
  unfold store
  grind

@[grind ←] theorem delete_confined (a : Activation) (home : Home) (name : String) :
    (delete a home name).Confined := by
  unfold delete
  grind

/-! ## Definitions and calls -/

@[grind ←] theorem makeFunction_confined (a : Activation) (code : Code) (defaults : List Value)
    (keywordDefaults hints : Table) :
    (makeFunction a code defaults keywordDefaults hints).Confined := by
  unfold makeFunction
  grind

@[grind ←] theorem makeClass_confined (name qualname : String) (bases : List Value)
    (table : Table) : (makeClass name qualname bases table).Confined := by
  unfold makeClass
  refine .bind .world fun w => ?_
  extract_lets bases
  split
  · exact .raise _ _
  · dsimp only
    split
    · exact .raise _ _
    · exact .new_setBody _ _ fun r => .bind (.changeTable _ _) fun _ => .pure _

@[grind ←] theorem buildClass_confined (hcall : call.Confined) (a : Activation) (code : Code)
    (bases : List Value) : (a.buildClass call code bases).Confined := by
  unfold buildClass
  refine .bind (makeFunction_confined a code [] [] []) fun body => .bind (.new _ _) fun r => ?_
  refine .bind (hcall body _) fun cell => .bind .world fun w => ?_
  refine .bind (makeClass_confined _ _ bases _) fun cls => ?_
  split <;> grind

@[grind ←] theorem superOf_confined (a : Activation) : a.superOf.Confined := by
  unfold superOf
  split
  · exact .raise _ _
  · -- the class is looked up last, once the receiver has been found
    extract_lets last
    have hlast : ∀ receiver, (last receiver).Confined := by
      intro receiver
      dsimp only [last]
      split
      · exact .raise _ _
      · refine .bind .world fun w => ?_
        split <;> grind
    split
    · exact .bind (.pure _) hlast
    · refine .bind .world fun w => ?_
      split
      · exact .bind (.pure _) hlast
      · exact .bind (.raise _ _) hlast

@[grind ←] theorem callFrom_confined (hcall : call.Confined) (a : Activation) (f : Value)
    (args : Args) : (a.callFrom call f args).Confined := by
  unfold callFrom
  split
  · exact superOf_confined a
  · exact World.attributesOf_confined a.globals
  · exact hcall _ _

@[grind ←] theorem keywordsOf_confined (v : Value) : (keywordsOf v).Confined := by
  unfold keywordsOf
  grind

@[grind ←] theorem bad_confined (forCall : Bool) (mapping : Value) :
    (merge.bad forCall mapping).Confined := by
  unfold merge.bad
  grind

@[grind ←] theorem merge_confined (forCall : Bool) (dict mapping : Value) :
    (merge forCall dict mapping).Confined := by
  unfold merge
  refine .bind .world fun w => ?_
  split
  · split
    · refine .bind (.forIn (fun e u => ?_) _ _) fun u => .pure _
      grind
    · exact bad_confined _ _
  · exact bad_confined _ _

@[grind ←] theorem toRaise_confined (hcall : call.Confined) (v : Value) :
    (toRaise call v).Confined := by
  have hcalls : ∀ v args, (call v args).Confined := hcall
  unfold toRaise
  grind

@[grind ←] theorem isMatch_confined (e type : Value) : (isMatch e type).Confined := by
  unfold isMatch
  grind

@[grind ←] theorem stopValue_confined (e : Value) : (stopValue e).Confined := by
  unfold stopValue
  grind

@[grind ←] theorem send_confined (hcall : call.Confined) (it sent : Value) :
    (send call it sent).Confined := by
  unfold send
  grind

@[grind ←] theorem cannotAwait_confined (v : Value) (w : World) :
    (delegateOf.cannotAwait v w).Confined := by
  unfold delegateOf.cannotAwait
  grind

@[grind ←] theorem delegateOf_confined (hcall : call.Confined) (isAwait : Bool) (v : Value) :
    (delegateOf call isAwait v).Confined := by
  unfold delegateOf
  refine .bind .world fun w => ?_
  split <;> grind

@[grind ←] theorem enterContext_confined (hcall : call.Confined) (manager : Value) :
    (enterContext call manager).Confined := by
  have hcalls : ∀ v args, (call v args).Confined := hcall
  unfold enterContext
  grind

@[grind ←] theorem exitContext_confined (hcall : call.Confined) (a : Activation) :
    (exitContext call a).Confined := by
  unfold exitContext
  grind

@[grind ←] theorem formatted_confined (hcall : call.Confined) (conversion : Syntax.Conversion)
    (v : Value) : (formatted call conversion v).Confined := by
  unfold formatted
  grind

@[grind ←] theorem newCell_confined (v : Option Value) : (newCell v).Confined := .new _ _

@[grind ←] theorem addToSet_confined (items : List (Key × Value)) (v : Value) :
    (addToSet items v).Confined := by
  unfold addToSet
  grind

@[grind ←] theorem makeSet_confined (xs : List Value) : (makeSet xs).Confined := by
  unfold makeSet
  grind

@[grind ←] theorem noteType_confined (a : Activation) (name : String) (type : Value) :
    (noteType a name type).Confined := by
  unfold noteType
  grind

/-! ## Instructions -/

@[grind ←] theorem valueStep_confined (hcall : call.Confined) (a : Activation) (i : Instr) :
    (valueStep call a i).Confined := by
  unfold valueStep
  grind

theorem extendList_confined (r : Ref) (ys : List Value) (a : Activation) : Run.Confined (do
    match (← Run.world).thing? r with
    | some { body := .list xs, .. } => Run.setBody r (.list (xs ++ ys))
    | _ => pure ()
    return a) := by
  refine .bind_world fun w => ?_
  split
  · rename_i hthing
    refine .bind (.setBody ?_) fun _ _ _ => .of (.pure _)
    exact World.Allows.of_thing? hthing
  · exact .of (.pure _)

@[grind ←] theorem containerStep_confined (hcall : call.Confined) (a : Activation) (i : Instr) :
    (a.containerStep call i).Confined := by
  unfold containerStep
  -- A list or a set stays one, whatever is added to it.
  cases i with
  | append depth =>
    refine .bind (pop_confined a) fun p => .bind (peek_confined _ depth) fun v => ?_
    split
    · refine .bind_world fun w => ?_
      split
      · rename_i hthing
        refine .bind (.setBody ?_) fun _ _ _ => .of (.pure _)
        exact World.Allows.of_thing? hthing
      · exact .of (.pure _)
    · exact .pure _
  | addToSet depth =>
    refine .bind (pop_confined a) fun p => .bind (peek_confined _ depth) fun v => ?_
    split
    · refine .bind_world fun w => ?_
      split
      · rename_i hthing
        refine .bind (.of (addToSet_confined _ _)) fun items w₁ h₁ => ?_
        refine .bind (.setBody ?_) fun _ _ _ => .of (.pure _)
        exact (World.Allows.of_thing? hthing).lasts h₁.lasts
      · exact .of (.pure _)
    · exact .pure _
  | extend =>
    refine .bind (pop_confined a) fun p => .bind (peek_confined _ 0) fun v => ?_
    split
    · refine .bind (World.getIter?_confined hcall _) fun it => ?_
      split
      · exact .bind (World.drainAll_confined hcall _) fun ys => extendList_confined _ ys _
      · exact .bind .world fun w => .bind (.raise _ _) fun ys => extendList_confined _ ys _
    · exact .pure _
  | _ => grind

@[grind ←] theorem callStep_confined (hcall : call.Confined) (a : Activation) (i : Instr) :
    (callStep call a i).Confined := by
  unfold callStep
  grind

@[grind ←] theorem controlStep_confined (hcall : call.Confined) (a : Activation) (i : Instr) :
    (a.controlStep call i).Confined := by
  unfold controlStep
  cases i with
  | raise n => dsimp only; split <;> grind
  | _ => grind

@[grind ←] theorem step_confined (hcall : call.Confined) (a : Activation) :
    (step call a).Confined := by
  unfold step
  grind

@[grind ←] theorem guardedStep_confined (hcall : call.Confined) (a : Activation) :
    (guardedStep call a).Confined := by
  unfold guardedStep
  grind

@[grind ←] theorem runFor_confined (hcall : call.Confined) (n : Nat) (a : Activation) :
    (a.runFor call n).Confined := by
  induction n generalizing a with
  | zero => exact .throw _
  | succ n ih =>
    unfold runFor
    refine .bind (guardedStep_confined hcall a) fun step => ?_
    cases step with
    | go a => exact ih a
    | yields v a => exact .pure _
    | leave a reason => grind

@[grind ←] theorem run_confined (hcall : call.Confined) (a : Activation) :
    (run call a).Confined := runFor_confined hcall maxSteps a

end Graft.Machine.Activation
