import Graft.Machine.Call
import Graft.Proofs.Reach.Programs

set_option autoImplicit false

/-! # Calls are confined

What a call does is confined if the calls within it are, whatever is called: what the language
supplies, described functions, wrappers, and functions and classes of programs.  By induction on how
deep calls are nested, every call that a program makes is confined. -/

namespace Graft

open Machine Data Code

variable {α : Type} {call : Caller}

namespace Machine.Builtin

/-! ## Instances of the classes that the language supplies -/

@[grind ←] theorem noKeywords_confined (function : String) (args : Args) :
    (noKeywords function args).Confined := by
  unfold noKeywords
  grind

@[grind ←] theorem atMost_confined (function : String) (n : Nat) (args : Args) :
    (atMost function n args).Confined := by
  unfold atMost
  grind

@[grind ←] theorem checkNamed_confined (function : String) (unnamed : Nat) (names : List String)
    (args : Args) : (checkNamed function unnamed names args).Confined := by
  unfold checkNamed
  grind

@[grind ←] theorem makeText_confined (hcall : call.Confined) (args : Args) :
    (makeText call args).Confined := by
  unfold makeText
  refine .bind (checkNamed_confined _ _ _ args) fun _ => .bind .world fun w => ?_
  extract_lets check encoding errors
  have hcheck : ∀ name v, (check name v).Confined := by grind
  refine .bind (hcheck _ _) fun _ => .bind (hcheck _ _) fun _ => ?_
  split <;> grind

@[grind ←] theorem makeInt_confined (v : Value) : (makeInt v).Confined := by
  unfold makeInt
  grind

@[grind ←] theorem makeIntInBase_confined (v base : Value) : (makeIntInBase v base).Confined := by
  unfold makeIntInBase
  refine .bind .world fun w => ?_
  split
  · exact .raise _ _
  · exact .raise _ _
  · split
    · exact makeInt_confined v
    · split
      · exact .raise _ _
      · extract_lets digit digits
        split
        · exact .pure _
        · exact .raise _ _

@[grind ←] theorem makeFloat_confined (v : Value) : (makeFloat v).Confined := by
  unfold makeFloat
  grind

@[grind ←] theorem rangeBound_confined (v : Value) : (rangeBound v).Confined := by
  unfold rangeBound
  grind

@[grind ←] theorem makeRange_confined (bounds : List Value) : (makeRange bounds).Confined := by
  unfold makeRange
  grind

@[grind ←] theorem pairOf_confined (hcall : call.Confined) (i : Nat) (v : Value) :
    (makeDict.pairOf call i v).Confined := by
  unfold makeDict.pairOf
  grind

@[grind ←] theorem makeDict_confined (hcall : call.Confined) (args : Args) :
    (makeDict call args).Confined := by
  unfold makeDict
  refine .bind (atMost_confined _ 1 args) fun _ => .bind (World.newDict_confined []) fun dict => ?_
  extract_lets last rest
  have hrest : ∀ u, (rest u).Confined := by grind
  split
  · exact hrest ()
  · refine .bind .world fun w => ?_
    split
    · grind
    · refine .bind (World.toList_confined hcall _) fun xs => ?_
      refine .bind (.forIn (fun pair u => ?_) _ _) hrest
      split
      grind

@[grind ←] theorem makeSlice_confined (bounds : List Value) : (makeSlice bounds).Confined := by
  unfold makeSlice
  grind

@[grind ←] theorem makeProperty_confined (args : Args) : (makeProperty args).Confined := by
  unfold makeProperty
  grind

@[grind ←] theorem makeType_confined (args : List Value) : (makeType args).Confined := by
  unfold makeType
  grind

@[grind ←] theorem makeModule_confined (args : Args) : (makeModule args).Confined := by
  unfold makeModule
  grind

@[grind ←] theorem makeChoice_confined (typeName : String) (v : Value) :
    (makeChoice typeName v).Confined := by
  unfold makeChoice
  grind

@[grind ←] theorem makeException_confined (cls : String) (args : Args) :
    (makeException cls args).Confined := by
  unfold makeException
  grind

@[grind ←] theorem makeWrapped_confined (cls : String) (wrap : Value → Body) (args : Args) :
    (makeWrapped cls wrap args).Confined := by
  unfold makeWrapped
  grind

@[grind ←] theorem construct_confined (hcall : call.Confined) (cls : String) (args : Args) :
    (construct call cls args).Confined := by
  unfold construct
  grind

end Machine.Builtin

namespace Machine.Suspended

/-! ## Calls that are suspended -/

variable {w : World} {s : Suspended} {r : Ref}

theorem keep_confinedAt (h : w.Allows r (.suspended s)) (p : Progress) :
    (keep s r p).ConfinedAt w := .setBody h

theorem advance_confinedAt (hcall : call.Confined) (h : w.Allows r (.suspended s))
    (a : Activation) : (advance call s r a).ConfinedAt w := by
  unfold advance
  refine .bind (.tryCatch (.of (Activation.run_confined hcall a)) fun e w₁ h₁ => ?_)
    fun completion w₁ h₁ => ?_
  · split
    · refine .bind (keep_confinedAt (h.lasts h₁.lasts) _) fun _ _ _ => .of ?_
      grind
    · exact .of (.throw _)
  · have h' := h.lasts h₁.lasts
    split
    · exact .bind (keep_confinedAt h' _) fun _ _ _ => .of (.pure _)
    · exact .bind (keep_confinedAt h' _) fun _ _ _ => .of (.raiseWith _ _)

theorem raiseAt_confinedAt (hcall : call.Confined) (h : w.Allows r (.suspended s)) (a : Activation)
    (e : Value) : (raiseAt call s r a e).ConfinedAt w := by
  unfold raiseAt
  split
  · exact .bind (keep_confinedAt h _) fun _ w₁ h₁ =>
      advance_confinedAt hcall (h.lasts h₁.lasts) _
  · exact .bind (keep_confinedAt h _) fun _ _ _ => .of (.throw _)

theorem resume_confinedAt (hcall : call.Confined) (h : w.Allows r (.suspended s))
    (signal : Signal) : (resume call s r signal).ConfinedAt w := by
  have hrunning : ∀ a : Activation, (do s.keep r .running; s.advance call r a).ConfinedAt w :=
    fun a => .bind (keep_confinedAt h _) fun _ w₁ h₁ =>
      advance_confinedAt hcall (h.lasts h₁.lasts) a
  unfold resume
  split
  · exact .of (.raise _ _)
  · exact .of (.throw _)
  · split <;> exact .of (by grind)
  · exact .bind (keep_confinedAt h _) fun _ _ _ => .of (.throw _)
  · split
    · exact hrunning _
    · exact .of (.raise _ _)
  · exact hrunning _
  · exact raiseAt_confinedAt hcall h _ _

theorem close_confinedAt (hcall : call.Confined) (h : w.Allows r (.suspended s)) :
    (s.close call r).ConfinedAt w := by
  have hends : ∀ {w : World} (cls : String) {run : Run Value}, run.ConfinedAt w →
      (Run.recover cls run fun _ => return .none).ConfinedAt w := by
    intro w cls run hrun
    refine .tryCatch hrun fun e _ _ => .of ?_
    split <;> grind
  unfold close
  refine .bind (.of (.newValue _ _)) fun e w₁ h₁ => ?_
  dsimp only
  split
  · exact .of (.pure _)
  · refine hends _ (hends _ (.bind (resume_confinedAt hcall (h.lasts h₁.lasts) _) ?_))
    exact fun _ _ _ => .of (.raise _ _)

end Machine.Suspended

namespace Machine.Builtin

/-! ## Functions and methods that the language supplies -/

@[grind ←] theorem exactlyOne_confined (function : String) (given : Nat) :
    (exactlyOne function given : Run α).Confined := .raise _ _

@[grind ←] theorem exactly_confined (function : String) (n given : Nat) :
    (exactly function n given : Run α).Confined := .raise _ _

@[grind ←] theorem length_confined (hcall : call.Confined) (v : Value) :
    (length call v).Confined := by
  unfold length
  grind

@[grind ←] theorem extreme_confined (hcall : call.Confined) (op : Syntax.Comparison)
    (key best : Value) (vs : List Value) : (extreme call op key best vs).Confined := by
  induction vs generalizing best with
  | nil => exact .pure _
  | cons v vs ih => unfold extreme; grind

@[grind ←] theorem extremeOf_confined (hcall : call.Confined) (function : String)
    (op : Syntax.Comparison) (args : Args) : (extremeOf call function op args).Confined := by
  unfold extremeOf
  grind

@[grind ←] theorem sumOf_confined (hcall : call.Confined) (args : Args) :
    (sumOf call args).Confined := by
  unfold sumOf
  grind

@[grind ←] theorem attributeName_confined (v : Value) : (attributeName v).Confined := by
  unfold attributeName
  grind

@[grind ←] theorem applyFunction_confined (hcall : call.Confined) (name : String) (args : Args) :
    (applyFunction call name args).Confined := by
  unfold applyFunction
  split <;> grind

@[grind ←] theorem noArguments_confined (method : String) (given : Nat) :
    (noArguments method given : Run α).Confined := .raise _ _

@[grind ←] theorem trimSet_confined (method : String) (vs : List Value) :
    (trimSet method vs).Confined := by
  unfold trimSet
  split
  · exact .pure _
  · exact .pure _
  · split
    · exact .pure _
    · exact .raise _ _
  · exact .raise _ _

@[grind ←] theorem joined_confined (s : String) (vs : List Value) : (joined s vs).Confined := by
  unfold joined
  grind

@[grind ←] theorem applyText_confined (hcall : call.Confined) (s method : String)
    (vs : List Value) : (applyText call s method vs).Confined := by
  unfold applyText
  split <;> grind

theorem applyList_confinedAt (hcall : call.Confined) {w : World} {r : Ref} {xs : List Value}
    (h : w.Allows r (.list xs)) (method : String) (vs : List Value) :
    (applyList call r xs method vs).ConfinedAt w := by
  have hput : ∀ {w₁ : World} (ys : List Value) (result : Option Value), w.Becomes w₁ →
      (do Run.setBody r (.list ys); return result : Run (Option Value)).ConfinedAt w₁ :=
    fun ys result h₁ => .bind (.setBody (h.lasts h₁.lasts)) fun _ _ _ => .of (.pure _)
  unfold applyList
  extract_lets put
  split
  case h_3 => exact .bind (.of (World.toList_confined hcall _)) fun ys w₁ h₁ => hput _ _ h₁
  case h_8 =>
    dsimp only
    split
    · exact hput _ _ (.refl w)
    · exact .of (.raise _ _)
  all_goals first
    | exact hput _ _ (.refl w)
    | exact .of (by grind)

@[grind ←] theorem applyMapping_confined (r : Ref) (method : String) (vs : List Value) :
    (applyMapping r method vs).Confined := by
  unfold applyMapping
  grind

theorem applySuspended_confinedAt (hcall : call.Confined) {w : World} {r : Ref} {s : Suspended}
    (h : w.Allows r (.suspended s)) (method : String) (vs : List Value) :
    (applySuspended call r s method vs).ConfinedAt w := by
  have hresume : ∀ {w₁ : World} (signal : Signal), w.Becomes w₁ →
      (do return some (← s.resume call r signal) : Run (Option Value)).ConfinedAt w₁ :=
    fun signal h₁ => .bind (Suspended.resume_confinedAt hcall (h.lasts h₁.lasts) signal) fun _ _ _ =>
      .of (.pure _)
  unfold applySuspended
  split
  · exact hresume _ (.refl w)
  · exact hresume _ (.refl w)
  · exact .bind (.of (Activation.toRaise_confined hcall _)) fun e w₁ h₁ => hresume _ h₁
  · exact .bind (Suspended.close_confinedAt hcall h) fun _ _ _ => .of (.pure _)
  · exact .of (.pure _)
  · exact .of (.pure _)

@[grind ←] theorem applySpecial_confined (hcall : call.Confined) (v : Value) (method : String)
    (args : Args) : (applySpecial call v method args).Confined := by
  have hcalls : ∀ v args, (call v args).Confined := hcall
  unfold applySpecial
  refine .bind_world fun w => ?_
  split
  case h_2 =>
    split
    · rename_i hbody
      exact .bind (.setBody ⟨_, hbody, rfl⟩) fun _ _ _ => .of (.pure _)
    · exact .of (by grind)
    · exact .of (by grind)
  all_goals exact .of (by grind)

@[grind ←] theorem applyOwn_confined (hcall : call.Confined) (v : Value) (method : String)
    (vs : List Value) : (applyOwn call v method vs).Confined := by
  unfold applyOwn
  refine .bind_world fun w => ?_
  split
  · exact .of (applyText_confined hcall _ method vs)
  · exact .of (applyText_confined hcall _ method vs)
  · rename_i hbody
    exact applyList_confinedAt hcall (.of_body? hbody) method vs
  · rename_i hbody
    exact applySuspended_confinedAt hcall (.of_body? hbody) method vs
  · exact .of (by grind)
  · exact .of (.pure _)

@[grind ←] theorem applyMethod_confined (hcall : call.Confined) (v : Value) (method : String)
    (args : Args) : (applyMethod call v method args).Confined := by
  unfold applyMethod
  grind

@[grind ←] theorem applyUnbound_confined (hcall : call.Confined) (cls method : String)
    (args : Args) : (applyUnbound call cls method args).Confined := by
  unfold applyUnbound
  grind

end Machine.Builtin

/-! ## Described functions -/

mutual

theorem build_confined (hcall : call.Confined) : ∀ form : Form, (Form.build call form).Confined
  | .value v => .pure v
  | .list forms => .bind (buildAll_confined hcall forms) fun _ => .newValue _ _
  | .tuple forms => .bind (buildAll_confined hcall forms) fun _ => .pure _
  | .iterator forms => .bind (buildAll_confined hcall forms) fun _ => .newValue _ _
  | .dict keys values =>
    .bind (buildAll_confined hcall keys) fun _ =>
      .bind (buildAll_confined hcall values) fun _ => World.newDict_confined _
  | .path path => World.atPath_confined hcall path

theorem buildAll_confined (hcall : call.Confined) :
    ∀ forms : List Form, (Form.buildAll call forms).Confined
  | [] => .pure []
  | form :: forms =>
    .bind (build_confined hcall form) fun _ =>
      .bind (buildAll_confined hcall forms) fun _ => .pure _

end

attribute [grind ←] build_confined buildAll_confined

namespace Run

@[grind ←] theorem trace_confined (name : String) (args : Args) : (trace name args).Confined :=
  fun w => .of_things (.traced w _) rfl

@[grind ←] theorem mark_confined (allowed : Bool) (v : Value) : (mark allowed v).Confined := by
  intro w
  unfold mark
  rw [result_bind, result_world]
  dsimp only
  cases hkey : w.flagKey? v with
  | some k => exact .of_things (.mark w k allowed) rfl
  | none => exact Confined.raise _ _ w

end Run

namespace Machine

@[grind ←] theorem Does.run_confined (hcall : call.Confined) (args : Args) (does : Does) :
    (does.run call args).Confined := by
  unfold Does.run
  cases does with
  | raises cls forms =>
    exact .bind (buildAll_confined hcall forms) fun vs =>
      .bind (Run.apply_confined hcall _ vs) fun e => .throw _
  | hook early new flow =>
    refine .bind (build_confined hcall early) fun early => ?_
    split <;> grind
  | _ => grind

@[grind ←] theorem Description.run_confined (hcall : call.Confined) (d : Description)
    (args : Args) : (d.run call args).Confined := by
  unfold Description.run
  grind

end Machine

namespace Patch

/-! ## Wrappers -/

@[grind ←] theorem guarded_confined (hcall : call.Confined) (id : Value) (hook : String)
    {run : Run α} (hrun : run.Confined) : (guarded call id hook run).Confined := by
  unfold guarded
  grind

@[grind ←] theorem askBefore_confined (hcall : call.Confined) (hook : Value) (args : Args) :
    (askBefore call hook args).Confined := by
  have hcalls : ∀ v args, (call v args).Confined := hcall
  unfold askBefore
  grind

@[grind ←] theorem decide_confined (hcall : call.Confined) (hook id : Value) (args : Args) :
    (decide call hook id args).Confined := by
  unfold decide
  grind

@[grind ←] theorem finish_confined (hcall : call.Confined) (hook id : Value) (skipsAfter : Bool)
    (args : Args) (result : Value) : (finish call hook id skipsAfter args result).Confined := by
  have hcalls : ∀ v args, (call v args).Confined := hcall
  unfold finish
  grind

@[grind ←] theorem dispatch_confined (hcall : call.Confined) (patch : Ref) (id wrapped : Value)
    (args : Args) : (dispatch call patch id wrapped args).Confined := by
  have hcalls : ∀ v args, (call v args).Confined := hcall
  unfold dispatch
  grind

end Patch

namespace Machine.Function

/-! ## Functions and classes of programs -/

@[grind ←] theorem bind_confined (f : Function) (s : Signature) (args : Args) :
    (bind f s args).Confined := by
  unfold bind
  grind

@[grind ←] theorem parameterTable_confined (f : Function) (s : Signature) (args : Args) :
    (parameterTable f s args).Confined := by
  unfold parameterTable
  refine .bind (bind_confined f s args) fun b => ?_
  grind

@[grind ←] theorem enter_confined (f : Function) (code : Code) (args : Args) :
    (enter f code args).Confined := by
  unfold enter
  extract_lets info last
  have hlast : ∀ p, (last p).Confined := by grind
  split
  · grind
  · grind
  · exact .bind (parameterTable_confined f _ args) fun t => .bind (.pure _) hlast

@[grind ←] theorem runCode_confined (hcall : call.Confined) (f : Function) (code : Code)
    (args : Args) : (runCode call f code args).Confined := by
  unfold runCode
  refine .bind (enter_confined f code args) fun a => ?_
  grind

@[grind ←] theorem runLibrary_confined (f : Function) (name : String) (args : Args) :
    (runLibrary f name args).Confined := by
  unfold runLibrary
  grind

@[grind ←] theorem run_confined (hcall : call.Confined) (f : Function) (args : Args) :
    (run call f args).Confined := by
  unfold run
  grind

end Machine.Function

namespace World

@[grind ←] theorem instantiate_confined (hcall : call.Confined) (cls : Value) (args : Args) :
    (instantiate call cls args).Confined := by
  have hcalls : ∀ v args, (call v args).Confined := hcall
  unfold instantiate
  grind

@[grind ←] theorem invoke_confined (hcall : call.Confined) (v : Value) (args : Args) :
    (invoke call v args).Confined := by
  have hcalls : ∀ v args, (call v args).Confined := hcall
  unfold invoke
  refine .bind .world fun w => ?_
  split <;> grind

end World

namespace Machine

/-- Calls that are nested to a depth stay within reach. -/
theorem callWithin_confined (n : Nat) : (callWithin n).Confined := by
  induction n with
  | zero => exact fun _ _ => .raise _ _
  | succ n ih => exact fun v args => World.invoke_confined ih v args

/-- Calls that programs make stay within reach. -/
theorem call_confined : Machine.call.Confined := callWithin_confined maxCalls

end Machine

end Graft
