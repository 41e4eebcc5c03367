import Graft.Proofs.Slots

set_option autoImplicit false

/-! # Receivers of patched members

What is read from a class or an instance is not what the class keeps: functions are bound to the
instance, static methods to nothing, and class methods to the class.  A patch puts a function in the
place of the member, in the wrapping of a static or class method if it had one.  So what the patched
callable gets is decided twice, by how the function is bound and by how the callable was.  The two
agree except where an instance has a member that it does not bind. -/

namespace Graft

open Machine Data Patch

/-! ## Calls that come down to other calls -/

/-- A call of a value comes down to a call of another one, so many levels deeper and with these
    arguments: through bound methods and through wrappers that have no hooks. -/
inductive World.Passes (w : World) : Nat → Value → Args → Value → Args → Prop
  | here (v : Value) (args : Args) : Passes w 0 v args v args
  | method {n : Nat} {v f self g : Value} {args args' : Args}
      (body : w.body? v = some (.method f self)) (rest : Passes w n f (Patch.behind self args) g args') :
      Passes w (n + 1) v args g args'
  | wrapper {n : Nat} {v id wrapped g : Value} {patch : Ref} {args args' : Args}
      (wraps : Wraps w v patch id wrapped {}) (rest : Passes w n wrapped args g args') :
      Passes w (n + 1) v args g args'
  | bound {self : Value} {c : String} (name : String) (args : Args)
      (fits : w.isInstance self (.cls c) = true) :
      Passes w 0 (.bound self name) args (.slot c name) (Patch.behind self args)

namespace World

variable {w w' : World} {v g id wrapped : Value} {patch : Ref} {args args' : Args} {n : Nat}

/-- A wrapper without hooks calls what it is around, and that is all. -/
theorem invoke_wrapper {call : Caller} (hcall : call.Confined)
    (h : Wraps w v patch id wrapped {}) (args : Args) :
    (World.invoke call v args).result w = (call wrapped args).result w := by
  rw [h.wrapper.invoke_eq]
  have hdecide : (Patch.decide call Value.none id args).result w =
      (.ok (.proceed args.positional false), w) := rfl
  unfold dispatch
  simp only [Run.result_bind, Run.result_world, h.hooksOf, Value.isNone, Bool.not_true,
    Bool.false_eq_true, if_false, hdecide]
  have hlasts := (hcall wrapped args w).lasts
  rcases hresult : (call wrapped args).result w with ⟨e | x, w₁⟩
  · rfl
  · rw [hresult] at hlasts
    dsimp only
    rw [(h.lasts hlasts).hooksOf]
    rfl

theorem invoke_bound {call : Caller} {self : Value} {c : String}
    (fits : w.isInstance self (.cls c) = true) (name : String) (args : Args) :
    (World.invoke call (.bound self name) args).result w =
      (World.invoke call (.slot c name) (Patch.behind self args)).result w := by
  unfold World.invoke Builtin.applyUnbound
  simp only [Run.result_bind, Run.result_world, Patch.behind, fits, if_true]

theorem invoke_method {call : Caller} {f self : Value} (body : w.body? v = some (.method f self))
    (args : Args) :
    (World.invoke call v args).result w = (call f (Patch.behind self args)).result w := by
  cases v with
  | thing r =>
    have hthing : (w.thing? r).map Thing.body = some (.method f self) := body
    unfold World.invoke
    simp only [Run.result_bind, Run.result_world, hthing]
    rfl
  | _ => cases body

/-- **A call does what the call does that it comes down to.** -/
theorem Passes.result (h : w.Passes n v args g args') (k : Nat) :
    (callWithin (k + n) v args).result w = (callWithin k g args').result w := by
  induction h with
  | here => rfl
  | @method n _ _ _ _ _ _ body rest ih =>
    rw [← ih, ← Nat.add_assoc]
    exact invoke_method body _
  | @wrapper n _ _ _ _ _ _ _ wraps rest ih =>
    rw [← ih, ← Nat.add_assoc]
    exact invoke_wrapper (callWithin_confined (k + n)) wraps _
  | bound name args fits =>
    cases k with
    | zero => rfl
    | succ k => exact invoke_bound fits name args

/-- A call that comes down to a wrapper without hooks comes down to what the wrapper is around. -/
theorem Passes.wrapper_end {u : Value} (h : w.Passes n v args u args')
    (hwraps : Wraps w u patch id g {}) : w.Passes (n + 1) v args g args' := by
  induction h with
  | here => exact .wrapper hwraps (.here _ _)
  | method body rest ih => exact .method body (ih hwraps)
  | wrapper wraps rest ih => exact .wrapper wraps (ih hwraps)
  | bound =>
    obtain ⟨f, hbody, -⟩ := hwraps.wrapper
    cases hbody

end World

/-! ## Ways to members of classes -/

/-- A way to the members of a class: through the class itself, or through an instance of it. -/
structure Access where
  holder : Value
  cls : Value
  isInstance : Bool

/-- The arguments that a callable gets when it is called on a way with arguments, by how the class
    keeps it and whether it is bound to instances. -/
def Access.handed (a : Access) (how : Convention) (isBound : Bool) (args : Args) : Args :=
  match how with
  | .static => args
  | .ofClass => behind a.cls args
  | .plain => if a.isInstance && isBound then behind a.holder args else args

/-- Getting the arguments on a way does not depend on whether the callable is bound, unless an
    instance has it in no wrapping. -/
theorem Access.handed_eq_iff (a : Access) (how : Convention) (isBound : Bool) :
    (∀ args, a.handed how true args = a.handed how isBound args) ↔
      ¬(a.isInstance = true ∧ how = .plain ∧ isBound = false) := by
  constructor
  · rintro heq ⟨hinstance, rfl, rfl⟩
    have hnone := congrArg (List.length ∘ Args.positional) (heq {})
    simp [handed, hinstance, behind] at hnone
  · intro hnot args
    cases how with
    | plain =>
      cases hinstance : a.isInstance with
      | false => simp [handed, hinstance]
      | true =>
        cases isBound with
        | true => rfl
        | false => exact absurd ⟨hinstance, rfl, rfl⟩ hnot
    | _ => rfl

namespace World

variable {w w' : World} {name : String} {call : Caller} {a : Access}

/-- A name leads into a class: the holder has nothing of its own under it. -/
inductive LeadsInto (w : World) (name : String) : Access → Prop
  | ofClass {r : Ref} {c : MadeClass} (body : w.body? (.thing r) = some (.cls c))
      (ordinary : name ∉ "__class__" :: classNames) : LeadsInto w name ⟨.thing r, .thing r, false⟩
  | ofInstance {r : Ref} {t : Thing} {cls : Value} (thing : w.thing? r = some t)
      (isInstance : t.body = .instance cls ∨ ∃ args, t.body = .exception cls args)
      (hidden : ∀ w : World, (bodyAttr r t.body name).Gives w none w)
      (missing : t.table.get? name = none) : LeadsInto w name ⟨.thing r, cls, true⟩

/-- What a class and those that it inherits from have under a name: how it is called, and what it is
    without its wrapping. -/
inductive Offers (w : World) (name : String) (cls : Value) : Convention → Value → Prop
  | made {x : Value} (found : w.findMade cls name = some x)
      (noProperty : ∀ g s, w.body? x ≠ some (.property g s)) :
      Offers w name cls (w.unwrap x).1 (w.unwrap x).2
  | method {c : String} {kind : Builtin.MemberKind} (unmade : w.findMade cls name = none)
      (found : w.findSupplied cls name = some (c, kind))
      (isMethod : kind = .method ∨ kind = .special) : Offers w name cls .plain (.slot c name)
  | static {c : String} (unmade : w.findMade cls name = none)
      (found : w.findSupplied cls name = some (c, .static)) (isNotNew : name ≠ "__new__") :
      Offers w name cls .static (.builtin name)

/-- Whether a callable is bound to the instance that it is found through. -/
def binds (w : World) : Value → Bool
  | .slot _ _ => true
  | v => w.isFunction v

/-- What a class offers can be bound to the holder. -/
def Fits (w : World) (a : Access) (g : Value) : Prop :=
  ∀ c name, g = .slot c name → a.isInstance = true → w.isInstance a.holder (.cls c) = true

/-- What is read through a way passes its calls on to a callable, with other arguments. -/
def Reads (call : Caller) (w : World) (a : Access) (name : String) (g : Value)
    (handed : Args → Args) : Prop :=
  ∃ v w₁ n, (getAttr call a.holder name).Gives w v w₁ ∧
    (∀ args, w₁.Passes n v args g (handed args)) ∧
    ∀ k args, (callWithin (k + n) v args).result w₁ = (callWithin k g (handed args)).result w₁

/-! ## Reading members -/

theorem Reads.intro {v g : Value} {w₁ : World} {n : Nat} {handed : Args → Args}
    (hread : (getAttr call a.holder name).Gives w v w₁)
    (hpasses : ∀ args, w₁.Passes n v args g (handed args)) : w.Reads call a name g handed :=
  ⟨v, w₁, n, hread, hpasses, fun k args => (hpasses args).result k⟩

/-- What is read and passes its calls on to a wrapper without hooks passes them on to what the
    wrapper is around. -/
theorem Reads.through {v id g : Value} {patch : Ref} {handed : Args → Args} (hcall : call.Confined)
    (h : w.Reads call a name v handed) (hwraps : Wraps w v patch id g {}) :
    w.Reads call a name g handed := by
  obtain ⟨u, w₁, n, hread, hpasses, -⟩ := h
  have hlater := hwraps.lasts ((getAttr_confined hcall _ _).of_gives hread).lasts
  exact .intro hread fun args => (hpasses args).wrapper_end hlater

/-- A member that is read from a class is called without a receiver, or with the class. -/
theorem classMember_passes (cls x : Value) (isBound : Bool) :
    ∃ v w₁ n, (classMember cls x).Gives w v w₁ ∧ ∀ args,
      w₁.Passes n v args (w.unwrap x).2
        (Access.handed ⟨cls, cls, false⟩ (w.unwrap x).1 isBound args) := by
  obtain ⟨f, hbody, hunwrap⟩ | ⟨f, hbody, hunwrap⟩ | ⟨hunwrap, hstatic, hclass⟩ := w.unwrap_cases x
  · rw [hunwrap]
    refine ⟨f, w, 0, ?_, .here f⟩
    exact Run.gives_bind.2 ⟨_, w, Run.gives_bodyOf.2 ⟨hbody, rfl⟩, Run.gives_pure.2 ⟨rfl, rfl⟩⟩
  · rw [hunwrap]
    have hgives : (classMember cls x).Gives w (.thing (w.alloc { body := .method f cls }).1)
        (w.alloc { body := .method f cls }).2 :=
      Run.gives_bind.2 ⟨_, w, Run.gives_bodyOf.2 ⟨hbody, rfl⟩, Run.gives_newValue.2 ⟨rfl, rfl⟩⟩
    exact ⟨_, _, 1, hgives, fun args => .method body?_alloc_self (.here f _)⟩
  · rw [hunwrap]
    refine ⟨x, w, 0, Run.gives_bind.2 ⟨_, w, Run.gives_bodyOf.2 ⟨rfl, rfl⟩, ?_⟩, .here x⟩
    split
    · rename_i f hbody
      exact absurd hbody (hstatic f)
    · rename_i f hbody
      exact absurd hbody (hclass f)
    · exact Run.gives_pure.2 ⟨rfl, rfl⟩

/-- A member of no wrapping is bound to the instance if that is possible. -/
theorem bindMember_plain (cls self : Value) {x : Value} (hstatic : ∀ f, w.body? x ≠ some (.staticMethod f))
    (hclass : ∀ f, w.body? x ≠ some (.classMethod f)) (hfits : w.Fits ⟨self, cls, true⟩ x) :
    ∃ v w₁ n, (bindMember cls self x).Gives w v w₁ ∧ ∀ args,
      w₁.Passes n v args x (if w.binds x then Patch.behind self args else args) := by
  cases x with
  | slot c method =>
    refine ⟨.bound self method, w, 0, Run.gives_pure.2 ⟨rfl, rfl⟩, fun args => ?_⟩
    exact .bound method args (hfits c method rfl rfl)
  | thing r =>
    have hbinds : w.binds (.thing r) = w.isFunction (.thing r) := rfl
    -- Among things only functions are bound; all others are handed out as they are.
    cases hfunction : w.isFunction (.thing r) with
    | true =>
      have hbody : ∃ f, w.body? (.thing r) = some (.function f) := by
        unfold isFunction at hfunction
        split at hfunction
        · exact ⟨_, ‹_›⟩
        · cases hfunction
      obtain ⟨f, hbody⟩ := hbody
      have hgives : (bindMember cls self (.thing r)).Gives w
          (.thing (w.alloc { body := .method (.thing r) self }).1)
          (w.alloc { body := .method (.thing r) self }).2 :=
        Run.gives_bind.2 ⟨_, w, Run.gives_bodyOf.2 ⟨hbody, rfl⟩, Run.gives_newValue.2 ⟨rfl, rfl⟩⟩
      refine ⟨_, _, 1, hgives, fun args => ?_⟩
      rw [hbinds, hfunction, if_pos rfl]
      exact .method body?_alloc_self (.here _ _)
    | false =>
      refine ⟨.thing r, w, 0, Run.gives_bind.2 ⟨_, w, Run.gives_bodyOf.2 ⟨rfl, rfl⟩, ?_⟩, ?_⟩
      · split
        · rename_i hbody
          rw [isFunction, hbody] at hfunction
          cases hfunction
        · rename_i f hbody
          exact absurd hbody (hstatic f)
        · rename_i f hbody
          exact absurd hbody (hclass f)
        · exact Run.gives_pure.2 ⟨rfl, rfl⟩
      · intro args
        rw [hbinds, hfunction]
        exact .here _ args
  | _ => exact ⟨_, w, 0, Run.gives_pure.2 ⟨rfl, rfl⟩, .here _⟩

/-- A member that is read from an instance is called with the instance, if it can be bound to it. -/
theorem bindMember_passes (cls self x : Value) (hfits : w.Fits ⟨self, cls, true⟩ (w.unwrap x).2) :
    ∃ v w₁ n, (bindMember cls self x).Gives w v w₁ ∧ ∀ args,
      w₁.Passes n v args (w.unwrap x).2
        (Access.handed ⟨self, cls, true⟩ (w.unwrap x).1 (w.binds (w.unwrap x).2) args) := by
  obtain ⟨f, hbody, hunwrap⟩ | ⟨f, hbody, hunwrap⟩ | ⟨hunwrap, hstatic, hclass⟩ := w.unwrap_cases x
  · rw [hunwrap]
    refine ⟨f, w, 0, ?_, .here f⟩
    cases x with
    | thing r =>
      exact Run.gives_bind.2 ⟨_, w, Run.gives_bodyOf.2 ⟨hbody, rfl⟩, Run.gives_pure.2 ⟨rfl, rfl⟩⟩
    | _ => cases hbody
  · rw [hunwrap]
    have hgives : (bindMember cls self x).Gives w (.thing (w.alloc { body := .method f cls }).1)
        (w.alloc { body := .method f cls }).2 := by
      cases x with
      | thing r =>
        exact Run.gives_bind.2
          ⟨_, w, Run.gives_bodyOf.2 ⟨hbody, rfl⟩, Run.gives_newValue.2 ⟨rfl, rfl⟩⟩
      | _ => cases hbody
    exact ⟨_, _, 1, hgives, fun args => .method body?_alloc_self (.here f _)⟩
  · rw [hunwrap] at hfits ⊢
    exact bindMember_plain cls self hstatic hclass hfits

theorem getAttr_of_classAttr {v x : Value} (hclass : w.isClass v = true)
    (h : (classAttr v name).Gives w (some x) w') : (getAttr call v name).Gives w x w' := by
  refine getAttr_of_plainAttr ?_
  unfold plainAttr
  refine Run.gives_bind_world.2 ?_
  rw [if_pos hclass]
  exact h

section

variable {r : Ref} {c : MadeClass} (body : w.body? (.thing r) = some (.cls c))
  (ordinary : name ∉ "__class__" :: classNames)

include body ordinary

theorem classAttr_made {x v : Value} {w₁ : World} (found : w.findMade (.thing r) name = some x)
    (h : (classMember (.thing r) x).Gives w v w₁) :
    (classAttr (.thing r) name).Gives w (some v) w₁ := by
  unfold classAttr
  refine Run.gives_bind_world.2 (Run.gives_bind.2 ⟨none, w, typeAttr_ordinary body ?_, ?_⟩)
  · exact fun hname => ordinary (List.mem_cons_of_mem _ hname)
  · simp only [found]
    exact Run.gives_bind.2 ⟨v, w₁, h, Run.gives_pure.2 ⟨rfl, rfl⟩⟩

theorem classAttr_supplied {cls : String} {kind : Builtin.MemberKind}
    (unmade : w.findMade (.thing r) name = none)
    (found : w.findSupplied (.thing r) name = some (cls, kind)) (hkind : kind ≠ .classMethod) :
    (classAttr (.thing r) name).Gives w
      (some (if kind = .static then .builtin name else .slot cls name)) w := by
  unfold classAttr
  refine Run.gives_bind_world.2 (Run.gives_bind.2 ⟨none, w, typeAttr_ordinary body ?_, ?_⟩)
  · exact fun hname => ordinary (List.mem_cons_of_mem _ hname)
  · simp only [unmade]
    split
    case h_3 => exact absurd List.mem_cons_self ordinary
    case h_4 =>
      simp only [found]
      cases kind with
      | classMethod => exact absurd rfl hkind
      | _ => exact Run.gives_pure.2 ⟨rfl, rfl⟩
    all_goals exact absurd ‹Value.thing r = Value.cls _› nofun

end

theorem classOf_ofInstance {r : Ref} {t : Thing} {cls : Value} (thing : w.thing? r = some t)
    (isInstance : t.body = .instance cls ∨ ∃ args, t.body = .exception cls args) :
    w.classOf (.thing r) = cls ∧ w.isClass (.thing r) = false := by
  rcases isInstance with hb | ⟨args, hb⟩ <;>
    simp [classOf, classOfBody, isClass, madeClass?, body?, thing, hb]

/-- An instance that has nothing of its own under a name is asked for what its class has. -/
theorem plainAttr_ofInstance {r : Ref} {t : Thing} {cls : Value} {found : Option Value}
    (thing : w.thing? r = some t)
    (isInstance : t.body = .instance cls ∨ ∃ args, t.body = .exception cls args)
    (hidden : (bodyAttr r t.body name).Gives w none w) (missing : t.table.get? name = none)
    (noProperty : ∀ g s, (w.findMade cls name).bind w.body? ≠ some (.property g s))
    (h : Run.Gives (do
      match w.findMade cls name with
      | some member => return some (← bindMember cls (.thing r) member)
      | none => return w.suppliedAttr (.thing r) name) w found w') :
    (plainAttr call (.thing r) name).Gives w found w' := by
  obtain ⟨hcls, hclass⟩ := classOf_ofInstance thing isInstance
  unfold plainAttr
  refine Run.gives_bind_world.2 ?_
  rw [if_neg (by simp [hclass])]
  simp only [hcls]
  split
  · exact absurd ‹_› (noProperty _ _)
  · exact absurd ‹_› (noProperty _ _)
  · rw [thing]
    split
    · rename_i heq
      cases heq
      rcases isInstance with hb | ⟨args, hb⟩ <;> cases hb
    · rename_i heq
      cases heq
      refine Run.gives_bind.2 ⟨none, w, hidden, ?_⟩
      refine Run.gives_bind.2 ⟨none, w, Run.gives_pure.2 ⟨missing, rfl⟩, ?_⟩
      cases hmade : w.findMade cls name <;> rw [hmade] at h <;> exact h
    · rename_i heq
      cases heq

/-- If no class that programs have made has it, the language supplies it. -/
theorem getAttr_supplied {r : Ref} {t : Thing} {cls v : Value} (thing : w.thing? r = some t)
    (isInstance : t.body = .instance cls ∨ ∃ args, t.body = .exception cls args)
    (hidden : (bodyAttr r t.body name).Gives w none w) (missing : t.table.get? name = none)
    (unmade : w.findMade cls name = none)
    (supplied : w.suppliedAttr (.thing r) name = some v) :
    (getAttr call (.thing r) name).Gives w v w := by
  refine getAttr_of_plainAttr (plainAttr_ofInstance thing isInstance hidden missing ?_ ?_)
  · rw [unmade]
    nofun
  · rw [unmade, ← supplied]
    exact Run.gives_pure.2 ⟨rfl, rfl⟩

/-- What a class offers is what is read through a way that leads into it. -/
theorem LeadsInto.reads {how : Convention} {g : Value} (ha : w.LeadsInto name a)
    (hoffers : w.Offers name a.cls how g) (hfits : w.Fits a g) :
    w.Reads call a name g (a.handed how (w.binds g)) := by
  -- A class hands out what it has itself, and an instance what is bound to it.
  cases ha with
  | @ofClass r c body ordinary =>
    have hclass : w.isClass (.thing r) = true := by simp [isClass, madeClass?, body]
    cases hoffers with
    | @made x found noProperty =>
      obtain ⟨v, w₁, n, hgives, hpasses⟩ := classMember_passes (w := w) (.thing r) x
        (w.binds (w.unwrap x).2)
      exact .intro (getAttr_of_classAttr hclass (classAttr_made body ordinary found hgives)) hpasses
    | @method c kind unmade found isMethod =>
      have hkind : kind ≠ .classMethod ∧ kind ≠ .static := by
        rcases isMethod with rfl | rfl <;> simp
      have hread := classAttr_supplied body ordinary unmade found hkind.1
      rw [if_neg hkind.2] at hread
      exact .intro (getAttr_of_classAttr hclass hread) (.here _)
    | @static c unmade found isNotNew =>
      have hread := classAttr_supplied body ordinary unmade found (by simp)
      rw [if_pos rfl] at hread
      exact .intro (getAttr_of_classAttr hclass hread) (.here _)
  | @ofInstance r t cls thing isInstance hidden missing =>
    cases hoffers with
    | @made x found noProperty =>
      obtain ⟨v, w₁, n, hgives, hpasses⟩ := bindMember_passes cls (.thing r) x hfits
      refine .intro (getAttr_of_plainAttr
        (plainAttr_ofInstance thing isInstance (hidden w) missing ?_ ?_)) hpasses
      · rw [found]
        exact noProperty
      · rw [found]
        exact Run.gives_bind.2 ⟨v, w₁, hgives, Run.gives_pure.2 ⟨rfl, rfl⟩⟩
    | @method c kind unmade found isMethod =>
      have hsupplied : w.suppliedAttr (.thing r) name = some (.bound (.thing r) name) := by
        unfold suppliedAttr
        rw [(classOf_ofInstance thing isInstance).1, found]
        rcases isMethod with rfl | rfl <;> rfl
      exact .intro (getAttr_supplied thing isInstance (hidden w) missing unmade hsupplied)
        fun args => .bound name args (hfits c name rfl rfl)
    | @static c unmade found isNotNew =>
      have hsupplied : w.suppliedAttr (.thing r) name = some (.builtin name) := by
        unfold suppliedAttr
        rw [(classOf_ofInstance thing isInstance).1, found]
      exact .intro (getAttr_supplied thing isInstance (hidden w) missing unmade hsupplied) (.here _)

end World

end Graft
