import Graft.Proofs.Atomicity
import Graft.Proofs.Course
import Graft.Proofs.Reach.Engines

set_option autoImplicit false

/-! # Functions keep their code

What patches and injections do to the things that are there changes the attributes of functions at
most, never what a function does: a callable that has been replaced somewhere still does what it did
wherever else it is held.

Programs can not change it either.  So a wrapper that has been built runs the same hooks around the
same callable from then on, whatever is called in between. -/

namespace Graft

open Machine Data

/-! ## Worlds in which functions keep their code -/

/-- What a function does, the cells that it takes from around and the module that it uses. -/
structure Machine.Function.SameCode (f f' : Function) : Prop where
  behaviour : f'.behaviour = f.behaviour
  closure : f'.closure = f.closure
  globals : f'.globals = f.globals

/-- Every function that is there stays a function with the same code. -/
def World.KeepsCode (w w' : World) : Prop :=
  ∀ r f, w.body? (.thing r) = some (.function f) →
    ∃ f', w'.body? (.thing r) = some (.function f') ∧ f.SameCode f'

namespace World.KeepsCode

variable {w w₁ w₂ : World} {r : Ref}

theorem refl (w : World) : w.KeepsCode w := fun _ f hf => ⟨f, hf, rfl, rfl, rfl⟩

theorem trans (h : w.KeepsCode w₁) (h' : w₁.KeepsCode w₂) : w.KeepsCode w₂ := by
  intro r f hf
  obtain ⟨f₁, hf₁, hb, hc, hg⟩ := h r f hf
  obtain ⟨f₂, hf₂, hb', hc', hg'⟩ := h' r f₁ hf₁
  exact ⟨f₂, hf₂, hb'.trans hb, hc'.trans hc, hg'.trans hg⟩

theorem of_things (h : w₁.things = w.things) : w.KeepsCode w₁ := by
  intro r f hf
  refine ⟨f, ?_, rfl, rfl, rfl⟩
  rw [← hf, body?, body?, thing?, thing?, h]

theorem of_undisturbed (h : Undisturbed w w₁) : w.KeepsCode w₁ := by
  intro r f hf
  obtain ⟨t, ht, hbody⟩ := Option.map_eq_some_iff.1 hf
  obtain ⟨t', ht', hannotated⟩ := h.things r t ht
  have hbody' : w₁.body? (.thing r) = some t'.body := by rw [body?, ht']; rfl
  cases hannotated with
  | same => exact ⟨f, hbody'.trans (congrArg some hbody), rfl, rfl, rfl⟩
  | function g table d =>
    cases hbody
    exact ⟨_, hbody', rfl, rfl, rfl⟩
  | cls c table d => cases hbody

theorem alloc (w : World) (t : Thing) : w.KeepsCode (w.alloc t).2 := of_undisturbed (.alloc w t)

/-- A change of a thing keeps the code of functions if it does so in the case of that thing. -/
theorem change {g : Thing → Thing} (h : ∀ t f, w.thing? r = some t → t.body = .function f →
    ∃ f', (g t).body = .function f' ∧ f.SameCode f') : w.KeepsCode (w.change r g) := by
  intro s f hf
  obtain ⟨t, ht, hbody⟩ := Option.map_eq_some_iff.1 hf
  rw [body?, thing?_change]
  by_cases hs : s = r
  · subst hs
    obtain ⟨f', hf', hsame⟩ := h t f ht hbody
    exact ⟨f', by rw [if_pos rfl, ht, ← hf']; rfl, hsame⟩
  · exact ⟨f, by rw [if_neg hs]; exact hf, rfl, rfl, rfl⟩

theorem changeTable (r : Ref) (g : Table → Table) :
    w.KeepsCode (w.change r fun t => { t with table := g t.table }) :=
  change fun _ f _ hf => ⟨f, hf, rfl, rfl, rfl⟩

/-- What is no function can become anything. -/
theorem setBody (h : ∀ f, w.body? (.thing r) ≠ some (.function f)) (body : Body) :
    w.KeepsCode (w.change r fun t => { t with body }) :=
  change fun t f ht hf => absurd (by rw [body?, ht, ← hf]; rfl) (h f)

end World.KeepsCode

/-- A run keeps the code of functions, however it ends. -/
def Run.KeepsCode {α : Type} (x : Run α) (w : World) : Prop :=
  x.Ends w (fun _ => w.KeepsCode) fun _ => w.KeepsCode

theorem Run.Quiet.keepsCode {α : Type} {x : Run α} {w : World} (h : x.Quiet w) : x.KeepsCode w :=
  h.imp (fun _ _ => .of_undisturbed) fun _ _ => .of_undisturbed

theorem Run.KeepsCode.of_gives {α : Type} {x : Run α} {a : α} {w w' : World}
    (h : x.KeepsCode w) (hx : x.Gives w a w') : w.KeepsCode w' := by
  unfold Run.KeepsCode at h
  exact h.of_gives hx

theorem Run.KeepsCode.gives {α : Type} {x : Run α} {a : α} {w w' : World} (hx : x.Gives w a w')
    (h : w.KeepsCode w') : x.KeepsCode w := by
  unfold Run.KeepsCode Run.Ends
  unfold Run.Gives at hx
  rw [hx]
  exact h

/-! ## Setting attributes without code of programs -/

namespace World

variable {w : World} {v : Value}

/-- Setting an attribute of a value runs no code of a program: nothing takes part in all attributes
    or in this one. -/
structure SetsPlainly (w : World) (v : Value) (name : String) : Prop where
  setter : w.isClass v = true ∨ w.findMade (w.classOf v) "__setattr__" = none
  property : w.isClass v = true ∨
    ∀ g s, (w.findMade (w.classOf v) name).bind w.body? ≠ some (.property g s)

theorem SetsPlainly.noSetter {name : String} (h : w.SetsPlainly v name) :
    (if w.isClass v then none else w.findMade (w.classOf v) "__setattr__") = none := by
  obtain hclass | hnone := h.setter
  · rw [if_pos hclass]
  · rw [hnone, ite_self]

end World

/-! ## What programs leave as it is -/

namespace World

variable {w w' : World} {v : Value} {r : Ref}

/-- Where things last, functions keep their code. -/
theorem Lasts.function (h : w.Lasts w') {f : Function} (hf : w.body? v = some (.function f)) :
    ∃ f', w'.body? v = some (.function f') ∧ f.SameCode f' := by
  cases v with
  | thing r =>
    obtain ⟨b, hb, hsame⟩ := h r _ hf
    cases b with
    | function f' =>
      simp only [Body.lasting, Body.function.injEq, Function.mk.injEq] at hsame
      exact ⟨f', hb, hsame.1, by simp_all, by simp_all⟩
    | _ => cases hsame
  | _ => cases hf

/-- Where things last, what is fixed stays what it is. -/
theorem Lasts.fixed (h : w.Lasts w') {b : Body} (hb : w.body? v = some b)
    (hfixed : b.isFixed = true) : w'.body? v = some b := by
  cases v with
  | thing r =>
    obtain ⟨b', hb', hsame⟩ := h r b hb
    rw [hb', Body.eq_of_lasting hfixed hsame]
  | _ => cases hb

/-- Where things last, classes keep what they inherit from. -/
theorem Lasts.madeClass (h : w.Lasts w') {c : MadeClass} (hc : w.body? v = some (.cls c)) :
    ∃ c', w'.body? v = some (.cls c') ∧ c'.order = c.order := by
  cases v with
  | thing r =>
    obtain ⟨b, hb, hsame⟩ := h r _ hc
    cases b with
    | cls c' =>
      simp only [Body.lasting, Body.cls.injEq, MadeClass.mk.injEq] at hsame
      exact ⟨c', hb, by simp_all⟩
    | _ => cases hsame
  | _ => cases hc

/-- What is missing where things have lasted was missing before. -/
theorem Lasts.missing (h : w.Lasts w') (hr : w'.thing? r = none) : w.thing? r = none := by
  cases ht : w.thing? r with
  | none => rfl
  | some t =>
    obtain ⟨b, hb, -⟩ := h r t.body (congrArg (Option.map Thing.body) ht)
    rw [body?, hr] at hb
    cases hb

/-- Where things last, classes stay classes. -/
theorem Lasts.isClass (h : w.Lasts w') (hv : w.isClass v = true) : w'.isClass v = true := by
  cases v with
  | thing r =>
    obtain ⟨c, hc⟩ := isClass_thing_iff.1 hv
    obtain ⟨c', hc', -⟩ := h.madeClass hc
    exact isClass_thing_iff.2 ⟨c', hc'⟩
  | _ => exact hv

/-- Where things last, classes inherit from the same ones in the same order. -/
theorem Lasts.classOrder (h : w.Lasts w') (hv : w.isClass v = true) :
    w'.classOrder v = w.classOrder v := by
  cases v with
  | thing r =>
    obtain ⟨c, hc⟩ := isClass_thing_iff.1 hv
    obtain ⟨c', hc', hsame⟩ := h.madeClass hc
    simp only [World.classOrder, madeClass?, hc, hc', Option.map_some, Option.getD_some, hsame]
  | cls name => rfl
  | _ => cases hv

theorem Lasts.of_things (h : w'.things = w.things) : w.Lasts w' := by
  intro r b hb
  refine .of_body? ?_
  rw [← hb, body?, body?, thing?, thing?, h]

theorem lasts_isWay : IsWay Lasts := ⟨Lasts.refl, Lasts.trans⟩

/-- Things last when a callable is patched. -/
theorem lasts_isPatchWay : IsPatchWay Lasts where
  isWay := lasts_isWay
  becomes h := h.lasts
  records _ _ _ _ := .of_things rfl

/-- Things last when a function is injected into. -/
theorem lasts_isInjectionWay : IsInjectionWay Lasts where
  isWay := lasts_isWay
  becomes h := h.lasts
  texts _ _ _ := .of_things rfl
  draws _ _ _ _ := .of_things rfl
  records _ _ _ _ _ := .of_things rfl

end World

theorem Run.Leads.of_gives {α : Type} {R : World → World → Prop} {x : Run α} {a : α} {w w' : World}
    (h : x.Leads R) (hx : x.Gives w a w') : R w w' := by
  have hw := h w
  unfold Run.Gives at hx
  rwa [hx] at hw

/-! ## Wrappers -/

theorem World.alloc_eq {w w' : World} {t : Thing} {r : Ref} (h : w.alloc t = (r, w')) :
    w'.thing? r = some t ∧ w.thing? r = none := by
  obtain ⟨rfl, rfl⟩ := Prod.mk.inj h
  exact ⟨thing?_alloc_self, thing?_alloc_new (t := t)⟩

theorem World.hashOf_same {w w' : World} {v : Value} {k : Key} (h : (hashOf v).Gives w k w') :
    w = w' := by
  unfold hashOf at h
  replace h := Run.gives_bind_world.1 h
  split at h
  · exact (Run.gives_pure.1 h).2
  · exact absurd h Run.not_gives_raise

namespace Patch

variable {call : Caller} {w w' : World} {v id wrapped : Value} {patch : Ref} {hooks : Hooks}

/-- A function runs the hooks of a patch around a callable, which are these. -/
structure Wraps (w : World) (v : Value) (patch : Ref) (id wrapped : Value) (hooks : Hooks) :
    Prop where
  wrapper : IsWrapper w v patch id wrapped
  isPatch : ∃ metadata allow, w.body? (.thing patch) =
    some (.patch hooks.before hooks.after hooks.instead metadata allow)

theorem Wraps.hooksOf (h : Wraps w v patch id wrapped hooks) : hooksOf w patch = hooks := by
  obtain ⟨metadata, allow, hbody⟩ := h.isPatch
  have hthing : (w.thing? patch).map Thing.body = _ := hbody
  simp only [Patch.hooksOf, hthing]

/-- **Wrappers last**: a wrapper goes on to run the same hooks around the same callable. -/
theorem Wraps.lasts (h : Wraps w v patch id wrapped hooks) (hlasts : w.Lasts w') :
    Wraps w' v patch id wrapped hooks := by
  obtain ⟨⟨f, hf, hdispatch⟩, metadata, allow, hpatch⟩ := h
  obtain ⟨f', hf', hsame⟩ := hlasts.function hf
  exact ⟨⟨f', hf', hsame.behaviour.trans hdispatch⟩, metadata, allow, hlasts.fixed hpatch rfl⟩

/-- A wrapper that has been built is a new function that runs the hooks of the patch around what it
    has been built for. -/
theorem build_isWrapper (hcall : call.Confined) {name : String}
    (h : (build call patch id wrapped name).Gives w v w') :
    IsWrapper w' v patch id wrapped ∧ ∃ r, v = .thing r ∧ w.thing? r = none := by
  unfold build World.dictOfTable at h
  rw [Run.gives_bind] at h
  obtain ⟨_, w₁, hdict, h⟩ := h
  have h₁ := (Run.Confined.newValue _ _).of_gives hdict
  obtain ⟨rfl, rfl⟩ := Run.gives_newValue.1 hdict
  simp only [Run.gives_bind, Run.gives_world, Run.gives_new, Run.gives_pure] at h
  obtain ⟨_, _, ⟨rfl, rfl⟩, r, w₂, hnew, _, w₃, hcopied, _, w₄, hown, _, w₅, hset, shown, w₆,
    hshown, _, w₇, hnamed, rfl, rfl⟩ := h
  have h₃ := (copyAttributes_confined hcall _ wrapped copiedAttributes).of_gives hcopied
  have h₄ := (copyOwn_confined hcall r wrapped).of_gives hown
  have h₅ := (World.setAttr_confined hcall _ _ _).of_gives hset
  have h₆ := (displayName_confined hcall wrapped name).of_gives hshown
  have h₇ := (World.setAttr_confined hcall _ _ _).of_gives hnamed
  have hlasts := h₃.lasts.trans (h₄.lasts.trans (h₅.lasts.trans (h₆.lasts.trans h₇.lasts)))
  obtain ⟨hthere, hfree⟩ := World.alloc_eq hnew
  obtain ⟨f, hf, hsame⟩ := hlasts.function (v := .thing r) (by rw [World.body?, hthere]; rfl)
  exact ⟨⟨f, hf, hsame.behaviour⟩, r, rfl, h₁.lasts.missing hfree⟩

variable {target member : Value} {spec : Option Spec} {x : Prepared} {w₁ : World}

/-- What is ready before the target is written to: the wrapper of the callable that has been found,
    with the hooks that are asked for.  It is new, and so is the patch. -/
structure Readies (call : Caller) (target member : Value) (spec : Option Spec) (w : World)
    (x : Prepared) (w' : World) : Prop where
  found : ∃ w₁, Attempt.Gives (Member.resolve call target member) w x.member w₁ ∧ w₁.Lasts w'
  asked : ∃ s, spec = some s ∧ s.hooks = x.hooks
  wraps : Wraps w' x.wrapper x.patch x.id x.member.value x.hooks
  lasts : w.Lasts w'
  newWrapper : ∃ r, x.wrapper = .thing r ∧ w.thing? r = none
  newPatch : w.thing? x.patch = none

theorem prepare_readies (hcall : call.Confined)
    (hx : Attempt.Gives (prepare call target member spec) w x w') :
    Readies call target member spec w x w' := by
  unfold prepare at hx
  rw [Attempt.gives_bind] at hx
  obtain ⟨m, w₁, hresolve, hx⟩ := hx
  have h₁ := ((Member.resolve_confined hcall _ _).ends w).of_gives hresolve
  split at hx
  · simp at hx
  · replace hx := Attempt.gives_bind_world.1 hx
    rename_i s
    split at hx
    · simp at hx
    · simp only [Attempt.gives_bind, Attempt.gives_lift, Attempt.gives_pure] at hx
      obtain ⟨id, w₂, hid, patch, w₃, hpatch, wrapper, w₄, hwrapper, rfl, rfl⟩ := hx
      have h₂ := ((chooseId_leads World.lasts_isPatchWay _).ends w₁).of_gives hid
      have h₃ := (Run.Confined.new _ _).of_gives hpatch
      have h₄ := (build_confined hcall _ _ _ _).of_gives hwrapper
      obtain ⟨hthere, hfree⟩ := World.alloc_eq (Run.gives_new.1 hpatch)
      obtain ⟨hdoes, r, rfl, hnew⟩ := build_isWrapper hcall hwrapper
      have hlasts := h₁.lasts.trans h₂
      have hpatched : w₃.body? (.thing patch) = _ := congrArg (Option.map Thing.body) hthere
      exact {
        found := ⟨w₁, hresolve, h₂.trans (h₃.lasts.trans h₄.lasts)⟩
        asked := ⟨s, rfl, rfl⟩
        wraps := ⟨hdoes, _, _, h₄.lasts.fixed hpatched rfl⟩
        lasts := hlasts.trans (h₃.lasts.trans h₄.lasts)
        newWrapper := ⟨r, rfl, (hlasts.trans h₃.lasts).missing hnew⟩
        newPatch := hlasts.missing hfree }

/-- A patch that gives an identifier has been made ready, has been written to the target, and its
    record has been kept. -/
structure Applies (call : Caller) (target member : Value) (spec : Option Spec) (w : World)
    (x : Prepared) (w₁ w₂ w' : World) : Prop where
  prepared : Attempt.Gives (prepare call target member spec) w x w₁
  assigned : Attempt.Gives (x.member.assign call x.wrapper) w₁ () w₂
  concluded : (conclude x).Gives w₂ () w'

theorem apply_gives {given : Value}
    (h : Attempt.Gives (apply call target member spec) w given w') :
    ∃ x w₁ w₂, x.id = given ∧ Applies call target member spec w x w₁ w₂ w' := by
  unfold apply at h
  rw [Attempt.gives_bind] at h
  obtain ⟨x, w₁, hprepare, h⟩ := h
  rw [Attempt.gives_bind] at h
  obtain ⟨_, w₂, hassign, h⟩ := h
  rw [Attempt.gives_bind] at h
  obtain ⟨_, w₃, hconclude, h⟩ := h
  obtain ⟨hid, rfl⟩ := Attempt.gives_pure.1 h
  exact ⟨x, w₁, w₂, hid, hprepare, hassign, Attempt.gives_lift.1 hconclude⟩

/-- Keeping the record of a patch leaves the things alone. -/
theorem conclude_things (h : (conclude x).Gives w () w') : w'.things = w.things := by
  unfold conclude keep at h
  simp only [Run.gives_bind, Run.gives_world, Run.gives_tick, Run.gives_log] at h
  obtain ⟨k, w₁, hk, _, w₂, ⟨-, rfl⟩, _, w₃, ⟨_, _, ⟨rfl, rfl⟩, hkeep⟩, _, _, ⟨rfl, rfl⟩, rfl⟩ := h
  obtain rfl := World.hashOf_same hk
  split at hkeep
  · obtain rfl := Run.gives_set.1 hkeep
    rfl
  · exact absurd hkeep Run.not_gives_raise

section

variable (hcall : call.Confined) {w₁ w₂ : World}
  (h : Applies call target member spec w x w₁ w₂ w')

include hcall h

/-- Things last while what is ready is put in place. -/
theorem Applies.lasts_ready : w₁.Lasts w' := by
  have hassign := ((Member.assign_confined hcall _ _).ends w₁).of_gives h.assigned
  exact hassign.lasts.trans ((conclude_leads World.lasts_isPatchWay x).of_gives h.concluded)

theorem Applies.lasts : w.Lasts w' :=
  (prepare_readies hcall h.prepared).lasts.trans (h.lasts_ready hcall)

/-- **What a patch puts in place** lasts. -/
theorem Applies.wraps : Wraps w' x.wrapper x.patch x.id x.member.value x.hooks :=
  (prepare_readies hcall h.prepared).wraps.lasts (h.lasts_ready hcall)

end

end Patch

end Graft
