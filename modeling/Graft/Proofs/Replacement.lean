import Graft.Proofs.Receiver

set_option autoImplicit false

/-! # Callables that patches replace

A patch without hooks leaves a wrapper in the place of a callable.  In a mapping, a module or an
object it is called as the callable was.  In a class it is kept in the wrapping of a static or class
method if the callable was, and as a function otherwise, and all that inherit the member find it
there.  A function is bound to the instance that it is read from, whether the callable was or not. -/

namespace Graft

open Machine Data Patch

namespace World

variable {w w' : World} {name : String} {a : Access}

/-! ## Replacing members of classes -/

/-- A class has nothing of its own under a name. -/
inductive Lacks (w : World) (name : String) : Value → Prop
  | made {r : Ref} {t : Thing} (thing : w.thing? r = some t)
      (missing : t.table.get? name = none) : Lacks w name (.thing r)
  | supplied {c : String} (missing : Builtin.ownMember c name = none) : Lacks w name (.cls c)

/-- A class is another one or inherits from it, and what comes before that one has nothing under a
    name. -/
def Inherits (w : World) (name : String) (cls target : Value) : Prop :=
  ∃ before after, w.classOrder cls = before ++ target :: after ∧ ∀ c ∈ before, w.Lacks name c

theorem AddsOne.thing? (h : w.AddsOne w') {r : Ref} {t : Thing} (hr : w.thing? r = some t) :
    w'.thing? r = some t := by
  rcases h with rfl | ⟨u, rfl⟩
  · exact hr
  · exact thing?_alloc hr

theorem AddsOne.lasts (h : w.AddsOne w') : w.Lasts w' := by
  rcases h with rfl | ⟨u, rfl⟩
  · exact .refl _
  · exact .alloc _ u

theorem Lacks.addsOne {c : Value} (h : w.Lacks name c) (hw : w.AddsOne w') : w'.Lacks name c := by
  cases h with
  | supplied missing => exact .supplied missing
  | made thing missing => exact .made (hw.thing? thing) missing

/-- What inherits from something is a class. -/
theorem Inherits.isClass {cls target : Value} (h : w.Inherits name cls target) :
    w.isClass cls = true := by
  obtain ⟨before, after, horder, -⟩ := h
  cases cls with
  | cls c => rfl
  | thing r =>
    cases hmade : w.madeClass? (.thing r) with
    | none => simp [classOrder, hmade] at horder
    | some c => simp [World.isClass, hmade]
  | _ => simp [classOrder, madeClass?, body?] at horder

theorem Inherits.addsOne {cls target : Value} (h : w.Inherits name cls target)
    (hw : w.AddsOne w') : w'.Inherits name cls target := by
  have hsame := hw.lasts.classOrder h.isClass
  obtain ⟨before, after, horder, hlacks⟩ := h
  exact ⟨before, after, hsame.trans horder, fun c hc => (hlacks c hc).addsOne hw⟩

/-- What is put into a class is found in all that inherit it. -/
theorem findInOrder_put {r : Ref} {t : Thing} {x : Value} (there : w.thing? r = some t)
    (before after : List Value) (hlacks : ∀ c ∈ before, w.Lacks name c) :
    ((w.change r fun t => { t with table := t.table.set name x }).findInOrder name
      (before ++ .thing r :: after)).map Prod.snd = some x := by
  have hput : (w.change r fun t => { t with table := t.table.set name x }).table r =
      t.table.set name x := table_change (g := (·.set name x)) there
  -- A class in front lacks the name, unless it is the one that has been written to.
  induction before with
  | nil =>
    unfold findInOrder
    simp only [List.nil_append, hput, Table.get?_set_self, Option.map_some]
  | cons c before ih =>
    have hrest := ih fun c hc => hlacks c (List.mem_cons_of_mem _ hc)
    cases hlacks c List.mem_cons_self with
    | supplied => exact hrest
    | @made s u thing missing =>
      rw [List.cons_append]
      unfold findInOrder
      dsimp only
      by_cases hs : s = r
      · simp only [hs, hput, Table.get?_set_self, Option.map_some]
      · have htable : (w.change r fun t => { t with table := t.table.set name x }).table s =
            u.table := by
          rw [World.table, thing?_change, if_neg hs, thing]
          rfl
        simp only [htable, missing]
        exact hrest

theorem findMade_put {r : Ref} {t : Thing} {x cls : Value} (there : w.thing? r = some t)
    (h : w.Inherits name cls (.thing r)) :
    (w.change r fun t => { t with table := t.table.set name x }).findMade cls name = some x := by
  obtain ⟨before, after, horder, hlacks⟩ := h
  rw [findMade, classOrder_changeTable (g := (·.set name x)), horder]
  exact findInOrder_put there before after hlacks

/-- A way leads into a class as long as classes inherit what they did, and other things stay. -/
theorem LeadsInto.transfer (ha : w.LeadsInto name a)
    (hcls : ∀ s c, w.body? (.thing s) = some (.cls c) → w'.body? (.thing s) = some (.cls c))
    (hthing : ∀ s t, w.thing? s = some t → (∀ c, t.body ≠ .cls c) → w'.thing? s = some t) :
    w'.LeadsInto name a := by
  cases ha with
  | ofClass body ordinary => exact .ofClass (hcls _ _ body) ordinary
  | ofInstance thing isInstance hidden missing =>
    refine .ofInstance (hthing _ _ thing ?_) isInstance hidden missing
    rcases isInstance with hb | ⟨args, hb⟩ <;> simp [hb]

end World

/-- Writing to a member of a class puts it into the class's table in its wrapping. -/
theorem Member.assign_ofClass {call : Caller} {m : Member} {r : Ref} {c : MadeClass} {v : Value}
    {w w' : World} (target : m.target = .thing r) (body : w.body? (.thing r) = some (.cls c))
    (ordinary : m.name ∉ classNames) (hv : w.IsRoutine v)
    (h : Attempt.Gives (m.assign call v) w () w') :
    ∃ x w₁, w.AddsOne w₁ ∧ w₁.unwrap x = (m.convention, v) ∧
      (∀ g s, w₁.body? x ≠ some (.property g s)) ∧
      (w₁.change r fun t => { t with table := t.table.set m.name x }) = w' := by
  obtain ⟨x, w₁, hwrap, hput⟩ := Member.assign_gives h
  have hset : w.AddsOne w₁ →
      (w₁.change r fun t => { t with table := t.table.set m.name x }) = w' := by
    intro hadds
    have body₁ := hadds.body? body
    have hmapping : w₁.isMutableMapping (.thing r) = false := by rw [World.isMutableMapping, body₁]
    unfold Member.put at hput
    replace hput := Run.gives_bind_world.1 hput
    simp only [target, hmapping] at hput
    exact World.setAttr_ofClass_gives body₁ ordinary hput
  obtain ⟨hplain, rfl, rfl⟩ | ⟨b, hb, rfl, rfl⟩ := Member.gives_rewrap hwrap
  · refine ⟨x, w₁, .inl rfl, by rw [hv.unwrap, hplain], ?_, hset (.inl rfl)⟩
    rcases hv with ⟨f, hf⟩ | ⟨g, self, hm⟩
    · simp [hf]
    · simp [hm]
  · refine ⟨_, _, .inr ⟨_, rfl⟩, ?_, ?_, hset (.inr ⟨_, rfl⟩)⟩
    · rw [World.unwrap, World.body?_alloc_self]
      rcases hb with ⟨hb, rfl⟩ | ⟨hb, rfl⟩ <;> rw [hb]
    · rcases hb with ⟨-, rfl⟩ | ⟨-, rfl⟩ <;> simp [World.body?_alloc_self]

/-! ## What patches without hooks leave -/

namespace Patch

variable {call : Caller} {target member id : Value} {spec : Option Spec} {w w₁ w₂ w' : World}
  {x : Prepared}

/-- A wrapper is bound to instances. -/
theorem Wraps.binds {v wrapped : Value} {patch : Ref} {hooks : Hooks}
    (h : Wraps w v patch id wrapped hooks) : w.binds v = true := by
  obtain ⟨f, hbody, -⟩ := h.wrapper
  cases v with
  | thing r => simp [World.binds, World.isFunction, hbody]
  | _ => cases hbody

theorem Wraps.fits {v wrapped : Value} {patch : Ref} {hooks : Hooks} {a : Access}
    (h : Wraps w v patch id wrapped hooks) : w.Fits a v := by
  obtain ⟨f, hbody, -⟩ := h.wrapper
  rintro c name rfl
  cases hbody

/-- A patched member of a mapping, a module or an object is the wrapper from then on, as long as
    nothing else is put there, and calls of it come down to the same calls of the callable. -/
structure StaysInSlot (call : Caller) (x : Prepared) (w' : World) : Prop where
  keeps : w'.Keeps x.member.name x.wrapper x.member.target
  found : ∀ later, w'.Lasts later → later.Keeps x.member.name x.wrapper x.member.target →
    ∃ w₁, (Member.lookup call x.member.target x.member.name).Gives later
        (some (.plain, x.wrapper)) w₁ ∧
      (∀ args, w₁.Passes 1 x.wrapper args x.member.value args) ∧
      ∀ k args, (callWithin (k + 1) x.wrapper args).result w₁ =
        (callWithin k x.member.value args).result w₁

/-- A way leads to a member of a class, for which the class of the target answers. -/
structure SharesMember (w : World) (m : Member) (a : Access) : Prop where
  leadsInto : w.LeadsInto m.name a
  offers : w.Offers m.name a.cls m.convention m.value
  inherits : w.Inherits m.name a.cls m.target
  fits : w.Fits a m.value

/-- A patched member of a class is read as the callable before and as the wrapper from then on, as
    long as nothing else is put there.  What the callable gets in either case depends on how it was
    kept; as a wrapper it is bound to instances. -/
structure StaysInClass (call : Caller) (x : Prepared) (w w' : World) (a : Access) : Prop where
  before : w.Reads call a x.member.name x.member.value
    (a.handed x.member.convention (w.binds x.member.value))
  leadsInto : w'.LeadsInto x.member.name a
  offers : w'.Offers x.member.name a.cls x.member.convention x.wrapper
  after : ∀ later, w'.Lasts later → later.LeadsInto x.member.name a →
    later.Offers x.member.name a.cls x.member.convention x.wrapper →
      later.Reads call a x.member.name x.member.value (a.handed x.member.convention true)

section

variable (hcall : call.Confined) (h : Applies call target member spec w x w₁ w₂ w')
  (hhooks : x.hooks = {})

include hcall h hhooks

/-- A patched member in an ordinary slot stays callable there as it was. -/
theorem Applies.staysInSlot (hordinary : World.IsOrdinary w w₁ x.member.name x.member.target)
    (hclass : w₁.isClass x.member.target = false) : StaysInSlot call x w' := by
  have hwraps := h.wraps hcall
  rw [hhooks] at hwraps
  refine ⟨h.keeps hcall hordinary hclass, fun later hlasts hkeeps => ?_⟩
  have hlater := hwraps.lasts hlasts
  obtain ⟨w₃, hfound, hadds⟩ := hlater.lookup hkeeps call
  have hpasses : ∀ args, w₃.Passes 1 x.wrapper args x.member.value args :=
    fun args => .wrapper (hlater.lasts hadds.lasts) (.here _ args)
  exact ⟨w₃, hfound, hpasses, fun k args => (hpasses args).result k⟩

/-- A patched member of a class is found by all that inherit it. -/
theorem Applies.staysInClass {r : Ref} {c : MadeClass} (htarget : x.member.target = .thing r)
    (hbody : w₁.body? (.thing r) = some (.cls c)) (hname : x.member.name ∉ classNames) {a : Access}
    (ha : SharesMember w₁ x.member a) : StaysInClass call x w₁ w' a := by
  have hready := prepare_readies hcall h.prepared
  have hwraps := h.wraps hcall
  rw [hhooks] at hwraps
  obtain ⟨y, w₃, hadds, hunwrap, hproperty, hput⟩ :=
    Member.assign_ofClass htarget hbody hname hready.wraps.isRoutine h.assigned
  have hthings := conclude_things h.concluded
  obtain ⟨t, ht, hcls⟩ := Option.map_eq_some_iff.1 hbody
  -- Only a table has been written to, so whatever is wrapped is wrapped as before.
  have hunwrapped : w'.body? = w₃.body? := by
    funext v
    rw [World.body?_congr hthings, ← hput, World.body?_changeTable (g := (·.set x.member.name y))]
  refine ⟨ha.leadsInto.reads ha.offers ha.fits, ?_, ?_, ?_⟩
  · refine ha.leadsInto.transfer (fun s d hs => ?_) fun s u hs hno => ?_
    · rw [hunwrapped]
      exact hadds.body? hs
    · have hne : s ≠ r := fun heq => by
        rw [heq, ht] at hs
        cases hs
        exact hno c hcls
      rw [World.thing?, hthings, ← hput, ← World.thing?, World.thing?_change, if_neg hne,
        hadds.thing? hs]
  · have hfound : w'.findMade a.cls x.member.name = some y := by
      rw [World.findMade_congr hthings, ← hput]
      refine World.findMade_put (hadds.thing? ht) ?_
      rw [← htarget]
      exact ha.inherits.addsOne hadds
    have hoffered := World.Offers.made hfound (by rw [hunwrapped]; exact hproperty)
    have hsame : w'.unwrap y = (x.member.convention, x.wrapper) := by
      rw [← hunwrap, World.unwrap, World.unwrap, hunwrapped]
    rwa [hsame] at hoffered
  · intro later hlasts hleads hoffers'
    have hlater := hwraps.lasts hlasts
    have hreads : later.Reads call a x.member.name x.wrapper
        (a.handed x.member.convention (later.binds x.wrapper)) :=
      hleads.reads hoffers' hlater.fits
    rw [hlater.binds] at hreads
    exact hreads.through hcall hlater

end

end Patch

open Patch

/-- **Which receivers patches keep.**  A patch without hooks that gives an identifier has put a
    wrapper in the place of the callable.  In a mapping, a module or an object the callable is called
    with the same arguments as before.  In a class it is found by all that inherit the member: the
    callable gets the same arguments as before exactly if it is not read from an instance that does
    not bind it, and has no wrapping. -/
theorem receivers_are_kept_iff {call : Caller} (hcall : call.Confined) {target member id : Value}
    {s : Spec} (hhooks : s.hooks = {}) {w w' : World}
    (h : Attempt.Gives (apply call target member (some s)) w id w') :
    ∃ x w₁ w₂, x.id = id ∧ Applies call target member (some s) w x w₁ w₂ w' ∧
      x.member.target = target ∧
      (∃ w₀, (Member.lookup call target x.member.name).Gives w
        (some (x.member.convention, x.member.value)) w₀) ∧
      (Tame call target w → Relies call target member (some s) w → Undisturbed w w₁) ∧
      Wraps w' x.wrapper x.patch id x.member.value {} ∧
      (World.IsOrdinary w w₁ x.member.name target → w₁.isClass target = false →
        StaysInSlot call x w') ∧
      ∀ r c a, target = .thing r → w₁.body? target = some (.cls c) → x.member.name ∉ classNames →
        SharesMember w₁ x.member a → StaysInClass call x w₁ w' a ∧
          ((∀ args, a.handed x.member.convention true args =
              a.handed x.member.convention (w₁.binds x.member.value) args) ↔
            ¬(a.isInstance = true ∧ x.member.convention = .plain ∧
              w₁.binds x.member.value = false)) := by
  obtain ⟨x, w₁, w₂, rfl, happlies⟩ := apply_gives h
  have hready := prepare_readies hcall happlies.prepared
  obtain ⟨w₀, hresolve, -⟩ := hready.found
  obtain ⟨htarget, -, hlookup⟩ := Member.resolve_looks hresolve
  obtain ⟨_, hs, hasked⟩ := hready.asked
  cases hs
  have hx : x.hooks = {} := hasked.symm.trans hhooks
  have hwraps := happlies.wraps hcall
  rw [hx] at hwraps
  refine ⟨x, w₁, w₂, rfl, happlies, htarget, ⟨w₀, hlookup⟩, ?_, hwraps, ?_, ?_⟩
  · exact fun htame hrelies => (prepare_quiet htame hrelies).of_gives happlies.prepared
  · rintro hordinary hclass
    rw [← htarget] at hordinary hclass
    exact happlies.staysInSlot hcall hx hordinary hclass
  · rintro r c a rfl hbody hname ha
    exact ⟨happlies.staysInClass hcall hx htarget hbody hname ha, a.handed_eq_iff _ _⟩

/-! ### A sample -/

/-- A world with a class that takes a function of the language for a method, and an instance. -/
def rulerWorld : World :=
  { things := #[{ body := .module "world" },
      { body := .cls { name := "Ruler", qualname := "Ruler", bases := [.cls "object"]
                       order := [.thing ⟨1⟩, .cls "object"] }
        table := [("measure", .builtin "len")] },
      { body := .instance (.thing ⟨1⟩) }] }

/-- The class. -/
def ruler : Value := .thing ⟨1⟩

/-- Whether a patch of the class gives an identifier. -/
def patchesRuler : Bool :=
  match Run.result (apply Machine.call ruler (.str "measure") (some {})).run rulerWorld with
  | (.ok (.ok _), _) => true
  | _ => false

theorem ruler_checks : patchesRuler = true := by decide +kernel

theorem ruler_gives :
    ∃ id w', Attempt.Gives (apply Machine.call ruler (.str "measure") (some {})) rulerWorld id w' := by
  have hchecks := ruler_checks
  unfold patchesRuler at hchecks
  split at hchecks
  · rename_i id w' hresult
    exact ⟨id, w', hresult⟩
  · cases hchecks

theorem ruler_tame : Tame Machine.call ruler rulerWorld :=
  tame_of_inert (World.isInert_cls (v := ruler) rfl)

theorem ruler_resolves : Attempt.Gives (Member.resolve Machine.call ruler (.str "measure")) rulerWorld
    { target := ruler, name := "measure", value := .builtin "len" } rulerWorld := rfl

theorem ruler_relies : Relies Machine.call ruler (.str "measure") (some {}) rulerWorld where
  typed := by
    rintro s ⟨⟩
    exact .inl rfl
  describable := by
    intro m w₁ h
    obtain ⟨rfl, rfl⟩ := Attempt.gives_unique ruler_resolves h
    refine describable_of_inert ⟨.atom _ rfl, .inl ⟨⟨_, rfl⟩, nofun, rfl⟩⟩

/-- The class and its instance share the method. -/
theorem ruler_sharesMember {w : World} (h : Undisturbed rulerWorld w) (hlasts : rulerWorld.Lasts w)
    {a : Access} (ha : a = ⟨ruler, ruler, false⟩ ∨ a = ⟨.thing ⟨2⟩, ruler, true⟩) :
    SharesMember w { target := ruler, name := "measure", value := .builtin "len" } a := by
  obtain ⟨c, hbody, -⟩ := hlasts.madeClass (v := ruler) rfl
  have horder : w.classOrder ruler = [ruler, .cls "object"] :=
    hlasts.classOrder (v := ruler) rfl
  -- The class may have been given annotations, which are kept under another name.
  have hfound : w.findMade ruler "measure" = some (.builtin "len") := by
    obtain ⟨t, ht, hannotated⟩ := h.things ⟨1⟩ _ rfl
    have hkept : t.table.get? "measure" = some (.builtin "len") := by
      cases hannotated with
      | same => rfl
      | cls c table d => rw [Table.get?_set_of_ne _ (by decide)]; rfl
    have htable : (w.table ⟨1⟩).get? "measure" = some (.builtin "len") := by
      rw [World.table, ht]
      exact hkept
    rw [World.findMade, horder, ruler, World.findInOrder]
    simp only [htable, Option.map_some]
  have hcls : a.cls = ruler := by rcases ha with rfl | rfl <;> rfl
  constructor
  · rcases ha with rfl | rfl
    · exact .ofClass hbody (by decide)
    · exact .ofInstance (h.dict (r := ⟨2⟩) rfl (by rintro _ ⟨⟩) (by rintro _ ⟨⟩)) (.inl rfl)
        (fun _ => World.bodyAttr_leaves (by decide)) rfl
  · rw [hcls]
    exact World.Offers.made hfound (by rintro _ _ ⟨⟩)
  · rw [hcls]
    exact ⟨[], [.cls "object"], horder, by simp⟩
  · rintro c name ⟨⟩

/-- A patch without hooks gives the sample method the instance that it is read from, which it did
    not get before. -/
theorem ruler_gives_a_receiver :
    ∃ x w₁ w', (∀ a, a = ⟨ruler, ruler, false⟩ ∨ a = ⟨.thing ⟨2⟩, ruler, true⟩ →
        StaysInClass Machine.call x w₁ w' a) ∧
      (∀ args, Access.handed ⟨ruler, ruler, false⟩ x.member.convention true args =
        Access.handed ⟨ruler, ruler, false⟩ x.member.convention (w₁.binds x.member.value) args) ∧
      ¬∀ args, Access.handed ⟨.thing ⟨2⟩, ruler, true⟩ x.member.convention true args =
        Access.handed ⟨.thing ⟨2⟩, ruler, true⟩ x.member.convention (w₁.binds x.member.value)
          args := by
  obtain ⟨id, w', hgives⟩ := ruler_gives
  obtain ⟨x, w₁, w₂, -, happlies, -, -, hquiet, -, -, hclass⟩ :=
    receivers_are_kept_iff call_confined (s := {}) rfl hgives
  have hready := prepare_readies call_confined happlies.prepared
  obtain ⟨w₀, hresolve, -⟩ := hready.found
  obtain ⟨hmember, -⟩ := Attempt.gives_unique hresolve ruler_resolves
  have hshares := fun a => ruler_sharesMember (a := a) (hquiet ruler_tame ruler_relies) hready.lasts
  obtain ⟨c, hbody, -⟩ := hready.lasts.madeClass (v := ruler) rfl
  have hstays := fun a ha => hclass ⟨1⟩ c a rfl hbody (by rw [hmember]; decide)
    (by rw [hmember]; exact hshares a ha)
  refine ⟨x, w₁, w', fun a ha => (hstays a ha).1, ?_, ?_⟩
  · exact (hstays _ (.inl rfl)).2.2 (by simp)
  · rw [(hstays _ (.inr rfl)).2, not_not, hmember]
    exact ⟨rfl, rfl, rfl⟩

end Graft
