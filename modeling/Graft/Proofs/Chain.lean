import Mathlib.Data.List.Chain
import Graft.Proofs.Convention
import Graft.Proofs.Records
import Graft.Proofs.Wrapped

set_option autoImplicit false

/-! # The records of one slot are a chain

What a patch or an injection has put into a slot is what the next one finds there, and its record
keeps it as the original: without the wrapping of a static or class method if the slot is one of a
class, and as it is otherwise, also if it is bound.  So over any run, in which other things are done
in between, the records of one slot lead from the first callable to the one that is there now, with
nothing lost in between.

In between there can be whatever leaves the slot alone.  Patches and injections do so if they fail,
and if they are for another slot. -/

namespace Graft

open Machine Data

/-! ## Patches and injections that succeed -/

/-- Something is done that succeeds in exchanging a member for a callable, which is ready in one
    world and has been written to the target in the next one. -/
inductive Move.Exchanges (m : Move) (w : World) : Member → Value → World → World → Prop
  | patch {target member : Value} {spec : Option Patch.Spec} {x : Patch.Prepared} {w₁ w₂ : World}
      (deed : m.deed = .patch target member spec)
      (applies : Patch.Applies call target member spec (m.start w) x w₁ w₂ (m.outcome w)) :
      Exchanges m w x.member x.wrapper w₁ w₂
  | inject {target member : Value} {spec : Option Injection.Spec} {x : Injection.Prepared}
      {w₁ w₂ : World} (deed : m.deed = .inject target member spec)
      (applies : Injection.Applies call target member spec (m.start w) x w₁ w₂ (m.outcome w)) :
      Exchanges m w x.plan.member x.replacement w₁ w₂

/-- What is done leaves a record that says that a callable was there before. -/
inductive Move.Records (m : Move) (w : World) (original : Value) : Prop
  | patch {k : Key} {r : PatchRecord} (goes : w.patched.GoesOn [(k, r)] (m.outcome w).patched)
      (previous : r.previous = original) : Records m w original
  | inject {k : Key} {r : InjectionRecord} (goes : w.injected.GoesOn [(k, r)] (m.outcome w).injected)
      (previous : r.previous = original) : Records m w original

theorem Move.outcome_patch {m : Move} {target member : Value} {spec : Option Patch.Spec}
    (hdeed : m.deed = .patch target member spec) (w : World) :
    m.outcome w = (Run.result (Patch.apply call target member spec).run (m.start w)).2 := by
  rw [Move.outcome, hdeed, Deed.patch_world]

theorem Move.outcome_inject {m : Move} {target member : Value} {spec : Option Injection.Spec}
    (hdeed : m.deed = .inject target member spec) (w : World) :
    m.outcome w = (Run.result (Injection.apply call target member spec).run (m.start w)).2 := by
  rw [Move.outcome, hdeed, Deed.inject_world]

/-- A patch that gives something exchanges the member for its wrapper. -/
theorem Patch.exchanges_of_given {m : Move} {w : World} {target member id : Value}
    {spec : Option Spec} (hdeed : m.deed = .patch target member spec)
    (h : m.patchId? w = some id) :
    ∃ x w₁ w₂, m.Exchanges w (Patch.Prepared.member x) x.wrapper w₁ w₂ ∧
      Applies call target member spec (m.start w) x w₁ w₂ (m.outcome w) := by
  rw [Move.patchId?, hdeed] at h
  have hgives := Attempt.given?_eq_some.1 h
  rw [← Move.outcome_patch hdeed] at hgives
  obtain ⟨x, w₁, w₂, -, happlies⟩ := apply_gives hgives
  exact ⟨x, w₁, w₂, .patch hdeed happlies, happlies⟩

/-- An injection that gives something exchanges the member for what it has made of it. -/
theorem Injection.exchanges_of_given {m : Move} {w : World} {target member : Value} {id : String}
    {spec : Option Spec} (hdeed : m.deed = .inject target member spec)
    (h : m.injectionId? w = some id) :
    ∃ x w₁ w₂, m.Exchanges w (Injection.Prepared.plan x).member x.replacement w₁ w₂ ∧
      Applies call target member spec (m.start w) x w₁ w₂ (m.outcome w) := by
  rw [Move.injectionId?, hdeed] at h
  have hgives := Attempt.given?_eq_some.1 h
  rw [← Move.outcome_inject hdeed] at hgives
  obtain ⟨x, w₁, w₂, -, happlies⟩ := apply_applies hgives
  exact ⟨x, w₁, w₂, .inject hdeed happlies, happlies⟩

namespace Injection

variable {target member : Value} {spec : Option Spec} {x : Prepared} {w w' : World}

/-- What is ready before the target is written to: a replacement of the function that has been found,
    which is bound to what the member is bound to and runs what its text is compiled to. -/
structure Readies (call : Caller) (target member : Value) (w : World) (x : Prepared) (w' : World) :
    Prop where
  found : ∃ w₁, Attempt.Gives (Member.resolve call target member) w x.plan.member w₁ ∧ w₁.Lasts w'
  replaces : ∃ code making r,
    compile x.text.toList x.plan.function.frees (ownerName? x.plan.function.qualname)
      x.plan.function.codeName (fileName x.id) = .ok code ∧
    Replaces x.plan code making w' x.replacement r ∧
    making.body? (.thing x.plan.ref) = some (.function x.plan.function) ∧ making.Lasts w'

theorem prepare_readies (h : Attempt.Gives (prepare call target member spec) w x w') :
    Readies call target member w x w' := by
  obtain ⟨w₁, making, hplan, hthings, -, -, hmade⟩ := prepare_stages h
  obtain ⟨reading, hworked, hreading⟩ := plan_gives hplan
  obtain ⟨receiver, hbound, hvalue, hbody⟩ := functionOf_isBound hworked.function_eq
  have hsame : making.things = reading.things := hthings.trans hreading
  have hbound' : making.IsBound x.plan.member.value x.plan.ref receiver := by
    cases receiver with
    | none => exact hbound
    | some self => exact (World.body?_congr hsame _).trans hbound
  have hbody' := (World.body?_congr hsame (.thing x.plan.ref)).trans hbody
  obtain ⟨-, code, r, hcode, hreplaces⟩ := replacementFor_replaces hbound' hvalue hbody' hmade
  have hlasts := ((replacementFor_quiet (hvalue ▸ hbody') x.text x.id).of_gives hmade).lasts
  obtain ⟨w₀, hresolve, hcheck⟩ := hworked.resolved
  have hchecked := ((check_confined call_confined spec).ends w₀).of_gives hcheck
  exact {
    found := ⟨w₀, hresolve, (hchecked.lasts.trans (.of_things hsame)).trans hlasts⟩
    replaces := ⟨code, making, r, hcode, hreplaces, hbody', hlasts⟩ }

end Injection

/-- Whatever is done, things last. -/
theorem Move.outcome_lasts (m : Move) (w : World) : w.Lasts (m.outcome w) := by
  have hleads : Run.Leads World.Lasts (m.deed.run call) := by
    have hconfined : ∀ {α : Type} {x : Run α}, x.Confined → Run.Leads World.Lasts x :=
      fun hx => hx.leads fun h => h.lasts
    unfold Deed.run
    cases m.deed with
    | mark allowed v => exact .map (hconfined (Run.mark_confined allowed v))
    | patch target member spec =>
      exact .map (Patch.apply_leads World.lasts_isPatchWay call_confined target member spec)
    | inject target member spec =>
      exact .map (Injection.apply_leads World.lasts_isInjectionWay call_confined target member spec)
    | call v args => exact .map (hconfined (call_confined v args))
  exact hleads (m.start w)

namespace Move.Exchanges

variable {m : Move} {w w₁ w₂ : World} {t : Member} {g original : Value}

theorem assigned (h : m.Exchanges w t g w₁ w₂) : Attempt.Gives (t.assign call g) w₁ () w₂ := by
  cases h with
  | patch deed applies => exact applies.assigned
  | inject deed applies => exact applies.assigned

theorem lasts_assigned (h : m.Exchanges w t g w₁ w₂) : w₁.Lasts w₂ :=
  (((Member.assign_confined call_confined t g).ends w₁).of_gives h.assigned).lasts

/-- Keeping the record leaves the things alone. -/
theorem things (h : m.Exchanges w t g w₁ w₂) : (m.outcome w).things = w₂.things := by
  cases h with
  | patch deed applies => exact Patch.conclude_things applies.concluded
  | inject deed applies => exact (Injection.conclude_leaves applies.concluded).1

theorem isRoutine (h : m.Exchanges w t g w₁ w₂) : w₁.IsRoutine g := by
  cases h with
  | patch deed applies =>
    exact (Patch.prepare_readies call_confined applies.prepared).wraps.isRoutine
  | inject deed applies =>
    obtain ⟨code, making, r, -, hreplaces, -⟩ :=
      (Injection.prepare_readies applies.prepared).replaces
    obtain ⟨receiver, -, hbound⟩ := hreplaces.bound
    obtain ⟨f, hf, -⟩ := hreplaces.replica.function
    exact hbound.isRoutine hf

/-- The member is what has been found in the target. -/
theorem found (h : m.Exchanges w t g w₁ w₂) : ∃ member w₀,
    Attempt.Gives (Member.resolve call t.target member) (m.start w) t w₀ ∧ w₀.Lasts w₁ := by
  cases h with
  | @patch target member spec x w₁ w₂ deed applies =>
    obtain ⟨w₀, hresolve, hlasts⟩ := (Patch.prepare_readies call_confined applies.prepared).found
    exact ⟨member, w₀, Member.resolve_target hresolve ▸ hresolve, hlasts⟩
  | @inject target member spec x w₁ w₂ deed applies =>
    obtain ⟨w₀, hresolve, hlasts⟩ := (Injection.prepare_readies applies.prepared).found
    exact ⟨member, w₀, Member.resolve_target hresolve ▸ hresolve, hlasts⟩

/-- What a target that is no class has is not wrapped. -/
theorem convention (h : m.Exchanges w t g w₁ w₂) (hclass : w₁.isClass t.target = false) :
    t.convention = .plain := by
  obtain ⟨member, w₀, hresolve, hlasts⟩ := h.found
  obtain ⟨-, -, hlookup⟩ := Member.resolve_looks hresolve
  refine Member.lookup_convention hlookup ?_
  by_contra hno
  rw [hlasts.isClass (by simpa using hno)] at hclass
  cases hclass

/-- **The record** says that the member was there before. -/
theorem recorded (h : m.Exchanges w t g w₁ w₂) (hrecords : m.Records w original) :
    original = t.value := by
  cases h with
  | patch deed applies =>
    obtain ⟨k, timestamp, -, hgoes⟩ := applies.records call_confined
    cases hrecords with
    | patch goes previous =>
      obtain ⟨⟨-, rfl⟩, -⟩ := List.cons.inj (goes.unique hgoes)
      exact previous.symm
    | inject goes =>
      rw [Move.outcome_injected (by simp [deed])] at goes
      cases goes.unique (.refl _)
  | inject deed applies =>
    obtain ⟨timestamp, hgoes⟩ := applies.records call_confined
    cases hrecords with
    | inject goes previous =>
      obtain ⟨⟨-, rfl⟩, -⟩ := List.cons.inj (goes.unique hgoes)
      exact previous.symm
    | patch goes =>
      rw [Move.outcome_patched (by simp [deed])] at goes
      cases goes.unique (.refl _)

end Move.Exchanges

/-! ## What a slot has -/

namespace World

variable {w w₁ w₂ w' : World} {name : String} {target v g : Value} {convention : Convention}

/-- A target has a callable itself under a name, where it is found and called in a certain way. -/
def Has (w : World) (name : String) (target : Value) (convention : Convention) (v : Value) : Prop :=
  ∃ x, w.Owns name x target ∧ w.IsSlotValue x ∧ w.member target x = (convention, v) ∧ w.IsRoutine v

theorem Has.congr (h : w.Has name target convention v) (hthings : w'.things = w.things) :
    w'.Has name target convention v := by
  obtain ⟨x, howns, hslot, hmember, hroutine⟩ := h
  have hlasts : w.Lasts w' := .of_things hthings
  exact ⟨x, howns.congr hthings, hlasts.isSlotValue hslot, (member_congr hthings _ _).trans hmember,
    hlasts.isRoutine hroutine⟩

/-- Whatever is done begins with what the target has. -/
theorem Has.starts (h : w.Has name target convention v) (m : Move) :
    (m.start w).Has name target convention v := h.congr rfl

/-- What a target has is what is found in it. -/
theorem Has.found {t : Member} {member : Value} (h : w.Has t.name t.target convention v)
    (hresolve : Attempt.Gives (Member.resolve call t.target member) w t w₁) :
    t.convention = convention ∧ t.value = v := by
  obtain ⟨x, howns, -, hmember, -⟩ := h
  obtain ⟨-, -, hlookup⟩ := Member.resolve_looks hresolve
  obtain ⟨w₂, hlookup', -⟩ := howns.lookup call
  have hsame := (Run.gives_unique hlookup hlookup').1
  rw [hmember] at hsame
  exact Prod.mk.inj (Option.some.inj hsame)

/-- How a callable comes to be in a slot that it is written to: a target that has been there since a
    world takes it if it does not refuse it, or code of the target has put it there and has left its
    attributes alone. -/
inductive Accepts (since w w' : World) (name : String) (g target : Value) : Prop
  | taken (isTarget : w.IsTarget call name target)
      (there : ∀ r, target = .thing r → since.thing? (w.keeper r) ≠ none) :
      Accepts since w w' name g target
  | passed (isClass : w'.isClass target = false) (owns : w'.Owns name g target)
      (spared : ∀ r, g = .thing r → w'.table r = w.table r) : Accepts since w w' name g target

end World

namespace Move.Exchanges

variable {m : Move} {w w₁ w₂ : World} {t : Member} {g : Value}

/-- **What has been written is what the slot has**, and it is called as what was there before. -/
theorem has (h : m.Exchanges w t g w₁ w₂)
    (haccepts : (m.start w).Accepts w₁ w₂ t.name g t.target) :
    (m.outcome w).Has t.name t.target t.convention g := by
  refine World.Has.congr ?_ h.things
  cases haccepts with
  | taken isTarget =>
    obtain ⟨x, hplaced⟩ := Member.assign_places h.convention isTarget h.isRoutine h.assigned
    exact ⟨x, hplaced.owns, hplaced.isSlotValue, hplaced.member, hplaced.isRoutine⟩
  | passed isClass owns =>
    have hroutine := h.lasts_assigned.isRoutine h.isRoutine
    refine ⟨g, owns, .inl hroutine, ?_, hroutine⟩
    have hplain : t.convention = .plain := by
      refine h.convention ?_
      by_contra hno
      rw [h.lasts_assigned.isClass (by simpa using hno)] at isClass
      cases isClass
    rw [World.member, if_neg (by simp [isClass]), hplain]

/-- A callable that is new keeps its attributes when it is written to the target. -/
theorem table_eq {r : Ref} {f : Machine.Function} (h : m.Exchanges w t g w₁ w₂)
    (haccepts : (m.start w).Accepts w₁ w₂ t.name g t.target) (hg : g = .thing r)
    (hnew : (m.start w).thing? r = none) (hf : w₁.body? (.thing r) = some (.function f)) :
    (m.outcome w).table r = w₁.table r := by
  rw [World.table_congr h.things]
  cases haccepts with
  | passed isClass owns spared => exact spared r hg
  | taken isTarget there =>
    obtain ⟨x, hplaced⟩ := Member.assign_places h.convention isTarget h.isRoutine h.assigned
    obtain ⟨s, w₃, hs, hgrown, -, hputs⟩ := hplaced.puts
    have hapart : r ≠ w₁.keeper s := by
      rintro rfl
      exact there s hs hnew
    refine (hgrown.differsAt hputs.differsAt).table_eq hapart fun hnone => ?_
    rw [World.body?, hnone] at hf
    cases hf

end Move.Exchanges

/-- Something that is done leaves a slot alone: what the target has there, it still has. -/
def Move.Spares (m : Move) (w : World) (name : String) (target : Value) : Prop :=
  ∀ x, w.Owns name x target → (m.outcome w).Owns name x target

theorem World.Has.spared {m : Move} {w : World} {name : String} {target v : Value}
    {convention : Convention} (h : w.Has name target convention v)
    (hspares : m.Spares w name target) : (m.outcome w).Has name target convention v := by
  obtain ⟨x, howns, hslot, hmember, hroutine⟩ := h
  have hlasts := m.outcome_lasts w
  exact ⟨x, hspares x howns, hlasts.isSlotValue hslot, (hlasts.member howns hslot).trans hmember,
    hlasts.isRoutine hroutine⟩

/-! ## Links -/

/-- A patch or an injection of a slot that succeeds: what is done and in which world, what its record
    says that was there before, and what has been put there. -/
structure Link where
  move : Move
  world : World
  original : Value
  installed : Value

namespace Link

/-- The world after it has been done. -/
def after (l : Link) : World := l.move.outcome l.world

/-- It exchanges what is in the slot, which takes the new callable, and leaves a record. -/
structure Takes (l : Link) (name : String) (target : Value) : Prop where
  exchanges : ∃ t w₁ w₂, l.move.Exchanges l.world t l.installed w₁ w₂ ∧ t.name = name ∧
    t.target = target ∧ (l.move.start l.world).Accepts w₁ w₂ name l.installed target
  records : l.move.Records l.world l.original

/-- What is so of a link: its record keeps what was found in the slot, and the slot has what has been
    installed, in the same wrapping.  What an injection installs is bound to the same receiver.  The
    wrapper that a patch installs refers to the original, if code that runs for the name of the
    original does not get at the wrapper. -/
structure Holds (l : Link) (name : String) (target : Value) : Prop where
  found : ∃ convention,
    (∃ member w₁, Attempt.Gives (Member.resolve call target member) (l.move.start l.world)
      { target, name, value := l.original, convention } w₁) ∧
    l.after.Has name target convention l.installed
  bound : ∀ member spec, l.move.deed = .inject target member spec → ∀ f self,
    l.after.body? l.original = some (.method f self) →
      ∃ f', l.after.body? l.installed = some (.method f' self)
  wrapped : ∀ member spec t w₁, l.move.deed = .patch target member spec →
    Attempt.Gives (Member.resolve call target member) (l.move.start l.world) t w₁ →
      Patch.NamedApart call w₁ l.original →
        (World.getAttr call l.installed Patch.wrappedAttribute).Gives l.after l.original l.after

variable {l : Link} {name : String} {target : Value}

/-- What is exchanged in a slot that takes it is a link of the slot. -/
theorem takes_of_exchanges {m : Move} {w w₁ w₂ : World} {t : Member} {g : Value}
    (h : m.Exchanges w t g w₁ w₂) (haccepts : (m.start w).Accepts w₁ w₂ t.name g t.target) :
    Takes ⟨m, w, t.value, g⟩ t.name t.target where
  exchanges := ⟨t, w₁, w₂, h, rfl, rfl, haccepts⟩
  records := by
    cases h with
    | patch deed applies =>
      obtain ⟨k, timestamp, -, hgoes⟩ := applies.records call_confined
      exact .patch hgoes rfl
    | inject deed applies =>
      obtain ⟨timestamp, hgoes⟩ := applies.records call_confined
      exact .inject hgoes rfl

theorem Takes.original {t : Member} {w₁ w₂ : World} (h : l.Takes name target)
    (hexchanges : l.move.Exchanges l.world t l.installed w₁ w₂) : l.original = t.value :=
  hexchanges.recorded h.records

/-- What an injection installs is bound to what the original is bound to. -/
theorem Takes.bound {member : Value} {spec : Option Injection.Spec} (h : l.Takes name target)
    (hdeed : l.move.deed = .inject target member spec) {f self : Value}
    (hmethod : l.after.body? l.original = some (.method f self)) :
    ∃ f', l.after.body? l.installed = some (.method f' self) := by
  obtain ⟨t, w₁, w₂, hexchanges, -⟩ := h.exchanges
  rw [h.original hexchanges] at hmethod
  have hafter : w₁.Lasts l.after := hexchanges.lasts_assigned.trans (.of_things hexchanges.things)
  generalize l.installed = g at hexchanges ⊢
  cases hexchanges with
  | patch deed => rw [hdeed] at deed; cases deed
  | inject deed applies =>
    obtain ⟨code, making, r, -, hreplaces, hfunction, hlasts⟩ :=
      (Injection.prepare_readies applies.prepared).replaces
    obtain ⟨receiver, hold, hnow⟩ := hreplaces.bound
    cases receiver with
    | none =>
      obtain ⟨f', hf', -⟩ := (hlasts.trans hafter).function hfunction
      rw [hold, hf'] at hmethod
      cases hmethod
    | some receiver =>
      rw [(hlasts.trans hafter).fixed hold rfl] at hmethod
      cases hmethod
      exact ⟨_, hafter.fixed hnow rfl⟩

/-- The wrapper that a patch installs refers to the original. -/
theorem Takes.wrapped {member : Value} {spec : Option Patch.Spec} {t : Member} {w₀ : World}
    (h : l.Takes name target) (hdeed : l.move.deed = .patch target member spec)
    (hresolve : Attempt.Gives (Member.resolve call target member) (l.move.start l.world) t w₀)
    (hapart : Patch.NamedApart call w₀ l.original) :
    (World.getAttr call l.installed Patch.wrappedAttribute).Gives l.after l.original l.after := by
  obtain ⟨t', w₁, w₂, hexchanges, rfl, rfl, haccepts⟩ := h.exchanges
  have horiginal := h.original hexchanges
  have hafter : w₁.Lasts l.after := hexchanges.lasts_assigned.trans (.of_things hexchanges.things)
  generalize l.installed = g at hexchanges haccepts ⊢
  have hkeeps := fun r f => hexchanges.table_eq (r := r) (f := f) haccepts
  cases hexchanges with
  | inject deed => rw [hdeed] at deed; cases deed
  | patch deed applies =>
    cases hdeed.symm.trans deed
    have hready := Patch.prepare_readies call_confined applies.prepared
    obtain ⟨w₀', hfound, -⟩ := hready.found
    obtain ⟨rfl, rfl⟩ := Attempt.gives_unique hresolve hfound
    rw [horiginal] at hapart ⊢
    obtain ⟨r, hwrapper, hwrapped⟩ :=
      Patch.prepare_wrapped call_confined hresolve hapart applies.prepared
    obtain ⟨s, hs, hnew⟩ := hready.newWrapper
    obtain ⟨f, hf, -⟩ := hready.wraps.wrapper
    -- What is looked up on the new wrapper is what its table keeps, and nobody has written there
    -- since.
    obtain rfl : r = s := Value.thing.inj (hwrapper.symm.trans hs)
    rw [hwrapper] at hf ⊢
    obtain ⟨f', hf', -⟩ := hafter.function hf
    refine World.getAttr_function_own hf' (Run.gives_pure.2 ⟨rfl, rfl⟩) ?_ call
    have hsame : l.after.table r = _ := hkeeps r f hwrapper hnew hf
    rw [hsame, hwrapped]

/-- **One link.** -/
theorem Takes.holds (h : l.Takes name target) : l.Holds name target := by
  have hexchanged := h.exchanges
  obtain ⟨t, w₁, w₂, hexchanges, rfl, rfl, haccepts⟩ := hexchanged
  obtain ⟨member, w₀, hresolve, -⟩ := hexchanges.found
  refine ⟨⟨t.convention, ⟨member, w₀, ?_⟩, hexchanges.has haccepts⟩, ?_, ?_⟩
  · rw [h.original hexchanges]
    exact hresolve
  · exact fun member spec hdeed f self => h.bound hdeed
  · exact fun member spec t w₁ hdeed hresolve => h.wrapped hdeed hresolve

end Link

/-! ## Runs -/

/-- Things are done one after the other, and some of them are the links of a slot, in this order; all
    other ones leave the slot alone. -/
inductive World.Linked (name : String) (target : Value) : World → List Move → List Link → Prop
  | nil (w : World) : Linked name target w [] []
  | takes {l : Link} {ms : List Move} {ls : List Link} (takes : l.Takes name target)
      (rest : Linked name target l.after ms ls) :
      Linked name target l.world (l.move :: ms) (l :: ls)
  | spares {w : World} {m : Move} {ms : List Move} {ls : List Link}
      (spares : m.Spares w name target) (rest : Linked name target (m.outcome w) ms ls) :
      Linked name target w (m :: ms) ls

namespace World.Linked

variable {w : World} {name : String} {target v : Value} {convention : Convention}
  {ms : List Move} {ls : List Link}

/-- What a slot has is the original of the next link. -/
theorem head (h : w.Linked name target ms ls) (hhas : w.Has name target convention v) :
    ∀ l ∈ ls.head?, l.original = v := by
  induction h with
  | nil => rintro _ ⟨⟩
  | @takes l ms ls takes rest ih =>
    rintro _ ⟨⟩
    obtain ⟨t, w₁, w₂, hexchanges, rfl, rfl, -⟩ := takes.exchanges
    obtain ⟨member, w₀, hresolve, -⟩ := hexchanges.found
    rw [takes.original hexchanges]
    exact ((hhas.starts l.move).found hresolve).2
  | spares spares rest ih => exact ih (hhas.spared spares)

/-- What a slot has stays there as long as there is no link. -/
theorem stays (h : w.Linked name target ms ls) (hnone : ls = [])
    (hhas : w.Has name target convention v) : (w.through ms).Has name target convention v := by
  induction h with
  | nil => exact hhas
  | takes => cases hnone
  | spares spares rest ih => exact ih hnone (hhas.spared spares)

/-- What the last link has installed is what the slot has in the end. -/
theorem last (h : w.Linked name target ms ls) :
    ∀ l ∈ ls.getLast?, ∃ c, (w.through ms).Has name target c l.installed := by
  induction h with
  | nil => rintro _ ⟨⟩
  | @takes l ms ls takes rest ih =>
    cases ls with
    | nil =>
      rintro _ ⟨⟩
      obtain ⟨c, -, hhas⟩ := takes.holds.found
      exact ⟨c, rest.stays rfl hhas⟩
    | cons l₁ ls => exact ih
  | spares spares rest ih => exact ih

theorem holds (h : w.Linked name target ms ls) : ∀ l ∈ ls, l.Holds name target := by
  induction h with
  | nil => exact List.forall_mem_nil _
  | takes takes rest ih => exact List.forall_mem_cons.2 ⟨takes.holds, ih⟩
  | spares spares rest ih => exact ih

/-- **A whole run**: the original of each link is what the one before has installed. -/
theorem isChain (h : w.Linked name target ms ls) :
    ls.IsChain fun l l' => l'.original = l.installed := by
  induction h with
  | nil => exact .nil
  | takes takes rest ih =>
    obtain ⟨c, -, hhas⟩ := takes.holds.found
    exact List.isChain_cons.2 ⟨rest.head hhas, ih⟩
  | spares spares rest ih => exact ih

end World.Linked

/-! ## What leaves a slot alone -/

/-- What is done is a patch or an injection, and the code that takes part in it has no effects. -/
inductive Move.Behaves (m : Move) (w : World) : Prop
  | patch {target member : Value} {spec : Option Patch.Spec}
      (deed : m.deed = .patch target member spec) (tame : Tame call target (m.start w))
      (relies : Patch.Relies call target member spec (m.start w)) : Behaves m w
  | inject {target member : Value} {spec : Option Injection.Spec}
      (deed : m.deed = .inject target member spec) (tame : Tame call target (m.start w))
      (relies : Injection.Relies call spec (m.start w)) : Behaves m w

/-- A member is written to a place that is not the one of a slot. -/
structure Member.Elsewhere (t : Member) (w w₁ : World) (name : String) (target : Value) : Prop where
  isTarget : w₁.IsTarget call t.name t.target
  apart : ∀ r s, target = .thing r → t.target = .thing s → w.keeper r = w₁.keeper s → name ≠ t.name

namespace Move.Behaves

variable {m : Move} {w w₁ w₂ : World} {t : Member} {g target : Value} {name : String}

/-- **What fails has changed nothing**: if nothing has been exchanged, everything is as it was. -/
theorem undisturbed (h : m.Behaves w) (hfails : ∀ t g w₁ w₂, ¬m.Exchanges w t g w₁ w₂) :
    Undisturbed (m.start w) (m.outcome w) := by
  cases h with
  | @patch target member spec deed tame relies =>
    have hends := Patch.apply_ends tame relies
    cases hgiven : m.patchId? w with
    | none =>
      rw [Move.patchId?, deed] at hgiven
      rw [Move.outcome_patch deed]
      exact hends.of_none hgiven
    | some id =>
      obtain ⟨x, w₁, w₂, hexchanges, -⟩ := Patch.exchanges_of_given deed hgiven
      exact absurd hexchanges (hfails _ _ _ _)
  | @inject target member spec deed tame relies =>
    have hends : Attempt.Ends (Injection.apply call target member spec) (m.start w) _ _ :=
      Injection.apply_ends tame relies
    cases hgiven : m.injectionId? w with
    | none =>
      rw [Move.injectionId?, deed] at hgiven
      rw [Move.outcome_inject deed]
      exact hends.of_none hgiven
    | some id =>
      obtain ⟨x, w₁, w₂, hexchanges, -⟩ := Injection.exchanges_of_given deed hgiven
      exact absurd hexchanges (hfails _ _ _ _)

/-- Everything is as it was when something is ready to be written. -/
theorem ready (h : m.Behaves w) (hx : m.Exchanges w t g w₁ w₂) : Undisturbed (m.start w) w₁ := by
  cases hx with
  | patch deed applies =>
    cases h with
    | patch deed' tame relies =>
      cases deed.symm.trans deed'
      exact (Patch.prepare_quiet tame relies).of_gives applies.prepared
    | inject deed' => cases deed.symm.trans deed'
  | inject deed applies =>
    cases h with
    | inject deed' tame relies =>
      cases deed.symm.trans deed'
      exact (Injection.prepare_quiet tame relies).of_gives applies.prepared
    | patch deed' => cases deed.symm.trans deed'

/-- **A slot is left alone** by patches and injections that fail or are for other places. -/
theorem spares (h : m.Behaves w) (hrooted : w.Rooted name target)
    (helsewhere : ∀ t g w₁ w₂, m.Exchanges w t g w₁ w₂ → t.Elsewhere w w₁ name target) :
    m.Spares w name target := by
  intro x howns
  refine howns.leftAlone hrooted fun r hr => ?_
  have hstart : w.LeavesAlone (w.keeper r) name (m.start w) := .of_things rfl
  by_cases hsucceeds : ∃ t g w₁ w₂, m.Exchanges w t g w₁ w₂
  · obtain ⟨t, g, w₁, w₂, hx⟩ := hsucceeds
    obtain ⟨isTarget, apart⟩ := helsewhere t g w₁ w₂ hx
    obtain ⟨y, hplaced⟩ := Member.assign_places hx.convention isTarget hx.isRoutine hx.assigned
    obtain ⟨s, w₃, hs, hgrown, -, hputs⟩ := hplaced.puts
    exact hstart.trans ((World.LeavesAlone.of_undisturbed (h.ready hx)).trans
      ((World.LeavesAlone.of_undisturbed hgrown.undisturbed).trans
        ((World.LeavesAlone.of_putAt hputs hplaced.isSlotValue (apart r s hr hs)).trans
          (.of_things hx.things))))
  · have hfails := h.undisturbed fun t g w₁ w₂ hx => hsucceeds ⟨t, g, w₁, w₂, hx⟩
    exact hstart.trans (.of_undisturbed hfails)

end Move.Behaves

/-! ## Namespaces -/

namespace World

variable {w : World} {r : Ref} {name : String} {v : Value}

/-- A value of which the language supplies the class has nothing in its classes that could change. -/
theorem rooted_of_supplied {cls : String} (h : w.classOf v = .cls cls) : w.Rooted name v where
  isClass := by rw [h]; rfl
  order s hs := by
    rw [h] at hs
    simp [classOrder] at hs
  member s hs := by
    rw [h, findMade_supplied] at hs
    cases hs

/-- A namespace can hold callables. -/
theorem isTarget_namespace (h : w.body? (.thing r) = some .namespace) :
    w.IsTarget call name (.thing r) := by
  refine .object h rfl (fun s hs => ?_) ⟨fun f hf => ?_, fun g s hs => ?_⟩
  · simp [classOf_namespace h, classOrder] at hs
  · rw [classOf_namespace h, findMade_supplied] at hf
    cases hf
  · rw [classOf_namespace h, findMade_supplied] at hs
    cases hs

end World

/-- A namespace takes what is exchanged for what it has. -/
theorem Move.Exchanges.takes_namespace {m : Move} {w w₁ w₂ : World} {t : Member} {g : Value}
    {r : Ref} (h : m.Exchanges w t g w₁ w₂) (hbody : w.body? (.thing r) = some .namespace)
    (htarget : t.target = .thing r) : Link.Takes ⟨m, w, t.value, g⟩ t.name (.thing r) := by
  obtain ⟨member, w₀, hresolve, hlasts⟩ := h.found
  have hresolved :=
    ((Member.resolve_confined call_confined t.target member).ends _).of_gives hresolve
  have hstart : (m.start w).body? (.thing r) = some .namespace := hbody
  have hbody₁ := (hresolved.lasts.trans hlasts).fixed hstart rfl
  refine htarget ▸ Link.takes_of_exchanges h (.taken (htarget ▸ World.isTarget_namespace hbody₁) ?_)
  rw [htarget]
  rintro _ ⟨⟩ hnone
  rw [World.keeper, if_neg (by simp [World.isMutableMapping_object hbody₁ rfl])] at hnone
  rw [World.body?, hnone] at hstart
  cases hstart

/-- An injection into a namespace that gives something is a link of what it has found there. -/
theorem Injection.takes_of_given {m : Move} {w v : World} {r : Ref} {member : Value} {t : Member}
    {id : String} {spec : Option Spec} (hbody : w.body? (.thing r) = some .namespace)
    (hdeed : m.deed = .inject (.thing r) member spec) (hgiven : m.injectionId? w = some id)
    (hresolve : Attempt.Gives (Member.resolve call (.thing r) member) (m.start w) t v) :
    ∃ g, Link.Takes ⟨m, w, t.value, g⟩ t.name (.thing r) := by
  obtain ⟨x, w₁, w₂, hexchanges, happlies⟩ := exchanges_of_given hdeed hgiven
  obtain ⟨v', hfound, -⟩ := (prepare_readies happlies.prepared).found
  obtain ⟨hsame, -⟩ := Attempt.gives_unique hfound hresolve
  have htakes := hexchanges.takes_namespace hbody (Member.resolve_looks hfound).1
  exact ⟨x.replacement, hsame ▸ htakes⟩

/-- An injection into a namespace fails if it is not said what it is. -/
theorem Move.behaves_of_unspecified {m : Move} {w : World} {r : Ref} {member : Value}
    (hdeed : m.deed = .inject (.thing r) member none)
    (hbody : w.body? (.thing r) = some .namespace) :
    m.Behaves w ∧ ∀ t g w₁ w₂, ¬m.Exchanges w t g w₁ w₂ := by
  have hstart : (m.start w).body? (.thing r) = some .namespace := hbody
  refine ⟨.inject hdeed (tame_of_inert (World.isInert_namespace hstart)) nofun, ?_⟩
  intro t g w₁ w₂ hexchanges
  cases hexchanges with
  | patch deed => cases hdeed.symm.trans deed
  | inject deed applies =>
    cases hdeed.symm.trans deed
    obtain ⟨w₃, w₄, hplan, -⟩ := Injection.prepare_stages applies.prepared
    obtain ⟨w₅, hworked, -⟩ := Injection.plan_gives hplan
    cases hworked.spec_eq

/-! ## Any run -/

/-- **The records of one slot are a chain.**  If some of what is done, in this order, are patches and
    injections of a slot that succeed, and everything else that is done leaves the slot alone, then

    * what the record of each one but the first keeps as the original is the very callable that the
      one before it has installed;
    * the original of each one is what was found in the slot before it.  So the record of the first
      one keeps what the slot had before all of them.  What is bound is replaced by something that is
      bound to the same receiver, and the wrapper that a patch installs refers to the original of its
      record, also if that one refers to something itself;
    * what the last one has installed is what the slot has in the end.

    Every patch and every injection that exchanges what it has found in a slot, which takes the new
    callable, is one of them.  Patches and injections that fail leave the slot alone, and so do those
    for other places, if the code that takes part in them has no effects.  No code that could get at
    a wrapper runs for the name of a function, of what is bound, or of anything else that runs no
    code when its attributes are read. -/
theorem originals_are_chained (name : String) (target : Value) :
    (∀ w ms ls, World.Linked name target w ms ls →
      (ls.IsChain fun l l' => l'.original = l.installed) ∧ (∀ l ∈ ls, l.Holds name target) ∧
      ∀ l ∈ ls.getLast?, ∃ c, (w.through ms).Has name target c l.installed) ∧
    (∀ (m : Move) w t g w₁ w₂, m.Exchanges w t g w₁ w₂ →
      (m.start w).Accepts w₁ w₂ t.name g t.target → Link.Takes ⟨m, w, t.value, g⟩ t.name t.target) ∧
    (∀ (m : Move) w, m.Behaves w → w.Rooted name target →
      (∀ t g w₁ w₂, m.Exchanges w t g w₁ w₂ → t.Elsewhere w w₁ name target) →
        m.Spares w name target) ∧
    ∀ w v, w.IsRoutine v ∨ w.IsInert v → Patch.NamedApart call w v :=
  ⟨fun _ _ _ h => ⟨h.isChain, h.holds, h.last⟩, fun _ _ _ _ _ _ => Link.takes_of_exchanges,
    fun _ _ h => h.spares, fun _ _ => Patch.namedApart_of_inert⟩

/-! ### A patch of what has been injected into -/

/-- The sample injection finds the sample function. -/
theorem ledger_resolves : Attempt.Gives (Member.resolve call Injection.sampleTarget (.str "idle"))
    (ledgerInjection.start Injection.sampleWorld)
    ⟨Injection.sampleTarget, "idle", .thing ⟨1⟩, .plain⟩
    (ledgerInjection.start Injection.sampleWorld) := rfl

/-- The record of the patch keeps what has been injected as the original, and the wrapper refers to
    it; that of the injection keeps the function that was there before. -/
theorem injection_is_original_of_patch : ∃ l l',
    Injection.sampleWorld.Linked "idle" Injection.sampleTarget
      [ledgerInjection, failingInjection, ledgerPatch] [l, l'] ∧
    l.original = .thing ⟨1⟩ ∧ l'.original = l.installed ∧
    (World.getAttr call l'.installed Patch.wrappedAttribute).Gives l'.after l.installed l'.after := by
  obtain ⟨hchain, -, hspares, hapart⟩ := originals_are_chained "idle" Injection.sampleTarget
  have hstart : Injection.sampleWorld.body? Injection.sampleTarget = some .namespace := rfl
  obtain ⟨id, hpatched⟩ := Option.isSome_iff_exists.1 ledger_gives.2
  obtain ⟨g, htakes⟩ := Injection.takes_of_given hstart rfl ledger_injected ledger_resolves
  obtain ⟨y, w₁', w₂', hsecond, hpatches⟩ := Patch.exchanges_of_given rfl hpatched
  -- The target stays what it is, so it takes what is exchanged also later.
  have hbody₁ := (ledgerInjection.outcome_lasts Injection.sampleWorld).fixed hstart rfl
  have hbody₂ := (failingInjection.outcome_lasts _).fixed hbody₁ rfl
  obtain ⟨hbehaves, hfails⟩ := Move.behaves_of_unspecified (m := failingInjection) rfl hbody₁
  have hspared := hspares failingInjection _ hbehaves
    (World.rooted_of_supplied (World.classOf_namespace hbody₁))
    fun t g w₁ w₂ h => absurd h (hfails t g w₁ w₂)
  obtain ⟨v₁, hfound', -⟩ := (Patch.prepare_readies call_confined hpatches.prepared).found
  obtain ⟨htarget', hname', -⟩ := Member.resolve_looks hfound'
  have htakes' : Link.Takes ⟨_, _, y.member.value, y.wrapper⟩ "idle" _ :=
    (show y.member.name = "idle" from hname') ▸ hsecond.takes_namespace hbody₂ htarget'
  have hpatch := World.Linked.takes htakes' (.nil _)
  have hrest := World.Linked.spares hspared hpatch
  have hlinked := World.Linked.takes htakes hrest
  obtain ⟨hsame, hholds, -⟩ := hchain _ _ _ hlinked
  have hchained : y.member.value = g := (List.isChain_cons_cons.1 hsame).1
  obtain ⟨hfirst, hholds'⟩ := List.forall_mem_cons.1 hholds
  refine ⟨_, _, hlinked, rfl, hchained, ?_⟩
  have hwrapped := (hholds' _ (List.mem_singleton_self _)).wrapped _ _ _ _ rfl hfound'
  have hroutine : v₁.IsRoutine y.member.value := by
    obtain ⟨-, -, x, -, -, -, hroutine⟩ := hfirst.found
    have hresolved := ((Member.resolve_confined call_confined _ _).ends _).of_gives hfound'
    have hlasts : World.Lasts _ (ledgerPatch.start injectedWorld) :=
      (failingInjection.outcome_lasts _).trans (.of_things (ledgerPatch.start_things _))
    exact hchained ▸ (hlasts.trans hresolved.lasts).isRoutine hroutine
  exact hchained ▸ hwrapped (hapart _ _ (.inl hroutine))

end Graft
