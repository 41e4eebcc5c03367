import Graft.Proofs.Atomicity
import Graft.Proofs.Reach.Engines
import Graft.Proofs.Refusals
import Graft.Proofs.Splicing

set_option autoImplicit false

/-! # Marks can not be got around

A mark is kept for the function that a callable leads to, and an injection looks for it under the
function that it would rewrite.  Both look through bound methods in the same way, so it does not
matter how a function is reached.  What has been marked last counts: nothing that is done removes a
mark, and a mark of one function is none of another. -/

namespace Graft

open Machine Data

namespace World

variable {w w' : World} {v : Value} {r : Ref}

/-! ## What a mark is kept under -/

/-- What the mark of a function is kept under. -/
def markKey (r : Ref) : Key := ⟨[.thing r.index]⟩

/-- The last mark of a function, if it has ever been marked. -/
def lastMark? (w : World) (r : Ref) : Option Bool :=
  (w.flags.find? (·.1 == markKey r)).map Prod.snd

/-- A value is a function, or a bound, static or class method that directly wraps it. -/
def LeadsTo (w : World) (v : Value) (r : Ref) : Prop :=
  w.underlying v = .thing r ∧ ∃ f, w.body? (.thing r) = some (.function f)

/-- A mark of what leads to a function is kept under that function. -/
theorem LeadsTo.flagKey? (h : w.LeadsTo v r) : w.flagKey? v = some (markKey r) := by
  obtain ⟨hunder, f, hbody⟩ := h
  have hthing : (w.thing? r).map Thing.body = some (.function f) := hbody
  simp [World.flagKey?, hunder, isWeak, hthing, keyOf, keyParts, thingKeyParts, unhashable?,
    ownUnhashable?, equalityParts, ownPart, markKey, Except.map, Except.toOption]

theorem thingKeyParts_eq {s : Ref} (h : w.thingKeyParts s = .ok [.thing r.index]) : s = r := by
  have hparts : w.equalityParts s = [.thing r.index] := by
    unfold thingKeyParts at h
    split at h
    · cases h
    · exact Except.ok.inj h
  have hindex : s.index = r.index := by
    unfold equalityParts ownPart at hparts
    split at hparts
    · cases hparts
    · cases hparts
    · split at hparts
      · split at hparts
        · cases hparts
        · simpa using hparts
      · simpa using hparts
  cases s
  cases r
  simpa using hindex

/-- What is kept under a function is kept there for leading to it. -/
theorem underlying_of_flagKey? (h : w.flagKey? v = some (markKey r)) :
    w.underlying v = .thing r := by
  unfold World.flagKey? at h
  dsimp only at h
  split at h
  · rename_i hweak
    have hkey : w.keyParts (w.underlying v) = .ok [.thing r.index] := by
      unfold keyOf at h
      cases hparts : w.keyParts (w.underlying v) with
      | error t => rw [hparts] at h; cases h
      | ok parts => rw [hparts] at h; cases h; rfl
    generalize w.underlying v = u at hkey hweak
    cases u with
    | thing s => rw [thingKeyParts_eq hkey]
    | bound self name | builtin name | cls name | choice c => cases hkey
    | _ => cases hweak
  · cases h

/-! ## Which mark counts -/

theorem LeadsTo.flag? (h : w.LeadsTo v r) : w.flag? v = some ((w.lastMark? r).getD true) := by
  have htruth : w.truth v = true := by
    obtain ⟨hunder, f, hbody⟩ := h
    cases v with
    | thing s =>
      unfold underlying at hunder
      cases hs : w.body? (.thing s) with
      | none =>
        have hthing : (w.thing? s).map Thing.body = none := hs
        simp [truth, hthing]
      | some b =>
        have hthing : (w.thing? s).map Thing.body = some b := hs
        rw [hs] at hunder
        -- What is left after the first step can be empty, and is no function.
        cases b <;> simp only [truth, hthing] <;> cases hunder <;> rw [hs] at hbody <;> cases hbody
    | _ => cases hunder
  rw [World.flag?, if_pos htruth, accepts, h.flagKey?]
  rfl

/-- A newer mark of something else is no mark of the function. -/
theorem lastMark?_cons {k : Key} {allowed : Bool} :
    World.lastMark? { w with flags := (k, allowed) :: w.flags } r =
      if k = markKey r then some allowed else w.lastMark? r := by
  unfold lastMark?
  by_cases hk : k = markKey r <;> simp [hk]

/-- As long as a function is not marked again, its last mark stays the same. -/
theorem lastMark?_append {newer : List (Key × Bool)} (h : w'.flags = newer ++ w.flags)
    (hnewer : ∀ e ∈ newer, e.1 ≠ markKey r) : w'.lastMark? r = w.lastMark? r := by
  have hnone : newer.find? (·.1 == markKey r) = none := by simpa using hnewer
  rw [lastMark?, lastMark?, h, List.find?_append, hnone, Option.none_or]

end World

/-! ## Marking -/

section Marking

variable {w : World} {v : Value} {r : Ref}

/-- A mark of whatever leads to a function is the last one of that function. -/
theorem Run.mark_lastMark? (h : w.LeadsTo v r) (allowed : Bool) :
    ∃ w', (Run.mark allowed v).Gives w v w' ∧ w'.lastMark? r = some allowed := by
  refine ⟨{ w with flags := (World.markKey r, allowed) :: w.flags }, ?_, ?_⟩
  · unfold Run.mark
    simp only [Run.gives_bind, Run.gives_world]
    refine ⟨w, w, ⟨rfl, rfl⟩, ?_⟩
    rw [h.flagKey?]
    rfl
  · rw [World.lastMark?_cons, if_pos rfl]

/-- A mark of what does not lead to a function leaves the last mark of that function as it was. -/
theorem Run.mark_other (h : w.underlying v ≠ .thing r) (allowed : Bool) :
    ((Run.mark allowed v).result w).2.lastMark? r = w.lastMark? r := by
  unfold Run.mark
  rw [Run.result_bind, Run.result_world]
  dsimp only
  cases hkey : w.flagKey? v with
  | none => rfl
  | some k =>
    have hk : k ≠ World.markKey r := by
      rintro rfl
      exact h (World.underlying_of_flagKey? hkey)
    exact World.lastMark?_cons.trans (if_neg hk)

end Marking

/-! ## Whatever is done -/

/-- Something that is done. -/
inductive Deed
  | mark (allowed : Bool) (v : Value)
  | patch (target member : Value) (spec : Option Patch.Spec)
  | inject (target member : Value) (spec : Option Injection.Spec)
  | call (v : Value) (args : Args)

/-- Does something, without a look at what comes of it. -/
def Deed.run (call : Caller) : Deed → Run Unit
  | .mark allowed v => (fun _ => ()) <$> Run.mark allowed v
  | .patch target member spec => (fun _ => ()) <$> (Patch.apply call target member spec).run
  | .inject target member spec => (fun _ => ()) <$> (Injection.apply call target member spec).run
  | .call v args => (fun _ => ()) <$> call v args

/-- The world after some things have been done, each of which may have failed. -/
def World.after (call : Caller) (w : World) (ds : List Deed) : World :=
  ds.foldl (fun w d => ((d.run call).result w).2) w

theorem World.after_append (call : Caller) (w : World) (ds ds' : List Deed) :
    w.after call (ds ++ ds') = (w.after call ds).after call ds' := List.foldl_append

theorem Deed.keepsMarks {call : Caller} (hcall : call.Confined) (d : Deed) :
    Run.Leads World.KeepsMarks (d.run call) := by
  cases d with
  | mark allowed v => exact .map (Run.mark_confined allowed v).keepsMarks
  | patch target member spec => exact .map (Patch.apply_keepsMarks hcall target member spec)
  | inject target member spec => exact .map (Injection.apply_keepsMarks hcall target member spec)
  | call v args => exact .map (hcall v args).keepsMarks

/-- Whatever is done, no mark is lost. -/
theorem World.after_keepsMarks {call : Caller} (hcall : call.Confined) (ds : List Deed)
    (w : World) :
    w.KeepsMarks (w.after call ds) := by
  induction ds generalizing w with
  | nil => exact List.suffix_rfl
  | cons d ds ih => exact World.keepsMarks_isWay.trans (d.keepsMarks hcall w) (ih _)

/-! ## Injections and marks -/

namespace Injection

/-- An injection finds a member and gets as far as looking for its mark, which it does in the world
    `w'`. -/
def Looks (call : Caller) (target member : Value) (spec : Option Spec) (w : World) (m : Member)
    (w' : World) : Prop :=
  ∃ w₁ checked, Attempt.Gives (Member.resolve call target member) w m w₁ ∧
    Attempt.Gives (check call spec) w₁ checked w'

variable {call : Caller} {target member : Value} {spec : Option Spec} {w w₁ : World} {m : Member}

theorem Looks.reaches (hcall : call.Confined) (h : Looks call target member spec w m w₁) :
    w.Reaches w₁ := by
  obtain ⟨w₀, checked, hresolve, hcheck⟩ := h
  have h₀ := (Member.resolve_confined hcall target member).ends w
  have h₁ := (check_confined hcall spec).ends w₀
  exact (h₀.of_gives hresolve).reaches.trans (h₁.of_gives hcheck).reaches

/-- If the snippet is text, nothing has been done then but to find the member. -/
theorem Looks.of_text (h : Looks Machine.call target member spec w m w₁)
    (htext : ∀ s, spec = some s → ∃ text, s.code = .str text) :
    Attempt.Gives (Member.resolve Machine.call target member) w m w₁ := by
  obtain ⟨w₀, checked, hresolve, hcheck⟩ := h
  rw [check_same hcheck htext]
  exact hresolve

/-- An injection of a member that refuses injections is refused, and nothing has been done but to
    find the member. -/
theorem Looks.forbidden (h : Looks call target member spec w m w₁)
    (hflag : w₁.flag? m.value = some false) :
    Attempt.Refuses (apply call target member spec) w (.forbidden m.name) w₁ := by
  obtain ⟨w₀, checked, hresolve, hcheck⟩ := h
  have hplan : Attempt.Refuses (plan call target member spec) w (.forbidden m.name) w₁ := by
    unfold plan
    refine hresolve.refuses_bind (hcheck.refuses_bind ?_)
    refine Attempt.Gives.refuses_bind (Attempt.gives_lift.2 (Run.gives_world.2 ⟨rfl, rfl⟩)) ?_
    rw [if_pos (by simp [hflag])]
    rfl
  exact hplan.bind.bind

/-- **Why an injection is refused because of the function** that it finds: the function is marked, it
    is none that can be rewritten, or its text can not be had. -/
theorem refuses_ofFunction {r : Refusal} {w' : World}
    (h : Attempt.Refuses (apply call target member spec) w r w') (hr : r.OfFunction) :
    ∃ m w₁, Looks call target member spec w m w₁ ∧
      (w₁.flag? m.value = some false ∧ r = .forbidden m.name ∨ functionOf w₁ m = .error r ∨
        ∃ ref v f reason, functionOf w₁ m = .ok (ref, v, f) ∧ sourceOf w₁ f = .error reason ∧
          r = .sourceUnavailable m.name reason) := by
  obtain h | ⟨m, w₁, hresolve, h | ⟨checked, w₂, hcheck, hcause⟩⟩ :=
    plan_refuses (apply_refuses h hr.early) hr.early
  · exact absurd h (Member.resolve_indifferent _ _ _ _ _ _ hr)
  · exact absurd h (check_indifferent _ _ _ _ _ hr)
  · exact ⟨m, w₂, ⟨w₁, checked, hresolve, hcheck⟩, hcause⟩

theorem functionOf_ne_forbidden (w : World) (m : Member) (n : String) :
    functionOf w m ≠ .error (.forbidden n) := by
  intro h
  unfold functionOf at h
  dsimp only at h
  split at h
  · split at h <;> cases h
  · cases h

/-- An injection of a member that accepts injections is not refused because of a mark. -/
theorem Looks.permitted (h : Looks call target member spec w m w₁)
    (hflag : w₁.flag? m.value ≠ some false) (n : String) (w' : World) :
    ¬Attempt.Refuses (apply call target member spec) w (.forbidden n) w' := by
  intro hrefuses
  obtain ⟨w₀, checked, hresolve, hcheck⟩ := h
  obtain ⟨m', w₁', ⟨w₀', checked', hresolve', hcheck'⟩, hcause⟩ :=
    refuses_ofFunction hrefuses (.forbidden n)
  -- The same member is found in the same world.
  obtain ⟨rfl, rfl⟩ := Attempt.gives_unique hresolve hresolve'
  obtain ⟨rfl, rfl⟩ := Attempt.gives_unique hcheck hcheck'
  rcases hcause with ⟨hmarked, -⟩ | herror | ⟨_, _, _, _, -, -, hreason⟩
  · exact hflag hmarked
  · exact functionOf_ne_forbidden _ _ _ herror
  · cases hreason

/-- The function that an injection rewrites is the one that the member leads to. -/
theorem leadsTo_of_functionOf {r : Ref} {v : Value} {f : Function}
    (h : functionOf w m = .ok (r, v, f)) : w.LeadsTo m.value r := by
  unfold functionOf at h
  dsimp only at h
  split at h
  · rename_i hvalue hbody
    split at h
    · cases h
    · cases h
      rw [hvalue] at hbody
      refine ⟨?_, f, hbody⟩
      unfold World.underlying
      split at hvalue
      · rename_i hmethod
        rw [hmethod]
        exact hvalue
      · rw [hvalue, hbody]
  · cases h

end Injection

/-! ## The main result -/

theorem World.after_mark (call : Caller) (w : World) (ds : List Deed) (allowed : Bool) (v : Value) :
    w.after call (ds ++ [.mark allowed v]) = ((Run.mark allowed v).result (w.after call ds)).2 := by
  rw [World.after_append]
  change (Run.result (_ <$> Run.mark allowed v) _).2 = _
  rw [Run.result_map]
  rcases (Run.mark allowed v).result (w.after call ds) with ⟨e | u, w'⟩ <;> rfl

/-- **Marks can not be got around.**  Whatever has been done, no mark is lost, and a function that
    has not been marked since has the last mark that it had.  A mark of anything that leads to a
    function is its last one, and a mark of anything else is none of it.  The function that an
    injection rewrites was not forbidden last, however it was reached: a member that leads to a
    forbidden one is refused when nothing has been done but to find the member, and one that leads
    to any other function is not refused because of a mark. -/
theorem marks_can_not_be_bypassed (w : World) (ds : List Deed) :
    (∃ newer, (w.after call ds).flags = newer ++ w.flags ∧
      ∀ r, (∀ e ∈ newer, e.1 ≠ World.markKey r) →
        (w.after call ds).lastMark? r = w.lastMark? r) ∧
    (∀ allowed v r,
      ((w.after call ds).LeadsTo v r →
        (w.after call (ds ++ [.mark allowed v])).lastMark? r = some allowed) ∧
      ((w.after call ds).underlying v ≠ .thing r →
        (w.after call (ds ++ [.mark allowed v])).lastMark? r = (w.after call ds).lastMark? r)) ∧
    ∀ target member spec,
      (∀ id w', Attempt.Gives (Injection.apply call target member spec) (w.after call ds) id w' →
        ∃ m w₁ r v f, Injection.Looks call target member spec (w.after call ds) m w₁ ∧
          Injection.functionOf w₁ m = .ok (r, v, f) ∧ w₁.LeadsTo m.value r ∧
          w₁.lastMark? r ≠ some false) ∧
      ∀ m w₁ r, Injection.Looks call target member spec (w.after call ds) m w₁ →
        w₁.LeadsTo m.value r → (w.after call ds).Reaches w₁ ∧
          (w₁.lastMark? r = some false → Attempt.Refuses (Injection.apply call target member spec)
            (w.after call ds) (.forbidden m.name) w₁) ∧
          (w₁.lastMark? r ≠ some false → ∀ n w', ¬Attempt.Refuses
            (Injection.apply call target member spec) (w.after call ds) (.forbidden n) w') ∧
          ((∀ s, spec = some s → ∃ text, s.code = .str text) →
            Attempt.Gives (Member.resolve call target member) (w.after call ds) m w₁) := by
  refine ⟨?_, ?_, fun target member spec => ⟨?_, ?_⟩⟩
  · obtain ⟨newer, hnewer⟩ := World.after_keepsMarks call_confined ds w
    exact ⟨newer, hnewer.symm, fun r hr => World.lastMark?_append hnewer.symm hr⟩
  · intro allowed v r
    rw [World.after_mark]
    refine ⟨fun hleads => ?_, fun hother => Run.mark_other hother allowed⟩
    obtain ⟨w', hgives, hlast⟩ := Run.mark_lastMark? hleads allowed
    unfold Run.Gives at hgives
    rw [hgives]
    exact hlast
  · intro id w' hgives
    obtain ⟨s, hs, -⟩ := Injection.apply_gives hgives
    obtain ⟨w₁, hresolve, hcheck⟩ := hs.planned.resolved
    have hfunction := hs.planned.function_eq
    have hleads := Injection.leadsTo_of_functionOf hfunction
    refine ⟨_, _, _, _, _, ⟨w₁, _, hresolve, hcheck⟩, hfunction, hleads, ?_⟩
    intro hlast
    exact hs.planned.allowed (by rw [hleads.flag?, hlast]; rfl)
  · intro m w₁ r hlooks hleads
    refine ⟨hlooks.reaches call_confined, ?_, ?_, hlooks.of_text⟩
    · intro hlast
      exact hlooks.forbidden (by rw [hleads.flag?, hlast]; rfl)
    · intro hlast
      refine hlooks.permitted ?_
      rw [hleads.flag?]
      cases hmark : w₁.lastMark? r with
      | none => nofun
      | some allowed =>
        cases allowed with
        | true => nofun
        | false => exact absurd hmark hlast

/-! ### A sample -/

/-- The sample function is marked as refusing injections. -/
def sampleDeeds : List Deed := [.mark false (.thing ⟨1⟩)]

/-- The sample function, as it is held. -/
def sampleMember : Member :=
  { target := Injection.sampleTarget, name := "idle", value := .thing ⟨1⟩ }

theorem sample_checks_out (w : World) :
    Attempt.Gives (Injection.check call (some Injection.sampleSpec)) w
      (Injection.sampleSpec, 2, .after) w := by
  have htrimmed : (Builtin.trimmed Text.isBlank true true "pass").isEmpty = false := by
    decide +kernel
  have hblank : (Injection.isBlank call (.str "pass")).result w = (.ok false, w) := by
    rw [Injection.isBlank_text, World.truth, htrimmed]
    rfl
  have hblank : Attempt.Gives (liftM (Injection.isBlank call (.str "pass"))) w false w :=
    Attempt.gives_lift.2 hblank
  have hworld : Attempt.Gives (liftM Run.world) w w w :=
    Attempt.gives_lift.2 (Run.gives_world.2 ⟨rfl, rfl⟩)
  unfold Injection.check
  exact hworld.bind_iff.2 (hblank.bind_iff.2 rfl)

theorem sample_looks : Injection.Looks call Injection.sampleTarget (.str "idle")
    (some Injection.sampleSpec) (Injection.sampleWorld.after call sampleDeeds) sampleMember
    (Injection.sampleWorld.after call sampleDeeds) :=
  ⟨_, _, rfl, sample_checks_out _⟩

/-- The sample injection, which succeeds otherwise, is refused once the function has been marked. -/
theorem marks_can_not_be_bypassed_on_sample :
    Attempt.Refuses (Injection.apply call Injection.sampleTarget (.str "idle")
      (some Injection.sampleSpec)) (Injection.sampleWorld.after call sampleDeeds)
      (.forbidden "idle") (Injection.sampleWorld.after call sampleDeeds) := by
  obtain ⟨-, hmarks, hinjections⟩ := marks_can_not_be_bypassed Injection.sampleWorld []
  have hlast := (hmarks false (.thing ⟨1⟩) ⟨1⟩).1 ⟨rfl, Injection.sampleFunction, rfl⟩
  obtain ⟨-, -, hmarked⟩ := marks_can_not_be_bypassed Injection.sampleWorld sampleDeeds
  obtain ⟨-, hrefused, -⟩ := (hmarked Injection.sampleTarget (.str "idle")
    (some Injection.sampleSpec)).2 _ _ ⟨1⟩ sample_looks ⟨rfl, Injection.sampleFunction, rfl⟩
  exact hrefused hlast

end Graft
