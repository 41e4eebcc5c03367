import Graft.Proofs.Behaviour
import Graft.Proofs.RegisteredTexts
import Graft.Proofs.Registers

set_option autoImplicit false

/-! # Records are kept for good

Each patch and each injection that succeeds leaves one record in the journal of its kind, behind
those that are there; nothing else that is done leaves or takes away any.  So over any number of
things that are done, in any order and whether they fail or not, the records tell exactly what has
succeeded, in the order in which it was done.

The key that a record is kept under is that of the identifier that has been given.  No two records
have the same one, because a wanted identifier that is in use is refused, and one that is in use is
never handed out. -/

namespace Graft

open Machine Data

/-! ## What an attempt gives -/

/-- What an attempt gives, if it is neither refused nor halted. -/
def Attempt.given? {α : Type} (x : Attempt α) (w : World) : Option α :=
  match (Run.result x.run w).1 with
  | .ok (.ok a) => some a
  | _ => none

namespace Attempt

variable {α : Type} {x : Attempt α} {w : World} {a : α}

theorem given?_eq_some : x.given? w = some a ↔ Attempt.Gives x w a (Run.result x.run w).2 := by
  unfold given? Attempt.Gives Run.Gives
  rcases Run.result x.run w with ⟨e | r | b, w₁⟩ <;> simp

theorem given?_of_gives {w' : World} (h : Attempt.Gives x w a w') : x.given? w = some a := by
  have hresult : x.run.result w = (.ok (.ok a), w') := h
  rw [given?, hresult]

/-- What holds whenever an attempt gives nothing. -/
theorem Ends.of_none {good : α → World → Prop} {bad : World → Prop}
    (h : Attempt.Ends x w good bad) (hnone : x.given? w = none) : bad (Run.result x.run w).2 := by
  unfold given? at hnone
  unfold Attempt.Ends Run.Ends at h
  rcases hx : Run.result x.run w with ⟨e | r | b, w₁⟩ <;> rw [hx] at h hnone
  · exact h
  · exact h
  · cases hnone

end Attempt

/-- However a run ends that leads on a way, the world that it leaves is on it. -/
theorem Run.Leads.ends {α : Type} {R : World → World → Prop} {x : Run α} (h : x.Leads R)
    (w : World) : x.Ends w (fun _ => R w) fun _ => R w := by
  have hw := h w
  unfold Run.Ends
  rcases hx : x.result w with ⟨e | a, w₁⟩ <;> rw [hx] at hw <;> exact hw

/-! ## What stays the same -/

/-- Two worlds agree on something. -/
def World.Agree {α : Type} (f : World → α) (w w' : World) : Prop := f w' = f w

theorem World.agree_isWay {α : Type} (f : World → α) : World.IsWay (World.Agree f) where
  refl _ := rfl
  trans h h' := h'.trans h

/-- The records of patches. -/
abbrev World.patched (w : World) : Journal PatchRecord := w.patches.journal

/-- The records of injections. -/
abbrev World.injected (w : World) : Journal InjectionRecord := w.injections.journal

theorem World.Reaches.patched {w w' : World} (h : w.Reaches w') : World.Agree World.patched w w' :=
  congrArg Register.journal h.patches

/-- Injections leave the records of patches alone. -/
theorem World.patched_isInjectionWay : World.IsInjectionWay (World.Agree World.patched) where
  isWay := World.agree_isWay _
  becomes h := h.reaches.patched
  texts _ _ _ := rfl
  draws _ _ _ _ := rfl
  records _ _ _ _ _ := rfl

/-- What is hashed has the key that is found. -/
theorem World.keyOf_of_hashOf {w w' : World} {v : Value} {k : Key}
    (h : (World.hashOf v).Gives w k w') : w.keyOf v = .ok k := by
  unfold World.hashOf at h
  replace h := Run.gives_bind_world.1 h
  split at h
  · rename_i k' hkey
    obtain ⟨rfl, -⟩ := Run.gives_pure.1 h
    exact hkey
  · exact absurd h Run.not_gives_raise

theorem World.hashOf_gives {w : World} {v : Value} {k : Key} (h : w.keyOf v = .ok k) :
    (World.hashOf v).Gives w k w := by
  unfold World.hashOf
  rw [Run.gives_bind_world, h]
  exact Run.gives_pure.2 ⟨rfl, rfl⟩

/-! ## Patches -/

namespace Patch

variable {call : Caller} {target member wanted : Value} {spec : Option Spec} {x : Prepared}
  {w w₁ w' : World}

/-- Choosing an identifier adds no record. -/
theorem chooseId_patched (wanted : Value) :
    Attempt.Leads (World.Agree World.patched) (chooseId wanted) := by
  refine Attempt.leads_of_ends fun w => ?_
  unfold chooseId
  rw [Attempt.ends_bind, Attempt.ends_lift, Run.ends_world]
  split
  · have hrest : ∀ k, Attempt.Confined (if w.patches.journal.contains k then
        Attempt.refuse (.duplicateId (w.literal wanted)) else return wanted) := by
      intro k
      split
      · exact .refuse _
      · exact .pure _
    have hchosen := (Attempt.Confined.bind (.lift (World.hashOf_confined wanted)) hrest).ends w
    exact hchosen.imp (fun _ _ h => h.reaches.patched) fun _ h => h.reaches.patched
  · split
    · rename_i hreserve
      exact (Register.reserve_spec hreserve).1
    · rfl

/-- Getting a patch ready adds no record. -/
theorem prepare_patched (hcall : call.Confined) (target member : Value) (spec : Option Spec) :
    Attempt.Leads (World.Agree World.patched) (prepare call target member spec) := by
  have hway := World.agree_isWay World.patched
  have hconfined : ∀ {β : Type} {y : Attempt β}, Attempt.Confined y →
      Attempt.Leads (World.Agree World.patched) y := fun hy => hy.leads fun h => h.reaches.patched
  unfold prepare
  refine .bind hway (hconfined (Member.resolve_confined hcall _ _)) fun m => ?_
  split
  · exact .refuse hway _
  refine .bind hway (hconfined (.lift .world)) fun w => ?_
  split
  · exact .refuse hway _
  refine .bind hway (chooseId_patched _) fun id => ?_
  refine .bind hway (hconfined (.lift (.new _ _))) fun patch => ?_
  exact .bind hway (hconfined (.lift (build_confined hcall _ _ _ _))) fun _ => .pure hway _

/-- **The record of a patch** comes last, under the key of its identifier. -/
theorem conclude_records (h : (conclude x).Gives w () w') :
    ∃ k timestamp, w.keyOf x.id = .ok k ∧ w.patched.GoesOn [(k, {
      id := x.id, member := x.member.name, patch := x.patch, previous := x.member.value
      timestamp })] w'.patched := by
  unfold conclude at h
  simp only [Run.gives_bind, Run.gives_tick] at h
  obtain ⟨k, w₁, hk, timestamp, _, ⟨-, rfl⟩, _, w₂, hkeep, _, _, hread, hlog⟩ := h
  obtain ⟨rfl, rfl⟩ := Run.gives_world.1 hread
  obtain rfl := World.hashOf_same hk
  refine ⟨k, timestamp, World.keyOf_of_hashOf hk, ?_⟩
  rw [← Run.gives_log.1 hlog]
  unfold keep at hkeep
  replace hkeep := Run.gives_bind_world.1 hkeep
  split at hkeep
  · rename_i journal hadd
    rw [← Run.gives_set.1 hkeep]
    exact .add? hadd
  · exact absurd hkeep Run.not_gives_raise

/-- A patch that is applied adds its record, and no other one. -/
theorem Applies.records (hcall : call.Confined) {w₂ : World}
    (h : Applies call target member spec w x w₁ w₂ w') :
    ∃ k timestamp, w₂.keyOf x.id = .ok k ∧ w.patched.GoesOn [(k, {
      id := x.id, member := x.member.name, patch := x.patch, previous := x.member.value
      timestamp })] w'.patched := by
  have h₁ := ((prepare_patched hcall _ _ _).ends _).of_gives h.prepared
  have h₂ := ((Member.assign_confined hcall _ _).ends w₁).of_gives h.assigned
  have hsame : w₂.patched = w.patched := h₂.reaches.patched.trans h₁
  exact hsame ▸ conclude_records h.concluded

/-- If a record can not be kept, none is. -/
theorem conclude_patched (x : Prepared) (w : World) :
    (conclude x).Ends w (fun _ _ => True) fun _ => World.Agree World.patched w := by
  unfold conclude keep
  simp only [Run.ends_bind]
  have hhash := (World.hashOf_confined x.id).leads (fun h => h.reaches.patched) |>.ends w
  refine hhash.imp ?_ fun _ _ h => h
  intro k w₁ h₁
  simp only [Run.ends_tick, Run.ends_world]
  split
  · trivial
  · exact h₁

/-- **A patch that fails leaves no record.** -/
theorem apply_patched (hcall : call.Confined) (target member : Value) (spec : Option Spec)
    (w : World) :
    Attempt.Ends (apply call target member spec) w (fun _ _ => True)
      (World.Agree World.patched w) := by
  unfold apply
  rw [Attempt.ends_bind]
  refine ((prepare_patched hcall target member spec).ends w).imp ?_ fun _ h => h
  intro x w₁ h₁
  rw [Attempt.ends_bind]
  refine ((Member.assign_confined hcall _ _).ends w₁).imp ?_ fun _ h => h.reaches.patched.trans h₁
  intro _ w₂ h₂
  rw [Attempt.ends_bind, Attempt.ends_lift]
  have hready := h₂.reaches.patched.trans h₁
  exact (conclude_patched x w₂).imp (fun _ _ h => h) fun _ _ h => h.trans hready

/-- **A wanted identifier that is in use is refused**, and the class of the refusal is that of what
    a specification gets wrong. -/
theorem apply_taken (hcall : call.Confined) {m : Member} {s : Spec} {k : Key}
    (hresolve : Attempt.Gives (Member.resolve call target member) w m w₁)
    (htruth : w₁.truth s.id = true) (hkey : w₁.keyOf s.id = .ok k)
    (htaken : w.patched.contains k = true) :
    ∃ r, Attempt.Refuses (apply call target member (some s)) w r w₁ ∧ r.cls? = some .spec := by
  have hsame : w₁.patched = w.patched :=
    (((Member.resolve_confined hcall target member).ends w).of_gives hresolve).reaches.patched
  suffices hprepare : ∃ r, Attempt.Refuses (prepare call target member (some s)) w r w₁ ∧
      r.cls? = some .spec by
    obtain ⟨r, hrefuses, hcls⟩ := hprepare
    exact ⟨r, hrefuses.bind, hcls⟩
  -- What comes after the member has been found.
  have hworld : Attempt.Gives (liftM Run.world) w₁ w₁ w₁ :=
    Attempt.gives_lift.2 (Run.gives_world.2 ⟨rfl, rfl⟩)
  have hrefuse : ∀ r : Refusal, Attempt.Refuses (Attempt.refuse r : Attempt Prepared) w₁ r w₁ :=
    fun r => Attempt.refuses_mk.2 ⟨rfl, rfl⟩
  unfold prepare
  cases hhooks : s.hooks.refusal? w₁ with
  | some r =>
    refine ⟨r, hresolve.refuses_bind (hworld.refuses_bind ?_), ?_⟩
    · rw [hhooks]
      exact hrefuse r
    · obtain ⟨⟨name, v⟩, -, rfl⟩ := Option.map_eq_some_iff.1 hhooks
      rfl
  | none =>
    refine ⟨.duplicateId (w₁.literal s.id), hresolve.refuses_bind (hworld.refuses_bind ?_), rfl⟩
    rw [hhooks]
    refine Attempt.Refuses.bind ?_
    unfold chooseId
    refine hworld.refuses_bind ?_
    rw [if_pos htruth]
    refine (Attempt.gives_lift.2 (World.hashOf_gives hkey)).refuses_bind ?_
    rw [← hsame] at htaken
    rw [if_pos htaken]
    exact Attempt.refuses_mk.2 ⟨rfl, rfl⟩

end Patch

/-! ## Injections -/

namespace Injection

variable {call : Caller} {target member : Value} {spec : Option Spec} {x : Prepared}
  {w w₁ w' : World}

/-- An injection that gives an identifier has been made ready, has been written to the target, and
    its record has been kept. -/
structure Applies (call : Caller) (target member : Value) (spec : Option Spec) (w : World)
    (x : Prepared) (w₁ w₂ w' : World) : Prop where
  prepared : Attempt.Gives (prepare call target member spec) w x w₁
  assigned : Attempt.Gives (x.plan.member.assign call x.replacement) w₁ () w₂
  concluded : (conclude x).Gives w₂ () w'

theorem apply_applies {id : String}
    (h : Attempt.Gives (apply call target member spec) w id w') :
    ∃ x w₁ w₂, x.id = id ∧ Applies call target member spec w x w₁ w₂ w' := by
  unfold apply at h
  simp only [Attempt.gives_bind, Attempt.gives_lift, Attempt.gives_pure] at h
  obtain ⟨x, w₁, hprepare, _, w₂, hassign, _, w₃, hconclude, hid, rfl⟩ := h
  exact ⟨x, w₁, w₂, hid, hprepare, hassign, hconclude⟩

/-- **The record of an injection** comes last, under its identifier. -/
theorem conclude_records (h : (conclude x).Gives w () w') :
    ∃ timestamp, w.injected.GoesOn [(.ofText x.id, {
      id := x.id, member := x.plan.member.name, previous := x.plan.member.value
      code := x.plan.spec.code, line := x.plan.spec.line, loc := x.plan.spec.loc
      source := x.text, timestamp })] w'.injected := by
  unfold conclude at h
  simp only [Run.gives_bind, Run.gives_tick] at h
  obtain ⟨timestamp, _, ⟨-, rfl⟩, _, w₂, hkeep, hlog⟩ := h
  refine ⟨timestamp, Journal.goesOn_of_entries ?_⟩
  rw [← Run.gives_log.1 hlog]
  exact (keep_books hkeep).2

/-- An injection that is applied adds its record, and no other one. -/
theorem Applies.records (hcall : call.Confined) {w₂ : World}
    (h : Applies call target member spec w x w₁ w₂ w') :
    ∃ timestamp, w.injected.GoesOn [(.ofText x.id, {
      id := x.id, member := x.plan.member.name, previous := x.plan.member.value
      code := x.plan.spec.code, line := x.plan.spec.line, loc := x.plan.spec.loc
      source := x.text, timestamp })] w'.injected := by
  obtain ⟨wanted, hbooked⟩ := (prepare_books hcall _ _ _ _).of_gives h.prepared
  have h₂ := ((Member.assign_confined hcall _ _).sameBooks w₁).of_gives h.assigned
  have hsame : w₂.injected = w.injected := h₂.journal.trans hbooked.journal
  exact hsame ▸ conclude_records h.concluded

/-- **An injection that fails leaves no record.** -/
theorem apply_injected (hcall : call.Confined) (target member : Value) (spec : Option Spec)
    (w : World) :
    Attempt.Ends (apply call target member spec) w (fun _ _ => True)
      (World.Agree World.injected w) := by
  unfold apply
  rw [Attempt.ends_bind]
  refine (prepare_books hcall target member spec w).imp_gives ?_ fun _ h => h.journal
  rintro x w₁ hx ⟨wanted, hbooked⟩
  rw [Attempt.ends_bind]
  refine ((Member.assign_confined hcall _ _).sameBooks w₁).imp ?_ fun _ h =>
    h.journal.trans hbooked.journal
  intro _ w₂ h₂
  -- The identifier is still free, so that the record can be kept.
  obtain ⟨w₃, hconcluded⟩ := concludes hx h₂
  rw [Attempt.ends_bind]
  exact (Attempt.gives_lift.2 hconcluded).ends_iff.2 trivial

end Injection

/-! ## One thing after another -/

/-- The world after something has been done in it. -/
abbrev World.next (w : World) (m : Move) : World := m.outcome w

theorem Move.start_patched (m : Move) (w : World) : (m.start w).patched = w.patched := rfl

/-- The identifier that is given by what is done, if it is a patch. -/
def Move.patchId? (m : Move) (w : World) : Option Value :=
  match m.deed with
  | .patch target member spec => (Patch.apply call target member spec).given? (m.start w)
  | _ => none

/-- The identifier that is given by what is done, if it is an injection. -/
def Move.injectionId? (m : Move) (w : World) : Option String :=
  match m.deed with
  | .inject target member spec => (Injection.apply call target member spec).given? (m.start w)
  | _ => none

/-- A record is that of a patch, which has given this identifier: it says what the patch is, which
    member was patched and what that was before. -/
def Move.TellsPatch (m : Move) (w : World) (id : Value) (e : Key × PatchRecord) : Prop :=
  ∃ target member spec x w₁ w₂, m.deed = .patch target member spec ∧
    Patch.Applies call target member spec (m.start w) x w₁ w₂ (m.outcome w) ∧ x.id = id ∧
    w₂.keyOf id = .ok e.1 ∧ e.2.id = id ∧ e.2.member = x.member.name ∧
    e.2.previous = x.member.value ∧ e.2.patch = x.patch

/-- A record is that of an injection, which has given this identifier: it says what was injected
    where, what the member was before and what it was compiled from. -/
def Move.TellsInjection (m : Move) (w : World) (id : String) (e : Key × InjectionRecord) : Prop :=
  ∃ target member spec x w₁ w₂, m.deed = .inject target member spec ∧
    Injection.Applies call target member spec (m.start w) x w₁ w₂ (m.outcome w) ∧ x.id = id ∧
    e.1 = .ofText id ∧ e.2.id = id ∧ e.2.member = x.plan.member.name ∧
    e.2.previous = x.plan.member.value ∧ e.2.code = x.plan.spec.code ∧
    e.2.line = x.plan.spec.line ∧ e.2.loc = x.plan.spec.loc ∧ e.2.source = x.text

/-- Records are those of the things done that give an identifier, one for each, in the order in which
    they are done. -/
inductive World.Tells {I R : Type} (given? : Move → World → Option I)
    (tells : Move → World → I → Key × R → Prop) : World → List Move → List (Key × R) → Prop
  | nil (w : World) : Tells given? tells w [] []
  | gives {w : World} {m : Move} {ms : List Move} {id : I} {e : Key × R} {es : List (Key × R)}
      (given : given? m w = some id) (tell : tells m w id e)
      (rest : Tells given? tells (m.outcome w) ms es) : Tells given? tells w (m :: ms) (e :: es)
  | fails {w : World} {m : Move} {ms : List Move} {es : List (Key × R)}
      (given : given? m w = none) (rest : Tells given? tells (m.outcome w) ms es) :
      Tells given? tells w (m :: ms) es

namespace World

/-- What is done leaves the record of what it has given behind the ones that are there, and no
    record if it has given nothing. -/
def Adds {I R : Type} (given? : Move → World → Option I)
    (tells : Move → World → I → Key × R → Prop) (journal : World → Journal R) : Prop :=
  ∀ m w, match given? m w with
    | some id => ∃ e, tells m w id e ∧ (journal w).GoesOn [e] (journal (m.outcome w))
    | none => journal (m.outcome w) = journal w

/-- **A whole run**: from what each thing done adds follows what all of them have added. -/
theorem Adds.through {I R : Type} {given? : Move → World → Option I}
    {tells : Move → World → I → Key × R → Prop} {journal : World → Journal R}
    (h : Adds given? tells journal) (w : World) (ms : List Move) :
    ∃ es, Tells given? tells w ms es ∧ (journal w).GoesOn es (journal (w.through ms)) := by
  induction ms generalizing w with
  | nil => exact ⟨[], .nil w, .refl _⟩
  | cons m ms ih =>
    have hstep := h m w
    obtain ⟨es, htells, hgoes⟩ := ih (m.outcome w)
    cases hgiven : given? m w with
    | some id =>
      rw [hgiven] at hstep
      obtain ⟨e, htell, hadds⟩ := hstep
      exact ⟨e :: es, .gives hgiven htell htells, hadds.trans hgoes⟩
    | none =>
      rw [hgiven] at hstep
      exact ⟨es, .fails hgiven htells, hstep ▸ hgoes⟩

end World

namespace Move

variable {m : Move} {w : World}

/-- Everything but patches leaves the records of patches alone. -/
theorem outcome_patched (hd : ∀ target member spec, m.deed ≠ .patch target member spec) :
    (m.outcome w).patched = w.patched := by
  have hleads : Run.Leads (World.Agree World.patched) (m.deed.run call) := by
    have hconfined : ∀ {α : Type} {x : Run α}, x.Confined → Run.Leads (World.Agree World.patched) x :=
      fun hx => hx.leads fun h => h.reaches.patched
    unfold Deed.run
    cases hdeed : m.deed with
    | mark allowed v => exact .map (hconfined (Run.mark_confined allowed v))
    | patch target member spec => exact absurd hdeed (hd target member spec)
    | inject target member spec =>
      exact .map (Injection.apply_leads World.patched_isInjectionWay call_confined target member spec)
    | call v args => exact .map (hconfined (call_confined v args))
  exact hleads (m.start w)

theorem outcome_injected (hd : ∀ target member spec, m.deed ≠ .inject target member spec) :
    (m.outcome w).injected = w.injected := (Deed.sameBooks hd (m.start w)).journal

end Move

theorem Deed.patch_world (target member : Value) (spec : Option Patch.Spec) (w : World) :
    (((Deed.patch target member spec).run Machine.call).result w).2 =
      (Run.result (Patch.apply Machine.call target member spec).run w).2 := by
  unfold Deed.run
  rw [Run.result_map]
  rcases Run.result (Patch.apply Machine.call target member spec).run w with ⟨e | r, w'⟩ <;> rfl

/-- It is enough to know what an attempt adds if it gives something, and that it adds nothing
    otherwise. -/
theorem World.adds_of_attempt {I R : Type} {given? : Move → World → Option I}
    {tells : Move → World → I → Key × R → Prop} {journal : World → Journal R} {m : Move} {w : World}
    {x : Attempt I} (hgiven : given? m w = x.given? (m.start w))
    (houtcome : m.outcome w = (Run.result x.run (m.start w)).2)
    (hfails : Attempt.Ends x (m.start w) (fun _ _ => True) (Agree journal w))
    (hgives : ∀ id, Attempt.Gives x (m.start w) id (m.outcome w) →
      ∃ e, tells m w id e ∧ (journal w).GoesOn [e] (journal (m.outcome w))) :
    match given? m w with
      | some id => ∃ e, tells m w id e ∧ (journal w).GoesOn [e] (journal (m.outcome w))
      | none => journal (m.outcome w) = journal w := by
  rw [hgiven]
  cases hx : x.given? (m.start w) with
  | some id => exact hgives id (houtcome ▸ Attempt.given?_eq_some.1 hx)
  | none =>
    rw [houtcome]
    exact hfails.of_none hx

/-- **Each patch** adds its record if it succeeds, and nothing else adds any. -/
theorem World.adds_patches : World.Adds Move.patchId? Move.TellsPatch World.patched := by
  intro m w
  by_cases hpatch : ∃ target member spec, m.deed = .patch target member spec
  · obtain ⟨target, member, spec, hdeed⟩ := hpatch
    refine World.adds_of_attempt (x := Patch.apply call target member spec) ?_ ?_ ?_ ?_
    · simp only [Move.patchId?, hdeed]
    · simp only [Move.outcome, hdeed, Deed.patch_world]
    · exact Patch.apply_patched call_confined target member spec (m.start w)
    · intro id hgives
      obtain ⟨x, w₁, w₂, rfl, happlies⟩ := Patch.apply_gives hgives
      obtain ⟨k, timestamp, hkey, hgoes⟩ := happlies.records call_confined
      refine ⟨_, ⟨target, member, spec, x, w₁, w₂, hdeed, happlies, rfl, hkey, ?_⟩, hgoes⟩
      exact ⟨rfl, rfl, rfl, rfl⟩
  · have hother : ∀ target member spec, m.deed ≠ .patch target member spec :=
      fun target member spec hdeed => hpatch ⟨target, member, spec, hdeed⟩
    have hnone : m.patchId? w = none := by
      unfold Move.patchId?
      split
      · exact absurd ‹_› (hother _ _ _)
      · rfl
    rw [hnone]
    exact Move.outcome_patched hother

/-- **Each injection** adds its record if it succeeds, and nothing else adds any. -/
theorem World.adds_injections :
    World.Adds Move.injectionId? Move.TellsInjection World.injected := by
  intro m w
  by_cases hinject : ∃ target member spec, m.deed = .inject target member spec
  · obtain ⟨target, member, spec, hdeed⟩ := hinject
    refine World.adds_of_attempt (x := Injection.apply call target member spec) ?_ ?_ ?_ ?_
    · simp only [Move.injectionId?, hdeed]
    · simp only [Move.outcome, hdeed, Deed.inject_world]
    · exact Injection.apply_injected call_confined target member spec (m.start w)
    · intro id hgives
      obtain ⟨x, w₁, w₂, rfl, happlies⟩ := Injection.apply_applies hgives
      obtain ⟨timestamp, hgoes⟩ := happlies.records call_confined
      refine ⟨_, ⟨target, member, spec, x, w₁, w₂, hdeed, happlies, rfl, rfl, ?_⟩, hgoes⟩
      exact ⟨rfl, rfl, rfl, rfl, rfl, rfl, rfl⟩
  · have hother : ∀ target member spec, m.deed ≠ .inject target member spec :=
      fun target member spec hdeed => hinject ⟨target, member, spec, hdeed⟩
    have hnone : m.injectionId? w = none := by
      unfold Move.injectionId?
      split
      · exact absurd ‹_› (hother _ _ _)
      · rfl
    rw [hnone]
    exact Move.outcome_injected hother

/-! ## Identifiers are different -/

/-- Records that are kept under different keys, each under that of its identifier, have different
    identifiers. -/
theorem Journal.pairwise_ids {R : Type} {es : List (Key × R)} (text : R → Option String)
    (hnodup : (es.map Prod.fst).Nodup)
    (hfiled : ∀ e ∈ es, ∀ id, text e.2 = some id → e.1 = .ofText id) :
    es.Pairwise fun e e' => ∀ id, text e.2 = some id → text e'.2 ≠ some id := by
  refine (List.pairwise_map.1 hnodup).imp_of_mem ?_
  intro e e' he he' hdistinct id hid hid'
  exact hdistinct ((hfiled e he id hid).trans (hfiled e' he' id hid').symm)

/-- What all records of a run have in common. -/
theorem World.Tells.forall {I R : Type} {given? : Move → World → Option I}
    {tells : Move → World → I → Key × R → Prop} {P : Key × R → Prop} {w : World} {ms : List Move}
    {es : List (Key × R)} (h : Tells given? tells w ms es)
    (hone : ∀ m w id e, tells m w id e → P e) : ∀ e ∈ es, P e := by
  induction h with
  | nil w => nofun
  | gives given tell rest ih =>
    rintro e (⟨⟩ | ⟨_, he⟩)
    · exact hone _ _ _ _ tell
    · exact ih e he
  | fails given rest ih => exact ih

/-- A record of a patch is kept under its identifier, if that is text. -/
theorem Move.TellsPatch.filed {m : Move} {w : World} {id : Value} {e : Key × PatchRecord}
    (h : m.TellsPatch w id e) (text : String) (htext : e.2.id.text? = some text) :
    e.1 = .ofText text := by
  obtain ⟨_, _, _, x, _, w₂, -, -, -, hkey, hid, -⟩ := h
  rw [← hid, Patch.keyOf_text htext] at hkey
  exact (Except.ok.inj hkey).symm

theorem Move.TellsInjection.filed {m : Move} {w : World} {id : String} {e : Key × InjectionRecord}
    (h : m.TellsInjection w id e) (text : String) (htext : some e.2.id = some text) :
    e.1 = .ofText text := by
  obtain ⟨_, _, _, _, _, _, -, -, -, hkey, hid, -⟩ := h
  rw [hkey, ← hid, Option.some.inj htext]

/-! ## Looking records up -/

section Lookup

variable {w : World} {id : Value} {k : Key}

theorem Patch.record?_gives {r : PatchRecord} (hkey : w.keyOf id = .ok k)
    (hfound : w.patched.get? k = some r) : (Patch.record? id).Gives w (some r) w := by
  unfold Patch.record?
  rw [(World.hashOf_gives hkey).bind_iff, Run.gives_bind_world]
  exact Run.gives_pure.2 ⟨hfound, rfl⟩

theorem Injection.record?_gives {r : InjectionRecord} (hkey : w.keyOf id = .ok k)
    (hfound : w.injected.get? k = some r) : (Injection.record? id).Gives w (some r) w := by
  unfold Injection.record?
  rw [(World.hashOf_gives hkey).bind_iff, Run.gives_bind_world]
  exact Run.gives_pure.2 ⟨hfound, rfl⟩

end Lookup

/-! ## The main result -/

/-- **Journals are exact and are only added to.**  Over any run of things done, each of which may
    fail, the records of patches and those of injections are those of the ones that have succeeded,
    in their order, behind the records that were there before.  They have different identifiers, and
    whatever is found under an identifier is found there for good.  A wanted identifier that is in
    use is refused.  An iteration gives the records that were there when it was begun.  It is the
    same with any register that is used by itself, where a record that is not accepted changes
    nothing. -/
theorem journals_are_exact :
    (∀ (w : World) (ms : List Move),
      (∃ ps, w.Tells Move.patchId? Move.TellsPatch ms ps ∧
        w.patched.GoesOn ps (w.through ms).patched ∧
        ps.Pairwise fun p p' => ∀ id, p.2.id.text? = some id → p'.2.id.text? ≠ some id) ∧
      (∃ is, w.Tells Move.injectionId? Move.TellsInjection ms is ∧
        w.injected.GoesOn is (w.through ms).injected ∧ is.Pairwise fun i i' => i.2.id ≠ i'.2.id) ∧
      (∀ id k r, (w.through ms).keyOf id = .ok k → w.patched.get? k = some r →
        (Patch.record? id).Gives (w.through ms) (some r) (w.through ms)) ∧
      ∀ id k r, (w.through ms).keyOf id = .ok k → w.injected.get? k = some r →
        (Injection.record? id).Gives (w.through ms) (some r) (w.through ms)) ∧
    (∀ target member (s : Patch.Spec) w m w₁ k,
      Attempt.Gives (Member.resolve call target member) w m w₁ → w₁.truth s.id = true →
      w₁.keyOf s.id = .ok k → w.patched.contains k = true →
      ∃ r, Attempt.Refuses (Patch.apply call target member (some s)) w r w₁ ∧
        r.cls? = some .spec) ∧
    (∀ (w : World) (ts : List (Journal.Turn Move)),
      (∀ its, Journal.Visited.given World.next World.patched its.length
          (Journal.Visited.turn World.next World.patched ⟨w, its⟩ .iterate).2 ts =
        w.patched.toList.take (ts.countP (Journal.Turn.asks its.length))) ∧
      ∀ its, Journal.Visited.given World.next World.injected its.length
          (Journal.Visited.turn World.next World.injected ⟨w, its⟩ .iterate).2 ts =
        w.injected.toList.take (ts.countP (Journal.Turn.asks its.length))) ∧
    ∀ (R : Type) (reg : Register R),
      (∀ ss, reg.journal.GoesOn (reg.accepted ss) (ss.foldl Register.next reg).journal) ∧
      (∀ id r reg', (∃ f, reg.perform (.add id r) = (.added (.error f), reg')) → reg' = reg) ∧
      (∀ id r, (∃ reg', reg.perform (.add id r) = (.added (.ok ()), reg')) ↔
        ∃ k, Journal.keyOf id = .ok k ∧ reg.journal.get? k = none) ∧
      (∀ around dice id reg', reg.perform (.reserve around dice) = (.reserved (.ok id), reg') →
        reg'.journal = reg.journal ∧ reg.journal.get? (.ofText id) = none) ∧
      ∀ its (ts : List (Journal.Turn (Register.Step R))),
        Journal.Visited.given Register.next Register.journal its.length
            (Journal.Visited.turn Register.next Register.journal ⟨reg, its⟩ .iterate).2 ts =
          reg.journal.toList.take (ts.countP (Journal.Turn.asks its.length)) := by
  refine ⟨fun w ms => ?_, ?_, fun w ts => ⟨fun its => ?_, fun its => ?_⟩, fun R reg => ?_⟩
  · obtain ⟨ps, hpatches, hpatched⟩ := World.adds_patches.through w ms
    obtain ⟨is, hinjections, hinjected⟩ := World.adds_injections.through w ms
    refine ⟨⟨ps, hpatches, hpatched, ?_⟩, ⟨is, hinjections, hinjected, ?_⟩, ?_, ?_⟩
    · exact Journal.pairwise_ids (fun r => r.id.text?) hpatched.distinct_new
        (hpatches.forall fun _ _ _ _ h => h.filed)
    · have hids := Journal.pairwise_ids (fun r => some r.id) hinjected.distinct_new
        (hinjections.forall fun _ _ _ _ h => h.filed)
      exact hids.imp fun h hid => h _ rfl (congrArg some hid.symm)
    · exact fun id k r hkey hr => Patch.record?_gives hkey (hpatched.kept k r hr)
    · exact fun id k r hkey hr => Injection.record?_gives hkey (hinjected.kept k r hr)
  · intro target member s w m w₁ k hresolve htruth hkey htaken
    exact Patch.apply_taken call_confined hresolve htruth hkey htaken
  · exact Journal.Visited.given_begun ⟨w, its⟩ ts
  · exact Journal.Visited.given_begun ⟨w, its⟩ ts
  · refine ⟨reg.run_goesOn, ?_, reg.perform_add_iff, ?_, ?_⟩
    · rintro id r reg' ⟨f, hf⟩
      exact Register.perform_add_error hf
    · exact fun _ _ _ _ => Register.perform_reserve
    · exact fun its ts => Journal.Visited.given_begun ⟨reg, its⟩ ts

/-! ### One identifier twice -/

/-- A patch that asks for an identifier. -/
def ledgerPatch : Move :=
  { around := {}, dice := {}
    deed := .patch Injection.sampleTarget (.str "idle") (some { id := .str "first" }) }

/-- The sample injection. -/
def ledgerInjection : Move :=
  { around := {}, dice := {}
    deed := .inject Injection.sampleTarget (.str "idle") (some Injection.sampleSpec) }

/-- An injection that fails. -/
def failingInjection : Move :=
  { around := {}, dice := {}, deed := .inject Injection.sampleTarget (.str "idle") none }

/-- The world after the sample injection and the one that fails. -/
def injectedWorld : World := failingInjection.outcome (ledgerInjection.outcome Injection.sampleWorld)

/-- The world after the sample injection and the patch. -/
def ledgerWorld : World := Injection.sampleWorld.through [ledgerInjection, ledgerPatch]

/-- Whether the patch gives its identifier, and gives none when it is applied again to what is
    there. -/
def ledgerGives : Bool :=
  (ledgerPatch.patchId? (ledgerInjection.outcome Injection.sampleWorld)).bind Value.text?
      == some "first"
    && (ledgerPatch.patchId? ledgerWorld).isNone
    && ledgerWorld.patched.contains (.ofText "first")
    && ((Member.resolve call Injection.sampleTarget (.str "idle")).given?
      (ledgerPatch.start ledgerWorld)).isSome

/-- The patch does what it should behind the sample injection, and gives an identifier also behind
    the injection that fails. -/
theorem ledger_gives : ledgerGives = true ∧ (ledgerPatch.patchId? injectedWorld).isSome = true := by
  decide +kernel

theorem ledger_injected :
    ledgerInjection.injectionId? Injection.sampleWorld = some Injection.sampleId := by
  obtain ⟨w', hgiven⟩ := Injection.sample_gives
  exact Attempt.given?_of_gives hgiven

/-- The identifier is refused the second time, and there is one record of each kind. -/
theorem ledger_is_exact :
    (∃ p, (ledgerWorld.through [ledgerPatch]).patched.toList = [p] ∧
        p.id.text? = some "first") ∧
      (∃ i, (ledgerWorld.through [ledgerPatch]).injected.toList = [i] ∧ i.id = Injection.sampleId) ∧
      ∃ r w', Attempt.Refuses (Patch.apply call Injection.sampleTarget (.str "idle")
        (some { id := .str "first" })) (ledgerPatch.start ledgerWorld) r w' ∧
        r.cls? = some .spec := by
  have hgives := ledger_gives.1
  simp only [ledgerGives, Bool.and_eq_true, beq_iff_eq, Option.isNone_iff_eq_none,
    Option.isSome_iff_exists] at hgives
  obtain ⟨⟨⟨hpatch, hagain⟩, htaken⟩, m, hresolve⟩ := hgives
  -- The worlds are rewritten, since to compare them as they are is to run what is done again.
  have hworld : ledgerWorld =
      ledgerPatch.outcome (ledgerInjection.outcome Injection.sampleWorld) := by
    rw [ledgerWorld, World.through_cons, World.through_cons, World.through_nil]
  rw [hworld] at hagain
  rw [← ledgerPatch.start_patched] at htaken
  have hthrough : ledgerWorld.through [ledgerPatch] =
      Injection.sampleWorld.through [ledgerInjection, ledgerPatch, ledgerPatch] := by
    simp only [hworld, World.through_cons]
  obtain ⟨id, hid, htext⟩ := Option.bind_eq_some_iff.1 hpatch
  have hruns := journals_are_exact.1 Injection.sampleWorld [ledgerInjection, ledgerPatch, ledgerPatch]
  have hrefused := journals_are_exact.2.1
  obtain ⟨⟨ps, hpatches, hpatched, -⟩, ⟨is, hinjections, hinjected, -⟩, -⟩ := hruns
  refine ⟨?_, ?_, ?_⟩
  · cases hpatches with
    | gives given => cases given
    | fails _ hpatches =>
      cases hpatches with
      | fails given => cases hid.symm.trans given
      | gives given tell hpatches =>
        cases hpatches with
        | gives given => cases hagain.symm.trans given
        | fails _ hpatches =>
          cases hpatches
          obtain rfl := Option.some.inj (hid.symm.trans given)
          obtain ⟨_, _, _, _, _, _, -, -, -, -, hrecord, -⟩ := tell
          rw [hthrough]
          exact ⟨_, hpatched.listed, by rw [hrecord, htext]⟩
  · cases hinjections with
    | fails given => cases ledger_injected.symm.trans given
    | gives given tell hinjections =>
      cases hinjections with
      | gives given => cases given
      | fails _ hinjections =>
        cases hinjections with
        | gives given => cases given
        | fails _ hinjections =>
          cases hinjections
          obtain rfl := Option.some.inj (ledger_injected.symm.trans given)
          obtain ⟨_, _, _, _, _, _, -, -, -, -, hrecord, -⟩ := tell
          rw [hthrough]
          exact ⟨_, hinjected.listed, hrecord⟩
  · obtain ⟨r, hr, hcls⟩ := hrefused _ _ { id := .str "first" } _ m _ (.ofText "first")
      (Attempt.given?_eq_some.1 hresolve) rfl rfl htaken
    exact ⟨r, _, hr, hcls⟩

end Graft
