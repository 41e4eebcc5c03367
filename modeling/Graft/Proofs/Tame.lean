import Graft.Patch.Wrapper
import Graft.Proofs.Answers
import Graft.Proofs.Attribute
import Graft.Proofs.Target

set_option autoImplicit false

/-! # Targets that behave

What is relied on of the code that a target brings along, and which targets bring along none.  A
write to a target that behaves either succeeds and adds no records, or fails and changes nothing. -/

namespace Graft

open Machine Data

/-! ## What is relied on -/

/-- The code of a target has no effect when a member is read, it leaves everything as it was when it
    refuses to be written to, and it applies no patches or injections. -/
structure Tame (call : Caller) (target : Value) (w : World) : Prop where
  read : ∀ name, (Member.lookup call target name).Quiet w
  write : ∀ (w₁ : World) (m : Member) (v : Value), Undisturbed w w₁ → m.target = target →
    (m.put call v).Writes w₁

/-- What a wrapper takes over from a callable can be read from it without an effect. -/
def Describable (call : Caller) (v : Value) (w : World) : Prop :=
  ∀ (w₁ : World) (name : String), Undisturbed w w₁ → name ∈ "__dict__" :: Patch.copiedAttributes →
    (World.getAttr call v name).Quiet w₁

theorem Describable.later {call : Caller} {v : Value} {w w₁ : World} (h : Describable call v w)
    (hw : Undisturbed w w₁) : Describable call v w₁ :=
  fun w₂ name hw' => h w₂ name (hw.trans hw')

/-! ## Values without code of their own -/

namespace World

variable {w w₁ : World} {call : Caller} {v : Value}

theorem IsPlain.undisturbed (hv : w.IsPlain v) (hthere : w.Holds v) (h : Undisturbed w w₁) :
    w₁.IsPlain v where
  supplied := by
    rw [h.classOf hthere]
    exact hv.supplied
  isNoSuper := by
    intro cls self hsuper
    obtain hb | ⟨-, f', hb'⟩ := h.kind hthere
    · exact hv.isNoSuper cls self (hb ▸ hsuper)
    · rw [hb'] at hsuper
      cases hsuper
  isNoClass := by
    rw [h.isClass hthere]
    exact hv.isNoClass

/-- A value that runs no code when its attributes are read or set. -/
def IsInert (w : World) (v : Value) : Prop := w.Holds v ∧ (w.IsPlain v ∨ w.isClass v = true)

theorem isInert_function {f : Function} (hb : w.body? v = some (.function f)) : w.IsInert v :=
  ⟨.function hb, .inl (isPlain_function hb)⟩

theorem isInert_namespace {r : Ref} (hb : w.body? (.thing r) = some .namespace) :
    w.IsInert (.thing r) :=
  ⟨.thing r .namespace hb (by simp [Body.parts]), .inl (isPlain_namespace hb)⟩

theorem isInert_cls {c : MadeClass} (hb : w.body? v = some (.cls c)) : w.IsInert v := by
  refine ⟨.cls hb, .inr ?_⟩
  cases v with
  | thing r => simp [isClass, madeClass?, hb]
  | _ => cases hb

theorem IsInert.undisturbed (hv : w.IsInert v) (h : Undisturbed w w₁) :
    w₁.IsPlain v ∨ w₁.isClass v = true := by
  obtain ⟨hthere, hplain | hclass⟩ := hv
  · exact .inl (hplain.undisturbed hthere h)
  · exact .inr (by rw [h.isClass hthere, hclass])

theorem getAttr_inert_quiet (hv : w.IsPlain v ∨ w.isClass v = true) (name : String) :
    (getAttr call v name).Quiet w := by
  obtain hplain | hclass := hv
  · exact getAttr_quiet hplain
  · exact getAttr_class_quiet hclass

theorem hashOf_quiet (v : Value) : (hashOf v).Quiet w := by
  unfold hashOf
  refine .bind_world ?_
  split
  · exact .pure _
  · exact .raise _ _

theorem putEntry_writes (r : Ref) (name : String) : (putEntry r (.str name) v).Writes w := by
  have hkey : w.keyOf (.str name) = .ok (.ofText name) := rfl
  unfold putEntry hashOf Run.Writes
  simp only [Run.ends_bind, Run.ends_world]
  split
  · exact Run.Quiet.raise (α := Unit) _ _
  · simp only [Run.ends_bind, Run.ends_world, hkey, Run.ends_pure]
    split
    · exact ⟨rfl, rfl⟩
    · exact ⟨rfl, rfl⟩
    · exact ⟨rfl, rfl⟩

end World

/-- What a wrapper takes over from a function, a class or another value without code of its own can
    be read. -/
theorem describable_of_inert {call : Caller} {v : Value} {w : World} (hv : w.IsInert v) :
    Describable call v w :=
  fun _ name h _ => World.getAttr_inert_quiet (hv.undisturbed h) name

/-- Mappings, modules, classes and other targets without code of their own are tame. -/
theorem tame_of_inert {call : Caller} {target : Value} {w : World} (ht : w.IsInert target) :
    Tame call target w where
  read name := by
    unfold Member.lookup
    refine .bind_world ?_
    split
    · unfold World.getEntry?
      refine .bind (.bind (World.hashOf_quiet _) fun _ _ _ _ => .bind_world (.pure _)) ?_
      exact fun _ _ _ _ => .pure _
    · refine .bind (World.getAttr?_quiet (World.getAttr_inert_quiet ht.2 name)) ?_
      intro found w₁ _ _
      refine .bind_world ?_
      split <;> exact .pure _
  write w₁ m v h hm := by
    have hinert := ht.undisturbed h
    subst hm
    unfold Member.put Run.Writes
    simp only [Run.ends_bind, Run.ends_world]
    split
    · exact World.putEntry_writes _ _
    · exact World.setAttr_writes hinert _ _

/-! ## Writing to the target -/

theorem Undisturbed.sameRecords {w w' : World} (h : Undisturbed w w') : SameRecords w w' :=
  ⟨h.patches, h.injections⟩

theorem SameRecords.trans {w w₁ w₂ : World} (h : SameRecords w w₁) (h' : SameRecords w₁ w₂) :
    SameRecords w w₂ :=
  ⟨h'.patches.trans h.patches, h'.injections.trans h.injections⟩

namespace Member

variable {call : Caller} {target : Value} {w : World}

theorem resolve_quiet (h : Tame call target w) (name : Value) :
    Attempt.Quiet (resolve call target name) w := by
  unfold resolve
  split
  · exact .refuse _
  split
  · exact .refuse _
  refine .bind_world (.bind (.lift (h.read _)) ?_)
  intro found w₁ _ _
  split
  · exact .refuse _
  · refine .bind_world ?_
    split
    · exact .pure _
    · exact .refuse _

theorem rewrap_quiet (m : Member) (v : Value) : (m.rewrap v).Quiet w := by
  unfold rewrap
  split
  · exact .pure _
  · exact .newValue _ _
  · exact .newValue _ _

/-- A write that fails has changed nothing, and one that succeeds has added no records. -/
theorem assign_ends {m : Member} {w₁ : World} (h : Tame call target w) (hm : m.target = target)
    (hw : Undisturbed w w₁) (v : Value) :
    Attempt.Ends (m.assign call v) w₁ (fun _ w₂ => SameRecords w₁ w₂)
      fun w₂ => Undisturbed w₁ w₂ := by
  unfold assign
  simp only [Attempt.ends_bind, Attempt.ends_lift]
  refine (m.rewrap_quiet v).imp ?_ fun _ _ h => h
  intro v' w₂ h₂
  -- What is raised by the target is taken as a refusal if it is an ordinary exception.
  have hwrite := h.write w₂ m v' (hw.trans h₂) hm
  unfold Run.Writes at hwrite
  rw [Run.ends_tryCatch]
  simp only [Run.ends_bind, Run.ends_pure]
  refine hwrite.imp (fun _ _ hsame => h₂.sameRecords.trans hsame) ?_
  intro e w₃ h₃
  cases e with
  | raised e =>
    simp only [Run.ends_bind, Run.ends_world]
    split
    · exact h₂.trans h₃
    · exact h₂.trans h₃
  | exhausted => exact h₂.trans h₃

end Member

end Graft
