import Graft.Proofs.World

set_option autoImplicit false

/-! # Members of targets

What comes of finding a member of a target, of wrapping a replacement, and of writing that to the
target. -/

namespace Graft.Member

open Machine

variable {call : Caller} {target name v x : Value} {m : Member} {w w' : World}

/-! ## Finding a member -/

section Lookup

variable {name : String} {found : Option (Convention × Value)}

/-- Only things can be mappings. -/
theorem exists_thing_of_mapping (h : w.isMutableMapping target = true) :
    ∃ r, target = .thing r := by
  cases target with
  | thing r => exact ⟨r, rfl⟩
  | _ => cases h

/-- What a mapping holds is looked up among its entries. -/
theorem gives_lookup_entry {r : Ref} (hmapping : w.isMutableMapping (.thing r) = true) :
    (lookup call (.thing r) name).Gives w found w' ↔
      ∃ v, (World.getEntry? r (.str name)).Gives w v w' ∧ found = v.map (Convention.plain, ·) := by
  unfold lookup
  refine Run.gives_bind_world.trans ?_
  simp only [hmapping, Run.gives_bind, Run.gives_pure]
  constructor
  · rintro ⟨v, _, hv, rfl, rfl⟩
    exact ⟨v, hv, rfl⟩
  · rintro ⟨v, hv, rfl⟩
    exact ⟨v, w', hv, rfl, rfl⟩

/-- What any other target holds is looked up among its attributes; if the target is a class, what
    its own members tell goes before. -/
theorem gives_lookup_attr (hmapping : w.isMutableMapping target = false) :
    (lookup call target name).Gives w found w' ↔
      ∃ v, (World.getAttr? call target name).Gives w v w' ∧
        found = ((if w'.isClass target then unwrapped? w' target name else none) <|>
          v.map (Convention.plain, ·)) := by
  -- Whether the target is a class is asked once the attribute has been read.
  have hlater : ∀ {v : Option Value} {w₁ : World},
      Run.Gives (do
        let w ← Run.world
        if w.isClass target then
          return unwrapped? w target name <|> v.map (Convention.plain, ·)
        else return v.map (Convention.plain, ·)) w₁ found w' ↔
      w' = w₁ ∧ found = ((if w₁.isClass target then unwrapped? w₁ target name else none) <|>
          v.map (Convention.plain, ·)) := by
    intro v w₁
    refine Run.gives_bind_world.trans ?_
    split <;> rw [Run.gives_pure] <;> constructor <;> rintro ⟨rfl, rfl⟩ <;> exact ⟨rfl, rfl⟩
  unfold lookup
  refine Run.gives_bind_world.trans ?_
  simp only [hmapping]
  rw [Run.gives_bind]
  constructor
  · rintro ⟨v, w₁, hv, h⟩
    obtain ⟨rfl, rfl⟩ := hlater.1 h
    exact ⟨v, hv, rfl⟩
  · rintro ⟨v, hv, rfl⟩
    exact ⟨v, w', hv, hlater.2 ⟨rfl, rfl⟩⟩

end Lookup

/-- A member is found if it is looked up under the text of a name, and can be called. -/
theorem gives_resolve :
    Attempt.Gives (resolve call target name) w m w' ↔
      target.isNone = false ∧ name.isNone = false ∧ m.target = target ∧ m.name = w.text name ∧
        Run.Gives (lookup call target m.name) w (some (m.convention, m.value)) w' ∧
        w'.isCallable m.value = true := by
  unfold resolve
  constructor
  · intro h
    split at h
    · simp at h
    rename_i htarget
    split at h
    · simp at h
    rename_i hname
    replace h := Attempt.gives_bind_world.1 h
    obtain ⟨found, w₁, hlookup, h⟩ := Attempt.gives_bind.1 h
    rcases found with _ | ⟨convention, value⟩
    · simp at h
    replace h := Attempt.gives_bind_world.1 h
    split at h
    · rename_i hcallable
      obtain ⟨rfl, rfl⟩ := Attempt.gives_pure.1 h
      exact ⟨by simpa using htarget, by simpa using hname, rfl, rfl, Attempt.gives_lift.1 hlookup,
        hcallable⟩
    · simp at h
  · obtain ⟨target', name', value, convention⟩ := m
    rintro ⟨htarget, hname, rfl, rfl, hlookup, hcallable⟩
    rw [if_neg (by simp [htarget]), if_neg (by simp [hname])]
    refine Attempt.gives_bind_world.2 ?_
    refine Attempt.gives_bind.2 ⟨_, w', Attempt.gives_lift.2 hlookup, ?_⟩
    refine Attempt.gives_bind_world.2 ?_
    rw [if_pos hcallable]
    exact Attempt.gives_pure.2 ⟨rfl, rfl⟩

theorem resolve_target (h : Attempt.Gives (resolve call target name) w m w') :
    m.target = target :=
  (gives_resolve.1 h).2.2.1

/-- What is resolved has been looked up under the text of the name. -/
theorem resolve_looks (h : Attempt.Gives (resolve call target name) w m w') :
    m.target = target ∧ m.name = w.text name ∧
      Run.Gives (lookup call target m.name) w (some (m.convention, m.value)) w' := by
  obtain ⟨-, -, htarget, hname, hlookup, -⟩ := gives_resolve.1 h
  exact ⟨htarget, hname, hlookup⟩

theorem resolve_gives {name : String}
    (h : Attempt.Gives (resolve call target (.str name)) w m w') :
    m.target = target ∧ m.name = name ∧
      Run.Gives (lookup call target name) w (some (m.convention, m.value)) w' := by
  obtain ⟨htarget, hname, hlookup⟩ := resolve_looks h
  have htext : w.text (.str name) = name := rfl
  rw [htext] at hname
  exact ⟨htarget, hname, hname ▸ hlookup⟩

/-! ## Wrapping a replacement -/

/-- A replacement is wrapped in the way in which the member is: not at all, or in something new. -/
theorem gives_rewrap (h : (m.rewrap v).Gives w x w') :
    (m.convention = .plain ∧ x = v ∧ w' = w) ∨
      ∃ b, (m.convention = .static ∧ b = .staticMethod v ∨
          m.convention = .ofClass ∧ b = .classMethod v) ∧
        x = .thing (w.alloc { body := b }).1 ∧ w' = (w.alloc { body := b }).2 := by
  unfold rewrap at h
  split at h
  · rename_i hplain
    obtain ⟨rfl, rfl⟩ := Run.gives_pure.1 h
    exact .inl ⟨hplain, rfl, rfl⟩
  · rename_i hstatic
    obtain ⟨rfl, rfl⟩ := Run.gives_newValue.1 h
    exact .inr ⟨_, .inl ⟨hstatic, rfl⟩, rfl, rfl⟩
  · rename_i hofClass
    obtain ⟨rfl, rfl⟩ := Run.gives_newValue.1 h
    exact .inr ⟨_, .inr ⟨hofClass, rfl⟩, rfl, rfl⟩

/-! ## Writing it -/

/-- A write gives a refusal if it raises an ordinary exception, and nothing if it is done. -/
theorem gives_write {refusal : Option Refusal}
    (h : Run.Gives (tryCatch (do m.put call x; return none) fun
      | .raised e => do
        let w ← Run.world
        if w.isException e then return some (.writeRefused m.name (w.text e) (w.typeName e))
        else throw (.raised e)
      | h => throw h : Run (Option Refusal)) w refusal w') :
    (refusal = none ∧ (m.put call x).Gives w () w') ∨
      ∃ e, (m.put call x).result w = (.error (.raised e), w') ∧ w'.isException e = true ∧
        refusal = some (.writeRefused m.name (w'.text e) (w'.typeName e)) := by
  unfold Run.Gives at h ⊢
  rw [Run.result_tryCatch, Run.result_bind] at h
  rcases hput : (m.put call x).result w with ⟨e | u, w₁⟩
  · rw [hput] at h
    cases e with
    | exhausted => cases h
    | raised e =>
      dsimp only at h
      rw [Run.result_bind, Run.result_world] at h
      dsimp only at h
      split at h
      · rename_i hexception
        cases h
        exact .inr ⟨e, rfl, hexception, rfl⟩
      · cases h
  · rw [hput] at h
    cases h
    exact .inl ⟨rfl, rfl⟩

/-- A member that has been replaced has been written to with the replacement in its wrapping. -/
theorem assign_gives (h : Attempt.Gives (m.assign call v) w () w') :
    ∃ x w₁, (m.rewrap v).Gives w x w₁ ∧ (m.put call x).Gives w₁ () w' := by
  unfold assign at h
  obtain ⟨x, w₁, hx, h⟩ := Attempt.gives_bind.1 h
  obtain ⟨refusal, w₂, hwrite, h⟩ := Attempt.gives_bind.1 h
  obtain ⟨rfl, hput⟩ | ⟨e, -, -, rfl⟩ := gives_write (Attempt.gives_lift.1 hwrite)
  · obtain ⟨-, rfl⟩ := Attempt.gives_pure.1 h
    exact ⟨x, w₁, Attempt.gives_lift.1 hx, hput⟩
  · exact absurd h Attempt.not_gives_refuse

/-- A refusal to be replaced tells what the write has raised. -/
theorem assign_refuses {r : Refusal} (h : Attempt.Refuses (m.assign call v) w r w') :
    ∃ x w₁ e, (m.rewrap v).Gives w x w₁ ∧ (m.put call x).result w₁ = (.error (.raised e), w') ∧
      w'.isException e = true ∧ r = .writeRefused m.name (w'.text e) (w'.typeName e) := by
  unfold assign at h
  obtain h | ⟨x, w₁, hx, h⟩ := Attempt.refuses_bind.1 h
  · exact absurd h Attempt.not_refuses_lift
  obtain h | ⟨refusal, w₂, hwrite, h⟩ := Attempt.refuses_bind.1 h
  · exact absurd h Attempt.not_refuses_lift
  obtain ⟨rfl, -⟩ | ⟨e, hput, hexception, rfl⟩ := gives_write (Attempt.gives_lift.1 hwrite)
  · exact nomatch (Run.gives_pure.1 h).1
  · obtain ⟨hr, rfl⟩ := Attempt.refuses_mk.1 h
    obtain rfl := Except.error.inj hr
    exact ⟨x, w₁, e, Attempt.gives_lift.1 hx, hput, hexception, rfl⟩

end Graft.Member
