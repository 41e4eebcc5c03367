import Graft.Proofs.LeftAlone

set_option autoImplicit false

/-! # What a wrapper refers to

A wrapper takes over the attributes of the callable that it is built for, among them what that one
refers to if it is a wrapper itself.  After that it is made to refer to the callable, so that it is
the callable that is found behind it, and not what is behind the callable. -/

namespace Graft

open Machine Data

/-! ## Attributes of functions -/

namespace World

variable {call : Caller} {w w' : World} {r : Ref} {f : Function} {name : String} {x v : Value}

/-- Setting an attribute of a function runs no code. -/
theorem setAttr_function_gives (hf : w.body? (.thing r) = some (.function f))
    (h : (setAttr call (.thing r) name x).Gives w () w') :
    ∃ isGiven w₁, (setFunctionAttr r f name x).Gives w isGiven w₁ ∧
      (isGiven = true ∧ w' = w₁ ∨
        isGiven = false ∧ w' = w₁.change r fun t => { t with table := t.table.set name x }) := by
  have hplain := isPlain_function hf
  obtain ⟨cls, hcls⟩ := hplain.supplied
  have hthing : (w.thing? r).map Thing.body = some (.function f) := hf
  have hset : w.SetsPlainly (.thing r) name := by
    constructor <;> right
    · rw [hcls, findMade_supplied]
    · rw [hcls, findMade_supplied]
      nofun
  replace h := setAttr_gives hset h
  unfold setPlainAttr at h
  replace h := Run.gives_bind_world.1 h
  rw [if_neg (by simp [hplain.isNoClass]), hcls] at h
  simp only [findMade_supplied, Option.bind_none] at h
  replace h := gives_unlessGiven h
  unfold setOwnAttr at h
  replace h := Run.gives_bind_world.1 h
  simp only [hthing] at h
  -- An attribute that describes the function is kept with it; any other goes to its table.
  obtain ⟨isGiven, w₁, hgiven, h⟩ := Run.gives_bind.1 h
  refine ⟨isGiven, w₁, hgiven, ?_⟩
  cases isGiven with
  | true => exact .inl ⟨rfl, (Run.gives_pure.1 h).2.symm⟩
  | false => exact .inr ⟨rfl, (Run.gives_modify.1 h).symm⟩

/-- An attribute of a function that not every function has is put among its attributes. -/
theorem setAttr_function_own (hf : w.body? (.thing r) = some (.function f))
    (hname : (setFunctionAttr r f name x).Gives w false w)
    (h : (setAttr call (.thing r) name x).Gives w () w') :
    (w'.table r).get? name = some x := by
  obtain ⟨t, ht, -⟩ := Option.map_eq_some_iff.1 hf
  obtain ⟨isGiven, w₁, hgiven, ⟨rfl, -⟩ | ⟨-, rfl⟩⟩ := setAttr_function_gives hf h
  · cases (Run.gives_unique hgiven hname).1
  · obtain ⟨-, rfl⟩ := Run.gives_unique hgiven hname
    rw [table_change ht, Table.get?_set_self]

/-- The name of a function is not among its attributes. -/
theorem setAttr_function_name (hf : w.body? (.thing r) = some (.function f))
    (h : (setAttr call (.thing r) "__name__" x).Gives w () w') : w'.table r = w.table r := by
  obtain ⟨isGiven, w₁, hgiven, hrest⟩ := setAttr_function_gives hf h
  unfold setFunctionAttr at hgiven
  dsimp only at hgiven
  split at hgiven
  case h_1 =>
    obtain ⟨_, w₂, hbody, hgiven⟩ := Run.gives_bind.1 hgiven
    obtain ⟨rfl, rfl⟩ := Run.gives_pure.1 hgiven
    obtain ⟨-, rfl⟩ | ⟨⟨⟩, -⟩ := hrest
    obtain rfl := Run.gives_modify.1 hbody
    rw [table, table, thing?_change, if_pos rfl]
    cases w.thing? r <;> rfl
  all_goals simp_all

/-- What a function has among its attributes is read from them. -/
theorem getAttr_function_own (hf : w.body? (.thing r) = some (.function f))
    (hname : (functionAttr r f name).Gives w none w) (hfound : (w.table r).get? name = some x)
    (call : Caller) : (getAttr call (.thing r) name).Gives w x w := by
  have hplain := isPlain_function hf
  obtain ⟨cls, hcls⟩ := hplain.supplied
  obtain ⟨t, ht, hbody⟩ := Option.map_eq_some_iff.1 hf
  refine getAttr_of_plainAttr (plainAttr_gives ht hplain.isNoClass ?_ ?_ (?_ : Run.Gives _ w none w) ?_)
  · intro g s
    rw [hcls, findMade_supplied]
    nofun
  · rw [hbody]
    nofun
  · rw [hbody]
    exact hname
  · rw [table, ht] at hfound
    exact hfound

end World

/-- Reading leaves the attributes of functions alone. -/
theorem Undisturbed.table_function {w w' : World} {r : Ref} {f : Function} (h : Undisturbed w w')
    (hf : w.body? (.thing r) = some (.function f)) : w'.table r = w.table r := by
  obtain ⟨t, ht, hbody⟩ := Option.map_eq_some_iff.1 hf
  obtain ⟨t', ht', hannotated⟩ := h.things r t ht
  rw [World.table, World.table, ht, ht']
  cases hannotated with
  | same => rfl
  | function => rfl
  | cls => cases hbody

/-! ## Building wrappers -/

namespace Patch

variable {call : Caller} {since w w' : World} {v id wrapped : Value} {patch : Ref} {name : String}

/-- Reading the name of a callable leaves the attributes alone of functions that are new since a
    world: code that runs for it does not get at them. -/
def NamedApart (call : Caller) (since : World) (v : Value) : Prop :=
  ∀ w r f, since.Lasts w → since.thing? r = none → w.body? (.thing r) = some (.function f) →
    (World.getAttr? call v "__name__").Ends w (fun _ w' => w'.table r = w.table r) fun _ _ => True

/-- No code runs for the name of a function, of what is bound, or of any other value that runs none
    when its attributes are read. -/
theorem namedApart_of_inert (h : since.IsRoutine v ∨ since.IsInert v) : NamedApart call since v := by
  intro w r f hlasts _ hf
  have hquiet : (World.getAttr call v "__name__").Quiet w := by
    rcases h with hroutine | ⟨hthere, hplain | hclass⟩
    · exact World.getAttr_quiet (hlasts.isRoutine hroutine).isPlain
    · exact World.getAttr_quiet (hlasts.isPlain hthere hplain)
    · exact World.getAttr_class_quiet (hlasts.isClass hclass)
  exact (World.getAttr?_quiet hquiet).imp (fun _ _ h => h.table_function hf) fun _ _ _ => trivial

/-- All that is done for the name of a wrapper is to read that of the callable. -/
theorem displayName_gives {shown : Value}
    (h : (displayName call wrapped name).Gives w shown w') :
    ∃ found, Run.Gives (World.getAttr? call wrapped "__name__") w found w' := by
  unfold displayName at h
  obtain ⟨found, w₁, hread, hrest⟩ := Run.gives_bind.1 h
  suffices hsame : w₁ = w' from ⟨found, hsame ▸ hread⟩
  cases found with
  | none => exact (Run.gives_pure.1 hrest).2
  | some n =>
    replace hrest := Run.gives_bind_world.1 hrest
    exact (Run.gives_pure.1 hrest).2

/-- **A wrapper refers to the callable** that it has been built for, whatever that one refers to. -/
theorem build_wrapped (hcall : call.Confined) (hapart : NamedApart call since wrapped)
    (hsince : since.Lasts w) (h : (build call patch id wrapped name).Gives w v w') :
    ∃ r, v = .thing r ∧ (w'.table r).get? wrappedAttribute = some wrapped := by
  unfold build World.dictOfTable at h
  rw [Run.gives_bind] at h
  obtain ⟨_, w₁, hdict, h⟩ := h
  have h₁ := (Run.Confined.newValue _ _).of_gives hdict
  obtain ⟨rfl, rfl⟩ := Run.gives_newValue.1 hdict
  simp only [Run.gives_bind, Run.gives_world, Run.gives_new, Run.gives_pure] at h
  obtain ⟨_, _, ⟨rfl, rfl⟩, r, w₂, hnew, _, w₃, hcopied, _, w₄, hown, _, w₅, hset, shown, w₆,
    hshown, _, w₇, hnamed, rfl, rfl⟩ := h
  have h₃ := (copyAttributes_confined hcall _ wrapped copiedAttributes).of_gives hcopied
  have h₄ := (copyOwn_confined hcall r wrapped).of_gives hown
  have h₅ := (World.setAttr_confined hcall _ _ _).of_gives hset
  have h₆ := (displayName_confined hcall wrapped name).of_gives hshown
  obtain ⟨hthere, hfree⟩ := World.alloc_eq hnew
  have h₂ : w.Lasts w₂ :=
    h₁.lasts.trans ((Run.Confined.new _ _).of_gives (Run.gives_new.2 hnew)).lasts
  have hlasts : since.Lasts w₄ := hsince.trans (h₂.trans (h₃.lasts.trans h₄.lasts))
  have hisNew : since.thing? r = none := (hsince.trans h₁.lasts).missing hfree
  -- The new function stays one, whatever runs while it is filled.
  obtain ⟨f₄, hf₄, -⟩ := (h₃.lasts.trans h₄.lasts).function (v := .thing r)
    (by rw [World.body?, hthere]; rfl)
  obtain ⟨f₅, hf₅, -⟩ := h₅.lasts.function hf₄
  obtain ⟨f₆, hf₆, -⟩ := h₆.lasts.function hf₅
  refine ⟨r, rfl, ?_⟩
  have hreferred := World.setAttr_function_own hf₄ (Run.gives_pure.2 ⟨rfl, rfl⟩) hset
  obtain ⟨found, hread⟩ := displayName_gives hshown
  have hkept : w₆.table r = w₅.table r :=
    (hapart w₅ r f₅ (hlasts.trans h₅.lasts) hisNew hf₅).of_gives hread
  rw [World.setAttr_function_name hf₆ hnamed, hkept, hreferred]

variable {target member : Value} {spec : Option Spec} {x : Prepared} {w₁ : World}

/-- A wrapper that is ready refers to the callable that has been found. -/
theorem prepare_wrapped (hcall : call.Confined) {m : Member}
    (hresolve : Attempt.Gives (Member.resolve call target member) w m w₁)
    (hapart : NamedApart call w₁ m.value)
    (hx : Attempt.Gives (prepare call target member spec) w x w') :
    ∃ r, x.wrapper = .thing r ∧ (w'.table r).get? wrappedAttribute = some m.value := by
  unfold prepare at hx
  rw [hresolve.bind_iff] at hx
  split at hx
  · simp at hx
  · replace hx := Attempt.gives_bind_world.1 hx
    split at hx
    · simp at hx
    · simp only [Attempt.gives_bind, Attempt.gives_lift, Attempt.gives_pure] at hx
      obtain ⟨id, w₂, hid, patch, w₃, hpatch, wrapper, w₄, hwrapper, rfl, rfl⟩ := hx
      have h₂ := ((chooseId_leads World.lasts_isPatchWay _).ends w₁).of_gives hid
      have h₃ := (Run.Confined.new _ _).of_gives hpatch
      exact build_wrapped hcall hapart (h₂.trans h₃.lasts) hwrapper

end Patch

end Graft
