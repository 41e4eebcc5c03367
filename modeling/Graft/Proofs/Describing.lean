import Graft.Proofs.Atomicity

set_option autoImplicit false

/-! # Functions can be described

A wrapper takes over what describes the callable that it is built for.  A function, and what is bound
from one, has all of that, and another function can be given it, so that nothing is raised while the
wrapper of a function is built. -/

namespace Graft

open Machine

/-! ## Runs that are not halted -/

namespace Run

variable {α β : Type} {x : Run α} {w : World}

/-- A run gives something. -/
def Calm (x : Run α) (w : World) : Prop := x.Ends w (fun _ _ => True) fun _ _ => False

/-- What two lemmas say about how a run ends holds together. -/
theorem Ends.and {good good' : α → World → Prop} {bad bad' : Halt → World → Prop}
    (h : x.Ends w good bad) (h' : x.Ends w good' bad') :
    x.Ends w (fun a w' => good a w' ∧ good' a w') fun e w' => bad e w' ∧ bad' e w' := by
  unfold Ends at h h' ⊢
  rcases hresult : x.result w with ⟨e | a, w₁⟩
  · rw [hresult] at h h'
    exact ⟨h, h'⟩
  · rw [hresult] at h h'
    exact ⟨h, h'⟩

/-- A run that gives something ends as is known of what it gives. -/
theorem Calm.ends {good : α → World → Prop} {bad : Halt → World → Prop} (h : x.Calm w)
    (hends : x.Ends w good bad) : x.Ends w good fun _ _ => False :=
  (hends.and h).imp (fun _ _ h => h.1) fun _ _ h => h.2

theorem Calm.of_ends {good : α → World → Prop} (h : x.Ends w good fun _ _ => False) : x.Calm w :=
  h.imp (fun _ _ _ => trivial) fun _ _ h => h

end Run

/-! ## What describes a function -/

namespace World

variable {call : Caller} {w w' : World} {v x : Value} {r : Ref} {f : Function} {name : String}

/-- Every function can be given a value under a name. -/
def Settable (w : World) (name : String) (x : Value) : Prop :=
  ∀ r f, (setFunctionAttr r f name x).Calm w

/-- A value is a function or bound from one, and the annotations of the function are a dictionary if
    it has any. -/
structure IsDescribed (w : World) (v : Value) (r : Ref) (f : Function) : Prop where
  body : w.body? (.thing r) = some (.function f)
  behind : v = .thing r ∨ ∃ receiver, w.body? v = some (.method (.thing r) receiver)
  annotated : ∀ d, f.annotations = some d → ∃ entries, w.body? (.thing d) = some (.dict entries)

/-- What a wrapper takes over from a function by name. -/
def describing : List String := "__dict__" :: Patch.copiedAttributes

theorem settable_annotations {d : Ref} {entries : List Entry}
    (h : w.body? (.thing d) = some (.dict entries)) :
    w.Settable annotationsName (.thing d) := by
  intro r f
  unfold Run.Calm setFunctionAttr annotationsName
  simp only [Run.ends_bind, Run.ends_bodyOf, h, Run.ends_setBody, Run.ends_pure]

/-- What describes a function is there, and every function can be given it. -/
theorem functionAttr_settable (hf : w.body? (.thing r) = some (.function f))
    (hannotated : ∀ d, f.annotations = some d → ∃ entries, w.body? (.thing d) = some (.dict entries))
    (hname : name ∈ describing) :
    (functionAttr r f name).Ends w (fun found w' => ∃ x, found = some x ∧ w'.Settable name x)
      fun _ _ => False := by
  simp only [describing, Patch.copiedAttributes, List.mem_cons, List.not_mem_nil, or_false] at hname
  unfold functionAttr
  obtain rfl | rfl | rfl | rfl | rfl | rfl := hname
  · exact ⟨_, rfl, fun _ _ => trivial⟩
  · exact ⟨_, rfl, fun _ _ => trivial⟩
  · exact ⟨_, rfl, fun _ _ => trivial⟩
  · exact ⟨_, rfl, fun _ _ => trivial⟩
  · exact ⟨_, rfl, fun _ _ => trivial⟩
  · cases hd : f.annotations with
    | some d =>
      obtain ⟨entries, hentries⟩ := hannotated d hd
      exact ⟨_, rfl, settable_annotations hentries⟩
    | none =>
      simp only [Run.ends_bind, Run.ends_new, Run.ends_setBody, Run.ends_pure]
      refine ⟨_, rfl, @settable_annotations _ _ [] ?_⟩
      -- The new dictionary is not the function that it belongs to.
      obtain ⟨t, ht, -⟩ := Option.map_eq_some_iff.1 hf
      have hne : (w.alloc { body := .dict [] }).1 ≠ r := by
        rintro rfl
        rw [thing?_alloc_new] at ht
        cases ht
      rw [body?_thing, thing?_change, if_neg hne, thing?_alloc_self]
      rfl

theorem isPlain_method {g receiver : Value} (hv : w.body? v = some (.method g receiver)) :
    w.IsPlain v := by
  cases v with
  | thing r =>
    obtain ⟨t, hr, hbody⟩ := Option.map_eq_some_iff.1 hv
    exact {
      supplied := ⟨"method", by simp [classOf, hr, hbody, classOfBody]⟩
      isNoSuper := by simp [hv]
      isNoClass := by simp [isClass, madeClass?, hv] }
  | _ => cases hv

namespace IsDescribed

theorem isPlain (h : w.IsDescribed v r f) : w.IsPlain v := by
  obtain rfl | ⟨receiver, hv⟩ := h.behind
  · exact isPlain_function h.body
  · exact isPlain_method hv

/-- What describes a function is found without a look at the attributes that it happens to have. -/
theorem plainAttr_settable (h : w.IsDescribed v r f) (hname : name ∈ describing) :
    (plainAttr call v name).Ends w (fun found w' => ∃ x, found = some x ∧ w'.Settable name x)
      fun _ _ => False := by
  obtain ⟨cls, hcls⟩ := h.isPlain.supplied
  have hattr := functionAttr_settable h.body h.annotated hname
  obtain ⟨t, ht, hbody⟩ := Option.map_eq_some_iff.1 h.body
  unfold plainAttr
  rw [Run.ends_bind, Run.ends_world]
  simp only [h.isPlain.isNoClass, hcls, findMade_supplied, Bool.false_eq_true, if_false,
    Option.bind_none]
  -- The attribute is read from the function, or through the method that is bound to it.
  obtain rfl | ⟨receiver, hv⟩ := h.behind
  · obtain ⟨body, table⟩ := t
    dsimp only at hbody
    subst hbody
    simp only [ht, bodyAttr, Run.ends_bind]
    refine hattr.imp ?_ fun _ _ h => h
    rintro _ w₁ ⟨x, rfl, hx⟩
    exact ⟨x, rfl, hx⟩
  · cases v with
    | thing s =>
      obtain ⟨⟨body, table⟩, hs, hsbody⟩ := Option.map_eq_some_iff.1 hv
      dsimp only at hsbody
      subst hsbody
      have hcallable : (callableAttr (.thing r) name).Ends w
          (fun found w' => ∃ x, found = some x ∧ w'.Settable name x) fun _ _ => False := by
        unfold callableAttr
        simp only [Run.ends_bind, Run.ends_world, ht, Option.map_some, hbody]
        refine hattr.imp ?_ fun _ _ h => h
        rintro _ w₁ ⟨x, rfl, hx⟩
        exact ⟨x, rfl, hx⟩
      have hpassed : name ≠ "__func__" ∧ name ≠ "__self__" ∧ name ≠ "__class__" := by
        simp only [describing, Patch.copiedAttributes, List.mem_cons, List.not_mem_nil,
          or_false] at hname
        obtain rfl | rfl | rfl | rfl | rfl | rfl := hname <;> decide
      simp only [hs, bodyAttr, Run.ends_bind]
      split
      · exact absurd rfl hpassed.1
      · exact absurd rfl hpassed.2.1
      · exact absurd rfl hpassed.2.2
      · refine hcallable.imp ?_ fun _ _ h => h
        rintro _ w₁ ⟨x, rfl, hx⟩
        exact ⟨x, rfl, hx⟩
    | _ => cases hv

/-- What describes a function can be read, and every function can be given it. -/
theorem getAttr_settable (h : w.IsDescribed v r f) (hname : name ∈ describing) :
    (getAttr call v name).Ends w (fun x w' => w'.Settable name x) fun _ _ => False := by
  obtain ⟨cls, hcls⟩ := h.isPlain.supplied
  unfold getAttr
  rw [Run.ends_bind, Run.ends_world]
  simp only [h.isPlain.isNoClass, hcls, findMade_supplied, Bool.false_eq_true, if_false,
    Run.ends_bind]
  refine (h.plainAttr_settable hname).imp ?_ fun _ _ h => h
  rintro _ w₁ ⟨x, rfl, hx⟩
  exact hx

theorem getAttr?_settable (h : w.IsDescribed v r f) (hname : name ∈ describing) :
    (getAttr? call v name).Ends w (fun found w' => ∀ x, found = some x → w'.Settable name x)
      fun _ _ => False := by
  unfold getAttr? Run.orMissing Run.recover
  rw [Run.ends_tryCatch, Run.ends_map]
  refine (h.getAttr_settable hname).imp ?_ fun _ _ h => h.elim
  rintro x w₁ hx _ ⟨⟩
  exact hx

/-- A function goes on to be described when its annotations have been read. -/
theorem undisturbed (h : w.IsDescribed v r f) (hw : Undisturbed w w') :
    ∃ f', w'.IsDescribed v r f' := by
  have hdict : ∀ d entries, w.body? (.thing d) = some (.dict entries) →
      w'.body? (.thing d) = some (.dict entries) := by
    intro d entries hd
    obtain ⟨t, ht, hbody⟩ := Option.map_eq_some_iff.1 hd
    rw [body?_thing, hw.dict ht (by simp [hbody]) (by simp [hbody]), Option.map_some, hbody]
  have hbehind : v = .thing r ∨ ∃ receiver, w'.body? v = some (.method (.thing r) receiver) := by
    obtain rfl | ⟨receiver, hv⟩ := h.behind
    · exact .inl rfl
    · cases v with
      | thing s =>
        obtain ⟨t, ht, hbody⟩ := Option.map_eq_some_iff.1 hv
        refine .inr ⟨receiver, ?_⟩
        rw [body?_thing, hw.dict ht (by simp [hbody]) (by simp [hbody]), Option.map_some, hbody]
      | _ => cases hv
  obtain ⟨⟨body, table⟩, ht, hbody⟩ := Option.map_eq_some_iff.1 h.body
  obtain rfl : body = .function f := hbody
  obtain ⟨t', ht', hannotated⟩ := hw.things r _ ht
  -- Reading annotations may have given the function a dictionary, which is empty.
  cases hannotated with
  | same =>
    refine ⟨f, by rw [body?_thing, ht']; rfl, hbehind, fun d hd => ?_⟩
    obtain ⟨entries, hentries⟩ := h.annotated d hd
    exact ⟨entries, hdict d entries hentries⟩
  | function _ _ d hmissing hnew hempty =>
    refine ⟨_, by rw [body?_thing, ht']; rfl, hbehind, ?_⟩
    rintro d' ⟨⟩
    exact ⟨[], by rw [body?_thing, hempty]; rfl⟩

/-- What describes a function can be read quietly. -/
theorem describable (h : w.IsDescribed v r f) : Describable call v w := by
  intro w₁ name hw _
  obtain ⟨f', h'⟩ := h.undisturbed hw
  exact getAttr_quiet h'.isPlain

end IsDescribed

/-- A function is given what it can be given. -/
theorem setAttr_function_calm (hf : w.body? (.thing r) = some (.function f))
    (hname : name ≠ "__class__" ∧ name ≠ "__dict__") (hx : w.Settable name x) :
    (setAttr call (.thing r) name x).Calm w := by
  have hplain := isPlain_function hf
  obtain ⟨cls, hcls⟩ := hplain.supplied
  have hsupplied : w.madeClass? (.cls cls) = none := rfl
  -- Two attributes can not be set to whatever is given, and this one is neither.
  have hfree : (refuseGiven (.thing r) name x).Ends w (fun _ w' => w' = w) fun _ _ => False := by
    unfold refuseGiven
    rw [Run.ends_bind, Run.ends_world]
    split
    · exact absurd rfl hname.1
    · exact absurd rfl hname.2
    · exact absurd rfl hname.2
    · exact absurd rfl hname.2
    · exact absurd rfl hname.2
    · exact absurd rfl hname.2
    · exact absurd rfl hname.2
    · exact rfl
  unfold setAttr setPlainAttr Run.Calm
  simp only [Run.ends_bind, Run.ends_world, hplain.isNoClass, hcls, hsupplied, findMade_supplied,
    Option.map_none, Option.bind_none, Option.getD_none, Bool.false_eq_true, if_false,
    Option.isNone_none, if_true]
  refine hfree.imp ?_ fun _ _ h => h
  rintro _ w₁ rfl
  obtain ⟨t, ht, hbody⟩ := Option.map_eq_some_iff.1 hf
  unfold setOwnAttr
  simp only [Run.ends_bind, Run.ends_world, ht, Option.map_some, hbody]
  refine (hx r f).imp ?_ fun _ _ h => h
  intro isSet w₂ _
  cases isSet <;> trivial

end World

/-! ## Building the wrapper of a function -/

/-- A function that is new goes on to be new when it is given what it can be given. -/
theorem Fresh.setAttr_calm {w₀ w : World} {r : Ref} (h : Fresh w₀ r w) {call : Caller}
    {name : String} (hname : name ≠ "__class__" ∧ name ≠ "__dict__") {x : Value}
    (hx : w.Settable name x) :
    (World.setAttr call (.thing r) name x).Ends w (fun _ w' => Fresh w₀ r w') fun _ _ => False := by
  obtain ⟨g, table, hr⟩ := h.isFunction
  exact (World.setAttr_function_calm (by rw [World.body?_thing, hr]; rfl) hname hx).ends
    (h.setAttr call name x)

namespace Patch

variable {call : Caller} {w₀ w : World} {wrapped : Value} {s r : Ref} {f : Function}

theorem copyAttribute_calm (hd : w₀.IsDescribed wrapped s f) (h : Fresh w₀ r w) {name : String}
    (hname : name ∈ copiedAttributes) :
    (copyAttribute call (.thing r) wrapped name).Ends w (fun _ w' => Fresh w₀ r w')
      fun _ _ => False := by
  obtain ⟨f', hd'⟩ := hd.undisturbed h.undisturbed
  have hkept : name ≠ "__class__" ∧ name ≠ "__dict__" := by
    simp only [copiedAttributes, List.mem_cons, List.not_mem_nil, or_false] at hname
    obtain rfl | rfl | rfl | rfl | rfl := hname <;> decide
  unfold copyAttribute
  rw [Run.ends_bind]
  have hquiet : (World.getAttr? call wrapped name).Quiet w :=
    World.getAttr?_quiet (World.getAttr_quiet hd'.isPlain)
  have hsettable : (World.getAttr? call wrapped name).Ends w
      (fun found w' => ∀ x, found = some x → w'.Settable name x) fun _ _ => False :=
    hd'.getAttr?_settable (List.mem_cons_of_mem _ hname)
  refine (hsettable.and hquiet).imp ?_ fun _ _ h => h.1
  rintro found w₁ ⟨hsettable, h₁⟩
  cases found with
  | none => exact h.quiet h₁
  | some x => exact Fresh.setAttr_calm (h.quiet h₁) hkept (hsettable x rfl)

theorem copyAttributes_calm (hd : w₀.IsDescribed wrapped s f) {names : List String}
    (hnames : ∀ name ∈ names, name ∈ copiedAttributes) (h : Fresh w₀ r w) :
    Run.Ends (forIn names PUnit.unit fun name _ => do
        copyAttribute call (.thing r) wrapped name
        return .yield PUnit.unit) w (fun _ w' => Fresh w₀ r w') fun _ _ => False := by
  induction names generalizing w with
  | nil => exact h
  | cons name names ih =>
    simp only [List.forIn_cons, Run.ends_bind]
    refine (copyAttribute_calm hd h (hnames name (by simp))).imp ?_ fun _ _ h => h
    intro _ w₁ h₁
    rw [Run.ends_pure]
    exact ih (fun n hn => hnames n (List.mem_cons_of_mem _ hn)) h₁

theorem copyOwn_calm (hd : w₀.IsDescribed wrapped s f) (h : Fresh w₀ r w) :
    (copyOwn call r wrapped).Ends w (fun _ w' => Fresh w₀ r w') fun _ _ => False := by
  obtain ⟨f', hd'⟩ := hd.undisturbed h.undisturbed
  have hcalm : (copyOwn call r wrapped).Calm w := by
    unfold copyOwn Run.Calm
    rw [Run.ends_bind]
    refine (hd'.getAttr?_settable (by simp [World.describing])).imp ?_ fun _ _ h => h
    intro found w₁ _
    split <;> trivial
  exact hcalm.ends (copyOwn_ends hd.describable h)

/-- The name that a wrapper is shown under is text. -/
theorem displayName_calm (hd : w.IsDescribed wrapped s f) (name : String) :
    (displayName call wrapped name).Ends w
      (fun shown w' => w'.Settable "__name__" shown ∧ Undisturbed w w') fun _ _ => False := by
  have hcalm : (displayName call wrapped name).Ends w
      (fun shown w' => w'.Settable "__name__" shown) fun _ _ => False := by
    unfold displayName
    rw [Run.ends_bind]
    refine (hd.getAttr?_settable (by simp [World.describing, copiedAttributes])).imp ?_ fun _ _ h => h
    intro found w₁ hfound
    cases found with
    | none => exact fun _ _ => trivial
    | some x =>
      have hshown : ∀ b : Bool, w₁.Settable "__name__" (if b = true then .str name else x) := by
        intro b
        cases b with
        | false => exact hfound x rfl
        | true => exact fun _ _ => trivial
      exact hshown _
  exact (hcalm.and (displayName_quiet hd.describable (.refl w) name)).imp (fun _ _ h => h)
    fun _ _ h => h.1

/-- **The wrapper of a function is built.** -/
theorem build_calm (hd : w.IsDescribed wrapped s f) (patch : Ref) (id : Value) (name : String) :
    (build call patch id wrapped name).Calm w := by
  unfold build Run.Calm
  simp only [World.dictOfTable, Run.ends_bind, Run.ends_newValue, Run.ends_world, Run.ends_new,
    Run.ends_pure]
  have hfresh : ∀ t g, Fresh w _ _ := fun t g => Fresh.new (Undisturbed.alloc w t) g []
  refine (copyAttributes_calm hd (fun _ h => h) (hfresh _ _)).imp ?_ fun _ _ h => h
  intro _ w₁ h₁
  refine (copyOwn_calm hd h₁).imp ?_ fun _ _ h => h
  intro _ w₂ h₂
  have hwrapped : w₂.Settable wrappedAttribute wrapped := fun _ _ => trivial
  refine (Fresh.setAttr_calm h₂ (by decide) hwrapped).imp ?_ fun _ _ h => h
  intro _ w₃ h₃
  obtain ⟨f', hd₃⟩ := hd.undisturbed h₃.undisturbed
  refine (displayName_calm hd₃ name).imp ?_ fun _ _ h => h
  rintro shown w₄ ⟨hshown, h₄⟩
  exact Run.Calm.of_ends (Fresh.setAttr_calm (h₃.quiet h₄) (by decide) hshown)

end Patch

end Graft
