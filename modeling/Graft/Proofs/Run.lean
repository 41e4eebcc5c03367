import Graft.Target

set_option autoImplicit false

/-! # How runs end

A run gives a value or is halted, and an attempt can be refused as well.  `Gives` says that a value
is given and which world is left; it takes a run apart step by step, from a result back to what
led to it.  `Ends` goes the other way: it says of every way in which a run can end what holds then,
and is put together from the steps of the run. -/

namespace Graft

open Machine

/-! ## Results -/

theorem bind_eq_ok {ε α β : Type} {x : Except ε α} {f : α → Except ε β} {b : β} :
    (x >>= f) = .ok b ↔ ∃ a, x = .ok a ∧ f a = .ok b := by
  cases x <;> simp [bind, Except.bind]

theorem bind_eq_error {ε α β : Type} {x : Except ε α} {f : α → Except ε β} {e : ε} :
    (x >>= f) = .error e ↔ x = .error e ∨ ∃ a, x = .ok a ∧ f a = .error e := by
  cases x <;> simp [bind, Except.bind]

theorem mapError_eq_ok {ε ε' α : Type} {x : Except ε α} {f : ε → ε'} {a : α} :
    x.mapError f = .ok a ↔ x = .ok a := by
  cases x with
  | ok y =>
    constructor <;> exact fun h => congrArg Except.ok (Except.ok.inj h)
  | error e =>
    constructor <;> exact fun h => by cases h

/-- Whether a result is there and passes a test. -/
def okThat {ε α : Type} (test : α → Bool) : Except ε α → Bool
  | .ok a => test a
  | .error _ => false

theorem okThat_iff {ε α : Type} {test : α → Bool} {x : Except ε α} :
    okThat test x = true ↔ ∃ a, x = .ok a ∧ test a = true := by
  cases x <;> simp [okThat]

/-! ## Runs -/

namespace Run

variable {α β : Type}

/-- What a run ends with, and the world that it leaves. -/
def result (x : Run α) (w : World) : Except Halt α × World := x.run.run w

/-- A run gives a value and leaves a world. -/
def Gives (x : Run α) (w : World) (a : α) (w' : World) : Prop := x.result w = (.ok a, w')

/-- However a run ends, `good` holds of what it gives and `bad` of what it is halted by, together
    with the world that it leaves. -/
def Ends (x : Run α) (w : World) (good : α → World → Prop) (bad : Halt → World → Prop) : Prop :=
  match x.result w with
  | (.ok a, w') => good a w'
  | (.error h, w') => bad h w'

/-! ## One step after another -/

theorem result_bind (x : Run α) (f : α → Run β) (w : World) :
    (x >>= f).result w = match x.result w with
      | (.ok a, w₁) => (f a).result w₁
      | (.error h, w₁) => (.error h, w₁) := by
  unfold result ExceptT.run StateT.run
  simp only [bind, ExceptT.bind, ExceptT.mk, StateT.bind]
  rcases x w with ⟨h | a, w₁⟩ <;> rfl

theorem result_tryCatch (x : Run α) (f : Halt → Run α) (w : World) :
    Run.result (tryCatch x f) w = match x.result w with
      | (.ok a, w₁) => (.ok a, w₁)
      | (.error h, w₁) => (f h).result w₁ := by
  unfold result ExceptT.run StateT.run
  simp only [tryCatch, tryCatchThe, MonadExceptOf.tryCatch, ExceptT.tryCatch, ExceptT.mk, bind,
    StateT.bind]
  rcases x w with ⟨h | a, w₁⟩ <;> rfl

theorem result_map (f : α → β) (x : Run α) (w : World) :
    Run.result (f <$> x) w = match x.result w with
      | (.ok a, w₁) => (.ok (f a), w₁)
      | (.error h, w₁) => (.error h, w₁) := by
  unfold result ExceptT.run StateT.run
  simp only [Functor.map, ExceptT.map, ExceptT.mk, bind, StateT.bind]
  rcases x w with ⟨h | a, w₁⟩ <;> rfl

theorem gives_unique {x : Run α} {w w₁ w₂ : World} {a b : α} (ha : x.Gives w a w₁)
    (hb : x.Gives w b w₂) : a = b ∧ w₁ = w₂ := by
  unfold Gives at ha hb
  rw [ha] at hb
  cases hb
  exact ⟨rfl, rfl⟩

theorem gives_bind {x : Run α} {f : α → Run β} {w w' : World} {b : β} :
    (x >>= f).Gives w b w' ↔ ∃ a w₁, x.Gives w a w₁ ∧ (f a).Gives w₁ b w' := by
  unfold Gives
  rw [result_bind]
  rcases x.result w with ⟨h | a, w₁⟩
  · simp
  · constructor
    · exact fun h => ⟨a, w₁, rfl, h⟩
    · rintro ⟨_, _, ⟨⟩, h⟩
      exact h

/-- What follows a step that gives a result goes on with it. -/
theorem Gives.bind_iff {x : Run α} {f : α → Run β} {w w₁ w' : World} {a : α} {b : β}
    (h : x.Gives w a w₁) : (x >>= f).Gives w b w' ↔ (f a).Gives w₁ b w' := by
  unfold Gives at h ⊢
  rw [result_bind, h]

theorem gives_map {f : α → β} {x : Run α} {w w' : World} {b : β} :
    Run.Gives (f <$> x) w b w' ↔ ∃ a, x.Gives w a w' ∧ f a = b := by
  unfold Gives
  rw [result_map]
  rcases x.result w with ⟨h | a, w₁⟩
  · simp
  · simp only [Prod.mk.injEq, Except.ok.injEq]
    constructor
    · exact fun ⟨ha, hw⟩ => ⟨a, ⟨rfl, hw⟩, ha⟩
    · rintro ⟨_, ⟨rfl, hw⟩, ha⟩
      exact ⟨ha, hw⟩

theorem ends_bind {x : Run α} {f : α → Run β} {w : World} {good : β → World → Prop}
    {bad : Halt → World → Prop} :
    (x >>= f).Ends w good bad ↔ x.Ends w (fun a w₁ => (f a).Ends w₁ good bad) bad := by
  unfold Ends
  rw [result_bind]
  rcases x.result w with ⟨h | a, w₁⟩ <;> rfl

theorem ends_map {f : α → β} {x : Run α} {w : World} {good : β → World → Prop}
    {bad : Halt → World → Prop} :
    Run.Ends (f <$> x) w good bad ↔ x.Ends w (fun a w₁ => good (f a) w₁) bad := by
  unfold Ends
  rw [result_map]
  rcases x.result w with ⟨h | a, w₁⟩ <;> rfl

theorem ends_tryCatch {x : Run α} {f : Halt → Run α} {w : World} {good : α → World → Prop}
    {bad : Halt → World → Prop} :
    Run.Ends (tryCatch x f) w good bad ↔
      x.Ends w good fun h w₁ => (f h).Ends w₁ good bad := by
  unfold Ends
  rw [result_tryCatch]
  rcases x.result w with ⟨h | a, w₁⟩ <;> rfl

/-! ## The steps that runs are made of -/

section Steps

variable {w w' : World} {good : α → World → Prop} {bad : Halt → World → Prop}

@[simp] theorem result_pure {a : α} : Run.result (pure a) w = (.ok a, w) := rfl

@[simp] theorem result_throw {h : Halt} :
    Run.result (throw h : Run α) w = (.error h, w) := rfl

@[simp] theorem result_world : Run.world.result w = (.ok w, w) := rfl

@[simp] theorem result_get : Run.result get w = (.ok w, w) := rfl

@[simp] theorem result_set {v : World} : Run.result (set v : Run PUnit) w = (.ok ⟨⟩, v) := rfl

@[simp] theorem result_modify {f : World → World} :
    Run.result (modify f : Run PUnit) w = (.ok ⟨⟩, f w) := rfl

@[simp] theorem result_read {f : World → α} : (Run.read f).result w = (.ok (f w), w) := rfl

@[simp] theorem gives_pure {a b : α} : Run.Gives (pure a) w b w' ↔ a = b ∧ w = w' := by
  simp [Gives]

@[simp] theorem not_gives_throw {h : Halt} {a : α} : ¬Run.Gives (throw h) w a w' := by
  simp [Gives]

@[simp] theorem gives_world {v : World} : Run.world.Gives w v w' ↔ w = v ∧ w = w' := by
  simp [Gives]

/-- Looking at the world goes on with the world that is there. -/
theorem gives_bind_world {f : World → Run β} {b : β} :
    (Run.world >>= f).Gives w b w' ↔ (f w).Gives w b w' :=
  Gives.bind_iff (gives_world.2 ⟨rfl, rfl⟩)

@[simp] theorem gives_get {v : World} : Run.Gives get w v w' ↔ w = v ∧ w = w' := by
  simp [Gives]

@[simp] theorem gives_set {v : World} {u : PUnit} : Run.Gives (set v) w u w' ↔ v = w' := by
  simp [Gives]

@[simp] theorem gives_modify {f : World → World} {u : PUnit} :
    Run.Gives (modify f) w u w' ↔ f w = w' := by
  simp [Gives]

@[simp] theorem gives_read {f : World → α} {a : α} :
    (Run.read f).Gives w a w' ↔ f w = a ∧ w = w' := by
  simp [Gives]

@[simp] theorem ends_pure {a : α} : Run.Ends (pure a) w good bad ↔ good a w := Iff.rfl

@[simp] theorem ends_throw {h : Halt} : Run.Ends (throw h) w good bad ↔ bad h w := Iff.rfl

@[simp] theorem ends_world {good : World → World → Prop} :
    Run.world.Ends w good bad ↔ good w w := Iff.rfl

@[simp] theorem ends_get {good : World → World → Prop} :
    Run.Ends get w good bad ↔ good w w := Iff.rfl

@[simp] theorem ends_set {v : World} {good : PUnit → World → Prop} :
    Run.Ends (set v) w good bad ↔ good ⟨⟩ v := Iff.rfl

@[simp] theorem ends_modify {f : World → World} {good : PUnit → World → Prop} :
    Run.Ends (modify f) w good bad ↔ good ⟨⟩ (f w) := Iff.rfl

@[simp] theorem ends_read {f : World → α} :
    (Run.read f).Ends w good bad ↔ good (f w) w := Iff.rfl

theorem Ends.intro {x : Run α} (hgood : ∀ a w', x.Gives w a w' → good a w')
    (hbad : ∀ h w', x.result w = (.error h, w') → bad h w') : x.Ends w good bad := by
  unfold Ends
  split
  · exact hgood _ _ ‹_›
  · exact hbad _ _ ‹_›

theorem Ends.imp {x : Run α} {good' : α → World → Prop} {bad' : Halt → World → Prop}
    (h : x.Ends w good bad) (hgood : ∀ a w', good a w' → good' a w')
    (hbad : ∀ e w', bad e w' → bad' e w') : x.Ends w good' bad' := by
  revert h
  unfold Ends
  rcases x.result w with ⟨e | a, w'⟩ <;> intro h
  · exact hbad _ _ h
  · exact hgood _ _ h

/-- What holds however a run ends holds of the value that it gives. -/
theorem Ends.of_gives {x : Run α} {a : α} (h : x.Ends w good bad) (hx : x.Gives w a w') :
    good a w' := by
  unfold Ends at h
  rw [hx] at h
  exact h

/-- A run that can not be halted gives a value. -/
theorem Ends.gives {x : Run α} (h : x.Ends w good fun _ _ => False) :
    ∃ a w', x.Gives w a w' ∧ good a w' := by
  unfold Ends at h
  unfold Gives
  rcases hx : x.result w with ⟨e | a, w'⟩
  · rw [hx] at h
    exact h.elim
  · rw [hx] at h
    exact ⟨a, w', rfl, h⟩

end Steps

end Run

/-! ## Attempts -/

namespace Attempt

variable {α β : Type}

/-- An attempt gives a value and leaves a world. -/
def Gives (x : Attempt α) (w : World) (a : α) (w' : World) : Prop :=
  Run.Gives x.run w (.ok a) w'

/-- However an attempt ends, `good` holds of what it gives, or else, if it is refused or halted,
    `bad` of the world that it leaves. -/
def Ends (x : Attempt α) (w : World) (good : α → World → Prop) (bad : World → Prop) : Prop :=
  Run.Ends x.run w (fun r w' => match r with
    | .ok a => good a w'
    | .error _ => bad w') fun _ w' => bad w'

/-- An attempt is refused and leaves a world. -/
def Refuses (x : Attempt α) (w : World) (r : Refusal) (w' : World) : Prop :=
  Run.Gives x.run w (.error r) w'

theorem gives_unique {x : Attempt α} {w w₁ w₂ : World} {a b : α} (ha : Attempt.Gives x w a w₁)
    (hb : Attempt.Gives x w b w₂) : a = b ∧ w₁ = w₂ := by
  obtain ⟨⟨⟩, rfl⟩ := Run.gives_unique ha hb
  exact ⟨rfl, rfl⟩

/-- Whether an attempt gives something that passes a test. -/
def givesThat (test : α → Bool) (x : Attempt α) (w : World) : Bool :=
  match x.run.result w with
  | (.ok (.ok a), _) => test a
  | _ => false

theorem givesThat_iff {test : α → Bool} {x : Attempt α} {w : World} :
    givesThat test x w = true ↔ ∃ a w', Attempt.Gives x w a w' ∧ test a = true := by
  unfold givesThat Attempt.Gives Run.Gives
  rcases x.run.result w with ⟨h | r | a, w'⟩ <;> simp

/-- Whether an attempt is refused for a cause that passes a test. -/
def refusesThat (test : Refusal → Bool) (x : Attempt α) (w : World) : Bool :=
  match x.run.result w with
  | (.ok (.error r), _) => test r
  | _ => false

theorem refusesThat_iff {test : Refusal → Bool} {x : Attempt α} {w : World} :
    refusesThat test x w = true ↔ ∃ r w', Attempt.Refuses x w r w' ∧ test r = true := by
  unfold refusesThat Attempt.Refuses Run.Gives
  rcases x.run.result w with ⟨h | r | a, w'⟩ <;> simp

theorem gives_bind {x : Attempt α} {f : α → Attempt β} {w w' : World} {b : β} :
    Attempt.Gives (x >>= f) w b w' ↔
      ∃ a w₁, Attempt.Gives x w a w₁ ∧ Attempt.Gives (f a) w₁ b w' := by
  unfold Gives
  rw [ExceptT.run_bind, Run.gives_bind]
  constructor
  · rintro ⟨r | a, w₁, hx, hf⟩
    · simp at hf
    · exact ⟨a, w₁, hx, hf⟩
  · rintro ⟨a, w₁, hx, hf⟩
    exact ⟨.ok a, w₁, hx, hf⟩

/-- What follows an attempt that has given a value decides how both end. -/
theorem Gives.bind_iff {x : Attempt α} {f : α → Attempt β} {w w₁ w' : World} {a : α} {b : β}
    (h : Attempt.Gives x w a w₁) :
    Attempt.Gives (x >>= f) w b w' ↔ Attempt.Gives (f a) w₁ b w' := by
  rw [gives_bind]
  constructor
  · rintro ⟨a', w₂, hx, hf⟩
    obtain ⟨rfl, rfl⟩ := gives_unique h hx
    exact hf
  · exact fun hf => ⟨a, w₁, h, hf⟩

theorem Gives.refuses_bind {x : Attempt α} {f : α → Attempt β} {w w₁ w' : World} {a : α}
    {r : Refusal} (h : Attempt.Gives x w a w₁) (hf : Attempt.Refuses (f a) w₁ r w') :
    Attempt.Refuses (x >>= f) w r w' := by
  unfold Refuses
  rw [ExceptT.run_bind, Run.gives_bind]
  exact ⟨.ok a, w₁, h, hf⟩

theorem Gives.refuses_bind_iff {x : Attempt α} {f : α → Attempt β} {w w₁ w' : World} {a : α}
    {r : Refusal} (h : Attempt.Gives x w a w₁) :
    Attempt.Refuses (x >>= f) w r w' ↔ Attempt.Refuses (f a) w₁ r w' := by
  unfold Refuses
  rw [ExceptT.run_bind, Run.Gives.bind_iff h]

theorem Refuses.bind {x : Attempt α} {f : α → Attempt β} {w w' : World} {r : Refusal}
    (h : Attempt.Refuses x w r w') : Attempt.Refuses (x >>= f) w r w' := by
  unfold Refuses
  rw [ExceptT.run_bind, Run.gives_bind]
  exact ⟨.error r, w', h, by simp⟩

/-- An attempt is refused by one of its parts. -/
theorem refuses_bind {x : Attempt α} {f : α → Attempt β} {w w' : World}
    {r : Refusal} : Attempt.Refuses (x >>= f) w r w' ↔
      Attempt.Refuses x w r w' ∨
        ∃ a w₁, Attempt.Gives x w a w₁ ∧ Attempt.Refuses (f a) w₁ r w' := by
  constructor
  · intro h
    unfold Attempt.Refuses at h
    rw [ExceptT.run_bind, Run.gives_bind] at h
    obtain ⟨e, w₁, hx, hf⟩ := h
    cases e with
    | ok a => exact .inr ⟨a, w₁, hx, hf⟩
    | error r' =>
      obtain ⟨⟨⟩, rfl⟩ := Run.gives_pure.1 hf
      exact .inl hx
  · rintro (h | ⟨a, w₁, hx, hf⟩)
    · exact h.bind
    · exact hx.refuses_bind hf

theorem ends_bind {x : Attempt α} {f : α → Attempt β} {w : World} {good : β → World → Prop}
    {bad : World → Prop} :
    Attempt.Ends (x >>= f) w good bad ↔
      Attempt.Ends x w (fun a w₁ => Attempt.Ends (f a) w₁ good bad) bad := by
  unfold Ends
  rw [ExceptT.run_bind, Run.ends_bind]
  unfold Run.Ends
  rcases Run.result x.run w with ⟨h | r | a, w₁⟩ <;> rfl

section Steps

variable {w w' : World} {good : α → World → Prop} {bad : World → Prop}

@[simp] theorem gives_pure {a b : α} :
    Attempt.Gives (pure a) w b w' ↔ a = b ∧ w = w' := by
  simp [Gives]

@[simp] theorem ends_pure {a : α} : Attempt.Ends (pure a) w good bad ↔ good a w := Iff.rfl

@[simp] theorem gives_lift {x : Run α} {a : α} :
    Attempt.Gives (liftM x) w a w' ↔ x.Gives w a w' := by
  have h : (liftM x : Attempt α).run = Except.ok <$> x := rfl
  unfold Gives
  rw [h, Run.gives_map]
  simp

/-- What is run is halted or gives something, but is not refused. -/
theorem not_refuses_lift {x : Run α} {r : Refusal} : ¬Attempt.Refuses (liftM x) w r w' := by
  have h : (liftM x : Attempt α).run = Except.ok <$> x := rfl
  unfold Refuses
  rw [h, Run.gives_map]
  rintro ⟨a, -, ⟨⟩⟩

/-- Looking at the world goes on with the world that is there. -/
theorem gives_bind_world {f : World → Attempt β} {b : β} :
    Attempt.Gives (liftM Run.world >>= f) w b w' ↔ Attempt.Gives (f w) w b w' :=
  Gives.bind_iff (gives_lift.2 (Run.gives_world.2 ⟨rfl, rfl⟩))

@[simp] theorem ends_lift {x : Run α} :
    Attempt.Ends (liftM x) w good bad ↔ x.Ends w good fun _ => bad := by
  have h : (liftM x : Attempt α).run = Except.ok <$> x := rfl
  unfold Ends
  rw [h, Run.ends_map]

@[simp] theorem gives_mk {e : Except Refusal α} {a : α} :
    Attempt.Gives (ExceptT.mk (pure e)) w a w' ↔ e = .ok a ∧ w = w' := by
  simp [Gives]

@[simp] theorem refuses_mk {e : Except Refusal α} {r : Refusal} :
    Attempt.Refuses (ExceptT.mk (pure e)) w r w' ↔ e = .error r ∧ w = w' := by
  simp [Refuses]

@[simp] theorem ends_mk {e : Except Refusal α} :
    Attempt.Ends (ExceptT.mk (pure e)) w good bad ↔
      match e with
      | .ok a => good a w
      | .error _ => bad w := Iff.rfl

@[simp] theorem not_gives_refuse {r : Refusal} {a : α} :
    ¬Attempt.Gives (Attempt.refuse r) w a w' := by
  simp [Gives, Attempt.refuse]

@[simp] theorem ends_refuse {r : Refusal} :
    Attempt.Ends (Attempt.refuse r) w good bad ↔ bad w := Iff.rfl

@[simp] theorem gives_set {v : World} {u : PUnit} :
    Attempt.Gives (set v) w u w' ↔ v = w' := gives_lift.trans Run.gives_set

@[simp] theorem ends_set {v : World} {good : PUnit → World → Prop} :
    Attempt.Ends (set v) w good bad ↔ good ⟨⟩ v := Iff.rfl

@[simp] theorem gives_modify {f : World → World} {u : PUnit} :
    Attempt.Gives (modify f) w u w' ↔ f w = w' := gives_lift.trans Run.gives_modify

@[simp] theorem ends_modify {f : World → World} {good : PUnit → World → Prop} :
    Attempt.Ends (modify f) w good bad ↔ good ⟨⟩ (f w) := Iff.rfl

theorem Ends.imp {x : Attempt α} {good' : α → World → Prop} {bad' : World → Prop}
    (h : Attempt.Ends x w good bad) (hgood : ∀ a w', good a w' → good' a w')
    (hbad : ∀ w', bad w' → bad' w') : Attempt.Ends x w good' bad' := by
  unfold Ends at h ⊢
  refine Run.Ends.imp h ?_ fun _ => hbad
  rintro (r | a) w' h'
  · exact hbad _ h'
  · exact hgood _ _ h'

theorem Ends.of_gives {x : Attempt α} {a : α} (h : Attempt.Ends x w good bad)
    (hx : Attempt.Gives x w a w') : good a w' := by
  unfold Attempt.Ends Run.Ends at h
  unfold Attempt.Gives Run.Gives at hx
  rw [hx] at h
  exact h

theorem Ends.of_refuses {x : Attempt α} {r : Refusal} (h : Attempt.Ends x w good bad)
    (hx : Attempt.Refuses x w r w') : bad w' := by
  unfold Attempt.Ends Run.Ends at h
  unfold Attempt.Refuses Run.Gives at hx
  rw [hx] at h
  exact h

theorem Ends.gives {x : Attempt α} (h : Attempt.Ends x w good fun _ => False) :
    ∃ a w', Attempt.Gives x w a w' ∧ good a w' := by
  obtain ⟨r | a, w', hx, hgood⟩ := Run.Ends.gives h
  · exact hgood.elim
  · exact ⟨a, w', hx, hgood⟩

end Steps

end Attempt

end Graft
