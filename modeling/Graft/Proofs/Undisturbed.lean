import Graft.Proofs.World

set_option autoImplicit false

/-! # Runs that leave everything as it was

A world is undisturbed if everything in it is still what it was: the things with their attributes,
the marks of callables and the records.  There may be new things, and other texts, logs and random
numbers.  One change is allowed: a function or class that had no annotations may have got an empty
dictionary for them, which happens when they are read. -/

namespace Graft

open Machine

/-- The attribute that holds the types of parameters and variables. -/
def annotationsName : String := "__annotations__"

/-- A thing before and after its annotations may have been read for the first time. -/
inductive Annotated (w w' : World) : Thing → Thing → Prop
  | same (t : Thing) : Annotated w w' t t
  | function (f : Function) (table : Table) (d : Ref) (hmissing : f.annotations = none)
      (hnew : w.thing? d = none) (hempty : w'.thing? d = some { body := .dict [] }) :
      Annotated w w' { body := .function f, table }
        { body := .function { f with annotations := some d }, table }
  | cls (c : MadeClass) (table : Table) (d : Ref) (hmissing : table.get? annotationsName = none)
      (hnew : w.thing? d = none) (hempty : w'.thing? d = some { body := .dict [] }) :
      Annotated w w' { body := .cls c, table }
        { body := .cls c, table := table.set annotationsName (.thing d) }

/-- Nothing that is in the first world has changed in the second one, but for annotations that have
    been read. -/
structure Undisturbed (w w' : World) : Prop where
  things : ∀ r t, w.thing? r = some t → ∃ t', w'.thing? r = some t' ∧ Annotated w w' t t'
  flags : w'.flags = w.flags
  names : w'.names = w.names
  home : w'.home = w.home
  patches : w'.patches.journal = w.patches.journal
  injections : w'.injections.journal = w.injections.journal

theorem Table.get?_set_self (t : Table) (name : String) (v : Value) :
    Table.get? (t.set name v) name = some v := by
  induction t with
  | nil => simp [Table.set, Table.get?]
  | cons e t ih =>
    obtain ⟨n, u⟩ := e
    unfold Table.set
    by_cases hn : n = name
    · simp [hn, Table.get?]
    · rw [if_neg (by simpa using hn)]
      simpa [Table.get?, List.find?_cons, hn] using ih

theorem Table.get?_set_of_ne (t : Table) {name other : String} (h : other ≠ name) (v : Value) :
    Table.get? (t.set name v) other = t.get? other := by
  induction t with
  | nil => simp [Table.set, Table.get?, Ne.symm h]
  | cons e t ih =>
    obtain ⟨n, u⟩ := e
    unfold Table.set
    by_cases hn : n = name
    · subst hn
      simp [Table.get?, Ne.symm h]
    · rw [if_neg (by simpa using hn)]
      unfold Table.get? at ih ⊢
      by_cases ho : n = other
      · simp [ho]
      · simpa [List.find?_cons, ho] using ih

namespace Annotated

variable {w w₁ w₂ : World} {t t' t'' : Thing}

/-- A thing whose annotations have been read once stays as it is. -/
theorem trans (h : Annotated w w₁ t t') (h' : Annotated w₁ w₂ t' t'')
    (hnew : ∀ d, w₁.thing? d = none → w.thing? d = none)
    (hempty : ∀ d, w₁.thing? d = some { body := .dict [] } →
      w₂.thing? d = some { body := .dict [] }) : Annotated w w₂ t t'' := by
  cases h with
  | same =>
    cases h' with
    | same => exact .same _
    | function f table d hmissing hnew' hempty' =>
      exact .function f table d hmissing (hnew d hnew') hempty'
    | cls c table d hmissing hnew' hempty' => exact .cls c table d hmissing (hnew d hnew') hempty'
  | function f table d hmissing hnew' hempty' =>
    cases h' with
    | same => exact .function f table d hmissing hnew' (hempty d hempty')
    | function _ _ _ hmissing' => cases hmissing'
  | cls c table d hmissing hnew' hempty' =>
    cases h' with
    | same => exact .cls c table d hmissing hnew' (hempty d hempty')
    | cls _ _ _ hmissing' => rw [Table.get?_set_self] at hmissing'; cases hmissing'

/-- Only functions and classes can get annotations. -/
theorem eq_of_body (h : Annotated w w₁ t t') (hfunction : ∀ f, t.body ≠ .function f)
    (hcls : ∀ c, t.body ≠ .cls c) : t' = t := by
  cases h with
  | same => rfl
  | function f => exact absurd rfl (hfunction f)
  | cls c => exact absurd rfl (hcls c)

end Annotated

namespace Undisturbed

variable {w w₁ w₂ : World}

theorem refl (w : World) : Undisturbed w w where
  things _ t h := ⟨t, h, .same t⟩
  flags := rfl
  names := rfl
  home := rfl
  patches := rfl
  injections := rfl

/-- A thing that is missing later was missing before. -/
theorem missing (h : Undisturbed w w₁) {r : Ref} (hr : w₁.thing? r = none) : w.thing? r = none := by
  cases ht : w.thing? r with
  | none => rfl
  | some t =>
    obtain ⟨t', ht', -⟩ := h.things r t ht
    rw [hr] at ht'
    cases ht'

/-- An empty dictionary stays one. -/
theorem dict (h : Undisturbed w w₁) {r : Ref} {t : Thing} (hr : w.thing? r = some t)
    (hfunction : ∀ f, t.body ≠ .function f) (hcls : ∀ c, t.body ≠ .cls c) :
    w₁.thing? r = some t := by
  obtain ⟨t', ht', ht⟩ := h.things r t hr
  rwa [ht.eq_of_body hfunction hcls] at ht'

theorem trans (h : Undisturbed w w₁) (h' : Undisturbed w₁ w₂) : Undisturbed w w₂ where
  things r t hr := by
    obtain ⟨t', ht', ht⟩ := h.things r t hr
    obtain ⟨t'', ht'', htt⟩ := h'.things r t' ht'
    exact ⟨t'', ht'', ht.trans htt (fun _ => h.missing)
      fun d hd => h'.dict hd (by simp) (by simp)⟩
  flags := h'.flags.trans h.flags
  names := h'.names.trans h.names
  home := h'.home.trans h.home
  patches := h'.patches.trans h.patches
  injections := h'.injections.trans h.injections

/-- A world with the same things, marks and records. -/
theorem of_eq (hthings : w₁.things = w.things) (hflags : w₁.flags = w.flags)
    (hnames : w₁.names = w.names) (hhome : w₁.home = w.home)
    (hpatches : w₁.patches.journal = w.patches.journal)
    (hinjections : w₁.injections.journal = w.injections.journal) : Undisturbed w w₁ where
  things r t hr := by
    refine ⟨t, ?_, .same t⟩
    rw [World.thing?, hthings]
    exact hr
  flags := hflags
  names := hnames
  home := hhome
  patches := hpatches
  injections := hinjections

theorem alloc (w : World) (t : Thing) : Undisturbed w (w.alloc t).2 where
  things _ u hr := ⟨u, World.thing?_alloc hr, .same u⟩
  flags := rfl
  names := rfl
  home := rfl
  patches := rfl
  injections := rfl

/-- Changing a new function changes nothing that was there before. -/
theorem change (h : Undisturbed w w₁) {r : Ref} {f : Function} {table : Table}
    (hnew : w.thing? r = none) (hr : w₁.thing? r = some { body := .function f, table })
    (g : Thing → Thing) : Undisturbed w (w₁.change r g) where
  things s t hs := by
    have hne : s ≠ r := by
      rintro rfl
      rw [hnew] at hs
      cases hs
    obtain ⟨t', ht', ht⟩ := h.things s t hs
    refine ⟨t', by rw [World.thing?_change, if_neg hne, ht'], ?_⟩
    -- The dictionaries of annotations are none of the functions that may be changed.
    have hkeeps : ∀ d, w₁.thing? d = some { body := .dict [] } →
        (w₁.change r g).thing? d = some { body := .dict [] } := by
      intro d hd
      have hne : d ≠ r := by
        rintro rfl
        rw [hr] at hd
        cases hd
      rw [World.thing?_change, if_neg hne, hd]
    cases ht with
    | same => exact .same _
    | function f table d hmissing hnew' hempty =>
      exact .function f table d hmissing hnew' (hkeeps d hempty)
    | cls c table d hmissing hnew' hempty => exact .cls c table d hmissing hnew' (hkeeps d hempty)
  flags := h.flags
  names := h.names
  home := h.home
  patches := h.patches
  injections := h.injections

/-- A function or a class that has no annotations may get an empty dictionary for them. -/
theorem annotate {r : Ref} {t : Thing} {g : Thing → Thing} (hr : w.thing? r = some t)
    (h : ∀ w₁ : World, w₁.thing? (w.alloc { body := .dict [] }).1 = some { body := .dict [] } →
      Annotated w w₁ t (g t)) :
    Undisturbed w ((w.alloc { body := .dict [] }).2.change r g) where
  things s u hs := by
    by_cases hsr : s = r
    · subst hsr
      rw [hr] at hs
      cases hs
      refine ⟨g t, by rw [World.thing?_change, if_pos rfl, World.thing?_alloc hr]; rfl, h _ ?_⟩
      rw [World.thing?_change, if_neg, World.thing?_alloc_self]
      rintro rfl
      rw [World.thing?_alloc_new] at hr
      cases hr
    · exact ⟨u, by rw [World.thing?_change, if_neg hsr, World.thing?_alloc hs], .same u⟩
  flags := rfl
  names := rfl
  home := rfl
  patches := rfl
  injections := rfl

end Undisturbed

/-! ## Quiet runs -/

namespace Run

variable {α β : Type} {w : World}

/-- A run leaves its world undisturbed, however it ends. -/
def Quiet (x : Run α) (w : World) : Prop :=
  x.Ends w (fun _ w' => Undisturbed w w') fun _ w' => Undisturbed w w'

namespace Quiet

theorem of_gives {x : Run α} {a : α} {w' : World} (h : x.Quiet w) (hx : x.Gives w a w') :
    Undisturbed w w' := by
  unfold Quiet at h
  exact h.of_gives hx

theorem pure (a : α) : Quiet (Pure.pure a) w := Undisturbed.refl w

theorem throw (h : Halt) : Quiet (MonadExcept.throw h : Run α) w := Undisturbed.refl w

theorem world : Quiet Run.world w := Undisturbed.refl w

theorem read (f : World → α) : Quiet (Run.read f) w := Undisturbed.refl w

theorem bodyOf (v : Value) : Quiet (Run.bodyOf v) w := Undisturbed.refl w

theorem new (body : Body) (table : Table) : Quiet (Run.new body table) w := Undisturbed.alloc w _

theorem newValue (body : Body) (table : Table) : Quiet (Run.newValue body table) w :=
  Undisturbed.alloc w _

theorem raise (cls message : String) : Quiet (Run.raise cls message : Run α) w :=
  Undisturbed.alloc w _

theorem log (level : LogLevel) (logger message : String) : Quiet (Run.log level logger message) w :=
  Undisturbed.of_eq rfl rfl rfl rfl rfl rfl

/-- Runs one after another are quiet if each is. -/
theorem bind {x : Run α} {f : α → Run β} (hx : x.Quiet w)
    (hf : ∀ a w₁, Undisturbed w w₁ → x.Gives w a w₁ → (f a).Quiet w₁) : Quiet (x >>= f) w := by
  unfold Quiet
  rw [ends_bind]
  refine Ends.intro ?_ ?_
  · intro a w₁ hgives
    have hquiet := hx.of_gives hgives
    exact (hf a w₁ hquiet hgives).imp (fun _ _ => hquiet.trans) fun _ _ => hquiet.trans
  · intro e w₁ hresult
    unfold Quiet Ends at hx
    rw [hresult] at hx
    exact hx

theorem bind_world {f : World → Run β} (h : (f w).Quiet w) : Quiet (Run.world >>= f) w := by
  unfold Quiet
  rw [ends_bind, ends_world]
  exact h

theorem map {x : Run α} (f : α → β) (hx : x.Quiet w) : Quiet (f <$> x) w := by
  unfold Quiet
  rw [ends_map]
  exact hx

theorem tryCatch {x : Run α} {f : Halt → Run α} (hx : x.Quiet w)
    (hf : ∀ e w₁, Undisturbed w w₁ → (f e).Quiet w₁) : Quiet (MonadExcept.tryCatch x f) w := by
  unfold Quiet
  rw [ends_tryCatch]
  refine hx.imp (fun _ _ h => h) ?_
  intro e w₁ hquiet
  exact (hf e w₁ hquiet).imp (fun _ _ => hquiet.trans) fun _ _ => hquiet.trans

end Quiet

end Run

namespace Attempt

variable {α β : Type} {w : World}

/-- An attempt leaves its world undisturbed, however it ends. -/
def Quiet (x : Attempt α) (w : World) : Prop :=
  Attempt.Ends x w (fun _ w' => Undisturbed w w') (Undisturbed w)

namespace Quiet

theorem of_gives {x : Attempt α} {a : α} {w' : World} (h : Attempt.Quiet x w)
    (hx : Attempt.Gives x w a w') : Undisturbed w w' := by
  unfold Attempt.Quiet Attempt.Ends at h
  exact h.of_gives hx

/-- A quiet attempt ends in no other way than by giving something or by a failure that leaves the
    world undisturbed. -/
theorem imp_gives {x : Attempt α} {good : α → World → Prop} {bad : World → Prop}
    (h : Attempt.Quiet x w) (hgood : ∀ a w₁, Attempt.Gives x w a w₁ → Undisturbed w w₁ → good a w₁)
    (hbad : ∀ w₁, Undisturbed w w₁ → bad w₁) : Attempt.Ends x w good bad := by
  unfold Attempt.Quiet Attempt.Ends at h
  refine Run.Ends.intro ?_ ?_
  · rintro (r | a) w₁ hgives
    · exact hbad w₁ (h.of_gives hgives)
    · exact hgood a w₁ hgives (h.of_gives hgives)
  · intro e w₁ hresult
    unfold Run.Ends at h
    rw [hresult] at h
    exact hbad w₁ h

theorem pure (a : α) : Attempt.Quiet (Pure.pure a) w := Undisturbed.refl w

theorem refuse (r : Refusal) : Attempt.Quiet (Attempt.refuse r : Attempt α) w :=
  Undisturbed.refl w

theorem lift {x : Run α} (hx : x.Quiet w) : Attempt.Quiet (liftM x) w := by
  unfold Attempt.Quiet
  rw [Attempt.ends_lift]
  exact hx

theorem mk (e : Except Refusal α) : Attempt.Quiet (ExceptT.mk (Pure.pure e)) w := by
  unfold Attempt.Quiet
  rw [Attempt.ends_mk]
  cases e <;> exact Undisturbed.refl w

theorem set {v : World} (h : Undisturbed w v) : Attempt.Quiet (MonadStateOf.set v) w := h

theorem bind_world {f : World → Attempt β} (h : Attempt.Quiet (f w) w) :
    Attempt.Quiet (liftM Run.world >>= f) w := by
  unfold Attempt.Quiet
  rw [Attempt.ends_bind, Attempt.ends_lift, Run.ends_world]
  exact h

/-- Attempts one after another are quiet if each is. -/
theorem bind {x : Attempt α} {f : α → Attempt β} (hx : Attempt.Quiet x w)
    (hf : ∀ a w₁, Undisturbed w w₁ → Attempt.Gives x w a w₁ → Attempt.Quiet (f a) w₁) :
    Attempt.Quiet (x >>= f) w := by
  unfold Attempt.Quiet
  rw [Attempt.ends_bind]
  refine hx.imp_gives ?_ fun _ h => h
  intro a w₁ hgives hquiet
  exact (hf a w₁ hquiet hgives).imp (fun _ _ => hquiet.trans) fun _ => hquiet.trans

end Quiet

end Attempt

end Graft
