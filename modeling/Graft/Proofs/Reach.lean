import Graft.Proofs.World

set_option autoImplicit false

/-! # How far programs reach

Programs change things on the heap, mark callables, log and trace.  Everything else in the world is
out of their reach: what is known from outside, the records of patches and injections, registered
texts, the settings, the random numbers and the clock.  Marks, logs and traces are only ever added
to, so that none is lost.

Things can be changed, but they last: a thing that is there stays one of its kind, a function keeps
its code, and a patch keeps its hooks.

A run is confined if this is so however it ends.  The rules below put confined runs together, so
that a definition is shown to be confined by going through its steps. -/

namespace Graft

open Machine

/-! ## Ways from world to world -/

/-- A relation between worlds that steps can follow one after the other, or none at all. -/
structure World.IsWay (R : World → World → Prop) : Prop where
  refl : ∀ w, R w w
  trans : ∀ {w w₁ w₂}, R w w₁ → R w₁ w₂ → R w w₂

/-- However a run ends, the world that it leaves is on the way. -/
def Run.Leads {α : Type} (R : World → World → Prop) (x : Run α) : Prop := ∀ w, R w (x.result w).2

/-- However an attempt ends, the world that it leaves is on the way. -/
def Attempt.Leads {α : Type} (R : World → World → Prop) (x : Attempt α) : Prop := Run.Leads R x.run

namespace Run.Leads

variable {α β : Type} {R S : World → World → Prop} {x : Run α}

theorem pure (hR : World.IsWay R) (a : α) : Leads R (pure a) := hR.refl

theorem throw (hR : World.IsWay R) (h : Halt) : Leads R (throw h : Run α) := hR.refl

theorem imp (hRS : ∀ w w', R w w' → S w w') (hx : Leads R x) : Leads S x :=
  fun w => hRS w _ (hx w)

theorem bind (hR : World.IsWay R) {f : α → Run β} (hx : Leads R x) (hf : ∀ a, Leads R (f a)) :
    Leads R (x >>= f) := by
  intro w
  have h := hx w
  rw [result_bind]
  rcases hr : x.result w with ⟨e | a, w₁⟩ <;> rw [hr] at h
  · exact h
  · exact hR.trans h (hf a w₁)

theorem map {f : α → β} (hx : Leads R x) : Leads R (f <$> x) := by
  intro w
  have h := hx w
  rw [result_map]
  rcases hr : x.result w with ⟨e | a, w₁⟩ <;> rw [hr] at h <;> exact h

theorem tryCatch (hR : World.IsWay R) {f : Halt → Run α} (hx : Leads R x)
    (hf : ∀ e, Leads R (f e)) : Leads R (tryCatch x f) := by
  intro w
  have h := hx w
  rw [result_tryCatch]
  rcases hr : x.result w with ⟨e | a, w₁⟩ <;> rw [hr] at h
  · exact hR.trans h (hf e w₁)
  · exact h

end Run.Leads

namespace Attempt.Leads

variable {α β : Type} {R : World → World → Prop}

theorem pure (hR : World.IsWay R) (a : α) : Leads R (pure a) := hR.refl

theorem refuse (hR : World.IsWay R) (r : Refusal) : Leads R (Attempt.refuse r : Attempt α) := hR.refl

theorem mk (hR : World.IsWay R) (e : Except Refusal α) : Leads R (ExceptT.mk (Pure.pure e)) :=
  hR.refl

theorem lift {x : Run α} (hx : Run.Leads R x) : Leads R (liftM x) := by
  have hrun : (liftM x : Attempt α).run = Except.ok <$> x := rfl
  unfold Leads
  rw [hrun]
  exact Run.Leads.map hx

theorem bind (hR : World.IsWay R) {x : Attempt α} {f : α → Attempt β} (hx : Leads R x)
    (hf : ∀ a, Leads R (f a)) : Leads R (x >>= f) := by
  unfold Leads
  rw [ExceptT.run_bind]
  refine Run.Leads.bind hR hx fun r => ?_
  cases r with
  | ok a => exact hf a
  | error r => exact Run.Leads.pure hR _

end Attempt.Leads

/-! ## What is within reach -/

/-- What programs can make of a world. -/
structure World.Reaches (w w' : World) : Prop where
  names : w'.names = w.names
  home : w'.home = w.home
  patches : w'.patches = w.patches
  injections : w'.injections = w.injections
  sources : w'.sources = w.sources
  around : w'.around = w.around
  dice : w'.dice = w.dice
  clock : w'.clock = w.clock
  clockStep : w'.clockStep = w.clockStep
  flags : w.flags <:+ w'.flags
  logs : w.logs <:+ w'.logs
  trace : w.trace <:+ w'.trace

namespace World.Reaches

theorem refl (w : World) : w.Reaches w where
  names := rfl
  home := rfl
  patches := rfl
  injections := rfl
  sources := rfl
  around := rfl
  dice := rfl
  clock := rfl
  clockStep := rfl
  flags := List.suffix_rfl
  logs := List.suffix_rfl
  trace := List.suffix_rfl

theorem trans {w w₁ w₂ : World} (h : w.Reaches w₁) (h' : w₁.Reaches w₂) : w.Reaches w₂ where
  names := h'.names.trans h.names
  home := h'.home.trans h.home
  patches := h'.patches.trans h.patches
  injections := h'.injections.trans h.injections
  sources := h'.sources.trans h.sources
  around := h'.around.trans h.around
  dice := h'.dice.trans h.dice
  clock := h'.clock.trans h.clock
  clockStep := h'.clockStep.trans h.clockStep
  flags := h.flags.trans h'.flags
  logs := h.logs.trans h'.logs
  trace := h.trace.trans h'.trace

/-- The heap is within reach. -/
theorem things (w : World) (things : Array Thing) : w.Reaches { w with things } :=
  { refl w with }

/-- Marks can be made. -/
theorem mark (w : World) (k : Data.Key) (allowed : Bool) :
    w.Reaches { w with flags := (k, allowed) :: w.flags } :=
  { refl w with flags := List.suffix_cons _ _ }

/-- Logs can be written. -/
theorem log (w : World) (entry : LogEntry) : w.Reaches { w with logs := entry :: w.logs } :=
  { refl w with logs := List.suffix_cons _ _ }

/-- Calls can be traced. -/
theorem traced (w : World) (entry : TraceEntry) :
    w.Reaches { w with trace := entry :: w.trace } :=
  { refl w with trace := List.suffix_cons _ _ }

end World.Reaches

/-! ## What lasts -/

/-- What of a thing programs can not change: what kind of thing it is, the code of a function, and
    what is neither written to nor used up. -/
def Machine.Body.lasting : Body → Body
  | .function f => .function { f with
      name := "", qualname := "", module := .none, doc := .none
      defaults := none, keywordDefaults := .none, annotations := none }
  | .cls c => .cls { c with name := "", qualname := "" }
  | .exception c _ => .exception c []
  | .list _ => .list []
  | .set _ => .set []
  | .dict _ => .dict []
  | .series kind _ => .series kind []
  | .listIterator items _ => .listIterator items 0
  | .cell _ => .cell none
  | .suspended s => .suspended { s with progress := .ended }
  | b => b

/-- Whether programs can change nothing about a thing but its attributes. -/
def Machine.Body.isFixed : Body → Bool
  | .function _ | .cls _ | .exception _ _ | .list _ | .set _ | .dict _ | .series _ _
  | .listIterator _ _ | .cell _ | .suspended _ => false
  | _ => true

namespace Machine.Body

variable {b b' : Body}

theorem lasting_of_isFixed (h : b.isFixed = true) : b.lasting = b := by
  cases b <;> first | rfl | cases h

theorem isFixed_lasting (b : Body) : b.lasting.isFixed = b.isFixed := by
  cases b <;> rfl

/-- What is fixed can not be made into anything else. -/
theorem eq_of_lasting (hfixed : b.isFixed = true) (h : b'.lasting = b.lasting) : b' = b := by
  have hfixed' : b'.isFixed = true := by
    rw [← isFixed_lasting, h, isFixed_lasting, hfixed]
  rw [← lasting_of_isFixed hfixed', h, lasting_of_isFixed hfixed]

end Machine.Body

namespace World

variable {w w₁ w₂ : World} {r : Ref} {b : Body}

/-- A thing is there, and it can be made into something. -/
def Allows (w : World) (r : Ref) (b : Body) : Prop :=
  ∃ b', w.body? (.thing r) = some b' ∧ b'.lasting = b.lasting

/-- Every thing that is there can be made into what it has been. -/
def Lasts (w w' : World) : Prop := ∀ r b, w.body? (.thing r) = some b → w'.Allows r b

theorem Allows.of_body? (h : w.body? (.thing r) = some b) : w.Allows r b := ⟨b, h, rfl⟩

theorem Allows.of_thing? {t : Thing} (h : w.thing? r = some t) : w.Allows r t.body :=
  .of_body? (congrArg (Option.map Thing.body) h)

theorem Allows.lasts (h : w.Allows r b) (hlasts : w.Lasts w₁) : w₁.Allows r b := by
  obtain ⟨b', hb', hsame⟩ := h
  obtain ⟨b'', hb'', hsame'⟩ := hlasts r b' hb'
  exact ⟨b'', hb'', hsame'.trans hsame⟩

theorem Lasts.refl (w : World) : w.Lasts w := fun _ _ => .of_body?

theorem Lasts.trans (h : w.Lasts w₁) (h' : w₁.Lasts w₂) : w.Lasts w₂ :=
  fun r b hb => (h r b hb).lasts h'

theorem Lasts.alloc (w : World) (t : Thing) : w.Lasts (w.alloc t).2 :=
  fun _ _ hb => .of_body? (body?_alloc hb)

/-- A change of a thing lasts if the thing can be made into what it becomes. -/
theorem Lasts.change {f : Thing → Thing}
    (h : ∀ t, w.thing? r = some t → (f t).body.lasting = t.body.lasting) :
    w.Lasts (w.change r f) := by
  intro s b hb
  obtain ⟨t, ht, rfl⟩ := Option.map_eq_some_iff.1 hb
  rw [Allows, body?, thing?_change]
  by_cases hs : s = r
  · subst hs
    rw [if_pos rfl, ht]
    exact ⟨_, rfl, h t ht⟩
  · rw [if_neg hs, ht]
    exact ⟨_, rfl, rfl⟩

theorem Lasts.changeTable (w : World) (r : Ref) (f : Table → Table) :
    w.Lasts (w.change r fun t => { t with table := f t.table }) := .change fun _ _ => rfl

theorem Lasts.setBody (h : w.Allows r b) : w.Lasts (w.change r fun t => { t with body := b }) := by
  refine .change fun t ht => ?_
  obtain ⟨b', hb', hsame⟩ := h
  rw [body?, ht] at hb'
  cases hb'
  exact hsame.symm

/-- What programs make of a world, where things last. -/
structure Becomes (w w' : World) : Prop where
  reaches : w.Reaches w'
  lasts : w.Lasts w'

namespace Becomes

theorem refl (w : World) : w.Becomes w := ⟨.refl w, .refl w⟩

theorem trans (h : w.Becomes w₁) (h' : w₁.Becomes w₂) : w.Becomes w₂ :=
  ⟨h.reaches.trans h'.reaches, h.lasts.trans h'.lasts⟩

theorem isWay : World.IsWay World.Becomes where
  refl := refl
  trans := trans

theorem alloc (w : World) (t : Thing) : w.Becomes (w.alloc t).2 := ⟨.things w _, .alloc w t⟩

theorem changeTable (w : World) (r : Ref) (f : Table → Table) :
    w.Becomes (w.change r fun t => { t with table := f t.table }) :=
  ⟨.things w _, .changeTable w r f⟩

theorem setBody (h : w.Allows r b) : w.Becomes (w.change r fun t => { t with body := b }) :=
  ⟨.things w _, .setBody h⟩

/-- Where only what is no thing is changed, things last. -/
theorem of_things (h : w.Reaches w₁) (hthings : w₁.things = w.things) : w.Becomes w₁ := by
  refine ⟨h, fun r b hb => .of_body? ?_⟩
  rw [← hb, body?, body?, thing?, thing?, hthings]

end Becomes

end World

namespace Run

variable {α β γ : Type}

/-- A run that stays within reach and lets things last, however it ends. -/
def Confined (x : Run α) : Prop := Leads World.Becomes x

/-- A run does so from a world. -/
def ConfinedAt (x : Run α) (w : World) : Prop := w.Becomes (x.result w).2

namespace ConfinedAt

variable {w : World} {r : Ref}

theorem of {x : Run α} (hx : Confined x) : ConfinedAt x w := hx w

theorem setBody {b : Body} (h : w.Allows r b) : ConfinedAt (Run.setBody r b) w :=
  World.Becomes.setBody h

theorem bind {x : Run α} {f : α → Run β} (hx : ConfinedAt x w)
    (hf : ∀ a w₁, w.Becomes w₁ → ConfinedAt (f a) w₁) : ConfinedAt (x >>= f) w := by
  unfold ConfinedAt at hx ⊢
  rw [result_bind]
  rcases hr : x.result w with ⟨e | a, w₁⟩ <;> rw [hr] at hx
  · exact hx
  · exact hx.trans (hf a w₁ hx)

theorem map {f : α → β} {x : Run α} (hx : ConfinedAt x w) : ConfinedAt (f <$> x) w := by
  unfold ConfinedAt at hx ⊢
  rw [result_map]
  rcases hr : x.result w with ⟨e | a, w₁⟩ <;> rw [hr] at hx <;> exact hx

theorem tryCatch {x : Run α} {f : Halt → Run α} (hx : ConfinedAt x w)
    (hf : ∀ e w₁, w.Becomes w₁ → ConfinedAt (f e) w₁) : ConfinedAt (tryCatch x f) w := by
  unfold ConfinedAt at hx ⊢
  rw [result_tryCatch]
  rcases hr : x.result w with ⟨e | a, w₁⟩ <;> rw [hr] at hx
  · exact hx.trans (hf e w₁ hx)
  · exact hx

end ConfinedAt

namespace Confined

/-! ## Steps -/

@[grind ←] theorem pure (a : α) : Confined (pure a) := fun w => .refl w

@[grind ←] theorem throw (h : Halt) : Confined (throw h : Run α) := fun w => .refl w

@[grind ←] theorem world : Confined Run.world := fun w => .refl w

@[grind ←] theorem get : Confined (get : Run World) := fun w => .refl w

@[grind ←] theorem read (f : World → α) : Confined (Run.read f) := fun w => .refl w

@[grind ←] theorem bodyOf (v : Value) : Confined (Run.bodyOf v) := fun w => .refl w

@[grind ←] theorem new (body : Body) (table : Table) : Confined (Run.new body table) :=
  fun w => .alloc w _

@[grind ←] theorem newValue (body : Body) (table : Table) : Confined (Run.newValue body table) :=
  fun w => .alloc w _

@[grind ←] theorem changeTable (r : Ref) (f : Table → Table) : Confined (Run.changeTable r f) :=
  fun w => .changeTable w r f

@[grind ←] theorem raiseWith (cls : String) (args : List Value) :
    Confined (Run.raiseWith cls args : Run α) := fun w => .alloc w _

@[grind ←] theorem raise (cls message : String) : Confined (Run.raise cls message : Run α) :=
  fun w => .alloc w _

@[grind ←] theorem log (level : LogLevel) (logger message : String) :
    Confined (Run.log level logger message) := fun w => .of_things (.log w _) rfl

/-! ## One step after another -/

@[grind ←] theorem bind {x : Run α} {f : α → Run β} (hx : Confined x) (hf : ∀ a, Confined (f a)) :
    Confined (x >>= f) := Leads.bind World.Becomes.isWay hx hf

/-- What is done with the world that is there can depend on it. -/
theorem bind_world {f : World → Run β} (hf : ∀ w, ConfinedAt (f w) w) :
    Confined (Run.world >>= f) := hf

/-- What is done with a thing can depend on what it is. -/
theorem bind_bodyOf {v : Value} {f : Option Body → Run β}
    (hf : ∀ w, ConfinedAt (f (w.body? v)) w) : Confined (Run.bodyOf v >>= f) := hf

/-- A new thing can be made into anything at once. -/
theorem new_setBody (b : Body) (body : Ref → Body) {f : Ref → Run β} (hf : ∀ r, Confined (f r)) :
    Confined (do
      let r ← Run.new b
      Run.setBody r (body r)
      f r) := by
  intro w
  refine .trans ⟨.things w _, fun s c hc => .of_body? ?_⟩ (hf _ _)
  have hold : s ≠ (w.alloc { body := b }).1 := by
    rintro rfl
    rw [World.body?, World.thing?_alloc_new] at hc
    cases hc
  change ((w.alloc { body := b }).2.change (w.alloc { body := b }).1 _).body? _ = _
  rw [World.body?, World.thing?_change, if_neg hold]
  exact World.body?_alloc hc

@[grind ←] theorem map {f : α → β} {x : Run α} (hx : Confined x) : Confined (f <$> x) :=
  Leads.map hx

@[grind ←] theorem tryCatch {x : Run α} {f : Halt → Run α} (hx : Confined x)
    (hf : ∀ e, Confined (f e)) : Confined (tryCatch x f) := Leads.tryCatch World.Becomes.isWay hx hf

/-- What is confined stays on every way that programs can not leave. -/
theorem leads {R : World → World → Prop} (hR : ∀ {w w'}, World.Becomes w w' → R w w') {x : Run α}
    (hx : Confined x) : Leads R x := hx.imp fun _ _ => hR

/-! ## One step for each element of a list -/

@[grind ←] theorem mapM {f : γ → Run α} (hf : ∀ c, Confined (f c)) (cs : List γ) :
    Confined (cs.mapM f) := by
  induction cs with
  | nil => exact pure []
  | cons c cs ih =>
    rw [List.mapM_cons]
    exact (hf c).bind fun a => ih.bind fun as => pure (a :: as)

@[grind ←] theorem foldlM {f : α → γ → Run α} (hf : ∀ a c, Confined (f a c)) (cs : List γ) (a : α) :
    Confined (cs.foldlM f a) := by
  induction cs generalizing a with
  | nil => exact pure a
  | cons c cs ih =>
    rw [List.foldlM_cons]
    exact (hf a c).bind ih

@[grind ←] theorem forIn {f : γ → α → Run (ForInStep α)} (hf : ∀ c a, Confined (f c a))
    (cs : List γ) (a : α) : Confined (ForIn.forIn cs a f) := by
  induction cs generalizing a with
  | nil => exact pure a
  | cons c cs ih =>
    rw [List.forIn_cons]
    refine (hf c a).bind fun step => ?_
    cases step with
    | done a => exact pure a
    | yield a => exact ih a

end Confined

end Run

/-- Calls made in this way are confined. -/
def Caller.Confined (call : Caller) : Prop := ∀ v args, (call v args).Confined

end Graft
