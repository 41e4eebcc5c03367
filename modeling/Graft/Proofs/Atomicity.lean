import Graft.Machine.Call
import Graft.Patch.Apply
import Graft.Proofs.Injection
import Graft.Proofs.Tame

set_option autoImplicit false

/-! # What fails leaves everything as it was

Patches and injections check and make everything that they need before they write to the target, and
once the target has been written to nothing can fail any more: the identifier under which the record
is kept has been found free, and the code of the target adds no records in between.  So whatever
ends in a failure has left the world undisturbed. -/

namespace Graft

open Machine Data

/-- Something is made ready, the target is written to, and the rest can not fail.  If that ends in a
    failure, everything is as it was. -/
theorem Attempt.ends_of_prepared {α β : Type} {w : World} {ready : Attempt α}
    {write : α → Attempt Unit} {rest : α → Run Unit} {result : α → β} (hready : Attempt.Quiet ready w)
    (hwrite : ∀ x w₁, Attempt.Gives ready w x w₁ →
      Attempt.Ends (write x) w₁ (fun _ w₂ => ∃ w₃, (rest x).Gives w₂ () w₃) (Undisturbed w₁)) :
    Attempt.Ends (do
      let x ← ready
      write x
      rest x
      return result x) w (fun _ _ => True) (Undisturbed w) := by
  rw [Attempt.ends_bind]
  refine hready.imp_gives ?_ fun _ h => h
  intro x w₁ hx h₁
  rw [Attempt.ends_bind]
  refine (hwrite x w₁ hx).imp ?_ fun _ => h₁.trans
  rintro _ w₂ ⟨w₃, h₃⟩
  rw [Attempt.ends_bind, Attempt.ends_lift]
  unfold Run.Ends
  rw [h₃]
  trivial

/-! ## Patches -/

namespace Patch

variable {call : Caller} {target member : Value} {w w₁ w₂ : World}

/-- The wanted identifier is text if there is one. -/
def Spec.IsTyped (s : Spec) : Prop := s.id = .none ∨ ∃ text, s.id.text? = some text

theorem keyOf_text {v : Value} {text : String} (h : v.text? = some text) :
    w.keyOf v = .ok (.ofText text) := by
  cases v with
  | str s => cases h; rfl
  | choice c => cases h; rfl
  | _ => cases h

theorem reserve_undisturbed {id : Except Register.ReserveFault String}
    {patches : Register PatchRecord} {dice : Dice}
    (h : w.patches.reserve w.around w.dice = (id, patches, dice)) :
    Undisturbed w { w with patches, dice } :=
  .of_eq rfl rfl rfl rfl (Register.reserve_spec h).1 rfl

theorem chooseId_quiet (wanted : Value) : Attempt.Quiet (chooseId wanted) w := by
  unfold chooseId
  refine .bind_world ?_
  split
  · refine .bind (.lift (World.hashOf_quiet _)) ?_
    intro k w₁ _ _
    split
    · exact .refuse _
    · exact .pure _
  · split
    · rename_i id patches dice hreserve
      exact .bind (.set (reserve_undisturbed hreserve)) fun _ _ _ _ => .pure _
    · exact .refuse _

/-- The identifier that is chosen is text, and no record has it. -/
theorem chooseId_gives {wanted id : Value} (htext : wanted = .none ∨ ∃ text, wanted.text? = some text)
    (h : Attempt.Gives (chooseId wanted) w id w₁) :
    ∃ text, id.text? = some text ∧ w₁.patches.journal.contains (.ofText text) = false := by
  unfold chooseId at h
  simp only [Attempt.gives_bind, Attempt.gives_lift, Run.gives_world] at h
  obtain ⟨_, _, ⟨rfl, rfl⟩, h⟩ := h
  -- An identifier that is asked for is looked up in the journal; any other is reserved, and so is
  -- free.
  split at h
  · rename_i htruth
    obtain rfl | ⟨text, htext⟩ := htext
    · cases htruth
    · simp only [World.hashOf, Attempt.gives_bind, Attempt.gives_lift, Run.gives_bind,
        Run.gives_world, keyOf_text htext] at h
      obtain ⟨k, w₂, ⟨_, _, ⟨rfl, rfl⟩, hk⟩, h⟩ := h
      rw [Run.gives_pure] at hk
      obtain ⟨rfl, rfl⟩ := hk
      split at h
      · simp at h
      · rename_i hfree
        rw [Attempt.gives_pure] at h
        obtain ⟨rfl, rfl⟩ := h
        exact ⟨text, htext, by simpa using hfree⟩
  · split at h
    · rename_i id patches dice hreserve
      simp only [Attempt.gives_bind, Attempt.gives_set, Attempt.gives_pure] at h
      obtain ⟨_, _, rfl, rfl, rfl⟩ := h
      exact ⟨id, rfl, (Register.reserve_spec hreserve).2.2 id rfl⟩
    · simp at h

/-! ### Building the wrapper -/

section Wrapper

variable {w₀ : World} {r : Ref} {wrapped : Value}

theorem copyAttribute_ends (h : Fresh w₀ r w) {name : String}
    (hread : (World.getAttr call wrapped name).Quiet w) :
    (copyAttribute call (.thing r) wrapped name).Ends w (fun _ w' => Fresh w₀ r w')
      fun _ w' => Undisturbed w₀ w' := by
  unfold copyAttribute
  rw [Run.ends_bind]
  refine (World.getAttr?_quiet hread).imp ?_ fun _ _ h' => h.undisturbed.trans h'
  intro found w₁ h₁
  cases found with
  | none => exact h.quiet h₁
  | some v => exact (h.quiet h₁).setAttr call name v

theorem copyAttributes_ends (hread : Describable call wrapped w₀) {names : List String}
    (hnames : ∀ name ∈ names, name ∈ copiedAttributes) (h : Fresh w₀ r w) :
    Run.Ends (forIn names PUnit.unit fun name _ => do
        copyAttribute call (.thing r) wrapped name
        return .yield PUnit.unit) w (fun _ w' => Fresh w₀ r w') fun _ w' => Undisturbed w₀ w' := by
  induction names generalizing w with
  | nil => exact h
  | cons name names ih =>
    simp only [List.forIn_cons, Run.ends_bind]
    have hname := hread w name h.undisturbed (List.mem_cons_of_mem _ (hnames name (by simp)))
    refine (copyAttribute_ends h hname).imp ?_ fun _ _ h => h
    intro _ w₁ h₁
    rw [Run.ends_pure]
    exact ih (fun n hn => hnames n (List.mem_cons_of_mem _ hn)) h₁

theorem copyOwn_ends (hread : Describable call wrapped w₀) (h : Fresh w₀ r w) :
    (copyOwn call r wrapped).Ends w (fun _ w' => Fresh w₀ r w')
      fun _ w' => Undisturbed w₀ w' := by
  unfold copyOwn
  rw [Run.ends_bind]
  have hquiet := World.getAttr?_quiet (hread w "__dict__" h.undisturbed (by simp))
  refine hquiet.imp ?_ fun _ _ h' => h.undisturbed.trans h'
  intro found w₁ h₁
  split
  · simp only [Run.ends_bind, Run.ends_world, Run.ends_changeTable]
    exact (h.quiet h₁).changeTable (·.update _)
  · exact h.quiet h₁

theorem displayName_quiet (hread : Describable call wrapped w₀) (h : Undisturbed w₀ w)
    (name : String) : (displayName call wrapped name).Quiet w := by
  unfold displayName
  refine .bind (World.getAttr?_quiet (hread w _ h (by simp [copiedAttributes]))) ?_
  intro found w₁ _ _
  cases found with
  | none => exact .pure _
  | some v => exact .bind_world (.pure _)

/-- Building a wrapper has no effect on what is there already. -/
theorem build_quiet (hread : Describable call wrapped w) (patch : Ref) (id : Value)
    (name : String) : (build call patch id wrapped name).Quiet w := by
  unfold build Run.Quiet
  simp only [World.dictOfTable, Run.ends_bind, Run.ends_newValue, Run.ends_world, Run.ends_new,
    Run.ends_pure]
  have hfresh : ∀ t f, Fresh w _ _ := fun t f => Fresh.new (Undisturbed.alloc w t) f []
  refine (copyAttributes_ends hread (fun _ h => h) (hfresh _ _)).imp ?_ fun _ _ h => h
  intro _ w₁ h₁
  refine (copyOwn_ends hread h₁).imp ?_ fun _ _ h => h
  intro _ w₂ h₂
  refine (h₂.setAttr call _ _).imp ?_ fun _ _ h => h
  intro _ w₃ h₃
  refine (displayName_quiet hread h₃.undisturbed name).imp ?_ fun _ _ h => h₃.undisturbed.trans h
  intro v w₄ h₄
  exact ((h₃.quiet h₄).setAttr call _ _).imp (fun _ _ h => h.undisturbed) fun _ _ h => h

end Wrapper

/-! ### The whole patch -/

/-- What is relied on when a patch is applied: the wanted identifier is text, and the callable can
    be described. -/
structure Relies (call : Caller) (target member : Value) (spec : Option Spec) (w : World) :
    Prop where
  typed : ∀ s, spec = some s → s.IsTyped
  describable : ∀ m w₁, Attempt.Gives (Member.resolve call target member) w m w₁ →
    Describable call m.value w₁

variable {spec : Option Spec} {x : Prepared}

theorem prepare_quiet (ht : Tame call target w) (h : Relies call target member spec w) :
    Attempt.Quiet (prepare call target member spec) w := by
  unfold prepare
  refine .bind (Member.resolve_quiet ht member) ?_
  intro m w₁ _ hresolve
  have hread := h.describable m w₁ hresolve
  split
  · exact .refuse _
  · refine .bind_world ?_
    split
    · exact .refuse _
    · refine .bind (chooseId_quiet _) fun id w₂ h₂ _ => ?_
      refine .bind (.lift (.new _ _)) fun patch w₃ h₃ _ => ?_
      refine .bind (.lift (build_quiet (hread.later (h₂.trans h₃)) _ _ _)) fun _ _ _ _ => ?_
      exact .pure _

/-- The identifier of a patch that is ready is text, and no record has it. -/
theorem prepare_gives (h : Relies call target member spec w)
    (hx : Attempt.Gives (prepare call target member spec) w x w₁) :
    x.member.target = target ∧
      ∃ text, x.id.text? = some text ∧ w₁.patches.journal.contains (.ofText text) = false := by
  unfold prepare at hx
  rw [Attempt.gives_bind] at hx
  obtain ⟨m, w₂, hresolve, hx⟩ := hx
  have hread := h.describable m w₂ hresolve
  split at hx
  · simp at hx
  · rename_i s
    simp only [Attempt.gives_bind, Attempt.gives_lift, Run.gives_world] at hx
    obtain ⟨_, _, ⟨rfl, rfl⟩, hx⟩ := hx
    split at hx
    · simp at hx
    · simp only [Attempt.gives_bind, Attempt.gives_lift, Attempt.gives_pure] at hx
      obtain ⟨id, w₃, hid, patch, w₄, hpatch, wrapper, w₅, hwrapper, rfl, rfl⟩ := hx
      -- Behind the choice of the identifier the journal is not touched any more.
      obtain ⟨text, htext, hfree⟩ := chooseId_gives (h.typed s rfl) hid
      have h₃ := (chooseId_quiet s.id).of_gives hid
      have h₄ := (Run.Quiet.new _ _).of_gives hpatch
      have h₅ := (build_quiet (hread.later (h₃.trans h₄)) _ _ _).of_gives hwrapper
      refine ⟨Member.resolve_target hresolve, text, htext, ?_⟩
      rw [(h₄.trans h₅).patches]
      exact hfree

/-- Keeping a record and logging can not fail if no record has the identifier. -/
theorem conclude_succeeds {text : String} (htext : x.id.text? = some text)
    (hfree : w.patches.journal.contains (.ofText text) = false) :
    ∃ w', (conclude x).Gives w () w' := by
  have hends : (conclude x).Ends w (fun _ _ => True) fun _ _ => False := by
    unfold conclude World.hashOf keep
    simp only [Run.ends_bind, Run.ends_world, keyOf_text htext, Run.ends_pure, Run.ends_tick]
    split
    · simp only [Run.ends_set, Run.ends_log]
    · rename_i hnone
      have hsome := Journal.add?_isSome (j := w.patches.journal) (k := .ofText text) (r := {
        id := x.id, member := x.member.name, patch := x.patch, previous := x.member.value
        timestamp := w.clock })
      rw [hfree, hnone] at hsome
      cases hsome
  obtain ⟨_, w', hw', -⟩ := hends.gives
  exact ⟨w', hw'⟩

/-- **A patch that fails has changed nothing.** -/
theorem apply_ends (ht : Tame call target w) (h : Relies call target member spec w) :
    Attempt.Ends (apply call target member spec) w (fun _ _ => True) (Undisturbed w) := by
  refine Attempt.ends_of_prepared (prepare_quiet ht h) ?_
  intro x w₁ hx
  obtain ⟨htarget, text, htext, hfree⟩ := prepare_gives h hx
  refine (Member.assign_ends ht htarget ((prepare_quiet ht h).of_gives hx) _).imp ?_ fun _ h => h
  intro _ w₂ h₂
  exact conclude_succeeds htext (by rw [h₂.patches, hfree])

end Patch

/-! ## Injections -/

namespace Injection

variable {call : Caller} {target member : Value} {spec : Option Spec} {w w₁ : World} {x : Prepared}

/-- What is relied on when an injection is applied: looking whether the snippet is blank has no
    effect. -/
def Relies (call : Caller) (spec : Option Spec) (w : World) : Prop :=
  ∀ s w₁, spec = some s → Undisturbed w w₁ → (isBlank call s.code).Quiet w₁

theorem check_quiet (h : Relies call spec w) : Attempt.Quiet (check call spec) w := by
  unfold check
  cases spec with
  | none => exact .refuse _
  | some s =>
    dsimp only
    split
    · exact .refuse _
    split
    · exact .refuse _
    refine .bind_world ?_
    split
    · exact .refuse _
    refine .bind (.lift (h s w rfl (.refl w))) ?_
    intro blank w₁ _ _
    split
    · exact .refuse _
    refine .bind_world ?_
    split
    · split
      · exact .refuse _
      · split
        · exact .pure _
        · exact .refuse _
    · exact .refuse _

theorem statementsOf_quiet (code : Value) : Attempt.Quiet (statementsOf code) w := by
  unfold statementsOf
  split
  · split
    · exact .pure _
    · exact .refuse _
  · exact .lift (.raise _ _)

theorem definitionIn_quiet (source : String) : Attempt.Quiet (
    match Splice.parseDefinition source.toList with
    | .ok d => return d
    | .error fault => Attempt.refuse (.fragment fault)) w := by
  split
  · exact .pure _
  · exact .refuse _

theorem definitionOf_quiet (m : Member) (f : Function) (code : Value) :
    Attempt.Quiet (definitionOf m f code) w := by
  unfold definitionOf refuseUnavailable
  refine .bind_world ?_
  dsimp only
  split
  · exact .bind (.pure _) fun _ _ _ _ => definitionIn_quiet _
  · refine .bind ?_ fun _ _ _ _ => definitionIn_quiet _
    split
    · exact .bind (statementsOf_quiet _) fun _ _ _ _ => .refuse _
    · exact .refuse _

theorem plan_quiet (ht : Tame call target w) (h : Relies call spec w) :
    Attempt.Quiet (plan call target member spec) w := by
  unfold plan
  refine .bind (Member.resolve_quiet ht member) fun m w₁ h₁ _ => ?_
  refine .bind (check_quiet fun s w₂ hs h₂ => h s w₂ hs (h₁.trans h₂)) fun checked w₂ _ _ => ?_
  refine .bind_world ?_
  dsimp only
  split
  · exact .refuse _
  refine .bind (.mk _) fun found w₃ _ _ => ?_
  refine .bind (definitionOf_quiet _ _ _) fun old w₄ _ _ => ?_
  refine .bind (statementsOf_quiet _) fun new w₅ _ _ => ?_
  exact .bind (.lift (.log _ _ _)) fun _ _ _ _ => .pure _

theorem body?_of_functionOf {m : Member} {r : Ref} {v : Value} {f : Function}
    (h : functionOf w m = .ok (r, v, f)) : w.body? v = some (.function f) := by
  unfold functionOf at h
  dsimp only at h
  split at h
  · rename_i hbody
    split at h
    · cases h
    · cases h
      exact hbody
  · cases h

/-- What a plan is for is a function. -/
theorem plan_function {p : Plan} (hp : Attempt.Gives (plan call target member spec) w p w₁) :
    ∃ f, w₁.body? p.value = some (.function f) := by
  unfold plan at hp
  simp only [Attempt.gives_bind, Attempt.gives_lift, Run.gives_world] at hp
  obtain ⟨m, w₂, -, ⟨s, line, loc⟩, w₃, -, _, _, ⟨rfl, rfl⟩, hp⟩ := hp
  split at hp
  · simp at hp
  simp only [Attempt.gives_bind, Attempt.gives_mk, Attempt.gives_lift, Run.gives_log,
    Attempt.gives_pure] at hp
  obtain ⟨⟨ref, value, f⟩, _, ⟨hf, rfl⟩, old, w₄, hd, new, w₅, hss, _, _, rfl, rfl, rfl⟩ := hp
  obtain ⟨rfl, -⟩ := definitionOf_gives hd
  obtain ⟨rfl, -⟩ := statementsOf_gives hss
  exact ⟨f, body?_of_functionOf hf⟩

theorem textOf_quiet (d : Splice.Definition) : Attempt.Quiet (textOf d) w := by
  unfold textOf
  split
  · exact .pure _
  · exact .refuse _

theorem newId_quiet : Attempt.Quiet newId w := by
  unfold newId
  refine .bind_world ?_
  split
  · rename_i id injections dice hreserve
    refine .bind (.set (.of_eq rfl rfl rfl rfl rfl ?_)) fun _ _ _ _ => .pure _
    exact (Register.reserve_spec hreserve).1
  · exact .refuse _

theorem newId_free {id : String} (h : Attempt.Gives newId w id w₁) :
    w₁.injections.journal.contains (.ofText id) = false := by
  unfold newId at h
  simp only [Attempt.gives_bind, Attempt.gives_lift, Run.gives_world] at h
  obtain ⟨_, _, ⟨rfl, rfl⟩, h⟩ := h
  split at h
  · rename_i id injections dice hreserve
    simp only [Attempt.gives_bind, Attempt.gives_set, Attempt.gives_pure] at h
    obtain ⟨_, _, rfl, rfl, rfl⟩ := h
    exact (Register.reserve_spec hreserve).2.2 id rfl
  · simp at h

theorem registers_quiet : Attempt.Quiet registers w := by
  unfold registers
  refine .bind_world ?_
  split
  · exact .pure _
  · exact .refuse _

/-! ### Making the replacement -/

theorem replica_quiet {old : Value} {g : Function} (hold : w.body? old = some (.function g))
    (r : Ref) (f : Function) (code : Code) (closure : List (String × Ref)) :
    (replica call old r f code closure).Quiet w := by
  unfold replica annotationEntries
  refine .bind (.bind (World.getAttr_quiet (World.isPlain_function hold)) ?_) ?_
  · intro v w₁ _ _
    split
    · exact .read _
    · exact .pure _
  · intro entries w₁ _ _
    exact .bind (.new _ _) fun _ _ _ _ => .bind (.read _) fun _ _ _ _ => .newValue _ _

theorem materialize_quiet {old : Value} {g : Function} (hold : w.body? old = some (.function g))
    (source : String) (r : Ref) (f : Function) (file : String) (register : Bool) :
    Attempt.Quiet (materialize call source old r f file register) w := by
  unfold materialize
  refine .bind (.mk _) fun code w₁ h₁ _ => ?_
  refine .bind (.mk _) fun closure w₂ h₂ _ => ?_
  obtain ⟨g', hold'⟩ := (h₁.trans h₂).function hold
  refine .bind (.lift (replica_quiet hold' r f code closure)) fun v w₃ _ _ => ?_
  refine .bind (.lift ?_) fun _ w₄ _ _ => .bind (.lift (.log _ _ _)) fun _ _ _ _ => .pure _
  unfold registerText
  split
  · exact Undisturbed.of_eq rfl rfl rfl rfl rfl rfl
  · exact .pure _

theorem rebound_quiet (m : Member) (v : Value) : (rebound m v).Quiet w := by
  unfold rebound
  refine .bind (.bodyOf _) ?_
  intro body w₁ _ _
  split
  · exact .newValue _ _
  · exact .pure _

theorem replacementFor_quiet {p : Plan} {g : Function}
    (hvalue : w.body? p.value = some (.function g)) (text id : String) :
    Attempt.Quiet (replacementFor call p text id) w := by
  unfold replacementFor
  refine .bind registers_quiet fun register w₁ h₁ _ => ?_
  obtain ⟨g', hvalue'⟩ := h₁.function hvalue
  refine .bind (materialize_quiet hvalue' _ _ _ _ _) fun v w₂ _ _ => ?_
  exact .lift (rebound_quiet _ _)

/-! ### The whole injection -/

theorem prepare_quiet (ht : Tame call target w) (h : Relies call spec w) :
    Attempt.Quiet (prepare call target member spec) w := by
  unfold prepare
  refine .bind (plan_quiet ht h) fun p w₁ _ hp => ?_
  obtain ⟨g, hvalue⟩ := plan_function hp
  refine .bind (textOf_quiet _) fun text w₂ h₂ _ => ?_
  refine .bind (.lift (.log _ _ _)) fun _ w₃ h₃ _ => ?_
  refine .bind newId_quiet fun id w₄ h₄ _ => ?_
  obtain ⟨g', hvalue'⟩ := (h₂.trans (h₃.trans h₄)).function hvalue
  exact .bind (replacementFor_quiet hvalue' _ _) fun _ _ _ _ => .pure _

/-- No record has the identifier of an injection that is ready. -/
theorem prepare_gives (hx : Attempt.Gives (prepare call target member spec) w x w₁) :
    x.plan.member.target = target ∧
      w₁.injections.journal.contains (.ofText x.id) = false := by
  unfold prepare at hx
  simp only [Attempt.gives_bind, Attempt.gives_lift, Attempt.gives_pure] at hx
  obtain ⟨p, w₂, hp, text, w₃, htext, _, w₄, hlog, id, w₅, hid, v, w₆, hv, rfl, rfl⟩ := hx
  obtain ⟨reading, hworked, -⟩ := plan_gives hp
  obtain ⟨w₀, hresolve, -⟩ := hworked.resolved
  obtain ⟨g, hvalue⟩ := plan_function hp
  have h₃ := (textOf_quiet _).of_gives htext
  have h₄ := (Run.Quiet.log _ _ _).of_gives hlog
  have h₅ := newId_quiet.of_gives hid
  obtain ⟨g', hvalue'⟩ := (h₃.trans (h₄.trans h₅)).function hvalue
  refine ⟨Member.resolve_target hresolve, ?_⟩
  rw [((replacementFor_quiet hvalue' _ _).of_gives hv).injections]
  exact newId_free hid

/-- Keeping a record and logging can not fail if no record has the identifier. -/
theorem conclude_succeeds (hfree : w.injections.journal.contains (.ofText x.id) = false) :
    ∃ w', (conclude x).Gives w () w' := by
  have hends : (conclude x).Ends w (fun _ _ => True) fun _ _ => False := by
    unfold conclude keep
    simp only [Run.ends_bind, Run.ends_world, Run.ends_tick]
    split
    · simp only [Run.ends_set, Run.ends_log]
    · rename_i hnone
      have hsome := Journal.add?_isSome (j := w.injections.journal) (k := .ofText x.id) (r := {
        id := x.id, member := x.plan.member.name, previous := x.plan.member.value
        code := x.plan.spec.code, line := x.plan.spec.line, loc := x.plan.spec.loc, source := x.text
        timestamp := w.clock })
      rw [hfree, hnone] at hsome
      cases hsome
  obtain ⟨_, w', hw', -⟩ := hends.gives
  exact ⟨w', hw'⟩

/-- **An injection that fails has changed nothing.** -/
theorem apply_ends (ht : Tame call target w) (h : Relies call spec w) :
    Attempt.Ends (apply call target member spec) w (fun _ _ => True) (Undisturbed w) := by
  refine Attempt.ends_of_prepared (prepare_quiet ht h) ?_
  intro x w₁ hx
  obtain ⟨htarget, hfree⟩ := prepare_gives hx
  refine (Member.assign_ends ht htarget ((prepare_quiet ht h).of_gives hx) _).imp ?_ fun _ h => h
  intro _ w₂ h₂
  exact conclude_succeeds (by rw [h₂.injections, hfree])

/-! ### Snippets that are text -/

theorem strip_result (call : Caller) (s : String) (w : World) :
    (Builtin.applyMethod call (.str s) "strip" {}).result w =
      (.ok (.str (Builtin.trimmed Text.isBlank true true s)), w) := by
  unfold Builtin.applyMethod
  cases "strip".startsWith "__" <;> rfl

/-- Looking whether text is blank leaves the world as it is. -/
theorem isBlank_text (text : String) (w : World) :
    (isBlank Machine.call (.str text)).result w =
      (.ok (!w.truth (.str (Builtin.trimmed Text.isBlank true true text))), w) := by
  have hstrip : (World.getAttr Machine.call (.str text) "strip").result w =
      (.ok (.bound (.str text) "strip"), w) := rfl
  have hcall : (Run.apply Machine.call (.bound (.str text) "strip") []).result w =
      (.ok (.str (Builtin.trimmed Text.isBlank true true text)), w) := strip_result _ text w
  unfold isBlank
  simp only [Run.result_bind, hstrip, hcall, Run.result_world, Run.result_pure]

/-- Checking a snippet that is text has no effect. -/
theorem check_same {checked : Spec × Int × InsertLocation} {w' : World}
    (h : Attempt.Gives (check Machine.call spec) w checked w')
    (htext : ∀ s, spec = some s → ∃ text, s.code = .str text) : w' = w := by
  obtain ⟨hspec, -, -, hblank⟩ := check_gives h
  obtain ⟨text, hs⟩ := htext _ hspec
  rw [hs] at hblank
  exact (Run.gives_unique hblank (isBlank_text text w)).2

theorem relies_of_text (h : ∀ s, spec = some s → ∃ text, s.code = .str text) :
    Relies Machine.call spec w := by
  intro s w₁ hs _
  obtain ⟨text, htext⟩ := h s hs
  unfold Run.Quiet Run.Ends
  rw [htext, isBlank_text]
  exact .refl w₁

end Injection

/-! ## The main result -/

/-- Everything is as it was, and so is whether callables accept injections. -/
structure Unchanged (w w' : World) : Prop where
  undisturbed : Undisturbed w w'
  accepting : ∀ v, w.Holds v → w.isCallable v = true → w'.flag? v = w.flag? v

theorem Undisturbed.unchanged {w w' : World} (h : Undisturbed w w') : Unchanged w w' where
  undisturbed := h
  accepting _ hv hcallable := h.flag? hv hcallable

/-- **Failures are atomic.**  A patch or an injection that does not succeed leaves everything as it
    was, and once it has written to the target it does succeed. -/
theorem failure_is_atomic (call : Caller) (target member : Value) (w : World)
    (ht : Tame call target w) :
    (∀ spec, Patch.Relies call target member spec w →
      Attempt.Ends (Patch.apply call target member spec) w (fun _ _ => True) (Unchanged w) ∧
      ∀ x w₁ w₂, Attempt.Gives (Patch.prepare call target member spec) w x w₁ →
        Attempt.Gives (x.member.assign call x.wrapper) w₁ () w₂ →
          ∃ w₃, (Patch.conclude x).Gives w₂ () w₃) ∧
    ∀ spec, Injection.Relies call spec w →
      Attempt.Ends (Injection.apply call target member spec) w (fun _ _ => True) (Unchanged w) ∧
      ∀ x w₁ w₂, Attempt.Gives (Injection.prepare call target member spec) w x w₁ →
        Attempt.Gives (x.plan.member.assign call x.replacement) w₁ () w₂ →
          ∃ w₃, (Injection.conclude x).Gives w₂ () w₃ := by
  refine ⟨fun spec h => ⟨?_, ?_⟩, fun spec h => ⟨?_, ?_⟩⟩
  · exact (Patch.apply_ends ht h).imp (fun _ _ h => h) fun _ h => h.unchanged
  · intro x w₁ w₂ hx hassign
    obtain ⟨htarget, text, htext, hfree⟩ := Patch.prepare_gives h hx
    have hends := Member.assign_ends ht htarget ((Patch.prepare_quiet ht h).of_gives hx) x.wrapper
    have hsame := hends.of_gives hassign
    exact Patch.conclude_succeeds htext (by rw [hsame.patches, hfree])
  · exact (Injection.apply_ends ht h).imp (fun _ _ h => h) fun _ h => h.unchanged
  · intro x w₁ w₂ hx hassign
    obtain ⟨htarget, hfree⟩ := Injection.prepare_gives hx
    have hends :=
      Member.assign_ends ht htarget ((Injection.prepare_quiet ht h).of_gives hx) x.replacement
    have hsame := hends.of_gives hassign
    exact Injection.conclude_succeeds (by rw [hsame.injections, hfree])

/-! ### A namespace -/

/-- A world in which a namespace holds a function. -/
def boxWorld : World :=
  { things := #[{ body := .module "world" },
      { body := .function { behaviour := .library "no_inject", name := "no_inject"
                            qualname := "no_inject", module := .str "world", globals := ⟨0⟩ } },
      { body := .namespace, table := [("run", .thing ⟨1⟩)] }] }

/-- The namespace. -/
def box : Value := .thing ⟨2⟩

theorem box_isInert : boxWorld.IsInert box := World.isInert_namespace rfl

/-- The injection that is tried. -/
def boxSpec : Injection.Spec := { code := .str "pass", line := .int 1 }

theorem box_patch_relies : Patch.Relies Machine.call box (.str "run") (some {}) boxWorld where
  typed := by
    rintro s ⟨⟩
    exact .inl rfl
  describable := by
    intro m w₁ h
    have hresolve : Attempt.Gives (Member.resolve Machine.call box (.str "run")) boxWorld
        { target := box, name := "run", value := .thing ⟨1⟩ } boxWorld := rfl
    obtain ⟨rfl, rfl⟩ := Attempt.gives_unique hresolve h
    exact describable_of_inert (World.isInert_function (v := .thing ⟨1⟩) rfl)

theorem box_injection_relies : Injection.Relies Machine.call (some boxSpec) boxWorld :=
  Injection.relies_of_text fun s hs => ⟨"pass", by cases hs; rfl⟩

/-- What fails on the namespace leaves everything as it was. -/
theorem failure_is_atomic_on_box :
    Attempt.Ends (Patch.apply Machine.call box (.str "run") (some {})) boxWorld
        (fun _ _ => True) (Unchanged boxWorld) ∧
      Attempt.Ends (Injection.apply Machine.call box (.str "run") (some boxSpec)) boxWorld
        (fun _ _ => True) (Unchanged boxWorld) := by
  have htame : Tame Machine.call box boxWorld := tame_of_inert box_isInert
  obtain ⟨hpatch, hinjection⟩ := failure_is_atomic Machine.call box (.str "run") boxWorld htame
  exact ⟨(hpatch (some {}) box_patch_relies).1, (hinjection (some boxSpec) box_injection_relies).1⟩

/-! ### What can be noticed -/

/-- A world in which a dictionary that can not be changed holds a class. -/
def trayWorld : World :=
  { things := #[{ body := .module "world" },
      { body := .cls { name := "C", qualname := "C", bases := [.cls "object"]
                       order := [.thing ⟨1⟩, .cls "object"] } },
      { body := .dict [⟨.ofText "run", .str "run", .thing ⟨1⟩⟩] },
      { body := .userDict true ⟨2⟩ }] }

/-- The dictionary. -/
def tray : Value := .thing ⟨3⟩

/-- Whether a patch of the class is refused, and the class has annotations then. -/
def annotatesClass : Bool :=
  match Run.result (Patch.apply Machine.call tray (.str "run") (some {})).run trayWorld with
  | (.ok (.error _), w) =>
    (w.table ⟨1⟩).has annotationsName && !(trayWorld.table ⟨1⟩).has annotationsName
  | _ => false

/-- A world in which a namespace holds an instance of a class that marks its instances when they are
    asked for their names. -/
def slyWorld : World :=
  { things := #[{ body := .module "world" },
      { body := .function { behaviour := .library "no_inject", name := "no_inject"
                            qualname := "no_inject", module := .str "world", globals := ⟨0⟩ } },
      { body := .property (.thing ⟨1⟩) .none },
      { body := .cls { name := "Sly", qualname := "Sly", bases := [.cls "object"]
                       order := [.thing ⟨3⟩, .cls "object"] }
        table := [("__call__", .thing ⟨1⟩), ("__name__", .thing ⟨2⟩)] },
      { body := .instance (.thing ⟨3⟩) },
      { body := .namespace, table := [("run", .thing ⟨4⟩)] }] }

/-- The instance. -/
def sly : Value := .thing ⟨4⟩

/-- The namespace that holds the instance. -/
def slyBox : Value := .thing ⟨5⟩

/-- Whether a patch of the instance fails, and the instance accepts injections no more. -/
def marksInstance : Bool :=
  match Run.result (Patch.apply Machine.call slyBox (.str "run") (some {})).run slyWorld with
  | (.error _, w) => slyWorld.flag? sly == some true && w.flag? sly == some false
  | _ => false

theorem notices : annotatesClass = true ∧ marksInstance = true := by decide +kernel

theorem tray_isInert : trayWorld.IsInert tray where
  left := .thing ⟨3⟩ (.userDict true ⟨2⟩) rfl (by simp [Body.parts])
  right := .inl {
    supplied := ⟨"FrozenDict", rfl⟩
    isNoSuper := by
      intro cls self h
      cases h
    isNoClass := rfl }

theorem tray_relies : Patch.Relies Machine.call tray (.str "run") (some {}) trayWorld where
  typed := by
    rintro s ⟨⟩
    exact .inl rfl
  describable := by
    intro m w₁ h
    have hresolve : Attempt.Gives (Member.resolve Machine.call tray (.str "run")) trayWorld
        { target := tray, name := "run", value := .thing ⟨1⟩ } trayWorld := rfl
    obtain ⟨rfl, rfl⟩ := Attempt.gives_unique hresolve h
    exact describable_of_inert (World.isInert_cls (v := .thing ⟨1⟩) rfl)

theorem slyBox_isInert : slyWorld.IsInert slyBox := World.isInert_namespace rfl

/-- A patch that fails can be noticed by a class that has got annotations, and what a callable's own
    code does when it is described remains. -/
theorem failure_can_be_noticed :
    (¬∀ target member spec w, Tame Machine.call target w →
      Patch.Relies Machine.call target member spec w →
      Attempt.Ends (Patch.apply Machine.call target member spec) w (fun _ _ => True)
        fun w' => ∀ r t, w.thing? r = some t → w'.thing? r = some t) ∧
    ¬∀ target member (spec : Option Patch.Spec) w, Tame Machine.call target w →
      (∀ s, spec = some s → s.IsTyped) →
      Attempt.Ends (Patch.apply Machine.call target member spec) w (fun _ _ => True)
        fun w' => ∀ v, w.isCallable v = true → w'.flag? v = w.flag? v := by
  obtain ⟨hannotates, hmarks⟩ := notices
  constructor
  · intro hall
    have hends := hall _ _ _ _ (tame_of_inert tray_isInert) tray_relies
    unfold annotatesClass at hannotates
    unfold Attempt.Ends Run.Ends at hends
    split at hannotates
    · rename_i w' hresult
      rw [hresult] at hends
      have hsame := hends ⟨1⟩ _ rfl
      simp only [World.table, hsame] at hannotates
      cases hannotates
    · cases hannotates
  · intro hall
    have hends := hall slyBox (.str "run") (some {}) _ (tame_of_inert slyBox_isInert) (by
      rintro s ⟨⟩
      exact .inl rfl)
    unfold marksInstance at hmarks
    unfold Attempt.Ends Run.Ends at hends
    split at hmarks
    · rename_i w' hresult
      rw [hresult] at hends
      have hsame := hends sly rfl
      simp only [Bool.and_eq_true, beq_iff_eq] at hmarks
      rw [hmarks.1, hmarks.2] at hsame
      cases hsame
    · cases hmarks

end Graft
