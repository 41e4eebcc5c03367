import Graft.Proofs.Describing
import Graft.Proofs.OwnText

set_option autoImplicit false

/-! # Misuse is refused for a cause that has a class

Whatever is wrong with what a patch or an injection is given is a cause that belongs to a class of
errors.  What comes of the text that is read, printed and read again is another matter: some of it
has no class.  Here the ways in which a patch or an injection ends are put together from the ways in
which its steps end, and what has no class is told exactly. -/

namespace Graft

open Machine Data

/-! ## How attempts end -/

/-- However an attempt ends, `good` holds of what it gives and of the world that it leaves then,
    `cause` of what it is refused for and `stop` of what it is halted by. -/
structure Attempt.Outcome {α : Type} (x : Attempt α) (w : World) (good : α → World → Prop)
    (cause : Refusal → Prop) (stop : Halt → Prop) : Prop where
  gives : ∀ a w', Attempt.Gives x w a w' → good a w'
  refuses : ∀ r w', Attempt.Refuses x w r w' → cause r
  halts : ∀ h w', Run.result x.run w = (.error h, w') → stop h

/-- A cause belongs to a class of errors. -/
def Refusal.HasClass (r : Refusal) : Prop := r.cls?.isSome = true

/-- An attempt gives something or is refused for a cause that has a class. -/
def Attempt.Classed {α : Type} (x : Attempt α) (w : World) : Prop :=
  Attempt.Outcome x w (fun _ _ => True) Refusal.HasClass fun _ => False

namespace Attempt.Outcome

variable {α β : Type} {x : Attempt α} {f : α → Attempt β} {w w₁ : World} {a : α}
  {good : α → World → Prop} {good' : β → World → Prop} {cause : Refusal → Prop} {stop : Halt → Prop}

theorem pure (h : good a w) : Outcome (Pure.pure a) w good cause stop where
  gives b w' hb := by
    obtain ⟨rfl, rfl⟩ := Attempt.gives_pure.1 hb
    exact h
  refuses r w' hr := nomatch (Run.gives_pure.1 hr).1
  halts e w' he := nomatch congrArg Prod.fst he

theorem refuse {r : Refusal} (h : cause r) :
    Outcome (Attempt.refuse r : Attempt α) w good cause stop where
  gives b w' hb := absurd hb Attempt.not_gives_refuse
  refuses s w' hs := by
    obtain ⟨⟨⟩, -⟩ := Run.gives_pure.1 hs
    exact h
  halts e w' he := nomatch congrArg Prod.fst he

theorem lift {y : Run α} (h : y.Ends w good fun e _ => stop e) :
    Outcome (liftM y) w good cause stop where
  gives b w' hb := h.of_gives (Attempt.gives_lift.1 hb)
  refuses r w' hr := absurd hr Attempt.not_refuses_lift
  halts e w' he := by
    have hrun : (liftM y : Attempt α).run = Except.ok <$> y := rfl
    rw [hrun, Run.result_map] at he
    unfold Run.Ends at h
    rcases hy : y.result w with ⟨e' | b, w₁⟩
    · rw [hy] at he h
      cases he
      exact h
    · rw [hy] at he
      cases he

theorem ofExcept {e : Except Refusal α} (hok : ∀ b, e = .ok b → good b w)
    (herror : ∀ r, e = .error r → cause r) :
    Outcome (ExceptT.mk (Pure.pure e)) w good cause stop where
  gives b w' hb := by
    obtain ⟨he, rfl⟩ := Attempt.gives_mk.1 hb
    exact hok b he
  refuses r w' hr := herror r (Attempt.refuses_mk.1 hr).1
  halts h w' hh := nomatch congrArg Prod.fst hh

/-- An attempt ends with its first step or with what follows that. -/
theorem bind (h : Outcome x w good cause stop)
    (hf : ∀ a w₁, Attempt.Gives x w a w₁ → good a w₁ → Outcome (f a) w₁ good' cause stop) :
    Outcome (x >>= f) w good' cause stop where
  gives b w' hb := by
    obtain ⟨a, w₁, ha, hrest⟩ := Attempt.gives_bind.1 hb
    exact (hf a w₁ ha (h.gives a w₁ ha)).gives b w' hrest
  refuses r w' hr := by
    obtain hx | ⟨a, w₁, ha, hrest⟩ := Attempt.refuses_bind.1 hr
    · exact h.refuses r w' hx
    · exact (hf a w₁ ha (h.gives a w₁ ha)).refuses r w' hrest
  halts e w' he := by
    rw [ExceptT.run_bind, Run.result_bind] at he
    rcases hx : Run.result x.run w with ⟨e' | r | a, w₁⟩
    · rw [hx] at he
      cases he
      exact h.halts _ _ hx
    · rw [hx] at he
      cases he
    · rw [hx] at he
      exact (hf a w₁ hx (h.gives a w₁ hx)).halts e w' he

/-- The same, where it is said what is known of the first step. -/
theorem bindTo (P : α → World → Prop) (h : Outcome x w P cause stop)
    (hf : ∀ a w₁, Attempt.Gives x w a w₁ → P a w₁ → Outcome (f a) w₁ good' cause stop) :
    Outcome (x >>= f) w good' cause stop := bind h hf

theorem bind_world {g : World → Attempt β} (h : Outcome (g w) w good' cause stop) :
    Outcome (liftM Run.world >>= g) w good' cause stop := by
  refine bindTo (fun v w' => v = w ∧ w' = w) (lift ⟨rfl, rfl⟩) ?_
  rintro _ _ - ⟨rfl, rfl⟩
  exact h

/-- How an attempt ends is how it goes on from a step that gives something. -/
theorem of_bind (h : Outcome (x >>= f) w good' cause stop) (hx : Attempt.Gives x w a w₁) :
    Outcome (f a) w₁ good' cause stop where
  gives b w' hb := h.gives b w' (hx.bind_iff.2 hb)
  refuses r w' hr := h.refuses r w' (hx.refuses_bind hr)
  halts e w' he := by
    refine h.halts e w' ?_
    rw [ExceptT.run_bind, Run.result_bind, show Run.result x.run w = _ from hx]
    exact he

/-- A run that an attempt begins with is halted only if the attempt is. -/
theorem head {y : Run α} {g : α → Attempt β} (h : Outcome (liftM y >>= g) w good' cause fun _ => False) :
    ∃ a w', y.Gives w a w' := by
  have hrun : (liftM y : Attempt α).run = Except.ok <$> y := rfl
  rcases hy : y.result w with ⟨e | b, w₁⟩
  · refine (h.halts e w₁ ?_).elim
    rw [ExceptT.run_bind, Run.result_bind, hrun, Run.result_map, hy]
  · exact ⟨b, w₁, hy⟩

end Attempt.Outcome

/-- An attempt that gives something is not refused. -/
theorem Attempt.Classed.of_gives {α : Type} {x : Attempt α} {w w' : World} {a : α}
    (h : Attempt.Gives x w a w') : x.Classed w where
  gives _ _ _ := trivial
  refuses _ _ hr := nomatch (Run.gives_unique h hr).1
  halts _ _ he := nomatch (show Run.result x.run w = _ from h).symm.trans he

/-! ## Text that can not be read -/

namespace Syntax

/-- A rejection is no fault of the text's own: the text has characters that no program text has, or
    it is nested too deeply. -/
def Rejection.IsBeyond (r : Rejection) : Prop := ∀ f, r = .fault f → f.cls = .depth

/-- A text can not be read, whether it is well formed or not. -/
def Unreadable (cs : List Char) : Prop := ∃ r, parseModule cs = .error r ∧ r.IsBeyond

theorem firstSurrogates_isBeyond {cs : List Char} {r : Rejection} (h : firstSurrogates cs = some r) :
    r.IsBeyond := by
  unfold firstSurrogates at h
  dsimp only at h
  split at h
  · cases h
  · rintro f rfl
    cases h

/-- A text can not be read if it contains the character with code zero or a surrogate, or if it is
    nested too deeply. -/
theorem unreadable_iff {cs : List Char} :
    Unreadable cs ↔ (∃ c ∈ cs, c = '\x00' ∨ Text.isSurrogate c = true) ∨
      ∃ f, parseModule cs = .error (.fault f) ∧ f.cls = .depth := by
  have hstrange : (∃ c ∈ cs, c = '\x00' ∨ Text.isSurrogate c = true) ↔
      (∃ r, firstSurrogates cs = some r) ∨ '\x00' ∈ cs := by
    have hnone := @firstSurrogates_eq_none_iff cs
    constructor
    · rintro ⟨c, hc, rfl | hsurrogate⟩
      · exact .inr hc
      · left
        by_contra hno
        have hall := hnone.1 (Option.eq_none_iff_forall_ne_some.2 fun r hr => hno ⟨r, hr⟩)
        rw [hall c hc] at hsurrogate
        cases hsurrogate
    · rintro (⟨r, hr⟩ | hzero)
      · by_contra hno
        rw [hnone.2 fun c hc => by_contra fun h => hno ⟨c, hc, .inr (by simpa using h)⟩] at hr
        cases hr
      · exact ⟨_, hzero, .inl rfl⟩
  rw [hstrange]
  constructor
  · rintro ⟨r, hr, hbeyond⟩
    by_cases hfault : ∃ f, r = .fault f
    · obtain ⟨f, rfl⟩ := hfault
      exact .inr ⟨f, hr, hbeyond f rfl⟩
    · left
      -- Surrogates and zero bytes are looked for before anything is parsed.
      unfold parseModule at hr
      split at hr
      · exact .inl ⟨_, ‹_›⟩
      split at hr
      · rename_i hzero
        exact .inr (by simpa using hzero)
      split at hr
      · cases hr
      · cases hr
        exact absurd ⟨_, rfl⟩ hfault
  · rintro ((⟨r, hr⟩ | hzero) | ⟨f, hf, hdepth⟩)
    · exact ⟨r, by rw [parseModule, hr], firstSurrogates_isBeyond hr⟩
    · cases hsurrogates : firstSurrogates cs with
      | some r => exact ⟨r, by rw [parseModule, hsurrogates], firstSurrogates_isBeyond hsurrogates⟩
      | none =>
        refine ⟨.zeroByte, ?_, nofun⟩
        rw [parseModule, hsurrogates]
        simp [hzero]
    · exact ⟨_, hf, by rintro _ ⟨⟩; exact hdepth⟩

end Syntax

namespace Splice

open Syntax

/-- A fragment that is rejected has a class, which is that of faults of syntax, unless the text can
    not be read. -/
theorem class_ofRejection (kind : FragmentKind) (source : List Char) (r : Rejection) :
    (r.IsBeyond ∧ (Refusal.fragment (.ofRejection kind source r)).cls? = none) ∨
      (¬r.IsBeyond ∧ (Refusal.fragment (.ofRejection kind source r)).cls? = some .sourceSyntax) := by
  cases r with
  | fault f =>
    by_cases hdepth : f.cls = .depth
    · refine .inl ⟨?_, by simp [FragmentFault.ofRejection, hdepth, Refusal.cls?]⟩
      rintro _ ⟨⟩
      exact hdepth
    · refine .inr ⟨fun h => hdepth (h f rfl), ?_⟩
      simp [FragmentFault.ofRejection, hdepth, Refusal.cls?]
  | zeroByte => exact .inl ⟨nofun, rfl⟩
  | surrogates first last code => exact .inl ⟨nofun, rfl⟩

/-- A snippet that is rejected is one whose text is not well formed or can not be read. -/
theorem class_of_parseSnippet {code : List Char} {x : FragmentFault}
    (h : parseSnippet code = .error x) :
    (Unreadable (Text.dedent code) ∧ (Refusal.fragment x).cls? = none) ∨
      (¬Unreadable (Text.dedent code) ∧ (Refusal.fragment x).cls? = some .sourceSyntax) := by
  unfold parseSnippet at h
  split at h
  · cases h
  · rename_i r hr
    cases h
    refine (class_ofRejection .snippet code r).imp ?_ ?_
    · exact fun ⟨hbeyond, hcls⟩ => ⟨⟨r, hr, hbeyond⟩, hcls⟩
    · rintro ⟨hbeyond, hcls⟩
      refine ⟨fun ⟨r', hr', hbeyond'⟩ => hbeyond ?_, hcls⟩
      obtain rfl : r = r' := Except.error.inj (hr.symm.trans hr')
      exact hbeyond'

/-- A snippet that can not be read is rejected. -/
theorem parseSnippet_of_unreadable {code : List Char} (h : Unreadable (Text.dedent code)) :
    ∃ x, parseSnippet code = .error x ∧ (Refusal.fragment x).cls? = none := by
  obtain ⟨r, hr, hbeyond⟩ := id h
  have herror : parseSnippet code = .error (.ofRejection .snippet code r) := by rw [parseSnippet, hr]
  obtain ⟨-, hcls⟩ | ⟨hno, -⟩ := class_of_parseSnippet herror
  · exact ⟨_, herror, hcls⟩
  · exact absurd h hno

/-- Where a definition's text is rejected, so is the text that it is read in, and for as good a
    reason. -/
theorem parseBlock_error {source : List Char} {r : Rejection} (h : parseBlock source = .error r) :
    ∃ r', parseModule (readIn source) = .error r' ∧ (r'.IsBeyond ↔ r.IsBeyond) := by
  unfold parseBlock at h
  unfold readIn
  -- An indented text is read below a header, and a fault in it is moved up by the header's line.
  split at h
  · rename_i hindented
    rw [if_pos hindented]
    split at h
    · rename_i f hf
      cases h
      refine ⟨_, hf, ?_, ?_⟩
      · rintro hbeyond _ ⟨⟩
        exact hbeyond f rfl
      · rintro hbeyond _ ⟨⟩
        exact (hbeyond _ rfl : (f.shiftLines 1).cls = .depth)
    · rename_i hr'
      cases h
      exact ⟨_, hr', Iff.rfl⟩
    · cases h
    · cases h
  · rename_i hplain
    rw [if_neg hplain]
    exact ⟨r, h, Iff.rfl⟩

/-- A definition that is rejected has a class unless its text can not be read. -/
theorem class_of_parseDefinition {source : List Char} {x : FragmentFault}
    (h : parseDefinition source = .error x) :
    (Refusal.fragment x).HasClass ↔ ¬Unreadable (readIn source) := by
  -- A text that has been read is not unreadable, so what is wrong then has to do with what it
  -- holds.
  have hread : ∀ ss, parseBlock source = .ok ss → ¬Unreadable (readIn source) := by
    rintro ss hss ⟨r, hr, -⟩
    unfold parseBlock readIn at *
    split at hss
    · rename_i hindented
      rw [if_pos hindented] at hr
      rw [hr] at hss
      cases r <;> cases hss
    · rename_i hplain
      rw [if_neg hplain] at hr
      rw [hr] at hss
      cases hss
  unfold parseDefinition at h
  split at h
  · rename_i r hr
    cases h
    obtain ⟨r', hr', hiff⟩ := parseBlock_error hr
    have hunreadable : Unreadable (readIn source) ↔ r'.IsBeyond := by
      refine ⟨fun ⟨s, hs, hbeyond⟩ => ?_, fun hbeyond => ⟨r', hr', hbeyond⟩⟩
      obtain rfl : r' = s := Except.error.inj (hr'.symm.trans hs)
      exact hbeyond
    rw [hunreadable, hiff]
    obtain ⟨hbeyond, hcls⟩ | ⟨hno, hcls⟩ := class_ofRejection .definition source r
    · simp [Refusal.HasClass, hcls, hbeyond]
    · simp [Refusal.HasClass, hcls, hno]
  · rename_i hnone
    cases h
    exact iff_of_true rfl (hread _ hnone)
  · rename_i s ss hss
    split at h
    · cases h
    · cases h
      exact iff_of_true rfl (hread _ hss)

/-- A definition whose text can not be read is rejected. -/
theorem parseDefinition_of_unreadable {source : List Char} (h : Unreadable (readIn source)) :
    ∃ x, parseDefinition source = .error x ∧ ¬(Refusal.fragment x).HasClass := by
  cases hparse : parseDefinition source with
  | error x => exact ⟨x, rfl, fun hcls => (class_of_parseDefinition hparse).1 hcls h⟩
  | ok d =>
    obtain ⟨r, hr, -⟩ := h
    unfold parseDefinition parseBlock at hparse
    unfold readIn at hr
    split at hr
    · rename_i hindented
      rw [if_pos hindented, hr] at hparse
      cases r <;> cases hparse
    · rename_i hplain
      rw [if_neg hplain, hr] at hparse
      cases hparse

end Splice

/-! ## Reading and writing the target -/

/-- A run gives something, or raises an exception of the ordinary kind. -/
def Run.Civil {α : Type} (x : Run α) (w : World) : Prop :=
  x.Ends w (fun _ _ => True) fun e w' => ∃ v, e = .raised v ∧ w'.isException v = true

namespace Member

variable {call : Caller} {target : Value} {w : World}

/-- What a target does not hold is a cause that has a class. -/
theorem resolve_classed {name : Value} (hread : (lookup call target (w.text name)).Calm w) :
    (resolve call target name).Classed w := by
  unfold resolve
  split
  · exact .refuse rfl
  split
  · exact .refuse rfl
  refine .bind_world (.bind (.lift hread) fun found w₁ _ _ => ?_)
  split
  · exact .refuse rfl
  · refine .bind_world ?_
    split
    · exact .pure trivial
    · exact .refuse rfl

/-- A target that refuses to be written to is a cause that has a class. -/
theorem assign_classed {m : Member} {replacement : Value}
    (hput : ∀ v w₁, (m.rewrap replacement).Gives w v w₁ → (m.put call v).Civil w₁) :
    (m.assign call replacement).Classed w := by
  have hrewrap : (m.rewrap replacement).Calm w := by
    unfold rewrap
    split <;> trivial
  unfold assign
  refine .bind (.lift hrewrap) fun v w₁ hv _ => ?_
  refine .bindTo (fun refusal _ => ∀ r, refusal = some r → r.HasClass) (.lift ?_) ?_
  · rw [Run.ends_tryCatch]
    simp only [Run.ends_bind, Run.ends_pure]
    refine (hput v w₁ (Attempt.gives_lift.1 hv)).imp ?_ ?_
    · rintro _ _ - _ ⟨⟩
    · rintro _ w₂ ⟨e, rfl, he⟩
      simp only [Run.ends_bind, Run.ends_world, he, if_true, Run.ends_pure]
      rintro _ ⟨⟩
      rfl
  · intro refusal w₂ _ hclass
    cases refusal with
    | none => exact .pure trivial
    | some r => exact .refuse (hclass r rfl)

end Member

/-! ## Patches -/

namespace Patch

variable {call : Caller} {target member : Value} {spec : Option Spec} {w w₁ w₂ : World}

/-- What a patch can come to that has no class: no identifier can be handed out for it, or writing to
    the target has taken the identifier that had been chosen. -/
inductive Leaks (call : Caller) (target member : Value) (spec : Option Spec) (w : World) : Prop
  | identifier {m : Member} {s : Spec} {w₁ : World}
      (resolved : Attempt.Gives (Member.resolve call target member) w m w₁) (given : spec = some s)
      (callable : s.hooks.refusal? w₁ = none) (unnamed : w₁.truth s.id = false)
      (exhausted : ∀ id, (w₁.patches.reserve w₁.around w₁.dice).1 ≠ .ok id) : Leaks call target member spec w
  | taken {x : Prepared} {w₁ w₂ : World} {text : String}
      (ready : Attempt.Gives (prepare call target member spec) w x w₁)
      (written : Attempt.Gives (x.member.assign call x.wrapper) w₁ () w₂)
      (named : x.id.text? = some text)
      (contained : w₂.patches.journal.contains (.ofText text) = true) : Leaks call target member spec w

/-- What is relied on when a patch is applied: reading the member raises nothing, the wanted identifier
    is text, what is patched is a function or bound from one, and the target raises nothing but
    exceptions when it is written to. -/
structure Suits (call : Caller) (target member : Value) (spec : Option Spec) (w : World) : Prop where
  readable : (Member.lookup call target (w.text member)).Calm w
  typed : ∀ s, spec = some s → s.IsTyped
  described : ∀ m w₁, Attempt.Gives (Member.resolve call target member) w m w₁ →
    ∃ r f, w₁.IsDescribed m.value r f
  civil : ∀ x w₁ v w₂, Attempt.Gives (prepare call target member spec) w x w₁ →
    (x.member.rewrap x.wrapper).Gives w₁ v w₂ → (x.member.put call v).Civil w₂

theorem refusal_hasClass {h : Hooks} {r : Refusal} (hr : h.refusal? w = some r) : r.HasClass := by
  unfold Hooks.refusal? at hr
  obtain ⟨⟨name, v⟩, -, rfl⟩ := Option.map_eq_some_iff.1 hr
  rfl

/-- An identifier is chosen unless it is in use or none can be handed out. -/
theorem chooseId_outcome {wanted : Value}
    (htext : wanted = .none ∨ ∃ text, wanted.text? = some text)
    (hfree : w.truth wanted = false → ∃ id, (w.patches.reserve w.around w.dice).1 = .ok id) :
    Attempt.Classed (chooseId wanted) w := by
  unfold chooseId
  refine .bind_world ?_
  split
  · rename_i htruth
    obtain rfl | ⟨text, htext⟩ := htext
    · cases htruth
    · have hhash : (World.hashOf wanted).Calm w := by
        unfold World.hashOf Run.Calm
        simp only [Run.ends_bind, Run.ends_world, keyOf_text htext, Run.ends_pure]
      refine .bind (.lift hhash) fun k w₁ _ _ => ?_
      split
      · exact .refuse rfl
      · exact .pure trivial
  · rename_i htruth
    obtain ⟨id, hid⟩ := hfree (by simpa using htruth)
    split
    · rename_i id' patches dice hreserve
      exact .bindTo (fun _ _ => True) (.lift trivial) fun _ _ _ _ => .pure trivial
    · rename_i f patches dice hreserve
      rw [hreserve] at hid
      cases hid

/-- The identifier of a patch that is ready is text. -/
theorem prepare_text (h : Suits call target member spec w) {x : Prepared}
    (hx : Attempt.Gives (prepare call target member spec) w x w₁) : ∃ text, x.id.text? = some text := by
  have hrelies : Relies call target member spec w := {
    typed := h.typed
    describable := fun m w₁ hm => by
      obtain ⟨r, f, hd⟩ := h.described m w₁ hm
      exact hd.describable }
  obtain ⟨-, text, htext, -⟩ := prepare_gives hrelies hx
  exact ⟨text, htext⟩

/-- A patch that leaks nothing is made ready or refused for a cause that has a class. -/
theorem prepare_classed (h : Suits call target member spec w) (hleaks : ¬Leaks call target member spec w) :
    (prepare call target member spec).Classed w := by
  unfold prepare
  refine .bind (Member.resolve_classed h.readable) fun m w₁ hm _ => ?_
  obtain ⟨r, f, hd⟩ := h.described m w₁ hm
  split
  · exact .refuse rfl
  · rename_i s
    refine .bind_world ?_
    split
    · rename_i hrefusal
      exact .refuse (refusal_hasClass hrefusal)
    · rename_i hcallable
      refine .bind (chooseId_outcome (h.typed s rfl) fun hunnamed => ?_) fun id w₂ hid _ => ?_
      · by_contra hno
        exact hleaks (.identifier hm rfl hcallable hunnamed fun id hid => hno ⟨id, hid⟩)
      · have h₂ := (chooseId_quiet s.id).of_gives hid
        refine .bindTo (fun _ w₃ => Undisturbed w₁ w₃) (.lift ?_) fun patch w₃ _ h₃ => ?_
        · exact h₂.trans (.alloc _ _)
        · obtain ⟨f', hd'⟩ := hd.undisturbed h₃
          exact .bind (.lift (build_calm hd' patch id m.name)) fun _ _ _ _ => .pure trivial

theorem chooseId_refuses {wanted : Value} (hunnamed : w.truth wanted = false)
    (hnone : ∀ id, (w.patches.reserve w.around w.dice).1 ≠ .ok id) :
    ∃ f, Attempt.Refuses (chooseId wanted) w (.identifier f) w := by
  rcases hreserve : w.patches.reserve w.around w.dice with ⟨f | id, patches, dice⟩
  · refine ⟨f, ?_⟩
    unfold chooseId
    refine (Attempt.gives_lift.2 (Run.gives_world.2 ⟨rfl, rfl⟩)).refuses_bind ?_
    rw [if_neg (by simp [hunnamed]), hreserve]
    rfl
  · exact absurd (by rw [hreserve]) (hnone id)

/-- A record is kept only if none has its identifier. -/
theorem free_of_conclude {x : Prepared} {text : String} (htext : x.id.text? = some text)
    (h : (conclude x).Gives w () w₁) : w.patches.journal.contains (.ofText text) = false := by
  unfold conclude World.hashOf keep at h
  simp only [Run.gives_bind, Run.gives_world, keyOf_text htext] at h
  obtain ⟨k, _, ⟨_, _, ⟨rfl, rfl⟩, hk⟩, _, _, htick, _, _, ⟨_, _, ⟨rfl, rfl⟩, hkeep⟩, -⟩ := h
  obtain ⟨rfl, rfl⟩ := Run.gives_pure.1 hk
  obtain ⟨-, rfl⟩ := Run.gives_tick.1 htick
  split at hkeep
  · rename_i journal hadd
    replace hadd := congrArg Option.isSome hadd
    rw [Journal.add?_isSome] at hadd
    simpa using hadd
  · exact absurd hkeep Run.not_gives_raise

/-- **A patch is refused for causes that have a class, unless it leaks.** -/
theorem apply_classed_iff (h : Suits call target member spec w) :
    (apply call target member spec).Classed w ↔ ¬Leaks call target member spec w := by
  constructor
  · rintro hclassed (⟨hm, rfl, hcallable, hunnamed, hexhausted⟩ | ⟨hx, hassign, htext, htaken⟩)
    · rename_i m s w₁
      obtain ⟨f, hrefuses⟩ := chooseId_refuses hunnamed hexhausted
      have hprepare : Attempt.Refuses (prepare call target member (some s)) w (.identifier f) w₁ := by
        refine hm.refuses_bind ?_
        refine (Attempt.gives_lift.2 (Run.gives_world.2 ⟨rfl, rfl⟩)).refuses_bind ?_
        rw [hcallable]
        exact hrefuses.bind
      cases hclassed.refuses _ _ hprepare.bind
    · obtain ⟨_, w₃, hconclude⟩ := ((hclassed.of_bind hx).of_bind hassign).head
      rw [free_of_conclude htext hconclude] at htaken
      cases htaken
  · intro hleaks
    refine .bind (prepare_classed h hleaks) fun x w₁ hx _ => ?_
    refine .bind (Member.assign_classed fun v w₂ => h.civil x w₁ v w₂ hx) fun _ w₂ hassign _ => ?_
    refine .bindTo (fun _ _ => True) (.lift ?_) fun _ _ _ _ => .pure trivial
    obtain ⟨text, htext⟩ := prepare_text h hx
    cases hfree : w₂.patches.journal.contains (.ofText text) with
    | true => exact (hleaks (.taken hx hassign htext hfree)).elim
    | false =>
      obtain ⟨w₃, hw₃⟩ := conclude_succeeds htext hfree
      unfold Run.Ends
      rw [hw₃]
      trivial

end Patch

end Graft
