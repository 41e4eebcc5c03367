import Graft.Proofs.Misuse
import Graft.Proofs.Recompilation

set_option autoImplicit false

/-! # What an injection comes to that has no class

An injection reads three texts, namely that of the function, the snippet and the new definition, and
it writes the last of them itself.  Every step that can fail has causes with a class, and for most of
the steps these are all.  What has none comes of a text that can not be read or written, of the name
of a class that the function is said to belong to, and of identifiers and settings that can not be
had.  These ways are told one by one, and there are no others. -/

namespace Graft.Injection

open Machine Splice Syntax

variable {call : Caller} {target member : Value} {spec : Option Spec} {w w₁ w₂ : World}

/-! ## Compiling -/

/-- Something that is to be a name around the new definition is none, and the text around the
    definition can not be read with it. -/
def IsMisnamed (frees : List String) (owner : Option String) : Prop :=
  (frees ++ owner.toList).all isPlainName = false ∧
    ∃ x, parseModule (surroundingsText frees owner).toList = .error x

theorem codeOfModule_hasClass {source : List Char} {file : String} {body : List Stmt} {r : Refusal}
    (h : codeOfModule source file body = .error r) : r.HasClass := by
  unfold codeOfModule at h
  cases hcode : Code.ofModule file body with
  | error f =>
    rw [hcode] at h
    cases h
    rfl
  | ok code =>
    rw [hcode] at h
    cases h

theorem codeOf_hasClass {code : Code} {name : String} {r : Refusal}
    (h : codeOf code name = .error r) : r.HasClass := by
  unfold codeOf at h
  split at h
  · cases h
  · cases h
    rfl

/-- What does not compile between names is refused for a cause that has a class. -/
theorem compileSurrounded_hasClass {source : List Char} {d : Definition} {frees : List String}
    {owner : Option String} {name file : String} {r : Refusal}
    (h : compileSurrounded source d frees owner name file = .error r) : r.HasClass := by
  unfold compileSurrounded at h
  obtain hmodule | ⟨code, -, h⟩ := bind_eq_error.1 h
  · exact codeOfModule_hasClass hmodule
  obtain hfactory | ⟨around, -, h⟩ := bind_eq_error.1 h
  · exact codeOf_hasClass hfactory
  cases owner with
  | none => exact codeOf_hasClass h
  | some owner =>
    obtain howner | ⟨inner, -, h⟩ := bind_eq_error.1 h
    · exact codeOf_hasClass howner
    · exact codeOf_hasClass h

/-- What is compiled around something that is no name is refused, and the cause has a class unless the
    text around can not be read. -/
theorem compileMisnamed_hasClass (source : List Char) (d : Definition) (frees : List String)
    (owner : Option String) (file : String) :
    ∃ r, compileMisnamed source d frees owner file = .error r ∧
      (r.HasClass ↔ ∃ ss, parseModule (surroundingsText frees owner).toList = .ok ss) := by
  unfold compileMisnamed
  cases parseModule (surroundingsText frees owner).toList with
  | error x => exact ⟨_, rfl, by simp [Refusal.HasClass, Refusal.cls?]⟩
  | ok around =>
    dsimp only
    cases hmodule : codeOfModule source file (enclose d.toStmt owner.isSome around) with
    | error x => exact ⟨x, rfl, iff_of_true (codeOfModule_hasClass hmodule) ⟨_, rfl⟩⟩
    | ok code => exact ⟨_, rfl, iff_of_true rfl ⟨_, rfl⟩⟩

/-- Compiling has a cause without a class exactly if the text can not be read, or if it can and what
    is around it can not. -/
theorem compile_unclassed_iff {source : List Char} {frees : List String} {owner : Option String}
    {name file : String} :
    (∃ r, compile source frees owner name file = .error r ∧ ¬r.HasClass) ↔
      Unreadable (readIn source) ∨
        (∃ d, parseDefinition source = .ok d) ∧ IsMisnamed frees owner := by
  unfold compile IsMisnamed
  -- A definition that can be read fails without a class only for the names around it.
  cases hparse : parseDefinition source with
  | error x =>
    have hclass := class_of_parseDefinition hparse
    constructor
    · rintro ⟨r, hr, hno⟩
      cases hr
      exact .inl (by_contra fun hreadable => hno (hclass.2 hreadable))
    · rintro (hunreadable | ⟨⟨d, hd⟩, -⟩)
      · exact ⟨_, rfl, fun hyes => hclass.1 hyes hunreadable⟩
      · cases hd
  | ok d =>
    have hreadable : ¬Unreadable (readIn source) := by
      intro hunreadable
      obtain ⟨x, hx, -⟩ := parseDefinition_of_unreadable hunreadable
      rw [hparse] at hx
      cases hx
    simp only [Except.mapError, bind, Except.bind]
    split
    · rename_i hplain
      constructor
      · rintro ⟨r, hr, hno⟩
        exact absurd (compileSurrounded_hasClass hr) hno
      · rintro (hunreadable | ⟨-, hmisnamed, -⟩)
        · exact absurd hunreadable hreadable
        · rw [hplain] at hmisnamed
          cases hmisnamed
    · rename_i hmisnamed
      obtain ⟨r, hr, hclass⟩ := compileMisnamed_hasClass source d frees owner file
      have haround : ¬r.HasClass ↔
          ∃ x, parseModule (surroundingsText frees owner).toList = .error x := by
        rw [hclass]
        cases parseModule (surroundingsText frees owner).toList <;> simp
      rw [hr]
      constructor
      · rintro ⟨r', hr', hno⟩
        cases hr'
        exact .inr ⟨⟨d, rfl⟩, by simpa using hmisnamed, haround.1 hno⟩
      · rintro (hunreadable | ⟨-, -, herror⟩)
        · exact absurd hunreadable hreadable
        · exact ⟨r, rfl, haround.2 herror⟩

/-! ## How it can leak -/

/-- What has been given has been checked, and the member is found to lead to a function that may be
    changed.  `reading` is the world in which this is found. -/
structure Looked (call : Caller) (target member : Value) (spec : Option Spec) (w : World)
    (m : Member) (s : Spec) (f : Function) (reading : World) : Prop where
  checked : ∃ w₁ line loc, Attempt.Gives (Member.resolve call target member) w m w₁ ∧
    Attempt.Gives (check call spec) w₁ (s, line, loc) reading
  allowed : reading.flag? m.value ≠ some false
  found : ∃ r v, functionOf reading m = .ok (r, v, f)

/-- The snippet is read next: the definition of the function has been read, or it is not looked for
    because the function is a wrapper. -/
def ReadsSnippet (w : World) (f : Function) : Prop :=
  (∃ text d, sourceOf w f = .ok text ∧ parseDefinition text.toList = .ok d) ∨
    ∃ patch id wrapped, f.behaviour = .dispatch patch id wrapped

/-- All is ready but the compilation, and it is known whether the new text is to be registered. -/
def Compiles (call : Caller) (target member : Value) (spec : Option Spec) (w : World) (p : Plan)
    (text : String) : Prop :=
  ∃ id w₁ register, Attempt.Gives (ready call target member spec) w (p, text, id) w₁ ∧
    Settings.bool w₁.around registerKeys (.bool true) none = .ok register

/-- What an injection can come to that has no class.  The text of the function, the snippet or the
    new text can not be read, the new definition can not be printed, the class that the function is
    named after has a name that no text can use, or there is no identifier or no setting to be had.
    It may also be that writing to the target takes the identifier. -/
inductive Leaks (call : Caller) (target member : Value) (spec : Option Spec) (w : World) : Prop
  | definition {m : Member} {s : Spec} {f : Function} {reading : World} {text : String}
      (looked : Looked call target member spec w m s f reading) (source : sourceOf reading f = .ok text)
      (unreadable : Unreadable (readIn text.toList)) : Leaks call target member spec w
  | snippet {m : Member} {s : Spec} {f : Function} {reading : World} {code : String}
      (looked : Looked call target member spec w m s f reading) (next : ReadsSnippet reading f)
      (given : s.code.text? = some code) (unreadable : Unreadable (Text.dedent code.toList)) :
      Leaks call target member spec w
  | unprintable {p : Plan} {w₁ : World} {x : PrintFault}
      (planned : Attempt.Gives (plan call target member spec) w p w₁)
      (fault : p.definition.toStmt.print = .error x) : Leaks call target member spec w
  | identifier {p : Plan} {w₁ : World} {text : String}
      (planned : Attempt.Gives (plan call target member spec) w p w₁)
      (printed : p.definition.toStmt.print = .ok text)
      (exhausted : ∀ id, (w₁.injections.reserve w₁.around w₁.dice).1 ≠ .ok id) :
      Leaks call target member spec w
  | setting {p : Plan} {text id : String} {w₁ : World} {x : SettingsFault}
      (made : Attempt.Gives (ready call target member spec) w (p, text, id) w₁)
      (fault : Settings.bool w₁.around registerKeys (.bool true) none = .error x) :
      Leaks call target member spec w
  | rereading {p : Plan} {text : String} (compiles : Compiles call target member spec w p text)
      (unreadable : Unreadable (readIn text.toList)) : Leaks call target member spec w
  | owner {p : Plan} {text : String} {d : Definition}
      (compiles : Compiles call target member spec w p text)
      (read : parseDefinition text.toList = .ok d)
      (misnamed : IsMisnamed p.function.frees (ownerName? p.function.qualname)) :
      Leaks call target member spec w
  | taken {x : Prepared} {w₁ w₂ : World}
      (made : Attempt.Gives (prepare call target member spec) w x w₁)
      (written : Attempt.Gives (x.plan.member.assign call x.replacement) w₁ () w₂)
      (contained : w₂.injections.journal.contains (.ofText x.id) = true) :
      Leaks call target member spec w

/-- What is relied on when an injection is applied: reading the member raises nothing, the snippet is
    text, and the target raises nothing but exceptions when it is written to. -/
structure Suits (call : Caller) (target member : Value) (spec : Option Spec) (w : World) : Prop where
  readable : (Member.lookup call target (w.text member)).Calm w
  typed : ∀ s, spec = some s → ∃ code, s.code = .str code
  civil : ∀ x w₁ v w₂, Attempt.Gives (prepare call target member spec) w x w₁ →
    (x.plan.member.rewrap x.replacement).Gives w₁ v w₂ → (x.plan.member.put call v).Civil w₂

/-! ## Working it out -/

/-- Whatever is wrong with the parts of an injection is a cause that has a class. -/
theorem check_classed (htyped : ∀ s, spec = some s → ∃ code, s.code = .str code) :
    (check Machine.call spec).Classed w := by
  unfold check
  cases spec with
  | none => exact .refuse rfl
  | some s =>
    obtain ⟨code, hcode⟩ := htyped s rfl
    have hblank : (isBlank Machine.call s.code).Calm w := by
      unfold Run.Calm Run.Ends
      rw [hcode, isBlank_text]
      trivial
    dsimp only
    split
    · exact .refuse rfl
    split
    · exact .refuse rfl
    refine .bind_world ?_
    split
    · exact .refuse rfl
    refine .bind (.lift hblank) fun blank w₁ _ _ => ?_
    split
    · exact .refuse rfl
    refine .bind_world ?_
    split
    · split
      · exact .refuse rfl
      · split
        · exact .pure trivial
        · exact .refuse rfl
    · exact .refuse rfl

theorem statementsOf_classed {code : Value} {text : String} (htext : code.text? = some text)
    (hread : ¬Unreadable (Text.dedent text.toList)) : (statementsOf code).Classed w := by
  unfold statementsOf
  rw [htext]
  dsimp only
  split
  · exact .pure trivial
  · rename_i x hx
    refine .refuse ?_
    obtain ⟨hunreadable, -⟩ | ⟨-, hcls⟩ := class_of_parseSnippet hx
    · exact absurd hunreadable hread
    · simp [Refusal.HasClass, hcls]

/-- A snippet that is rejected is refused for just that. -/
theorem statementsOf_refuses {code : Value} {text : String} {x : FragmentFault}
    (htext : code.text? = some text) (hx : parseSnippet text.toList = .error x) :
    Attempt.Refuses (statementsOf code) w (.fragment x) w := by
  unfold statementsOf
  rw [htext]
  dsimp only
  rw [hx]
  rfl

/-- The definition of a function is read or refused for a cause that has a class, if the text of the
    function can be read, and the snippet too in case the function is a wrapper. -/
theorem definitionOf_classed {m : Member} {f : Function} {code : Value} {text : String}
    (htext : code.text? = some text)
    (hsource : ∀ source, sourceOf w f = .ok source → ¬Unreadable (readIn source.toList))
    (hsnippet : ReadsSnippet w f → ¬Unreadable (Text.dedent text.toList)) :
    (definitionOf m f code).Classed w := by
  unfold definitionOf
  refine .bind_world ?_
  cases hfound : sourceOf w f with
  | ok source =>
    refine .bindTo (fun a _ => a = source) (.pure rfl) ?_
    rintro a w₁ - rfl
    dsimp only
    split
    · exact .pure trivial
    · rename_i x hx
      exact .refuse ((class_of_parseDefinition hx).2 (hsource _ hfound))
  | error reason =>
    refine .bindTo (fun _ _ => False) ?_ fun _ _ _ h => h.elim
    unfold refuseUnavailable
    split
    · rename_i patch id wrapped hdispatch
      have hnext : ReadsSnippet w f := .inr ⟨_, _, _, hdispatch⟩
      exact .bind (statementsOf_classed htext (hsnippet hnext)) fun _ _ _ _ => .refuse rfl
    · exact .refuse rfl

theorem functionOf_hasClass {m : Member} {r : Refusal} (h : functionOf w m = .error r) :
    r.HasClass := by
  unfold functionOf at h
  dsimp only at h
  split at h
  · split at h
    · cases h
      rfl
    · cases h
  · cases h
    rfl

/-- An injection that leaks nothing is worked out or refused for a cause that has a class. -/
theorem plan_classed (h : Suits Machine.call target member spec w)
    (hleaks : ¬Leaks Machine.call target member spec w) :
    (plan Machine.call target member spec).Classed w := by
  unfold plan
  refine .bind (Member.resolve_classed h.readable) fun m w₁ hm _ => ?_
  refine .bind (check_classed h.typed) fun checked w₂ hcheck _ => ?_
  obtain ⟨s, line, loc⟩ := checked
  obtain ⟨hspec, -⟩ := check_gives hcheck
  obtain ⟨code, hcode⟩ := h.typed s hspec
  have htext : s.code.text? = some code := by rw [hcode]; rfl
  refine .bind_world ?_
  dsimp only
  split
  · exact .refuse rfl
  rename_i hallowed
  refine .bindTo (fun found w₃ => functionOf w₂ m = .ok found ∧ w₃ = w₂)
    (.ofExcept (fun _ hok => ⟨hok, rfl⟩) fun _ => functionOf_hasClass) ?_
  rintro ⟨r, v, f⟩ w₃ - ⟨hfound, rfl⟩
  have hlooked : Looked Machine.call target member spec w m s f w₃ :=
    ⟨⟨w₁, line, loc, hm, hcheck⟩, by simpa using hallowed, r, v, hfound⟩
  -- A snippet that can not be read does no harm if it is not read at all.
  have hsnippet : ReadsSnippet w₃ f → ¬Unreadable (Text.dedent code.toList) :=
    fun hnext hunreadable => hleaks (.snippet hlooked hnext htext hunreadable)
  refine .bind (definitionOf_classed htext (fun source hsource hunreadable =>
    hleaks (.definition hlooked hsource hunreadable)) hsnippet) fun old w₄ hold _ => ?_
  obtain ⟨rfl, source, hsource, hparse⟩ := definitionOf_gives hold
  refine .bind (statementsOf_classed htext (hsnippet (.inl ⟨source, old, hsource, hparse⟩)))
    fun new w₅ _ _ => ?_
  exact .bindTo (fun _ _ => True) (.lift trivial) fun _ _ _ _ => .pure trivial

/-- What an injection does once the function has been found ends the injection if it is refused. -/
theorem Looked.refuses {m : Member} {s : Spec} {f : Function} {reading w' : World} {r : Refusal}
    (h : Looked call target member spec w m s f reading)
    (hr : Attempt.Refuses (do
      let old ← definitionOf m f s.code
      let new ← statementsOf s.code
      return (old, new)) reading r w') :
    Attempt.Refuses (plan call target member spec) w r w' := by
  obtain ⟨w₁, line, loc, hm, hcheck⟩ := h.checked
  obtain ⟨ref, v, hfound⟩ := h.found
  have hgiven : Attempt.Gives (ExceptT.mk (pure (functionOf reading m))) reading (ref, v, f) reading :=
    Attempt.gives_mk.2 ⟨hfound, rfl⟩
  unfold plan
  refine hm.refuses_bind (hcheck.refuses_bind ?_)
  refine (Attempt.gives_lift.2 (Run.gives_world.2 ⟨rfl, rfl⟩)).refuses_bind ?_
  rw [if_neg (by simpa using h.allowed)]
  refine hgiven.refuses_bind ?_
  obtain hold | ⟨old, w₂, hold, hrest⟩ := Attempt.refuses_bind.1 hr
  · exact hold.bind
  · refine hold.refuses_bind ?_
    obtain hnew | ⟨new, w₃, -, hpure⟩ := Attempt.refuses_bind.1 hrest
    · exact hnew.bind
    · cases (Run.gives_pure.1 hpure).1

/-- A definition that can not be read is refused for a cause that has no class. -/
theorem definitionOf_unreadable {m : Member} {f : Function} {code : Value} {text : String}
    (hsource : sourceOf w f = .ok text) (hunreadable : Unreadable (readIn text.toList)) :
    ∃ r, Attempt.Refuses (definitionOf m f code) w r w ∧ ¬r.HasClass := by
  obtain ⟨x, hx, hno⟩ := parseDefinition_of_unreadable hunreadable
  refine ⟨.fragment x, ?_, hno⟩
  unfold definitionOf
  refine (Attempt.gives_lift.2 (Run.gives_world.2 ⟨rfl, rfl⟩)).refuses_bind ?_
  rw [hsource]
  refine (Attempt.gives_pure.2 ⟨rfl, rfl⟩ : Attempt.Gives (pure text) w text w).refuses_bind ?_
  dsimp only
  rw [hx]
  rfl

/-- A snippet that is rejected is refused for just that, also where the function is a wrapper. -/
theorem ReadsSnippet.refuses {m : Member} {f : Function} {code : Value} {text : String}
    {x : FragmentFault} (h : ReadsSnippet w f) (htext : code.text? = some text)
    (hx : parseSnippet text.toList = .error x) :
    Attempt.Refuses (do
      let old ← definitionOf m f code
      let new ← statementsOf code
      return (old, new)) w (.fragment x) w := by
  have hrefuses : Attempt.Refuses (statementsOf code) w (.fragment x) w := statementsOf_refuses htext hx
  unfold definitionOf
  rw [bind_assoc]
  refine (Attempt.gives_lift.2 (Run.gives_world.2 ⟨rfl, rfl⟩)).refuses_bind ?_
  obtain ⟨source, d, hsource, hparse⟩ | ⟨patch, id, wrapped, hdispatch⟩ := h
  · rw [hsource, bind_assoc]
    refine (Attempt.gives_pure.2 ⟨rfl, rfl⟩ : Attempt.Gives (pure source) w source w).refuses_bind ?_
    dsimp only
    rw [hparse]
    exact (Attempt.gives_pure.2 ⟨rfl, rfl⟩ : Attempt.Gives (pure d) w d w).refuses_bind hrefuses.bind
  · have hsource : ∃ reason, sourceOf w f = .error reason := by
      unfold sourceOf
      rw [hdispatch]
      exact ⟨_, rfl⟩
    obtain ⟨reason, hsource⟩ := hsource
    rw [hsource, bind_assoc]
    unfold refuseUnavailable
    rw [hdispatch]
    exact hrefuses.bind.bind

/-! ## Making it ready -/

theorem bindCells_hasClass {f : Function} {code : Code} {r : Refusal}
    (h : bindCells f code = .error r) : r.HasClass := by
  unfold bindCells at h
  dsimp only at h
  split at h
  · cases h
  · cases h
    rfl

/-- An injection that leaks nothing gets as far as the compilation, or is refused for a cause that has
    a class. -/
theorem ready_classed (h : Suits Machine.call target member spec w)
    (hleaks : ¬Leaks Machine.call target member spec w) :
    (ready Machine.call target member spec).Classed w := by
  unfold ready
  refine .bind (plan_classed h hleaks) fun p w₁ hplan _ => ?_
  refine .bindTo (fun text w₂ => p.definition.toStmt.print = .ok text ∧ w₂ = w₁) ?_ ?_
  · unfold textOf
    split
    · exact .pure ⟨‹_›, rfl⟩
    · rename_i x hx
      exact (hleaks (.unprintable hplan hx)).elim
  rintro text w₂ - ⟨hprint, rfl⟩
  refine .bindTo (fun _ w₃ => w₃.injections = w₂.injections ∧ w₃.around = w₂.around ∧ w₃.dice = w₂.dice)
    (.lift ⟨rfl, rfl, rfl⟩) ?_
  rintro _ w₃ - ⟨hinjections, haround, hdice⟩
  refine .bindTo (fun _ _ => True) ?_ fun _ _ _ _ => .pure trivial
  -- Printing leaves the world as it is, so that the identifier is reserved where the plan was made.
  unfold newId
  refine .bind_world ?_
  rw [hinjections, haround, hdice]
  split
  · exact .bindTo (fun _ _ => True) (.lift trivial) fun _ _ _ _ => .pure trivial
  · rename_i x injections dice hreserve
    refine (hleaks (.identifier hplan hprint fun id hid => ?_)).elim
    rw [hreserve] at hid
    cases hid

/-- What is ready is compiled, or refused for a cause that has a class. -/
theorem replacementFor_classed {p : Plan} {text id : String}
    (hready : Attempt.Gives (ready call target member spec) w (p, text, id) w₁)
    (hleaks : ¬Leaks call target member spec w) : (replacementFor call p text id).Classed w₁ := by
  obtain ⟨g, hvalue⟩ := ready_function hready
  unfold replacementFor
  refine .bindTo (fun b w₂ => Settings.bool w₁.around registerKeys (.bool true) none = .ok b ∧ w₂ = w₁)
    ?_ ?_
  · unfold registers
    refine .bind_world ?_
    split
    · exact .pure ⟨‹_›, rfl⟩
    · rename_i x hx
      exact (hleaks (.setting hready hx)).elim
  rintro register w₂ - ⟨hsetting, rfl⟩
  have hcompiles : Compiles call target member spec w p text := ⟨id, w₂, register, hready, hsetting⟩
  refine .bindTo (fun _ _ => True) ?_ fun v w₃ _ _ => ?_
  · unfold materialize
    refine .bindTo (fun _ w₃ => w₃ = w₂) (.ofExcept (fun _ _ => rfl) fun r hr => ?_) ?_
    · -- Compiling reads the printed text once more.
      by_contra hno
      obtain hunreadable | ⟨⟨d, hd⟩, hmisnamed⟩ := compile_unclassed_iff.1 ⟨r, hr, hno⟩
      · exact hleaks (.rereading hcompiles hunreadable)
      · exact hleaks (.owner hcompiles hd hmisnamed)
    rintro code w₃ - rfl
    refine .bindTo (fun _ w₄ => w₄ = w₃)
      (.ofExcept (fun _ _ => rfl) fun _ => bindCells_hasClass) ?_
    rintro closure w₄ - rfl
    refine .bind (.lift (replica_ends hvalue _ _ _)) fun v w₅ _ _ => ?_
    refine .bindTo (fun _ _ => True) (.lift ?_) fun _ w₆ _ _ =>
      .bindTo (fun _ _ => True) (.lift trivial) fun _ _ _ _ => .pure trivial
    unfold registerText
    split <;> trivial
  · exact .lift (rebound_ends _ _)

theorem prepare_classed (h : Suits Machine.call target member spec w)
    (hleaks : ¬Leaks Machine.call target member spec w) :
    (prepare Machine.call target member spec).Classed w := by
  have hprepare : prepare Machine.call target member spec = (do
      let (p, text, id) ← ready Machine.call target member spec
      let v ← replacementFor Machine.call p text id
      return ⟨p, text, id, v⟩) := by
    unfold prepare ready
    simp only [bind_assoc, pure_bind]
  rw [hprepare]
  refine .bind (ready_classed h hleaks) fun ⟨p, text, id⟩ w₁ hready _ => ?_
  exact .bind (replacementFor_classed hready hleaks) fun _ _ _ _ => .pure trivial

/-! ## What leaks has no class -/

/-- A plan that is refused is an injection that is refused. -/
theorem refuses_of_plan {w' : World} {r : Refusal}
    (h : Attempt.Refuses (plan call target member spec) w r w') :
    Attempt.Refuses (apply call target member spec) w r w' :=
  (h.bind : Attempt.Refuses (prepare call target member spec) w r w').bind

/-- A compilation that is refused is an injection that is refused. -/
theorem Compiles.refuses {p : Plan} {text : String} (h : Compiles call target member spec w p text)
    (hcompile : ∀ file, ∃ r, compile text.toList p.function.frees (ownerName? p.function.qualname)
      p.function.codeName file = .error r ∧ ¬r.HasClass) :
    ∃ r w', Attempt.Refuses (apply call target member spec) w r w' ∧ ¬r.HasClass := by
  obtain ⟨id, w₁, register, hready, hsetting⟩ := h
  obtain ⟨r, hr, hno⟩ := hcompile (fileName id)
  have hcompiled : Attempt.Refuses (replacementFor call p text id) w₁ r w₁ := by
    refine (gives_registers hsetting).refuses_bind (Attempt.Refuses.bind ?_)
    exact (Attempt.refuses_mk.2 ⟨hr, rfl⟩).bind
  exact ⟨r, w₁, ((prepare_eq hready).2 r hcompiled).bind, hno⟩

/-- A record is kept only if none has its identifier. -/
theorem free_of_conclude {x : Prepared} (h : (conclude x).Gives w () w₁) :
    w.injections.journal.contains (.ofText x.id) = false := by
  unfold conclude keep at h
  simp only [Run.gives_bind, Run.gives_world] at h
  obtain ⟨_, _, htick, _, _, ⟨_, _, ⟨rfl, rfl⟩, hkeep⟩, -⟩ := h
  obtain ⟨-, rfl⟩ := Run.gives_tick.1 htick
  split at hkeep
  · rename_i journal hadd
    replace hadd := congrArg Option.isSome hadd
    rw [Journal.add?_isSome] at hadd
    simpa using hadd
  · exact absurd hkeep Run.not_gives_raise

/-- A new definition that can not be printed is what the injection is refused for. -/
theorem prepare_unprintable {p : Plan} {x : PrintFault}
    (planned : Attempt.Gives (plan call target member spec) w p w₁)
    (fault : p.definition.toStmt.print = .error x) :
    Attempt.Refuses (prepare call target member spec) w (.unprintable x) w₁ := by
  have htext : Attempt.Refuses (textOf p.definition) w₁ (.unprintable x) w₁ := by
    unfold textOf
    rw [fault]
    rfl
  exact planned.refuses_bind htext.bind

/-- An injection for which there is no identifier is refused for that. -/
theorem prepare_identifier {p : Plan} {text : String}
    (planned : Attempt.Gives (plan call target member spec) w p w₁)
    (printed : p.definition.toStmt.print = .ok text)
    (exhausted : ∀ id, (w₁.injections.reserve w₁.around w₁.dice).1 ≠ .ok id) :
    ∃ x w₂, Attempt.Refuses (prepare call target member spec) w (.identifier x) w₂ := by
  have htext : Attempt.Gives (textOf p.definition) w₁ text w₁ := by
    unfold textOf
    rw [printed]
    exact Attempt.gives_pure.2 ⟨rfl, rfl⟩
  -- The text is logged before an identifier is drawn, which leaves the dice as they are.
  obtain ⟨w₂, hlog, hinjections, haround, hdice⟩ : ∃ w₂, (Run.log .debug logger
      ("Regenerated source for " ++ p.member.name ++ ":\n" ++ text)).Gives w₁ () w₂ ∧
        w₂.injections = w₁.injections ∧ w₂.around = w₁.around ∧ w₂.dice = w₁.dice :=
    ⟨_, Run.gives_log.2 rfl, rfl, rfl, rfl⟩
  obtain ⟨x, hid⟩ : ∃ x, Attempt.Refuses newId w₂ (.identifier x) w₂ := by
    unfold newId
    rcases hreserve : w₁.injections.reserve w₁.around w₁.dice with ⟨x | id, injections, dice⟩
    · refine ⟨x, (Attempt.gives_lift.2 (Run.gives_world.2 ⟨rfl, rfl⟩)).refuses_bind ?_⟩
      rw [hinjections, haround, hdice, hreserve]
      rfl
    · exact absurd (by rw [hreserve]) (exhausted id)
  exact ⟨x, w₂, planned.refuses_bind
    (htext.refuses_bind ((Attempt.gives_lift.2 hlog).refuses_bind hid.bind))⟩

/-- An injection that can not tell whether to register its text is refused for that. -/
theorem prepare_setting {p : Plan} {text id : String} {x : SettingsFault}
    (made : Attempt.Gives (ready call target member spec) w (p, text, id) w₁)
    (fault : Settings.bool w₁.around registerKeys (.bool true) none = .error x) :
    Attempt.Refuses (prepare call target member spec) w (.settings x) w₁ := by
  have hsetting : Attempt.Refuses registers w₁ (.settings x) w₁ := by
    unfold registers
    refine (Attempt.gives_lift.2 (Run.gives_world.2 ⟨rfl, rfl⟩)).refuses_bind ?_
    rw [fault]
    rfl
  exact (prepare_eq made).2 _ hsetting.bind

/-- An injection that leaks is halted or refused for a cause that has no class. -/
theorem Leaks.unclassed (h : Leaks call target member spec w) :
    ¬(apply call target member spec).Classed w := by
  intro hclassed
  have hrefused : ∀ r w', Attempt.Refuses (apply call target member spec) w r w' → r.HasClass :=
    hclassed.refuses
  cases h with
  | definition looked source unreadable =>
    obtain ⟨r, hr, hno⟩ := definitionOf_unreadable source unreadable
    exact hno (hrefused _ _ (refuses_of_plan (looked.refuses hr.bind)))
  | snippet looked next given unreadable =>
    obtain ⟨x, hx, hcls⟩ := parseSnippet_of_unreadable unreadable
    have hclass := hrefused _ _ (refuses_of_plan (looked.refuses (next.refuses given hx)))
    simp [Refusal.HasClass, hcls] at hclass
  | unprintable planned fault => cases hrefused _ _ (prepare_unprintable planned fault).bind
  | identifier planned printed exhausted =>
    obtain ⟨x, w₂, hprepare⟩ := prepare_identifier planned printed exhausted
    cases hrefused _ _ hprepare.bind
  | setting made fault => cases hrefused _ _ (prepare_setting made fault).bind
  | rereading compiles unreadable =>
    obtain ⟨r, w', hr, hno⟩ :=
      compiles.refuses fun file => compile_unclassed_iff.2 (.inl unreadable)
    exact hno (hrefused _ _ hr)
  | owner compiles read misnamed =>
    obtain ⟨r, w', hr, hno⟩ :=
      compiles.refuses fun file => compile_unclassed_iff.2 (.inr ⟨⟨_, read⟩, misnamed⟩)
    exact hno (hrefused _ _ hr)
  | taken made written contained =>
    -- The record can not be kept under an identifier that is taken, and so the run is halted.
    obtain ⟨_, w₃, hconclude⟩ := ((hclassed.of_bind made).of_bind written).head
    rw [free_of_conclude hconclude] at contained
    cases contained

/-- **An injection is refused for causes that have a class, unless it leaks.** -/
theorem apply_classed_iff (h : Suits Machine.call target member spec w) :
    (apply Machine.call target member spec).Classed w ↔ ¬Leaks Machine.call target member spec w := by
  refine ⟨fun hclassed hleaks => hleaks.unclassed hclassed, fun hleaks => ?_⟩
  refine .bind (prepare_classed h hleaks) fun x w₁ hx _ => ?_
  refine .bind (Member.assign_classed fun v w₂ => h.civil x w₁ v w₂ hx) fun _ w₂ hassign _ => ?_
  refine .bindTo (fun _ _ => True) (.lift ?_) fun _ _ _ _ => .pure trivial
  cases hfree : w₂.injections.journal.contains (.ofText x.id) with
  | true => exact (hleaks (.taken hx hassign hfree)).elim
  | false =>
    obtain ⟨w₃, hw₃⟩ := conclude_succeeds hfree
    unfold Run.Ends
    rw [hw₃]
    trivial

end Graft.Injection

namespace Graft

open Machine Splice Syntax Injection

/-! ## The main result -/

/-- An injection of the character with code zero. -/
def zeroSpec : Injection.Spec := { code := .str "\x00", line := .int 2 }

/-- Whether a patch that does nothing can be written to the sample target. -/
def idlePatchIsPut : Bool :=
  match Run.result (Patch.prepare Machine.call sampleTarget (.str "idle") (some {})).run
      sampleWorld with
  | (.ok (.ok x), w₁) =>
    match Run.result (x.member.rewrap x.wrapper) w₁ with
    | (.ok v, w₂) =>
      match Run.result (x.member.put Machine.call v) w₂ with
      | (.ok (), _) => true
      | _ => false
    | _ => false
  | _ => false

/-- The injection of the character with code zero is refused for a cause that has no class, and a
    patch that does nothing can be written to the sample target and gives an identifier. -/
theorem sample_ends :
    Attempt.refusesThat (·.cls?.isNone)
        (Injection.prepare Machine.call sampleTarget (.str "idle") (some zeroSpec)) sampleWorld = true ∧
      idlePatchIsPut = true ∧
      Attempt.givesThat (fun _ => true)
        (Patch.apply Machine.call sampleTarget (.str "idle") (some {})) sampleWorld = true := by
  decide +kernel

theorem sample_resolve : Attempt.Gives (Member.resolve Machine.call sampleTarget (.str "idle"))
    sampleWorld { target := sampleTarget, name := "idle", value := .thing ⟨1⟩ } sampleWorld := rfl

theorem sample_readable :
    (Member.lookup Machine.call sampleTarget (sampleWorld.text (.str "idle"))).Calm sampleWorld :=
  trivial

theorem sample_suits_patch :
    Patch.Suits Machine.call sampleTarget (.str "idle") (some {}) sampleWorld where
  readable := sample_readable
  typed := by
    rintro s ⟨⟩
    exact .inl rfl
  described := by
    intro m w₁ h
    obtain ⟨rfl, rfl⟩ := Attempt.gives_unique sample_resolve h
    exact ⟨⟨1⟩, sampleFunction, { body := rfl, behind := .inl rfl, annotated := nofun }⟩
  civil := by
    intro x w₁ v w₂ hx hv
    have hput := sample_ends.2.1
    have hresult : Run.result (Patch.prepare Machine.call sampleTarget (.str "idle") (some {})).run
        sampleWorld = (.ok (.ok x), w₁) := hx
    have hresult' : Run.result (x.member.rewrap x.wrapper) w₁ = (.ok v, w₂) := hv
    simp only [idlePatchIsPut, hresult, hresult'] at hput
    split at hput
    · rename_i w₃ hw₃
      unfold Run.Civil Run.Ends
      rw [hw₃]
      trivial
    · cases hput

theorem zero_refuses : ∃ r w', Attempt.Refuses
    (Injection.prepare Machine.call sampleTarget (.str "idle") (some zeroSpec)) sampleWorld r w' ∧
      ¬r.HasClass := by
  obtain ⟨r, w', hrefused, hcls⟩ := Attempt.refusesThat_iff.1 sample_ends.1
  exact ⟨r, w', hrefused, by simpa [Refusal.HasClass] using hcls⟩

theorem zero_suits :
    Injection.Suits Machine.call sampleTarget (.str "idle") (some zeroSpec) sampleWorld where
  readable := sample_readable
  typed := by
    rintro s ⟨⟩
    exact ⟨_, rfl⟩
  civil := by
    intro x w₁ v w₂ hx
    obtain ⟨r, w', hrefused, -⟩ := zero_refuses
    cases (Run.gives_unique hx hrefused).1

end Graft
