import Graft.Injection.Apply
import Graft.Proofs.Target

set_option autoImplicit false

/-! # What an injection is refused for

Some causes of refusal have to do with the function that an injection finds: it must not be changed,
or its text can not be had.  Only the steps that look at the function refuse an injection for one of
them; whatever else goes wrong has other causes.  The causes that come up behind these steps have to
do with neither the function nor with what has been asked for. -/

namespace Graft

open Machine Data

/-- A cause of refusal has to do with the function that has been found. -/
inductive Refusal.OfFunction : Refusal → Prop
  | forbidden (member : String) : OfFunction (.forbidden member)
  | noSource (member typeName : String) : OfFunction (.noSource member typeName)
  | anonymous (member : String) : OfFunction (.anonymous member)
  | sourceUnavailable (member reason : String) : OfFunction (.sourceUnavailable member reason)

/-- A cause of refusal comes up once the function has been looked at: a text can not be read, written
    or compiled, a setting or an identifier can not be had, or the target refuses the write. -/
inductive Refusal.Late : Refusal → Prop
  | fragment (f : Splice.FragmentFault) : Late (.fragment f)
  | unprintable (f : Syntax.PrintFault) : Late (.unprintable f)
  | identifier (f : Register.ReserveFault) : Late (.identifier f)
  | settings (f : SettingsFault) : Late (.settings f)
  | doesNotCompile (source : List Char) (f : Syntax.Fault) : Late (.doesNotCompile source f)
  | ownerName (f : Syntax.Rejection) : Late (.ownerName f)
  | undefinedName (literal : String) : Late (.undefinedName literal)
  | lacksVariables (qualname : String) (names : List String) : Late (.lacksVariables qualname names)
  | writeRefused (member reason cls : String) : Late (.writeRefused member reason cls)

/-- A cause of refusal comes up when something is asked for or when the function is looked at. -/
def Refusal.Early (r : Refusal) : Prop := ¬r.Late

theorem Refusal.Late.not_early {r : Refusal} (h : r.Late) : ¬r.Early := fun hearly => hearly h

theorem Refusal.OfFunction.early {r : Refusal} (h : r.OfFunction) : r.Early := by
  cases h <;> nofun

/-! ## Steps that are not refused for a cause -/

/-- A result is no refusal for one of the causes. -/
def Indifferent (P : Refusal → Prop) {α : Type} (e : Except Refusal α) : Prop :=
  ∀ r, P r → e ≠ .error r

namespace Indifferent

variable {P : Refusal → Prop} {α β ε : Type}

theorem bind {e : Except Refusal α} {f : α → Except Refusal β} (he : Indifferent P e)
    (hf : ∀ a, Indifferent P (f a)) : Indifferent P (e >>= f) := by
  intro r hr h
  cases e with
  | error r => exact he _ hr (congrArg Except.error (Except.error.inj h))
  | ok a => exact hf a r hr h

theorem error {r : Refusal} (hr : ¬P r) : Indifferent P (.error r : Except Refusal α) := by
  rintro _ hof ⟨⟩
  exact hr hof

theorem mapError {e : Except ε α} {f : ε → Refusal} (hf : ∀ x, ¬P (f x)) :
    Indifferent P (e.mapError f) := by
  cases e with
  | error x => exact error (hf x)
  | ok a => nofun

end Indifferent

/-- An attempt is not refused for one of the causes. -/
def Attempt.Indifferent (P : Refusal → Prop) {α : Type} (x : Attempt α) : Prop :=
  ∀ w r w', P r → ¬Attempt.Refuses x w r w'

namespace Attempt.Indifferent

variable {P : Refusal → Prop} {α β : Type}

theorem pure (a : α) : Attempt.Indifferent P (Pure.pure a) := by
  intro w r w' _ h
  exact nomatch (Run.gives_pure.1 h).1

theorem lift (x : Run α) : Attempt.Indifferent P (liftM x) := fun _ _ _ _ => Attempt.not_refuses_lift

theorem mk {e : Except Refusal α} (he : Graft.Indifferent P e) :
    Attempt.Indifferent P (ExceptT.mk (Pure.pure e)) := by
  intro w r w' hr h
  exact he r hr (Attempt.refuses_mk.1 h).1

theorem refuse {r : Refusal} (hr : ¬P r) :
    Attempt.Indifferent P (Attempt.refuse r : Attempt α) :=
  mk (e := .error r) (.error hr)

theorem bind {x : Attempt α} {f : α → Attempt β} (hx : x.Indifferent P)
    (hf : ∀ a, (f a).Indifferent P) : Attempt.Indifferent P (x >>= f) := by
  intro w r w' hr h
  obtain h | ⟨a, w₁, -, h⟩ := Attempt.refuses_bind.1 h
  · exact hx _ _ _ hr h
  · exact hf a _ _ _ hr h

end Attempt.Indifferent

theorem Member.resolve_indifferent (call : Caller) (target name : Value) :
    (Member.resolve call target name).Indifferent Refusal.OfFunction := by
  unfold Member.resolve
  split
  · exact .refuse nofun
  split
  · exact .refuse nofun
  refine .bind (.lift _) fun w => .bind (.lift _) fun found => ?_
  split
  · exact .refuse nofun
  · refine .bind (.lift _) fun w => ?_
    split
    · exact .pure _
    · exact .refuse nofun

theorem Member.assign_indifferent (call : Caller) (m : Member) (v : Value) :
    (m.assign call v).Indifferent Refusal.Early := by
  intro w r w' hr h
  obtain ⟨_, _, _, -, -, -, rfl⟩ := Member.assign_refuses h
  exact (Refusal.Late.writeRefused _ _ _).not_early hr

namespace Injection

theorem check_indifferent (call : Caller) (spec : Option Spec) :
    (check call spec).Indifferent Refusal.OfFunction := by
  unfold check
  cases spec with
  | none => exact .refuse nofun
  | some s =>
    dsimp only
    split
    · exact .refuse nofun
    split
    · exact .refuse nofun
    refine .bind (.lift _) fun w => ?_
    split
    · exact .refuse nofun
    refine .bind (.lift _) fun blank => ?_
    split
    · exact .refuse nofun
    refine .bind (.lift _) fun w => ?_
    split
    · split
      · exact .refuse nofun
      · split
        · exact .pure _
        · exact .refuse nofun
    · exact .refuse nofun

theorem statementsOf_indifferent (code : Value) :
    (statementsOf code).Indifferent Refusal.Early := by
  unfold statementsOf
  split
  · split
    · exact .pure _
    · exact .refuse (Refusal.Late.fragment _).not_early
  · exact .lift (Run.raise _ _)

theorem compile_indifferent (source : List Char) (frees : List String) (owner : Option String)
    (name file : String) : Indifferent Refusal.Early (compile source frees owner name file) := by
  have hcode : ∀ code name, Indifferent Refusal.Early (codeOf code name) := by
    intro code name
    unfold codeOf
    -- Whichever way the text is surrounded, what compiling refuses is refused late.
    split
    · rintro _ _ ⟨⟩
    · exact .error (Refusal.Late.undefinedName _).not_early
  have hmodule : ∀ ss, Indifferent Refusal.Early (codeOfModule source file ss) := fun ss =>
    .mapError fun f => (Refusal.Late.doesNotCompile _ f).not_early
  unfold compile
  refine .bind (.mapError fun f => (Refusal.Late.fragment f).not_early) fun d => ?_
  split
  · unfold compileSurrounded
    refine .bind (hmodule _) fun code => .bind (hcode _ _) fun factory => ?_
    split
    · exact .bind (hcode _ _) fun cls => hcode _ _
    · exact hcode _ _
  · unfold compileMisnamed
    split
    · exact .bind (hmodule _) fun code => .error (Refusal.Late.undefinedName _).not_early
    · exact .error (Refusal.Late.ownerName _).not_early

theorem replacementFor_indifferent (call : Caller) (p : Plan) (text id : String) :
    (replacementFor call p text id).Indifferent Refusal.Early := by
  have hregisters : registers.Indifferent Refusal.Early := by
    unfold registers
    refine .bind (.lift _) fun w => ?_
    split
    · exact .pure _
    · exact .refuse (Refusal.Late.settings _).not_early
  have hbound : ∀ code, Indifferent Refusal.Early (bindCells p.function code) := by
    intro code
    unfold bindCells
    dsimp only
    split
    · nofun
    · exact .error (Refusal.Late.lacksVariables _ _).not_early
  unfold replacementFor materialize
  refine .bind hregisters fun register => .bind ?_ fun v => .lift _
  refine .bind (.mk (compile_indifferent _ _ _ _ _)) fun code => ?_
  refine .bind (.mk (hbound code)) fun closure => ?_
  exact .bind (.lift _) fun v => .bind (.lift _) fun _ => .bind (.lift _) fun _ => .pure _

theorem newId_indifferent : newId.Indifferent Refusal.Early := by
  unfold newId
  refine .bind (.lift _) fun w => ?_
  split
  · exact .bind (.lift _) fun _ => .pure _
  · exact .refuse (Refusal.Late.identifier _).not_early

theorem textOf_indifferent (d : Splice.Definition) : (textOf d).Indifferent Refusal.Early := by
  unfold textOf
  split
  · exact .pure _
  · exact .refuse (Refusal.Late.unprintable _).not_early

/-! ## Steps that look at the function -/

theorem definitionIn_indifferent (source : String) : Attempt.Indifferent Refusal.Early (
    match Splice.parseDefinition source.toList with
    | .ok d => return d
    | .error fault => Attempt.refuse (.fragment fault)) := by
  split
  · exact .pure _
  · exact .refuse (Refusal.Late.fragment _).not_early

/-- The definition of a function is refused early only if its text can not be had. -/
theorem definitionOf_refuses {m : Member} {f : Function} {code : Value} {w w' : World} {r : Refusal}
    (h : Attempt.Refuses (definitionOf m f code) w r w') (hr : r.Early) :
    ∃ reason, sourceOf w f = .error reason ∧ r = .sourceUnavailable m.name reason := by
  unfold definitionOf at h
  obtain h | ⟨_, _, hworld, h⟩ := Attempt.refuses_bind.1 h
  · exact absurd h Attempt.not_refuses_lift
  obtain ⟨rfl, rfl⟩ := Run.gives_world.1 (Attempt.gives_lift.1 hworld)
  dsimp only at h
  split at h
  · exact absurd h (Attempt.Indifferent.bind (.pure _) definitionIn_indifferent _ _ _ hr)
  · rename_i reason hsource
    refine ⟨reason, hsource, ?_⟩
    obtain h | ⟨source, w₁, -, h⟩ := Attempt.refuses_bind.1 h
    · unfold refuseUnavailable at h
      split at h
      · obtain h | ⟨_, _, -, h⟩ := Attempt.refuses_bind.1 h
        · exact absurd h (statementsOf_indifferent code _ _ _ hr)
        · exact (Except.error.inj (Run.gives_pure.1 h).1).symm
      · exact (Except.error.inj (Run.gives_pure.1 h).1).symm
    · exact absurd h (definitionIn_indifferent source _ _ _ hr)

/-! ## The whole -/

section Whole

variable {call : Caller} {target member : Value} {spec : Option Spec} {w w' : World} {r : Refusal}

/-- A plan is refused early if no member is found, if what is asked for does not check out, or because
    of the function that has been found. -/
theorem plan_refuses (h : Attempt.Refuses (plan call target member spec) w r w') (hr : r.Early) :
    Attempt.Refuses (Member.resolve call target member) w r w' ∨
      ∃ m w₁, Attempt.Gives (Member.resolve call target member) w m w₁ ∧
        (Attempt.Refuses (check call spec) w₁ r w' ∨
          ∃ checked w₂, Attempt.Gives (check call spec) w₁ checked w₂ ∧
            (w₂.flag? m.value = some false ∧ r = .forbidden m.name ∨ functionOf w₂ m = .error r ∨
              ∃ ref v f reason, functionOf w₂ m = .ok (ref, v, f) ∧ sourceOf w₂ f = .error reason ∧
                r = .sourceUnavailable m.name reason)) := by
  unfold plan at h
  refine (Attempt.refuses_bind.1 h).imp_right fun ⟨m, w₁, hresolve, h⟩ => ⟨m, w₁, hresolve, ?_⟩
  refine (Attempt.refuses_bind.1 h).imp_right fun ⟨checked, w₂, hcheck, h⟩ => ⟨checked, w₂, hcheck, ?_⟩
  obtain h | ⟨_, _, hworld, h⟩ := Attempt.refuses_bind.1 h
  · exact absurd h Attempt.not_refuses_lift
  obtain ⟨rfl, rfl⟩ := Run.gives_world.1 (Attempt.gives_lift.1 hworld)
  by_cases hflag : w₂.flag? m.value = some false
  · rw [if_pos (by simp [hflag])] at h
    exact .inl ⟨hflag, (Except.error.inj (Attempt.refuses_mk.1 h).1).symm⟩
  · rw [if_neg (by simpa using hflag)] at h
    obtain h | ⟨⟨ref, v, f⟩, w₃, hgiven, h⟩ := Attempt.refuses_bind.1 h
    · exact .inr (.inl (Attempt.refuses_mk.1 h).1)
    obtain ⟨hfunction, rfl⟩ := Attempt.gives_mk.1 hgiven
    obtain h | ⟨old, w₄, -, h⟩ := Attempt.refuses_bind.1 h
    · obtain ⟨reason, hsource, hreason⟩ := definitionOf_refuses h hr
      exact .inr (.inr ⟨ref, v, f, reason, hfunction, hsource, hreason⟩)
    · refine absurd h (Attempt.Indifferent.bind (statementsOf_indifferent _) ?_ _ _ _ hr)
      exact fun new => .bind (.lift _) fun _ => .pure _

/-- An injection is refused early only while it is planned. -/
theorem apply_refuses (h : Attempt.Refuses (apply call target member spec) w r w') (hr : r.Early) :
    Attempt.Refuses (plan call target member spec) w r w' := by
  unfold apply prepare at h
  obtain h | ⟨x, w₂, -, h⟩ := Attempt.refuses_bind.1 h
  · obtain h | ⟨p, w₂, -, h⟩ := Attempt.refuses_bind.1 h
    · exact h
    · refine absurd h (Attempt.Indifferent.bind (textOf_indifferent _) (fun text => ?_) _ _ _ hr)
      refine .bind (.lift _) fun _ => .bind newId_indifferent fun id => ?_
      exact .bind (replacementFor_indifferent _ _ _ _) fun v => .pure _
  · refine absurd h (Attempt.Indifferent.bind (Member.assign_indifferent _ _ _) ?_ _ _ _ hr)
    exact fun _ => .bind (.lift _) fun _ => .pure _

end Whole

end Injection

end Graft
