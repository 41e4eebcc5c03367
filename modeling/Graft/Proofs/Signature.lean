import Graft.Proofs.PrivateNames

set_option autoImplicit false

/-! # Signatures and private parameters

The names of parameters are known like any other names where a definition stands.  So two places
give a definition the same signature exactly if the classes around them put the same in front of
private names, or no parameter has a private name. -/

namespace Graft.Code

open Graft.Scope Graft.Syntax

/-- The name of a parameter that can have a default. -/
def defaultedName : DefaultParameter → String
  | .mk p _ => p.name

/-- The names of all parameters. -/
def parameterNames : Parameters → List String
  | .mk posOnly plain star keywordOnly doubleStar =>
    posOnly.map defaultedName ++ plain.map defaultedName ++ (star.map Parameter.name).toList
      ++ keywordOnly.map defaultedName ++ (doubleStar.map Parameter.name).toList

/-- A parameter of the definition has a name that is private to the class around. -/
def HasPrivateParameter (d : Splice.Definition) : Prop :=
  ∃ n ∈ parameterNames d.params, isPrivate n.toList = true

theorem signatureOf_eq (c : Context) (posOnly plain keywordOnly : List DefaultParameter)
    (star doubleStar : Option Parameter) :
    signatureOf c (.mk posOnly plain star keywordOnly doubleStar) = {
      posOnly := (posOnly.map defaultedName).map c.known
      plain := (plain.map defaultedName).map c.known
      star := (star.map Parameter.name).map c.known
      keywordOnly := (keywordOnly.map defaultedName).map c.known
      doubleStar := (doubleStar.map Parameter.name).map c.known } := by
  have hdefaulted : ∀ p : DefaultParameter, (match p with
      | .mk p _ => c.known p.name) = c.known (defaultedName p) := by
    rintro ⟨p, d⟩
    rfl
  simp only [signatureOf, Signature.mk.injEq, List.map_map, Option.map_map]
  exact ⟨List.map_congr_left fun p _ => hdefaulted p, List.map_congr_left fun p _ => hdefaulted p,
    rfl, List.map_congr_left fun p _ => hdefaulted p, rfl⟩

/-- Signatures do not depend on where in the text parameters stand. -/
theorem signatureOf_mapSpan (c : Context) (f : Span → Span) (params : Parameters) :
    signatureOf c (params.mapSpan f) = signatureOf c params := by
  obtain ⟨posOnly, plain, star, keywordOnly, doubleStar⟩ := params
  have hdefaulted : ∀ ps, (mapDefaultSpans f ps).map defaultedName = ps.map defaultedName := by
    intro ps
    induction ps with
    | nil => rfl
    | cons p ps ih =>
      obtain ⟨⟨sp, n, type⟩, d⟩ := p
      rw [mapDefaultSpans, List.map_cons, List.map_cons, ih]
      rfl
  have hone : ∀ p, (mapParameterSpan? f p).map Parameter.name = p.map Parameter.name := by
    intro p
    rcases p with _ | ⟨sp, n, type⟩ <;> rfl
  simp only [Parameters.mapSpan, signatureOf_eq, hdefaulted, hone]

/-- Definitions that are alike have the same signature in the same place. -/
theorem signatureOf_alike {d e : Splice.Definition} (h : d.Alike e) (c : Context) :
    signatureOf c d.params = signatureOf c e.params := by
  rw [← signatureOf_mapSpan c noSpan, h.params, signatureOf_mapSpan]

theorem map_known_eq_iff {c c' : Context} (ns : List String) :
    ns.map c.known = ns.map c'.known ↔ ∀ n ∈ ns, c.known n = c'.known n := List.map_inj_left

theorem option_map_known_eq_iff {c c' : Context} (n : Option String) :
    n.map c.known = n.map c'.known ↔ ∀ m ∈ n.toList, c.known m = c'.known m := by
  cases n <;> simp

/-- Signatures are the same exactly if all names of parameters are. -/
theorem signatureOf_eq_iff_names {c c' : Context} {params : Parameters} :
    signatureOf c params = signatureOf c' params ↔
      ∀ n ∈ parameterNames params, c.known n = c'.known n := by
  obtain ⟨posOnly, plain, star, keywordOnly, doubleStar⟩ := params
  simp only [signatureOf_eq, Signature.mk.injEq, map_known_eq_iff, option_map_known_eq_iff,
    parameterNames, List.mem_append, or_imp, forall_and, and_assoc]

theorem known_eq_iff {c c' : Context} (n : String) :
    c.known n = c'.known n ↔ leadOf c.owner = leadOf c'.owner ∨ isPrivate n.toList = false := by
  unfold Context.known
  by_cases hn : isPrivate n.toList = true
  · simpa [hn] using mangle_eq_iff hn
  · rw [Bool.not_eq_true] at hn
    simp [hn, mangle_of_not_private hn]

/-- **When signatures are the same.**  A definition has the same signature in two places exactly if
    the classes around put the same in front of private names or no parameter is private. -/
theorem signatureOf_eq_iff {c c' : Context} {d : Splice.Definition} :
    signatureOf c d.params = signatureOf c' d.params ↔
      leadOf c.owner = leadOf c'.owner ∨ ¬HasPrivateParameter d := by
  simp only [signatureOf_eq_iff_names, known_eq_iff, HasPrivateParameter, not_exists, not_and,
    Bool.not_eq_true]
  constructor
  · intro h
    by_cases hlead : leadOf c.owner = leadOf c'.owner
    · exact .inl hlead
    · exact .inr fun n hn => (h n hn).resolve_left hlead
  · rintro (hlead | hnone) n hn
    · exact .inl hlead
    · exact .inr (hnone n hn)

end Graft.Code

namespace Graft.Injection

open Graft.Code Graft.Machine Graft.Scope

/-! ## The signature of what is put in place -/

theorem MadeFrom.signature_eq {code : Code} {d : Splice.Definition} {inner : Context}
    {around : List String} (h : MadeFrom code d inner around) :
    code.info.signature = signatureOf inner d.params := by
  obtain ⟨c, is, rfl, -, rfl⟩ := h.made
  rfl

section

variable {call : Caller} {target member : Value} {spec : Option Spec} {w w' : World} {s : Success}

/-- The new code has the signature that the old definition has inside the class that is guessed. -/
theorem Succeeds.signature_eq (h : Succeeds call target member spec w s w')
    (hnamed : IsDefined s.plan.function) (hback : ReadsBack s.plan s.text) {c : Context}
    (hc : c.owner = s.plan.owner) : s.code.info.signature = signatureOf c s.plan.old.params := by
  obtain ⟨d, inner, around, hd, hfrom, howner, -⟩ := compile_madeFrom hnamed h.compiled
  have halike : d.Alike s.plan.definition := hback d hd
  have hsame : signatureOf inner d.params = signatureOf c d.params :=
    signatureOf_eq_iff.2 (.inl (by rw [howner, hc]; rfl))
  rw [hfrom.signature_eq, hsame]
  exact signatureOf_alike halike c

/-- The signature stays as it is exactly if the guess of the class is right or no parameter is
    private. -/
theorem Succeeds.signature_eq_iff (h : Succeeds call target member spec w s w') {inner : Context}
    {old : Code} (hmade : MadeBy s.plan.function s.plan.old inner)
    (hold : s.plan.function.behaviour = .code old) (hback : ReadsBack s.plan s.text) :
    s.code.info.signature = old.info.signature ↔
      s.GuessesRight inner ∨ ¬HasPrivateParameter s.plan.old := by
  obtain ⟨code, d, around, hcode, halike, hfrom⟩ := hmade.code
  rw [hold] at hcode
  cases hcode
  have hguessed := h.signature_eq hmade.named hback (c := { inner with owner := s.plan.owner }) rfl
  rw [hguessed, hfrom.signature_eq, signatureOf_alike halike inner]
  exact signatureOf_eq_iff

end

end Graft.Injection
