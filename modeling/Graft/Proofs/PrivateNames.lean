import Graft.Proofs.Enclosing
import Graft.Proofs.Naming
import Graft.Proofs.Recompilation

set_option autoImplicit false

/-! # When private names keep their meaning

A name that is private to a class has the class's name in front.  A function that is compiled anew
is put into a class that is guessed from its qualified name, so its private names stay the same
exactly if the class that it stood in puts the same in front of them.  That is so for the methods of
a class but not for functions that stand inside methods: they get no class at all. -/

namespace Graft.Scope

open Graft.Syntax

/-! ## What stands in front of private names -/

/-- What private names have in front, if they belong to a class. -/
def leadOf : Option String → List Char
  | none => []
  | some cls => privateLead cls.toList

theorem mangle_private {n : String} (h : isPrivate n.toList = true) (owner : Option String) :
    mangle owner n = String.ofList (leadOf owner ++ n.toList) := by
  cases owner with
  | none => rw [mangle, leadOf, List.nil_append, String.ofList_toList]
  | some cls => rw [mangle, if_pos h, leadOf]

/-- A private name is the same for two classes exactly if they put the same in front. -/
theorem mangle_eq_iff {n : String} (h : isPrivate n.toList = true) {owner owner' : Option String} :
    mangle owner n = mangle owner' n ↔ leadOf owner = leadOf owner' := by
  rw [mangle_private h, mangle_private h, String.ofList_inj]
  exact List.append_left_inj _

theorem sameNames_iff {owner owner' : Option String} :
    SameNames owner owner' ↔ leadOf owner = leadOf owner' := by
  constructor
  · intro h
    exact (mangle_eq_iff (n := "__x") (by decide)).1 (h _)
  · intro h n
    by_cases hn : isPrivate n.toList = true
    · exact (mangle_eq_iff hn).2 h
    · rw [Bool.not_eq_true] at hn
      rw [Code.mangle_of_not_private hn, Code.mangle_of_not_private hn]

/-- The name is private to the class around the text that uses it. -/
def Use.IsPrivate (u : Use) : Prop := u.cls = none ∧ isPrivate u.name.toList = true

theorem Use.known_eq_iff {u : Use} {owner owner' : Option String} :
    u.known owner = u.known owner' ↔ leadOf owner = leadOf owner' ∨ ¬u.IsPrivate := by
  obtain ⟨cls, n⟩ := u
  unfold Use.known Use.IsPrivate
  cases cls with
  | some cls => simp
  | none =>
    by_cases hn : isPrivate n.toList = true
    · simpa [hn] using mangle_eq_iff hn
    · rw [Bool.not_eq_true] at hn
      simp [hn, Code.mangle_of_not_private hn]

/-- Names are the same for two classes exactly if those put the same in front or none of the names
    is private to them. -/
theorem map_known_eq_iff {us : List Use} {owner owner' : Option String} :
    us.map (Use.known owner) = us.map (Use.known owner') ↔
      leadOf owner = leadOf owner' ∨ ∀ u ∈ us, ¬u.IsPrivate := by
  rw [List.map_inj_left]
  simp only [Use.known_eq_iff]
  constructor
  · intro h
    by_cases hlead : leadOf owner = leadOf owner'
    · exact .inl hlead
    · exact .inr fun u hu => (h u hu).resolve_left hlead
  · rintro (hlead | hnone) u hu
    · exact .inl hlead
    · exact .inr (hnone u hu)

end Graft.Scope

namespace Graft.Injection

open Graft.Code Graft.Machine Graft.Scope Graft.Syntax

/-! ## The names in the code -/

/-- The code of a definition names what the definition's body uses. -/
theorem MadeFrom.names_eq {code : Code} {d : Splice.Definition} {inner : Context}
    {around : List String} (h : MadeFrom code d inner around) :
    namesOf code.body = (stmtsUses none false d.body).map (Use.known inner.owner) := by
  obtain ⟨c, is, hinner, his, rfl⟩ := h.made
  have hfits : inner.Fits none inner.owner false := by
    rw [hinner]
    exact ⟨rfl, rfl⟩
  have hbody := stmts_names hfits d.body is his
  rw [functionCode, Code.body, namesOf_append, hbody]
  simp [returnNone, Instr.names]

/-- The body of a definition uses a name that is private to the class around the definition. -/
def UsesPrivate (d : Splice.Definition) : Prop := ∃ u ∈ stmtsUses none false d.body, u.IsPrivate

namespace Success

/-- The names that statements have in the new code. -/
def namesIn (s : Success) (ss : List Stmt) : List String :=
  (stmtsUses none false ss).map (Use.known s.plan.owner)

/-- The class that is guessed for the function puts the same in front of private names as the class
    around the place does. -/
def GuessesRight (s : Success) (inner : Context) : Prop :=
  leadOf s.plan.owner = leadOf inner.owner

end Success

section

variable {call : Caller} {target member : Value} {spec : Option Spec} {w w' : World} {id : String}
  {s : Success} {inner : Context}

theorem Succeeds.madeFrom (h : Succeeds call target member spec w s w')
    (hmade : MadeBy s.plan.function s.plan.old inner) (hback : ReadsBack s.plan s.text) :
    ∃ d inner' around, d.Alike s.plan.definition ∧ MadeFrom s.code d inner' around ∧
      inner'.owner = s.plan.owner := by
  obtain ⟨d, inner', around, hd, hfrom, howner, -⟩ := compile_madeFrom hmade.named h.compiled
  exact ⟨d, inner', around, hback d hd, hfrom, howner⟩

/-- The new code names what the old body uses and, in between, what the new statements use. -/
theorem Succeeds.names_eq (h : Succeeds call target member spec w s w')
    (hmade : MadeBy s.plan.function s.plan.old inner) (hback : ReadsBack s.plan s.text) :
    namesOf s.code.body = s.namesIn (s.plan.old.body.take s.plan.index) ++ s.namesIn s.plan.new ++
      s.namesIn (s.plan.old.body.drop s.plan.index) := by
  obtain ⟨d, inner', around, halike, hfrom, howner⟩ := h.madeFrom hmade hback
  rw [hfrom.names_eq, howner, stmtsUses_alike halike]
  simp only [Plan.definition, Splice.insertAt, stmtsUses_append, List.map_append, Success.namesIn]

/-- What the old body uses has the same names in the new code as in the old one exactly if the guess
    is right or no name is private. -/
theorem namesIn_old_eq_iff {old : Code} {d : Splice.Definition} {around : List String}
    (halike : d.Alike s.plan.old) (hfrom : MadeFrom old d inner around) :
    s.namesIn s.plan.old.body = namesOf old.body ↔
      s.GuessesRight inner ∨ ¬UsesPrivate s.plan.old := by
  rw [hfrom.names_eq, stmtsUses_alike halike, Success.namesIn, map_known_eq_iff]
  simp only [Success.GuessesRight, UsesPrivate, not_exists, not_and]

/-- **When the guess is right** for a function that has kept the qualified name it got where it
    stands. -/
theorem guessesRight_iff {c : Context} (hc : Reached c) {sp : Span} {name : String} {isAsync : Bool}
    (hname : isPlainName name = true) (hinner : inner = c.ofFunction sp name isAsync)
    (hqualname : s.plan.function.qualname = inner.qualname) :
    s.GuessesRight inner ↔ leadOf c.owner = [] ∨ c.IsClassOf name := by
  have hguess : s.plan.owner = if c.IsClassOf name then c.owner else none := by
    rw [Plan.owner, hqualname, hinner]
    exact hc.ownerName?_eq hname
  have howner : inner.owner = c.owner := by
    rw [hinner]
    rfl
  rw [Success.GuessesRight, hguess, howner]
  by_cases hcls : c.IsClassOf name
  · simp [hcls]
  · simp only [hcls, or_false]
    exact eq_comm

end

end Graft.Injection

namespace Graft

open Injection Code Scope Machine

/-! ## The main result -/

theorem sample_madeBy {s : Success} {w' : World}
    (h : Succeeds Machine.call sampleTarget (.str "idle") (some sampleSpec) sampleWorld s w') :
    MadeBy s.plan.function s.plan.old sampleInside := by
  obtain ⟨hfunction, hold, -⟩ := isSamplePlan_iff.1 (sample_succeeds h).1
  exact madeBy_of_isSampleFunction hfunction hold

end Graft
