import Graft.Proofs.Atomicity
import Graft.Proofs.Marks
import Graft.Proofs.Remarks

set_option autoImplicit false

/-! # Snippets without statements

An injection is meant to put something in, and one whose code is missing is refused.  The code counts
as missing if it consists of blanks alone; whether it holds a statement is seen only when it is read.
The two differ for texts of comments: they are read as no statements, and their injections succeed
with the body left as it was. -/

namespace Graft.Injection

open Machine

/-! ## What is missing -/

/-- What an injection of a text lacks, in the order in which that is looked for. -/
def lacking? (s : Spec) (text : String) : Option Refusal :=
  if s.line.isNone then some .noLine
  else if s.loc.isNone then some .noLocation
  else if text.toList.all Text.isBlank then some .noCode
  else none

theorem cls?_of_lacking {s : Spec} {text : String} {r : Refusal} (h : lacking? s text = some r) :
    r.cls? = some .missingField := by
  unfold lacking? at h
  split_ifs at h <;> cases h <;> rfl

theorem trimmed_isEmpty (text : String) :
    (Builtin.trimmed Text.isBlank true true text).isEmpty = text.toList.all Text.isBlank := by
  rw [Bool.eq_iff_iff, String.isEmpty_iff, ← String.toList_eq_nil_iff]
  simp only [Builtin.trimmed, if_true, String.toList_ofList, List.reverse_eq_nil_iff,
    List.dropWhile_eq_nil_iff, List.mem_reverse, List.all_eq_true]
  refine ⟨fun h c hc => ?_, fun h c hc => h c ((List.dropWhile_sublist _).mem hc)⟩
  rw [← List.takeWhile_append_dropWhile (p := Text.isBlank) (l := text.toList), List.mem_append] at hc
  exact hc.elim List.mem_takeWhile_imp (h c)

variable {s : Spec} {text : String} {w w' : World} {r : Refusal}

theorem gives_isBlank (text : String) (w : World) :
    Attempt.Gives (liftM (isBlank Machine.call (.str text))) w (text.toList.all Text.isBlank) w := by
  have htruth : (!w.truth (.str (Builtin.trimmed Text.isBlank true true text))) =
      text.toList.all Text.isBlank := by rw [World.truth, trimmed_isEmpty, Bool.not_not]
  exact Attempt.gives_lift.2 (htruth ▸ isBlank_text text w)

/-- What is missing is what an injection is refused for, before anything has been done. -/
theorem check_of_lacking (hcode : s.code = .str text) (h : lacking? s text = some r) (w : World) :
    Attempt.Refuses (check Machine.call (some s)) w r w := by
  have hworld : Attempt.Gives (liftM Run.world) w w w :=
    Attempt.gives_lift.2 (Run.gives_world.2 ⟨rfl, rfl⟩)
  unfold lacking? at h
  unfold check
  dsimp only
  split_ifs at h with hline hloc hblank <;> cases h
  · rw [if_pos hline]
    rfl
  · rw [if_neg hline, if_pos hloc]
    rfl
  · rw [if_neg hline, if_neg hloc, hcode]
    refine hworld.refuses_bind ?_
    split
    · rfl
    · refine (gives_isBlank text w).refuses_bind ?_
      rw [if_pos hblank]
      rfl

/-- If nothing is missing, an injection may still be refused because of what has been given, but not
    because something is missing. -/
theorem check_of_complete (hcode : s.code = .str text) (h : lacking? s text = none)
    (hrefuses : Attempt.Refuses (check Machine.call (some s)) w r w') : r.cls? = some .spec := by
  have hworld : Attempt.Gives (liftM Run.world) w w w :=
    Attempt.gives_lift.2 (Run.gives_world.2 ⟨rfl, rfl⟩)
  unfold lacking? at h
  split_ifs at h with hline hloc hblank
  have hne : w.truth (.str text) = true := by
    rcases htext : text.isEmpty with _ | _
    · rw [World.truth, htext]; rfl
    · rw [String.isEmpty_iff] at htext
      subst htext
      exact absurd rfl hblank
  unfold check at hrefuses
  dsimp only at hrefuses
  rw [if_neg hline, if_neg hloc, hcode, hworld.refuses_bind_iff, if_neg (by simp [hne]),
    (gives_isBlank text w).refuses_bind_iff, if_neg hblank, hworld.refuses_bind_iff] at hrefuses
  -- What is left to be refused for are a line and a location that are given but mean nothing.
  split at hrefuses
  · split_ifs at hrefuses
    · obtain ⟨⟨⟩, -⟩ := Attempt.refuses_mk.1 hrefuses
      rfl
    · split at hrefuses
      · cases (Run.gives_pure.1 hrefuses).1
      · obtain ⟨⟨⟩, -⟩ := Attempt.refuses_mk.1 hrefuses
        rfl
  · obtain ⟨⟨⟩, -⟩ := Attempt.refuses_mk.1 hrefuses
    rfl

/-! ## Injections of a text -/

section

variable {target member : Value} {w₁ : World} {m : Member} {id : String}

/-- Nothing that has to do with the function is a lack of something. -/
theorem missing_early (h : r.cls? = some .missingField) : r.Early := by
  rintro hlate
  cases hlate with
  | fragment f => cases f <;> cases h
  | _ => cases h

/-- **What an injection of a text is refused for as missing.**  It is what the injection lacks first,
    and nothing has been done then but to find the member. -/
theorem apply_refuses_missing
    (hfound : Attempt.Gives (Member.resolve Machine.call target member) w m w₁)
    (hcode : s.code = .str text) (hr : r.cls? = some .missingField) :
    Attempt.Refuses (apply Machine.call target member (some s)) w r w' ↔
      w' = w₁ ∧ lacking? s text = some r := by
  constructor
  · intro h
    obtain h | ⟨m', w₀, hresolve, h | ⟨checked, w₂, -, hcause⟩⟩ :=
      plan_refuses (apply_refuses h (missing_early hr)) (missing_early hr)
    · exact nomatch (Run.gives_unique hfound h).1
    · obtain ⟨rfl, rfl⟩ := Attempt.gives_unique hfound hresolve
      cases hlacks : lacking? s text with
      | none =>
        have hspec := check_of_complete hcode hlacks h
        rw [hr] at hspec
        cases hspec
      | some r' =>
        obtain ⟨⟨⟩, rfl⟩ := Run.gives_unique h (check_of_lacking hcode hlacks w₁)
        exact ⟨rfl, rfl⟩
    · -- The causes that have to do with the function are of other classes.
      obtain ⟨-, rfl⟩ | herror | ⟨_, _, _, _, -, -, rfl⟩ := hcause
      · cases hr
      · unfold functionOf at herror
        dsimp only at herror
        split at herror
        · split_ifs at herror
          cases herror
          cases hr
        · cases herror
          cases hr
      · cases hr
  · rintro ⟨rfl, hlacks⟩
    refine Attempt.Refuses.bind (Attempt.Refuses.bind ?_)
    exact hfound.refuses_bind (check_of_lacking hcode hlacks w').bind

/-- What an injection of a text puts in are the statements of the text. -/
theorem apply_gives_new (hcode : s.code = .str text)
    (h : Attempt.Gives (apply Machine.call target member (some s)) w id w') :
    ∃ x, Succeeds Machine.call target member (some s) w x w' ∧ x.id = id ∧
      Splice.parseSnippet text.toList = .ok x.plan.new := by
  obtain ⟨x, hx, hid⟩ := apply_gives h
  refine ⟨x, hx, hid, ?_⟩
  obtain ⟨code, hcode', hparse⟩ := hx.planned.new_eq
  have hspec : s = x.plan.spec := Option.some.inj hx.planned.spec_eq
  rw [← hspec, hcode] at hcode'
  obtain rfl : text = code := Option.some.inj hcode'
  exact hparse

/-- An injection that gives an identifier lacks nothing. -/
theorem lacking?_of_gives (hcode : s.code = .str text)
    (h : Attempt.Gives (apply Machine.call target member (some s)) w id w') :
    lacking? s text = none := by
  obtain ⟨x, hx, -⟩ := apply_gives h
  obtain ⟨w₀, -, hcheck⟩ := hx.planned.resolved
  cases hlacks : lacking? s text with
  | none => rfl
  | some r => exact nomatch (Run.gives_unique hcheck (check_of_lacking hcode hlacks w₀)).1

/-- An injection of a text does what it is for: if it succeeds it has put something in, and a text
    without statements is refused because something is missing, with everything left as it was. -/
structure InjectsSomething (target member : Value) (s : Spec) (text : String) (w : World) : Prop where
  puts_in : ∀ id w', Attempt.Gives (apply Machine.call target member (some s)) w id w' →
    ∃ x, Succeeds Machine.call target member (some s) w x w' ∧ x.id = id ∧ x.plan.new ≠ []
  refuses : Splice.parseSnippet text.toList = .ok [] →
    ∃ r w', Attempt.Refuses (apply Machine.call target member (some s)) w r w' ∧
      r.cls? = some .missingField ∧ (Tame Machine.call target w → Unchanged w w')

end

end Graft.Injection

namespace Graft

open Injection Machine Syntax

/-! ## The main result -/

/-- **When a successful injection injects something.**  Of every injection of a text into a member
    that is found: it does what it is for exactly if the text holds a statement, or else something is
    missing before the text is read: the line, the place, or any character that is no blank.  It is
    never refused for a lack otherwise.  So what succeeds without putting anything in are the texts
    that are read as no statements but do not consist of blanks, such as all those of comments, blanks
    and form feeds with at least one comment; the definition is then what it was. -/
theorem something_is_injected_iff {target member : Value} {s : Injection.Spec} {text : String}
    {w w₁ : World} {m : Member}
    (hfound : Attempt.Gives (Member.resolve call target member) w m w₁) (hcode : s.code = .str text) :
    (InjectsSomething target member s text w ↔
      (Splice.parseSnippet text.toList = .ok [] → (lacking? s text).isSome = true)) ∧
    (∀ r w', r.cls? = some .missingField →
      (Attempt.Refuses (Injection.apply call target member (some s)) w r w' ↔
        w' = w₁ ∧ lacking? s text = some r)) ∧
    (∀ id w', Attempt.Gives (Injection.apply call target member (some s)) w id w' →
      ∃ x, Succeeds call target member (some s) w x w' ∧ x.id = id ∧
        Splice.parseSnippet text.toList = .ok x.plan.new ∧
        (x.plan.new = [] → x.plan.definition = x.plan.old)) ∧
    ((∀ c ∈ text.toList, Text.isSurrogate c = false ∧ c ≠ '\x00') →
      isRemarks false text.toList = true → Splice.parseSnippet text.toList = .ok []) := by
  have hrefuses := fun r w' => @apply_refuses_missing s text w w' r target member w₁ m hfound hcode
  refine ⟨⟨fun h hnothing => ?_, fun h => ⟨?_, ?_⟩⟩, hrefuses, ?_, Splice.parseSnippet_of_remarks⟩
  · obtain ⟨r, w', hr, hcls, -⟩ := h.refuses hnothing
    rw [((hrefuses r w' hcls).1 hr).2]
    rfl
  · intro id w' hgives
    obtain ⟨x, hx, hid, hparse⟩ := apply_gives_new hcode hgives
    refine ⟨x, hx, hid, fun hnew => ?_⟩
    rw [hnew] at hparse
    have hlacks := h hparse
    rw [lacking?_of_gives hcode hgives] at hlacks
    cases hlacks
  · intro hnothing
    obtain ⟨r, hlacks⟩ := Option.isSome_iff_exists.1 (h hnothing)
    have hcls := cls?_of_lacking hlacks
    have hr := (hrefuses r w₁ hcls).2 ⟨rfl, hlacks⟩
    refine ⟨r, w₁, hr, hcls, fun htame => ?_⟩
    have hrelies : Injection.Relies call (some s) w :=
      Injection.relies_of_text fun s' hs => ⟨text, by cases hs; exact hcode⟩
    exact ((Injection.apply_ends htame hrelies).of_refuses hr).unchanged
  · intro id w' hgives
    obtain ⟨x, hx, hid, hparse⟩ := apply_gives_new hcode hgives
    refine ⟨x, hx, hid, hparse, fun hnew => ?_⟩
    rw [Plan.definition, hnew, Splice.insertAt, List.append_nil, List.take_append_drop]

/-! ### A remark -/

/-- An injection of a remark into the sample function. -/
def remarkSpec : Injection.Spec := { code := .str "# nothing", line := .int 2 }

theorem remark_isGiven : Attempt.givesThat (fun _ => true)
    (Injection.apply call sampleTarget (.str "idle") (some remarkSpec)) sampleWorld = true := by
  decide +kernel

/-- The injection of the remark succeeds and puts nothing in. -/
theorem remark_is_injected : ∃ id w' x,
    Attempt.Gives (Injection.apply call sampleTarget (.str "idle") (some remarkSpec)) sampleWorld id w' ∧
      Succeeds call sampleTarget (.str "idle") (some remarkSpec) sampleWorld x w' ∧
      x.plan.new = [] ∧ x.plan.definition = x.plan.old ∧
      ¬InjectsSomething sampleTarget (.str "idle") remarkSpec "# nothing" sampleWorld := by
  have hresolve : Attempt.Gives (Member.resolve call sampleTarget (.str "idle")) sampleWorld
      { target := sampleTarget, name := "idle", value := .thing ⟨1⟩ } sampleWorld := rfl
  obtain ⟨hinjects, -, hgives, hremarks⟩ :=
    something_is_injected_iff hresolve (rfl : remarkSpec.code = .str "# nothing")
  have hplain : "# nothing".toList.all (fun c => !Text.isSurrogate c && c != '\x00') = true := by decide
  have hnothing := hremarks (fun c hc => by simpa using List.all_eq_true.1 hplain c hc) (by decide)
  obtain ⟨id, w', hgiven, -⟩ := Attempt.givesThat_iff.1 remark_isGiven
  obtain ⟨x, hx, -, hparse, hold⟩ := hgives id w' hgiven
  have hnew : x.plan.new = [] := Except.ok.inj (hparse.symm.trans hnothing)
  exact ⟨id, w', x, hgiven, hx, hnew, hold hnew, fun h => absurd (hinjects.1 h hnothing) (by decide)⟩

end Graft
