import Graft.Injection.Apply
import Graft.Proofs.Compile
import Graft.Proofs.Definition
import Graft.Proofs.Journal
import Graft.Proofs.Placement
import Graft.Proofs.World

set_option autoImplicit false

/-! # What an injection does

An injection that gives an identifier has gone through all its stages.  Here each stage is taken
back to what led to it: how the plan was worked out, what the replacement is and what has been
recorded. -/

namespace Graft.Injection

open Machine Code

/-! ## Planning -/

/-- What the parts of a plan are: `reading` is the world in which the function is looked up and its
    text is read. -/
structure WorkedOut (call : Caller) (target member : Value) (spec : Option Spec) (w : World)
    (p : Plan) (reading : World) : Prop where
  given : ∃ w', Attempt.Gives (plan call target member spec) w p w'
  resolved : ∃ w₁, Attempt.Gives (Member.resolve call target member) w p.member w₁ ∧
    Attempt.Gives (check call spec) w₁ (p.spec, p.line, p.loc) reading
  spec_eq : spec = some p.spec
  line_eq : p.spec.line = .int p.line
  loc_eq : p.spec.loc.text?.bind InsertLocation.ofValue? = some p.loc
  allowed : reading.flag? p.member.value ≠ some false
  function_eq : functionOf reading p.member = .ok (p.ref, p.value, p.function)
  old_eq : ∃ text, sourceOf reading p.function = .ok text ∧
    Splice.parseDefinition text.toList = .ok p.old
  new_eq : ∃ code, p.spec.code.text? = some code ∧ Splice.parseSnippet code.toList = .ok p.new

theorem check_gives {call : Caller} {spec : Option Spec} {s : Spec} {line : Int}
    {loc : InsertLocation} {w w' : World}
    (h : Attempt.Gives (check call spec) w (s, line, loc) w') :
    spec = some s ∧ s.line = .int line ∧ s.loc.text?.bind InsertLocation.ofValue? = some loc ∧
      (isBlank call s.code).Gives w false w' := by
  unfold check at h
  cases spec with
  | none => simp at h
  | some s₀ =>
    simp only at h
    split at h
    · simp at h
    split at h
    · simp at h
    -- Of all the checks only looking whether the snippet is blank can change the world.
    replace h := Attempt.gives_bind_world.1 h
    split at h
    · simp at h
    rw [Attempt.gives_bind] at h
    obtain ⟨blank, w₁, hblank, h⟩ := h
    split at h
    · simp at h
    rename_i hnot
    replace h := Attempt.gives_bind_world.1 h
    split at h
    · rename_i n hn
      split at h
      · simp at h
      · split at h
        · rename_i l hl
          obtain ⟨hgiven, rfl⟩ := Attempt.gives_pure.1 h
          cases hgiven
          rw [Bool.not_eq_true] at hnot
          exact ⟨rfl, hn, hl, hnot ▸ Attempt.gives_lift.1 hblank⟩
        · simp at h
    · simp at h

theorem statementsOf_gives {code : Value} {new : List Syntax.Stmt} {w w' : World}
    (h : Attempt.Gives (statementsOf code) w new w') :
    w = w' ∧ ∃ text, code.text? = some text ∧ Splice.parseSnippet text.toList = .ok new := by
  unfold statementsOf at h
  split at h
  · rename_i text htext
    split at h
    · rename_i ss hss
      rw [Attempt.gives_pure] at h
      exact ⟨h.2, text, htext, h.1 ▸ hss⟩
    · simp at h
  · exact absurd h Run.not_gives_raise

theorem not_refuseUnavailable_gives {α : Type} {m : Member} {f : Function} {code : Value}
    {reason : String} {w w' : World} {a : α} :
    ¬Attempt.Gives (refuseUnavailable m f code reason) w a w' := by
  unfold refuseUnavailable
  split <;> simp [Attempt.gives_bind]

theorem definitionOf_gives {m : Member} {f : Function} {code : Value} {d : Splice.Definition}
    {w w' : World} (h : Attempt.Gives (definitionOf m f code) w d w') :
    w = w' ∧ ∃ text, sourceOf w f = .ok text ∧ Splice.parseDefinition text.toList = .ok d := by
  unfold definitionOf at h
  simp only [Attempt.gives_bind, Attempt.gives_lift, Run.gives_world] at h
  obtain ⟨_, _, ⟨rfl, rfl⟩, h⟩ := h
  split at h
  · rename_i text htext
    simp only [Attempt.gives_bind, Attempt.gives_pure] at h
    obtain ⟨_, _, ⟨rfl, rfl⟩, h⟩ := h
    split at h
    · rename_i d₁ hd
      rw [Attempt.gives_pure] at h
      exact ⟨h.2, text, htext, h.1 ▸ hd⟩
    · simp at h
  · simp only [Attempt.gives_bind] at h
    obtain ⟨_, _, h, -⟩ := h
    exact absurd h not_refuseUnavailable_gives

/-- A plan that is given has been worked out from what the target holds, and working it out has put
    nothing on the heap since. -/
theorem plan_gives {call : Caller} {target member : Value} {spec : Option Spec} {p : Plan}
    {w w' : World} (h : Attempt.Gives (plan call target member spec) w p w') :
    ∃ reading, WorkedOut call target member spec w p reading ∧ w'.things = reading.things := by
  have hgiven := h
  unfold plan at h
  simp only [Attempt.gives_bind, Attempt.gives_lift, Run.gives_world] at h
  obtain ⟨m, w₁, hm, ⟨s, line, loc⟩, w₂, hcheck, _, _, ⟨rfl, rfl⟩, h⟩ := h
  obtain ⟨hspec, hline, hloc, -⟩ := check_gives hcheck
  split at h
  · simp at h
  rename_i hflag
  simp only [Attempt.gives_bind, Attempt.gives_mk, Attempt.gives_lift, Run.gives_log,
    Attempt.gives_pure] at h
  obtain ⟨⟨ref, value, f⟩, _, ⟨hf, rfl⟩, old, w₃, hd, new, w₄, hss, _, w₅, rfl, rfl, rfl⟩ := h
  obtain ⟨rfl, hold⟩ := definitionOf_gives hd
  obtain ⟨rfl, hnew⟩ := statementsOf_gives hss
  refine ⟨w₂, ?_, rfl⟩
  exact ⟨⟨_, hgiven⟩, ⟨w₁, hm, hcheck⟩, hspec, hline, hloc, by simpa using hflag, hf, hold, hnew⟩

/-! ## Making the replacement -/

/-- What the function behind a value runs is the given code. -/
def Runs (w : World) (v : Value) (code : Code) : Prop :=
  ∃ f, w.body? (w.underlying v) = some (.function f) ∧ f.behaviour = .code code

theorem replica_gives {call : Caller} {old : Value} {r : Ref} {f : Function} {code : Code}
    {closure : List (String × Ref)} {w w' : World} {v : Value}
    (h : (replica call old r f code closure).Gives w v w') :
    ∃ f', w'.body? v = some (.function f') ∧ f'.behaviour = .code code := by
  unfold replica at h
  simp only [Run.gives_bind, Run.gives_newValue] at h
  obtain ⟨_, _, -, _, _, -, _, _, -, rfl, rfl⟩ := h
  exact ⟨_, World.body?_alloc_self, rfl⟩

/-- What is made from a text runs the code that the text is compiled to, and the text is registered
    if that is wanted. -/
theorem materialize_gives {call : Caller} {source : String} {old : Value} {r : Ref} {f : Function}
    {file : String} {register : Bool} {w w' : World} {v : Value}
    (h : Attempt.Gives (materialize call source old r f file register) w v w') :
    ∃ code closure, compile source.toList f.frees (ownerName? f.qualname) f.codeName file = .ok code ∧
      bindCells f code = .ok closure ∧
      (∃ f', w'.body? v = some (.function f') ∧ f'.behaviour = .code code) ∧
      (register = true → w'.sources.get? file = some (.ofText source)) := by
  unfold materialize at h
  simp only [Attempt.gives_bind, Attempt.gives_mk, Attempt.gives_lift, Attempt.gives_pure] at h
  obtain ⟨code, _, ⟨hcode, rfl⟩, closure, _, ⟨hclosure, rfl⟩, v, w₁, hv, _, w₂, hregister, _, w₃,
    hlog, rfl, rfl⟩ := h
  obtain ⟨f', hbody, hruns⟩ := replica_gives hv
  rw [Run.gives_log] at hlog
  subst hlog
  refine ⟨code, closure, hcode, hclosure, ?_⟩
  unfold registerText at hregister
  cases register with
  | false =>
    rw [if_neg (by simp), Run.gives_pure] at hregister
    obtain ⟨-, rfl⟩ := hregister
    exact ⟨⟨f', hbody, hruns⟩, by simp⟩
  | true =>
    rw [if_pos rfl, Run.gives_modify] at hregister
    subst hregister
    exact ⟨⟨f', hbody, hruns⟩, fun _ => SourceCache.get?_register _ _ _⟩

theorem rebound_gives {m : Member} {v v' : Value} {f : Function} {code : Code} {w w' : World}
    (h : (rebound m v).Gives w v' w') (hbody : w.body? v = some (.function f))
    (hruns : f.behaviour = .code code) : Runs w' v' code ∧ w'.sources = w.sources := by
  unfold rebound at h
  simp only [Run.gives_bind, Run.gives_bodyOf] at h
  obtain ⟨_, _, ⟨rfl, rfl⟩, h⟩ := h
  split at h
  · rw [Run.gives_newValue] at h
    obtain ⟨rfl, rfl⟩ := h
    refine ⟨⟨f, ?_, hruns⟩, rfl⟩
    rw [World.underlying, World.body?_alloc_self]
    exact World.body?_alloc hbody
  · rw [Run.gives_pure] at h
    obtain ⟨rfl, rfl⟩ := h
    refine ⟨⟨f, ?_, hruns⟩, rfl⟩
    rw [World.underlying, hbody]
    exact hbody

theorem registers_gives {b : Bool} {w w' : World} (h : Attempt.Gives registers w b w') :
    w = w' ∧ Settings.bool w.around registerKeys (.bool true) none = .ok b := by
  unfold registers at h
  simp only [Attempt.gives_bind, Attempt.gives_lift, Run.gives_world] at h
  obtain ⟨_, _, ⟨rfl, rfl⟩, h⟩ := h
  split at h
  · rename_i b₁ hb
    rw [Attempt.gives_pure] at h
    exact ⟨h.2, h.1 ▸ hb⟩
  · simp at h

theorem newId_gives {id : String} {w w' : World} (h : Attempt.Gives newId w id w') :
    w'.around = w.around := by
  unfold newId at h
  simp only [Attempt.gives_bind, Attempt.gives_lift, Run.gives_world] at h
  obtain ⟨_, _, ⟨rfl, rfl⟩, h⟩ := h
  split at h
  · simp only [Attempt.gives_bind, Attempt.gives_set, Attempt.gives_pure] at h
    obtain ⟨_, _, rfl, -, rfl⟩ := h
    rfl
  · simp at h

theorem textOf_gives {d : Splice.Definition} {text : String} {w w' : World}
    (h : Attempt.Gives (textOf d) w text w') : w = w' ∧ d.toStmt.print = .ok text := by
  unfold textOf at h
  split at h
  · rename_i t ht
    rw [Attempt.gives_pure] at h
    exact ⟨h.2, h.1 ▸ ht⟩
  · simp at h

/-! ## Recording -/

theorem keep_gives {r : InjectionRecord} {w w' : World} (h : (keep r).Gives w () w') :
    w'.injections.journal.get? (.ofText r.id) = some r := by
  unfold keep at h
  simp only [Run.gives_bind, Run.gives_world] at h
  obtain ⟨_, _, ⟨rfl, rfl⟩, h⟩ := h
  split at h
  · rename_i j hj
    rw [Run.gives_set] at h
    rw [← h]
    exact Journal.get?_add? hj
  · simp at h

theorem conclude_gives {x : Prepared} {w w' : World} (h : (conclude x).Gives w () w') :
    ∃ r, w'.injections.journal.get? (.ofText x.id) = some r ∧ r.source = x.text := by
  unfold conclude at h
  simp only [Run.gives_bind] at h
  obtain ⟨timestamp, w₁, -, _, w₂, hkeep, hlog⟩ := h
  rw [Run.gives_log] at hlog
  rw [← hlog]
  exact ⟨_, keep_gives hkeep, rfl⟩

/-! ## The whole -/

/-- An injection that has been carried out. -/
structure Success where
  plan : Plan
  /-- The world in which the function was looked up and its text was read. -/
  reading : World
  /-- The text of the new definition. -/
  text : String
  id : String
  /-- The code that the text was compiled to. -/
  code : Code
  /-- Whether the text was registered. -/
  registers : Bool
  /-- The world in which the target was written to. -/
  writing : World

/-- How an injection has been carried out that has given an identifier. -/
structure Succeeds (call : Caller) (target member : Value) (spec : Option Spec) (w : World)
    (s : Success) (w' : World) : Prop where
  planned : WorkedOut call target member spec w s.plan s.reading
  printed : s.plan.definition.toStmt.print = .ok s.text
  compiled : compile s.text.toList s.plan.function.frees (ownerName? s.plan.function.qualname)
    s.plan.function.codeName (fileName s.id) = .ok s.code
  bound : ∃ closure, bindCells s.plan.function s.code = .ok closure
  setting : ∃ w₁, Attempt.Gives (plan call target member spec) w s.plan w₁ ∧
    Settings.bool w₁.around registerKeys (.bool true) none = .ok s.registers
  registered : s.registers = true →
    s.writing.sources.get? (fileName s.id) = some (.ofText s.text)
  installed : ∃ v w₁, Runs s.writing v s.code ∧
    Attempt.Gives (s.plan.member.assign call v) s.writing () w₁
  recorded : ∃ r, w'.injections.journal.get? (.ofText s.id) = some r ∧ r.source = s.text

/-- The stages of an injection that gives an identifier: the plan is worked out, its text is
    printed, the replacement is made in one world and written to the target in the next one, and the
    record is kept. -/
structure Staged (call : Caller) (target member : Value) (spec : Option Spec) (w : World) (p : Plan)
    (text id : String) (v : Value) (making writing w' : World) : Prop where
  planned : ∃ w₁, Attempt.Gives (plan call target member spec) w p w₁ ∧
    making.things = w₁.things ∧ making.around = w₁.around
  printed : p.definition.toStmt.print = .ok text
  made : Attempt.Gives (replacementFor call p text id) making v writing
  concluded : ∃ w₂, Attempt.Gives (p.member.assign call v) writing () w₂ ∧
    (conclude ⟨p, text, id, v⟩).Gives w₂ () w'

theorem newId_things {id : String} {w w' : World} (h : Attempt.Gives newId w id w') :
    w'.things = w.things := by
  unfold newId at h
  simp only [Attempt.gives_bind, Attempt.gives_lift, Run.gives_world] at h
  obtain ⟨_, _, ⟨rfl, rfl⟩, h⟩ := h
  split at h
  · simp only [Attempt.gives_bind, Attempt.gives_set, Attempt.gives_pure] at h
    obtain ⟨_, _, rfl, -, rfl⟩ := h
    rfl
  · simp at h

/-- The stages of making an injection ready. -/
theorem prepare_stages {call : Caller} {target member : Value} {spec : Option Spec} {w w' : World}
    {x : Prepared} (h : Attempt.Gives (prepare call target member spec) w x w') :
    ∃ w₁ making, Attempt.Gives (plan call target member spec) w x.plan w₁ ∧
      making.things = w₁.things ∧ making.around = w₁.around ∧
      x.plan.definition.toStmt.print = .ok x.text ∧
      Attempt.Gives (replacementFor call x.plan x.text x.id) making x.replacement w' := by
  unfold prepare at h
  simp only [Attempt.gives_bind, Attempt.gives_lift, Attempt.gives_pure] at h
  obtain ⟨p, w₁, hplan, text, w₂, htext, _, w₃, hlog, id, w₄, hid, v, w₅, hmade, rfl, rfl⟩ := h
  obtain ⟨rfl, hprint⟩ := textOf_gives htext
  rw [Run.gives_log] at hlog
  refine ⟨w₁, w₄, hplan, ?_, ?_, hprint, hmade⟩
  · rw [newId_things hid, ← hlog]
  · rw [newId_gives hid, ← hlog]

theorem apply_staged {call : Caller} {target member : Value} {spec : Option Spec} {w w' : World}
    {id : String} (h : Attempt.Gives (apply call target member spec) w id w') :
    ∃ p text v making writing, Staged call target member spec w p text id v making writing w' := by
  unfold apply at h
  simp only [Attempt.gives_bind, Attempt.gives_lift, Attempt.gives_pure] at h
  obtain ⟨x, writing, hready, _, w₂, hassign, _, w₃, hconclude, rfl, rfl⟩ := h
  obtain ⟨w₁, making, hplan, hthings, haround, hprint, hmade⟩ := prepare_stages hready
  exact ⟨x.plan, x.text, x.replacement, making, writing, ⟨w₁, hplan, hthings, haround⟩, hprint, hmade,
    w₂, hassign, hconclude⟩

/-- What has gone through all stages has been carried out. -/
theorem Staged.succeeds {call : Caller} {target member : Value} {spec : Option Spec}
    {w making writing w' : World} {p : Plan} {text id : String} {v : Value}
    (h : Staged call target member spec w p text id v making writing w') :
    ∃ s, Succeeds call target member spec w s w' ∧ s.plan = p ∧ s.text = text ∧ s.id = id ∧
      s.writing = writing ∧ making.things = s.reading.things := by
  obtain ⟨w₁, hplan, hthings, haround⟩ := h.planned
  obtain ⟨reading, hworked, hreading⟩ := plan_gives hplan
  have hmade := h.made
  unfold replacementFor at hmade
  simp only [Attempt.gives_bind, Attempt.gives_lift] at hmade
  obtain ⟨register, _, hregister, v₁, w₇, hmade, hrebound⟩ := hmade
  obtain ⟨rfl, hsetting⟩ := registers_gives hregister
  obtain ⟨code, closure, hcode, hclosure, ⟨f, hbody, hruns⟩, hregistered⟩ :=
    materialize_gives hmade
  obtain ⟨hv, hsources⟩ := rebound_gives hrebound hbody hruns
  obtain ⟨w₂, hassign, hconclude⟩ := h.concluded
  refine ⟨⟨p, reading, text, id, code, register, writing⟩, ?_, rfl, rfl, rfl, rfl,
    hthings.trans hreading⟩
  exact {
    planned := hworked
    printed := h.printed
    compiled := hcode
    bound := ⟨closure, hclosure⟩
    setting := ⟨w₁, hplan, haround ▸ hsetting⟩
    registered := fun h => by rw [hsources]; exact hregistered h
    installed := ⟨v, w₂, hv, hassign⟩
    recorded := conclude_gives hconclude }

/-- An injection that gives an identifier has been carried out. -/
theorem apply_gives {call : Caller} {target member : Value} {spec : Option Spec} {w w' : World}
    {id : String} (h : Attempt.Gives (apply call target member spec) w id w') :
    ∃ s, Succeeds call target member spec w s w' ∧ s.id = id := by
  obtain ⟨p, text, v, making, writing, hstaged⟩ := apply_staged h
  obtain ⟨s, hs, -, -, hid, -⟩ := hstaged.succeeds
  exact ⟨s, hs, hid⟩

/-- An injection that gives all that it has made ready, and not only the identifier. -/
def applied (call : Caller) (target member : Value) (spec : Option Spec) : Attempt Prepared := do
  let x ← prepare call target member spec
  x.plan.member.assign call x.replacement
  conclude x
  return x

theorem applied_gives {call : Caller} {target member : Value} {spec : Option Spec} {w w' : World}
    {x : Prepared} (h : Attempt.Gives (applied call target member spec) w x w') :
    ∃ w₁ w₂, Attempt.Gives (prepare call target member spec) w x w₁ ∧
      Attempt.Gives (x.plan.member.assign call x.replacement) w₁ () w₂ ∧
      Attempt.Gives (apply call target member spec) w x.id w' := by
  unfold applied at h
  simp only [Attempt.gives_bind, Attempt.gives_lift, Attempt.gives_pure] at h
  obtain ⟨x, w₁, hready, _, w₂, hassign, _, w₃, hconclude, rfl, rfl⟩ := h
  refine ⟨w₁, w₂, hready, hassign, ?_⟩
  unfold apply
  simp only [Attempt.gives_bind, Attempt.gives_lift, Attempt.gives_pure]
  exact ⟨x, w₁, hready, _, w₂, hassign, _, w₃, hconclude, rfl, rfl⟩

end Graft.Injection
