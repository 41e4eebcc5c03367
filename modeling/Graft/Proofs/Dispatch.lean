import Graft.Proofs.Attribute
import Graft.Proofs.Course

set_option autoImplicit false

/-! # Calls of patched functions

Calls of patched functions follow the protocol, and a call that is told to stop by its prefix hook
does so if what the hook gives for the arguments can be listed.  What the language raises can be
told, so that only exceptions of programs can mute a call. -/

namespace Graft.World

open Machine

variable {call : Caller} {w : World} {v : Value} {c : String}

/-! ## Exceptions that can be told -/

/-- A class that the language supplies says nothing of its own of its instances. -/
theorem ownText_supplied (call : Caller) (hcls : w.classOf v = .cls c) (method : String)
    (complaint : String → String) (args : List Value) :
    (ownText? call method complaint v args).result w = (.ok none, w) := by
  unfold ownText?
  simp only [Run.result_bind, Run.result_world, hcls, findMade_supplied, Run.result_pure]

theorem classOf_exception {cls : Value} {args : List Value}
    (hbody : w.body? v = some (.exception cls args)) : w.classOf v = cls := by
  cases v with
  | thing r =>
    obtain ⟨t, ht, hb⟩ := Option.map_eq_some_iff.1 hbody
    simp only [classOf, ht, hb, classOfBody]
  | _ => cases hbody

/-- Text can be told. -/
theorem tellTo_text (n : Nat) (s : String) :
    (tellTo call n (.str s)).result w = (.ok (w.text (.str s)), w) := by
  have hbody : w.body? (.str s) = none := rfl
  have hown := ownText_supplied call (w := w) (v := .str s) rfl
  cases n with
  | zero => rfl
  | succ n =>
    unfold tellTo Run.bodyOf
    simp only [Run.result_bind, hown, Run.result_read, hbody, Value.text?, Run.result_world,
      Run.result_pure]

/-- What the language raises can be told. -/
theorem tellField_supplied (call : Caller) {message : String}
    (hbody : w.body? v = some (.exception (.cls c) [.str message])) :
    ∃ text, (tellField call v).Gives w text w := by
  have hown := ownText_supplied call (classOf_exception hbody)
  have hmessage := ownText_supplied call (w := w) (v := .str message) rfl
  -- An exception that a key is missing shows the key, and every other one the message itself.
  have htell : ∃ text, (tellTo call maxDepth v).result w = (.ok text, w) := by
    unfold maxDepth tellTo Run.bodyOf tellLiteral
    simp only [Run.result_bind, hown, Run.result_read, hbody, Run.result_world]
    split
    · simp only [Run.result_bind, hmessage, Run.result_world]
      exact ⟨_, rfl⟩
    · exact ⟨_, tellTo_text _ _⟩
  obtain ⟨text, htext⟩ := htell
  refine ⟨text, ?_⟩
  unfold tellField tell Run.Gives
  simp only [Run.result_bind, hown, htext]

end Graft.World

namespace Graft

open Machine Patch

variable {call : Caller} {args : Args} {w : World} {v id wrapped : Value} {patch : Ref}

/-! ## The protocol -/

/-- A function that does what a description says. -/
def describedFunction (name : String) (does : Does) : Function :=
  { behaviour := .described { name, does }, name, qualname := name, module := .str "world"
    globals := ⟨0⟩ }

/-- The wrapper of the sample patch. -/
def gateWrapper : Function :=
  { behaviour := .dispatch ⟨3⟩ (.str "fn_gate") (.thing ⟨1⟩), name := "run", qualname := "run"
    module := .str "world", globals := ⟨0⟩ }

/-- A world with a function whose prefix hook answers that it should not be called, and gives what
    it is told to for the arguments. -/
def gateWorld (new : Form) : World :=
  { things := #[{ body := .module "world" },
      { body := .function (describedFunction "run" (.gives (.value (.int 5)))) },
      { body := .function (describedFunction "gate"
          (.hook (.value (.str "no")) (some new) (.value (.choice (.flow .stopExec))))) },
      { body := .patch (.thing ⟨2⟩) .none .none .none (.bool false) },
      { body := .function gateWrapper }] }

theorem gate_isWrapper (new : Form) :
    IsWrapper (gateWorld new) (.thing ⟨4⟩) ⟨3⟩ (.str "fn_gate") (.thing ⟨1⟩) :=
  ⟨gateWrapper, rfl, rfl⟩

/-- What is text equals the choices that have it as their value. -/
theorem World.isChoice_of_text {c : Choice} (h : v.text? = some c.value) (w : World) :
    w.isChoice v c = true := by
  cases v with
  | str s =>
    cases h
    simp [isChoice, equal, maxDepth, equalTo, comparable, atomEqual, atomEqual.keysEqual, keyOf,
      keyParts, Except.map]
  | choice c' =>
    cases c' <;> cases c <;> simp_all [Value.text?, isChoice, equal, maxDepth, equalTo, comparable,
      atomEqual, atomEqual.keysEqual, keyOf, keyParts, Except.map]
  | _ => cases h

namespace Patch

/-- The prefix hook of a patch without a replacing hook tells the call to stop with an early
    result. -/
structure Stops (call : Caller) (patch : Ref) (args : Args) (w : World) (early new : Value)
    (w' : World) : Prop where
  absent : (hooksOf w patch).instead.isNone = true
  present : (hooksOf w patch).before.isNone = false
  answered : ∃ result flow w₁, Made.Ends call ⟨(hooksOf w patch).before, args, w⟩ (.ok result) w₁ ∧
    (World.unpack call 3 result).Gives w₁ [early, new, flow] w' ∧
    flow.text? = some FlowControl.stopExec.value

namespace Stops

variable {early new : Value} {w₂ w₃ w₄ : World} {positional : List Value}

/-- If the new arguments can be listed, the call ends with the early result and calls nothing but
    the prefix hook. -/
theorem course (h : Stops call patch args w early new w₂)
    (hlisted : (World.toList call new).Gives w₂ positional w₃) (id wrapped : Value) :
    Course call patch id wrapped args w [⟨(hooksOf w patch).before, args, w⟩] (.done (.ok early))
      w₃ := by
  obtain ⟨result, flow, w₁, called, spread, hstop⟩ := h.answered
  have heard : Hears call id "prefix" (Asks call (hooksOf w patch).before args w)
      (.given (early, positional, flow)) w₃ := .given (.answered called spread hlisted)
  have opened := Opens.heard h.present heard
  have hverdict : verdict w₃ early positional flow = .stop early := by
    rw [verdict, if_pos (World.isChoice_of_text hstop w₃)]
  rw [decided, hverdict] at opened
  exact .stopped h.absent opened

/-- If the new arguments can not be listed, the hook has failed like any other. -/
theorem asks (h : Stops call patch args w early new w₂) {e : Halt}
    (hunlisted : (World.toList call new).result w₂ = (.error e, w₃)) :
    Asks call (hooksOf w patch).before args w (.error e) w₃ := by
  obtain ⟨result, flow, w₁, called, spread, -⟩ := h.answered
  exact .unlisted called spread hunlisted

/-- If that can be told, the patched callable is called with the arguments of the call. -/
theorem goesOn (h : Stops call patch args w early new w₂) {e : Value}
    (hunlisted : (World.toList call new).result w₂ = (.error (.raised e), w₃))
    (he : w₃.isException e = true) (hwarned : Warns call id "prefix" e w₃ w₄) (wrapped : Value) :
    ∃ ms ending w', Course call patch id wrapped args w
      (⟨(hooksOf w patch).before, args, w⟩ :: ⟨wrapped, args, w₄⟩ :: ms) ending w' :=
  Opens.goesOn h.absent (.heard h.present (.failed (h.asks hunlisted) ⟨rfl, he⟩ hwarned)) wrapped

/-- If the new arguments can not be listed, more is called than the prefix hook, or there is no
    result. -/
theorem not_honoured (h : Stops call patch args w early new w₂) {e : Halt}
    (hunlisted : (World.toList call new).result w₂ = (.error e, w₃)) (result : Value) (w' : World) :
    ¬Course call patch id wrapped args w [⟨(hooksOf w patch).before, args, w⟩] (.done (.ok result))
      w' := by
  intro hcourse
  have hasks := h.asks hunlisted
  obtain ⟨ex, failure⟩ | other := IsFailure.or_not w₃ e
  · obtain ⟨rfl, he⟩ := failure
    rcases htext : (World.tellField call ex).result w₃ with ⟨h' | text, w₄⟩
    · have hmuted : Course call patch id wrapped args w _ (.muted h') w₄ :=
        .muted h.absent (.heard h.present (.muted hasks ⟨rfl, he⟩ htext))
      exact nomatch (hcourse.unique hmuted).2.1
    · have hwarned : Warns call id "prefix" ex w₃ _ := ⟨text, w₄, htext, rfl⟩
      obtain ⟨ms, ending, w'', hon⟩ := h.goesOn hunlisted he hwarned wrapped
      exact nomatch (hcourse.unique hon).1
  · have hhalted : Course call patch id wrapped args w _ (.done (.error e)) w₃ :=
      .halted h.absent (.heard h.present (.halted hasks other))
    exact nomatch (hcourse.unique hhalted).2.1

end Stops

end Patch

/-- What is raised where nothing is listed. -/
def nothingListed : Thing :=
  { body := .exception (.cls "TypeError") [.str "'NoneType' object is not iterable"] }

/-- Nothing can not be listed. -/
theorem World.toList_none (call : Caller) (w : World) :
    (World.toList call .none).result w =
      (.error (.raised (.thing (w.alloc nothingListed).1)), (w.alloc nothingListed).2) := rfl

theorem isException_nothingListed (w : World) :
    (w.alloc nothingListed).2.isException (.thing (w.alloc nothingListed).1) = true := by
  unfold World.isException World.isInstance
  rw [World.classOf_exception (World.body?_alloc_self (t := nothingListed))]
  rfl

/-- That nothing has been listed is told. -/
theorem warns_nothingListed (call : Caller) (id : Value) (hook : String) (w : World) :
    ∃ w', Warns call id hook (.thing (w.alloc nothingListed).1) (w.alloc nothingListed).2 w' := by
  obtain ⟨text, htext⟩ := World.tellField_supplied call
    (World.body?_alloc_self (w := w) (t := nothingListed))
  exact ⟨_, text, _, htext, rfl⟩

/-- **When a call that is told to stop does so.**  The early result is what the call ends with, and
    nothing but the prefix hook is called, exactly if the new arguments, which are of no use then,
    can be listed.  If listing them fails, that counts as a failure of the hook, and the patched
    callable is called with the arguments of the call. -/
theorem stop_is_honoured_iff {early new : Value} {w₂ : World}
    (hwrapper : IsWrapper w v patch id wrapped) (h : Stops call patch args w early new w₂) :
    ((∃ w', Course call patch id wrapped args w [⟨(hooksOf w patch).before, args, w⟩]
        (.done (.ok early)) w' ∧ (World.invoke call v args).result w = (.ok early, w')) ↔
      ∃ positional w₃, (World.toList call new).Gives w₂ positional w₃) ∧
    ∀ e w₃ w₄, (World.toList call new).result w₂ = (.error (.raised e), w₃) →
      w₃.isException e = true → Warns call id "prefix" e w₃ w₄ →
      ∃ ms ending w', Course call patch id wrapped args w
          (⟨(hooksOf w patch).before, args, w⟩ :: ⟨wrapped, args, w₄⟩ :: ms) ending w' ∧
        (World.invoke call v args).result w = (ending.outcome, w') := by
  rw [hwrapper.invoke_eq]
  refine ⟨⟨?_, ?_⟩, ?_⟩
  · rintro ⟨w', hcourse, -⟩
    rcases hlist : (World.toList call new).result w₂ with ⟨e | positional, w₃⟩
    · exact absurd hcourse (h.not_honoured hlist early w')
    · exact ⟨positional, w₃, hlist⟩
  · rintro ⟨positional, w₃, hlisted⟩
    have hcourse := h.course hlisted id wrapped
    exact ⟨w₃, hcourse, hcourse.sound⟩
  · intro e w₃ w₄ hunlisted he hwarned
    obtain ⟨ms, ending, w', hcourse⟩ := h.goesOn hunlisted he hwarned wrapped
    exact ⟨ms, ending, w', hcourse, hcourse.sound⟩

/-! ### A sample -/

/-- The calls of the sample patch that a call of its wrapper makes. -/
abbrev gateCourse (form : Form) : List Made → Ending Value → World → Prop :=
  Course Machine.call ⟨3⟩ (.str "fn_gate") (.thing ⟨1⟩) {} (gateWorld form)

/-- The sample hook is honoured if it gives no arguments, but not if it gives nothing for them: then
    the patched function is called. -/
theorem gate_is_honoured_without_arguments :
    (∃ w', gateCourse (.tuple []) [⟨.thing ⟨2⟩, {}, gateWorld (.tuple [])⟩]
      (.done (.ok (.str "no"))) w') ∧
    ∃ w₄ ms ending w', gateCourse (.value .none)
      (⟨.thing ⟨2⟩, {}, gateWorld (.value .none)⟩ :: ⟨.thing ⟨1⟩, {}, w₄⟩ :: ms) ending w' := by
  constructor
  · have hstops : Stops Machine.call ⟨3⟩ {} (gateWorld (.tuple [])) (.str "no") (.tuple []) _ :=
      ⟨rfl, rfl, _, .choice (.flow .stopExec), _, rfl, rfl, rfl⟩
    obtain ⟨w', hcourse, -⟩ :=
      (stop_is_honoured_iff (gate_isWrapper (.tuple [])) hstops).1.2 ⟨[], _, rfl⟩
    exact ⟨w', hcourse⟩
  · have hstops : Stops Machine.call ⟨3⟩ {} (gateWorld (.value .none)) (.str "no") .none _ :=
      ⟨rfl, rfl, _, .choice (.flow .stopExec), _, rfl, rfl, rfl⟩
    obtain ⟨w₄, hwarned⟩ := warns_nothingListed Machine.call (.str "fn_gate") "prefix" _
    obtain ⟨ms, ending, w', hcourse, -⟩ :=
      (stop_is_honoured_iff (gate_isWrapper (.value .none)) hstops).2 _ _ w₄
        (World.toList_none _ _) (isException_nothingListed _) hwarned
    exact ⟨w₄, ms, ending, w', hcourse⟩

end Graft
