import Graft.Proofs.Dispatch
import Graft.Proofs.Slots

set_option autoImplicit false

/-! # Patches on top of each other

A callable that has been patched can be patched again: the new wrapper is around the old one.  A
call of such a stack goes down from the newest patch to the oldest.  Each layer hears its prefix hook
and hands the arguments that come of that on to the layer below, until one has a replacing hook or is
told to stop; if none ends the call, the original is called.  On the way up the postfix hooks of the
layers that have been passed are called, those of the oldest first, each with the result of the layer
below and the arguments that it has been called with.  What is raised below goes through. -/

namespace Graft.Patch

open Graft.Machine

/-! ## Stacks -/

/-- A patch in a stack. -/
structure Layer where
  patch : Ref
  id : Value
  hooks : Hooks

/-- Wrappers on top of each other, the newest first, and what the oldest one is around. -/
inductive Stack (w : World) : Value → List Layer → Value → Prop
  | bare (v : Value) : Stack w v [] v
  | patched {v wrapped original : Value} {l : Layer} {ls : List Layer}
      (wraps : Wraps w v l.patch l.id wrapped l.hooks) (rest : Stack w wrapped ls original) :
      Stack w v (l :: ls) original

/-- What is called in a call of a stack; the level of a layer is the number of those below it. -/
inductive Role
  | before (level : Nat) (id : Value)
  | instead (level : Nat) (id : Value)
  | after (level : Nat) (id : Value)
  | original

/-- A call that is made in a call of a stack. -/
structure Step where
  role : Role
  made : Made

/-- The calls that a part of a layer makes. -/
def stepsOf (role : Role) (ms : List Made) : List Step := ms.map fun made => { role, made }

/-- What a layer goes on with once the call has passed it on its way down. -/
structure Passed where
  layer : Layer
  level : Nat
  /-- What the layer below is called with. -/
  args : Args
  skipsAfter : Bool

/-- What a call ends with if it does not go on after it has begun. -/
def Ending.turn? : Ending Decision → Option (Ending Value)
  | .done (.ok (.stop result)) => some (.done (.ok result))
  | .done (.ok (.proceed _ _)) => none
  | .done (.error h) => some (.done (.error h))
  | .muted h => some (.muted h)

/-- The way down: the calls that are made, the layers that are passed, what the call ends with where
    it turns, and the world at that time.  With `n` the calls are counted that may be nested below the
    oldest layer. -/
inductive Descends (n : Nat) (original : Value) :
    List Layer → Args → World → List Step → List Passed → Ending Value → World → Prop
  | original {args : Args} {w w' : World} {o : Except Halt Value}
      (called : Made.Ends (callWithin n) ⟨original, args, w⟩ o w') :
      Descends n original [] args w [⟨.original, ⟨original, args, w⟩⟩] [] (.done o) w'
  | replaced {l : Layer} {ls : List Layer} {args : Args} {w w' : World} {o : Except Halt Value}
      (present : l.hooks.instead.isNone = false)
      (called : Made.Ends (callWithin (n + ls.length)) ⟨l.hooks.instead, args, w⟩ o w') :
      Descends n original (l :: ls) args w
        [⟨.instead ls.length l.id, ⟨l.hooks.instead, args, w⟩⟩] [] (.done o) w'
  | turned {l : Layer} {ls : List Layer} {args : Args} {w w' : World} {ms : List Made}
      {d : Ending Decision} {e : Ending Value} (absent : l.hooks.instead.isNone = true)
      (opened : Opens (callWithin (n + ls.length)) l.hooks.before l.id args w ms d w')
      (turns : d.turn? = some e) :
      Descends n original (l :: ls) args w (stepsOf (.before ls.length l.id) ms) [] e w'
  | passed {l : Layer} {ls : List Layer} {args : Args} {w w₁ w' : World} {ms : List Made}
      {positional : List Value} {skipsAfter : Bool} {steps : List Step} {ps : List Passed}
      {e : Ending Value} (absent : l.hooks.instead.isNone = true)
      (opened : Opens (callWithin (n + ls.length)) l.hooks.before l.id args w ms
        (.done (.ok (.proceed positional skipsAfter))) w₁)
      (rest : Descends n original ls { args with positional } w₁ steps ps e w') :
      Descends n original (l :: ls) args w (stepsOf (.before ls.length l.id) ms ++ steps)
        (⟨l, ls.length, { args with positional }, skipsAfter⟩ :: ps) e w'

/-- An ending is a result. -/
def Ending.IsResult {α : Type} (e : Ending α) : Prop := ∃ a, e = .done (.ok a)

/-- The way up through the layers that have been passed. -/
inductive Ascends (n : Nat) :
    List Passed → Ending Value → World → List Step → Ending Value → World → Prop
  | turned (e : Ending Value) (w : World) : Ascends n [] e w [] e w
  | closed {p : Passed} {ps : List Passed} {e e' : Ending Value} {w w₁ w' : World}
      {steps : List Step} {ms : List Made} {result : Value}
      (below : Ascends n ps e w steps (.done (.ok result)) w₁)
      (closed : Closes (callWithin (n + p.level)) p.layer.hooks.after p.layer.id p.skipsAfter p.args
        result w₁ ms e' w') :
      Ascends n (p :: ps) e w (steps ++ stepsOf (.after p.level p.layer.id) ms) e' w'
  | through {p : Passed} {ps : List Passed} {e e' : Ending Value} {w w' : World}
      {steps : List Step} (below : Ascends n ps e w steps e' w') (raised : ¬e'.IsResult) :
      Ascends n (p :: ps) e w steps e' w'

/-- A call of a stack, on its way down and on its way up. -/
structure Journey where
  down : List Step
  passed : List Passed
  /-- What the call ends with where it turns. -/
  turn : Ending Value
  atTurn : World
  up : List Step
  ending : Ending Value
  left : World

/-- A call goes this way. -/
structure Journey.IsOf (j : Journey) (n : Nat) (original : Value) (ls : List Layer) (args : Args)
    (w : World) : Prop where
  descends : Descends n original ls args w j.down j.passed j.turn j.atTurn
  ascends : Ascends n j.passed j.turn j.atTurn j.up j.ending j.left

/-! ## Stacks last -/

variable {n : Nat} {original v : Value} {ls : List Layer} {args : Args} {w w' : World}

theorem Stack.lasts (h : Stack w v ls original) (hlasts : w.Lasts w') : Stack w' v ls original := by
  induction h with
  | bare => exact .bare _
  | patched wraps rest ih => exact .patched (wraps.lasts hlasts) ih

/-! ## Calls of stacks -/

theorem Opens.lasts {call : Caller} (hcall : call.Confined) {hook id : Value} {ms : List Made}
    {d : Ending Decision} (h : Opens call hook id args w ms d w') : w.Lasts w' := by
  have hconfined := (decide_confined hcall hook id args w).lasts
  rwa [h.sound] at hconfined

theorem Wraps.call_ends {m : Nat} {patch : Ref} {id wrapped : Value} {hooks : Hooks}
    {ms : List Made} {e : Ending Value} (h : Wraps w v patch id wrapped hooks)
    (hcourse : Course (callWithin m) patch id wrapped args w ms e w') :
    (callWithin (m + 1) v args).result w = (e.outcome, w') :=
  h.wrapper.invoke_eq.trans hcourse.sound

/-- A layer in which a call turns ends as it does there. -/
theorem Course.of_turn {call : Caller} {patch : Ref} {id wrapped : Value} {ms : List Made}
    {d : Ending Decision} {e : Ending Value}
    (absent : (hooksOf w patch).instead.isNone = true)
    (opened : Opens call (hooksOf w patch).before id args w ms d w') (turns : d.turn? = some e) :
    Course call patch id wrapped args w ms e w' := by
  unfold Ending.turn? at turns
  split at turns <;> cases turns
  · exact .stopped absent opened
  · exact .halted absent opened
  · exact .muted absent opened

/-- An ending that is no result is seen from outside as something that has been raised. -/
theorem Ending.outcome_raised {α : Type} {e : Ending α} (h : ¬e.IsResult) :
    ∃ halt, e.outcome = .error halt := by
  cases e with
  | done o =>
    cases o with
    | ok a => exact absurd ⟨a, rfl⟩ h
    | error halt => exact ⟨halt, rfl⟩
  | muted halt => exact ⟨halt, rfl⟩

/-- **A call of a stack ends as its way down and its way up do.** -/
theorem Stack.call_ends {steps steps' : List Step} {ps : List Passed} {e e' : Ending Value}
    {w₁ : World} (h : Stack w v ls original) (down : Descends n original ls args w steps ps e w₁)
    (up : Ascends n ps e w₁ steps' e' w') :
    (callWithin (n + ls.length) v args).result w = (e'.outcome, w') := by
  induction down generalizing v steps' e' w' with
  | original called =>
    cases h
    cases up
    exact called
  | replaced present called =>
    cases h with
    | patched wraps rest =>
      cases up
      refine wraps.call_ends (.replaced ?_ ?_)
      · rw [wraps.hooksOf]
        exact present
      · rw [wraps.hooksOf]
        exact called
  | turned absent opened turns =>
    cases h with
    | patched wraps rest =>
      cases up
      exact wraps.call_ends (.of_turn (by rwa [wraps.hooksOf]) (by rwa [wraps.hooksOf]) turns)
  | @passed l ls args w w₁ w₂ ms positional skipsAfter steps ps e absent opened descends ih =>
    cases h with
    | @patched _ wrapped _ _ _ wraps rest =>
      have hlasts := opened.lasts (callWithin_confined _)
      rw [← wraps.hooksOf] at absent opened
      cases up with
      | @closed _ _ _ _ _ w₃ _ _ _ result below closed =>
        have hbelow := ih (rest.lasts hlasts) below
        -- The hooks of the layer are still the same when their time has come.
        have hcall := (callWithin_confined (n + ls.length) wrapped { args with positional } w₁).lasts
        rw [hbelow] at hcall
        rw [← (wraps.lasts (hlasts.trans hcall)).hooksOf] at closed
        exact wraps.call_ends (.finished absent opened hbelow closed)
      | through below raised =>
        have hbelow := ih (rest.lasts hlasts) below
        obtain ⟨halt, hraised⟩ := Ending.outcome_raised raised
        rw [hraised] at hbelow ⊢
        exact wraps.call_ends (.failed absent opened hbelow)

/-! ### Every call goes one way -/

theorem Descends.total (n : Nat) (original : Value) (ls : List Layer) (args : Args) (w : World) :
    ∃ steps ps e w', Descends n original ls args w steps ps e w' := by
  induction ls generalizing args w with
  | nil => exact ⟨_, _, _, _, .original rfl⟩
  | cons l ls ih =>
    cases hinstead : l.hooks.instead.isNone with
    | false => exact ⟨_, _, _, _, .replaced hinstead rfl⟩
    | true =>
      obtain ⟨ms, d, w₁, opened⟩ := Opens.total (callWithin (n + ls.length)) l.hooks.before l.id
        args w
      match d, opened with
      | .done (.ok (.proceed positional skipsAfter)), opened =>
        obtain ⟨steps, ps, e, w', rest⟩ := ih { args with positional } w₁
        exact ⟨_, _, _, _, .passed hinstead opened rest⟩
      | .done (.ok (.stop result)), opened => exact ⟨_, _, _, _, .turned hinstead opened rfl⟩
      | .done (.error h), opened => exact ⟨_, _, _, _, .turned hinstead opened rfl⟩
      | .muted h, opened => exact ⟨_, _, _, _, .turned hinstead opened rfl⟩

theorem Descends.unique {steps steps' : List Step} {ps ps' : List Passed} {e e' : Ending Value}
    {w'' : World} (h : Descends n original ls args w steps ps e w')
    (h' : Descends n original ls args w steps' ps' e' w'') :
    steps = steps' ∧ ps = ps' ∧ e = e' ∧ w' = w'' := by
  -- What the outermost layer does decides which of the ways down is taken.
  induction h generalizing steps' ps' e' w'' with
  | original called =>
    cases h' with
    | original called' =>
      obtain ⟨rfl, rfl⟩ := Made.ends_unique called called'
      exact ⟨rfl, rfl, rfl, rfl⟩
  | replaced present called =>
    cases h' with
    | replaced _ called' =>
      obtain ⟨rfl, rfl⟩ := Made.ends_unique called called'
      exact ⟨rfl, rfl, rfl, rfl⟩
    | turned absent | passed absent =>
      rw [absent] at present
      cases present
  | turned absent opened turns =>
    cases h' with
    | replaced present =>
      rw [absent] at present
      cases present
    | turned _ opened' turns' =>
      obtain ⟨rfl, rfl, rfl⟩ := opened.unique opened'
      obtain ⟨⟩ := turns.symm.trans turns'
      exact ⟨rfl, rfl, rfl, rfl⟩
    | passed _ opened' =>
      obtain ⟨-, rfl, -⟩ := opened.unique opened'
      cases turns
  | passed absent opened rest ih =>
    cases h' with
    | replaced present =>
      rw [absent] at present
      cases present
    | turned _ opened' turns =>
      obtain ⟨-, rfl, -⟩ := opened.unique opened'
      cases turns
    | passed _ opened' rest' =>
      obtain ⟨rfl, ⟨⟩, rfl⟩ := opened.unique opened'
      obtain ⟨rfl, rfl, rfl, rfl⟩ := ih rest'
      exact ⟨rfl, rfl, rfl, rfl⟩

theorem Ascends.total (n : Nat) (ps : List Passed) (e : Ending Value) (w : World) :
    ∃ steps e' w', Ascends n ps e w steps e' w' := by
  induction ps with
  | nil => exact ⟨_, _, _, .turned e w⟩
  | cons p ps ih =>
    obtain ⟨steps, e', w', below⟩ := ih
    by_cases hresult : e'.IsResult
    · obtain ⟨result, rfl⟩ := hresult
      obtain ⟨ms, e'', w'', closed⟩ := Closes.total (callWithin (n + p.level)) p.layer.hooks.after
        p.layer.id p.skipsAfter p.args result w'
      exact ⟨_, _, _, .closed below closed⟩
    · exact ⟨_, _, _, .through below hresult⟩

theorem Ascends.unique {ps : List Passed} {steps steps' : List Step} {e e' e'' : Ending Value}
    {w'' : World} (h : Ascends n ps e w steps e' w') (h' : Ascends n ps e w steps' e'' w'') :
    steps = steps' ∧ e' = e'' ∧ w' = w'' := by
  induction h generalizing steps' e'' w'' with
  | turned =>
    cases h'
    exact ⟨rfl, rfl, rfl⟩
  | closed below closed ih =>
    cases h' with
    | closed below' closed' =>
      obtain ⟨rfl, ⟨⟩, rfl⟩ := ih below'
      obtain ⟨rfl, rfl, rfl⟩ := closed.unique closed'
      exact ⟨rfl, rfl, rfl⟩
    | through below' raised =>
      obtain ⟨-, rfl, -⟩ := ih below'
      exact absurd ⟨_, rfl⟩ raised
  | through below raised ih =>
    cases h' with
    | closed below' =>
      obtain ⟨-, rfl, -⟩ := ih below'
      exact absurd ⟨_, rfl⟩ raised
    | through below' => exact ih below'

theorem Journey.total (n : Nat) (original : Value) (ls : List Layer) (args : Args) (w : World) :
    ∃ j : Journey, j.IsOf n original ls args w := by
  obtain ⟨steps, ps, e, w₁, descends⟩ := Descends.total n original ls args w
  obtain ⟨steps', e', w', ascends⟩ := Ascends.total n ps e w₁
  exact ⟨⟨steps, ps, e, w₁, steps', e', w'⟩, descends, ascends⟩

theorem Journey.IsOf.unique {j j' : Journey} (h : j.IsOf n original ls args w)
    (h' : j'.IsOf n original ls args w) : j = j' := by
  obtain ⟨steps, ps, e, w₁, steps', e', w'⟩ := j
  obtain ⟨hdown, hpassed, hturn, hworld⟩ := h.descends.unique h'.descends
  dsimp only at hdown hpassed hturn hworld
  subst hdown hpassed hturn hworld
  obtain ⟨hup, hending, hleft⟩ := h.ascends.unique h'.ascends
  dsimp only at hup hending hleft
  subst hup hending hleft
  rfl

/-! ### The order of the calls -/

/-- The prefix hooks of layers that have been passed. -/
def befores (ps : List Passed) : List Role :=
  (ps.filter fun p => !p.layer.hooks.before.isNone).map fun p => .before p.level p.layer.id

/-- The postfix hooks that are wanted in layers that have been passed, those of the oldest first. -/
def afters (ps : List Passed) : List Role :=
  ((ps.filter fun p => !p.layer.hooks.after.isNone && !p.skipsAfter).map fun p =>
    Role.after p.level p.layer.id).reverse

/-- The last call on the way down: of the original if no layers are left, and otherwise of a hook of
    the first one that is left. -/
inductive Turns : List Layer → Role → Prop
  | original : Turns [] .original
  | replaced {l : Layer} {ls : List Layer} (present : l.hooks.instead.isNone = false) :
      Turns (l :: ls) (.instead ls.length l.id)
  | asked {l : Layer} {ls : List Layer} (absent : l.hooks.instead.isNone = true)
      (present : l.hooks.before.isNone = false) : Turns (l :: ls) (.before ls.length l.id)

theorem map_role_stepsOf (role : Role) (ms : List Made) :
    (stepsOf role ms).map Step.role = List.replicate ms.length role := by
  simp [stepsOf, Function.comp_def]

theorem Opens.length {call : Caller} {hook id : Value} {ms : List Made} {d : Ending Decision}
    (h : Opens call hook id args w ms d w') : ms.length = if hook.isNone then 0 else 1 := by
  cases h with
  | silent absent => simp [absent]
  | heard present => simp [present]

theorem Closes.length {call : Caller} {hook id result : Value} {skipsAfter : Bool} {ms : List Made}
    {e : Ending Value} (h : Closes call hook id skipsAfter args result w ms e w') :
    ms.length = if !hook.isNone && !skipsAfter then 1 else 0 := by
  cases h with
  | silent absent => rcases absent with habsent | habsent <;> simp [habsent]
  | heard present wanted => simp [present, wanted]

/-- A call that turns in a layer has asked its prefix hook. -/
theorem Opens.present {call : Caller} {hook id : Value} {ms : List Made} {d : Ending Decision}
    {e : Ending Value} (h : Opens call hook id args w ms d w') (turns : d.turn? = some e) :
    hook.isNone = false := by
  cases h with
  | silent => cases turns
  | heard present => exact present

/-- **The order on the way down.** -/
theorem Descends.order {steps : List Step} {ps : List Passed} {e : Ending Value}
    (h : Descends n original ls args w steps ps e w') :
    ∃ rest role, ls = ps.map Passed.layer ++ rest ∧ Turns rest role ∧
      steps.map Step.role = befores ps ++ [role] := by
  induction h with
  | original called => exact ⟨[], .original, rfl, .original, rfl⟩
  | replaced present called => exact ⟨_, _, rfl, .replaced present, rfl⟩
  | @turned l ls _ _ _ ms _ _ absent opened turns =>
    have hpresent := opened.present turns
    refine ⟨_, _, rfl, .asked absent hpresent, ?_⟩
    rw [map_role_stepsOf, opened.length, hpresent]
    rfl
  | @passed l ls _ _ _ _ ms _ _ steps ps _ absent opened rest ih =>
    obtain ⟨below, role, rfl, hturns, hsteps⟩ := ih
    refine ⟨below, role, rfl, hturns, ?_⟩
    rw [List.map_append, hsteps, map_role_stepsOf, opened.length, befores, befores]
    cases hnone : l.hooks.before.isNone <;> simp [hnone]

/-- **The order on the way up.** -/
theorem Ascends.order {ps : List Passed} {steps : List Step} {e e' : Ending Value}
    (h : Ascends n ps e w steps e' w') :
    steps.map Step.role <+: afters ps ∧ (e'.IsResult → steps.map Step.role = afters ps) := by
  induction h with
  | turned => exact ⟨List.prefix_rfl, fun _ => rfl⟩
  | @closed p ps _ _ _ _ _ steps ms result below closed ih =>
    have hsteps : (steps ++ stepsOf (.after p.level p.layer.id) ms).map Step.role =
        afters (p :: ps) := by
      rw [List.map_append, ih.2 ⟨result, rfl⟩, map_role_stepsOf, closed.length, afters, afters,
        List.filter_cons]
      split <;> simp
    rw [hsteps]
    exact ⟨List.prefix_rfl, fun _ => rfl⟩
  | @through p ps _ _ _ _ steps below raised ih =>
    refine ⟨ih.1.trans ?_, fun hresult => absurd hresult raised⟩
    rw [afters, afters, List.filter_cons]
    split
    · rw [List.map_cons, List.reverse_cons]
      exact List.prefix_append _ _
    · exact List.prefix_rfl

/-- What is raised where the call turns goes through all layers, and no postfix hook is called. -/
theorem Ascends.raised {ps : List Passed} {steps : List Step} {e e' : Ending Value}
    (h : Ascends n ps e w steps e' w') (hraised : ¬e.IsResult) : steps = [] ∧ e' = e ∧ w' = w := by
  induction h with
  | turned => exact ⟨rfl, rfl, rfl⟩
  | closed below closed ih =>
    obtain ⟨-, rfl, -⟩ := ih hraised
    exact absurd ⟨_, rfl⟩ hraised
  | through below raised ih => exact ih hraised

/-! ### Hooks that fail in no other way -/

/-- What does not end well ends with an ordinary exception whose text can be told. -/
def FailsPlainly {α : Type} (call : Caller) (ends : Except Halt α → World → Prop) : Prop :=
  ∀ h w, ends (.error h) w → ∃ e text w', IsFailure w h e ∧ (World.tellField call e).Gives w text w'

/-- The prefix and the postfix hook of a layer do. -/
structure Layer.FailsPlainly (call : Caller) (l : Layer) : Prop where
  before : ∀ args w, Patch.FailsPlainly call (Asks call l.hooks.before args w)
  after : ∀ args w, Patch.FailsPlainly call (Made.Ends call ⟨l.hooks.after, args, w⟩)

/-- A hook that fails in no other way is heard, or counts as absent. -/
theorem Hears.of_failsPlainly {α : Type} {call : Caller} {id : Value} {hook : String}
    {ends : Except Halt α → World → Prop} {x : Heard α} (hends : FailsPlainly call ends)
    (h : Hears call id hook ends x w) : (∃ a, x = .given a) ∨ x = .failed := by
  cases h with
  | given => exact .inl ⟨_, rfl⟩
  | failed => exact .inr rfl
  | halted hook_ends other =>
    obtain ⟨e, -, -, failure, -⟩ := hends _ _ hook_ends
    exact absurd failure (other e)
  | muted hook_ends failure untold =>
    obtain ⟨e, text, w', failure', told⟩ := hends _ _ hook_ends
    obtain rfl := failure.unique failure'
    unfold Run.Gives at told
    rw [untold] at told
    cases told

/-- Where hooks fail in no other way, the call turns with a result if a prefix hook makes it turn. -/
theorem Opens.turns_with_result {call : Caller} {hook id : Value} {ms : List Made}
    {d : Ending Decision} {e : Ending Value} (hends : FailsPlainly call (Asks call hook args w))
    (h : Opens call hook id args w ms d w') (turns : d.turn? = some e) : e.IsResult := by
  cases h with
  | silent => cases turns
  | heard present heard =>
    obtain ⟨⟨early, positional, flow⟩, rfl⟩ | rfl := heard.of_failsPlainly hends
    · rw [decided, verdict] at turns
      split at turns <;> cases turns
      exact ⟨early, rfl⟩
    · cases turns

theorem Closes.gives_result {call : Caller} {hook id result : Value} {skipsAfter : Bool}
    {ms : List Made} {e : Ending Value}
    (hends : FailsPlainly call (Made.Ends call ⟨hook, behind result args, w⟩))
    (h : Closes call hook id skipsAfter args result w ms e w') : e.IsResult := by
  cases h with
  | silent => exact ⟨result, rfl⟩
  | heard present wanted heard =>
    obtain ⟨v, rfl⟩ | rfl := heard.of_failsPlainly hends
    · exact ⟨v, rfl⟩
    · exact ⟨result, rfl⟩

theorem Ascends.gives_result {ps : List Passed} {steps : List Step} {e e' : Ending Value}
    (h : Ascends n ps e w steps e' w')
    (hends : ∀ p ∈ ps, p.layer.FailsPlainly (callWithin (n + p.level))) (he : e.IsResult) :
    e'.IsResult := by
  induction h with
  | turned => exact he
  | closed below closed ih =>
    exact closed.gives_result ((hends _ List.mem_cons_self).after _ _)
  | through below raised ih =>
    exact ih (fun p hp => hends p (List.mem_cons_of_mem _ hp)) he

theorem Descends.steps_ne_nil {steps : List Step} {ps : List Passed} {e : Ending Value}
    (h : Descends n original ls args w steps ps e w') : steps ≠ [] := by
  obtain ⟨rest, role, -, -, hsteps⟩ := h.order
  rintro rfl
  simp at hsteps

theorem Descends.mem_of_passed {steps : List Step} {ps : List Passed} {e : Ending Value}
    (h : Descends n original ls args w steps ps e w') {p : Passed} (hp : p ∈ ps) : p.layer ∈ ls := by
  obtain ⟨rest, role, rfl, -, -⟩ := h.order
  exact List.mem_append_left _ (List.mem_map_of_mem hp)

/-- Where the hooks of all layers fail in no other way, the call turns with a result if a prefix hook
    has been called last. -/
theorem Descends.turns_with_result {steps : List Step} {ps : List Passed} {e : Ending Value}
    {level : Nat} {id : Value} (h : Descends n original ls args w steps ps e w')
    (hends : ∀ l ∈ ls, ∀ m, l.FailsPlainly (callWithin (n + m)))
    (hlast : (steps.map Step.role).getLast? = some (.before level id)) : e.IsResult := by
  induction h with
  | original | replaced => cases hlast
  | turned absent opened turns =>
    exact opened.turns_with_result ((hends _ List.mem_cons_self _).before _ _) turns
  | passed absent opened rest ih =>
    refine ih (fun l hl => hends l (List.mem_cons_of_mem _ hl)) ?_
    rwa [List.map_append, List.getLast?_append_of_ne_nil _ (by simpa using rest.steps_ne_nil)]
      at hlast

/-! ## Applying patches one after another -/

/-- Patches that have been applied to a member one after another, the newest first, and what is found
    there then.  In between anything can be done that leaves the member in place. -/
inductive Stacked (call : Caller) (target : Value) (name : String) (original : Value) :
    List Layer → Value → World → Prop
  | bare {w w₁ : World}
      (found : (Member.lookup call target name).Gives w (some (.plain, original)) w₁) :
      Stacked call target name original [] original w
  | patched {ls : List Layer} {v : Value} {spec : Option Spec} {x : Prepared}
      {w w₁ w₂ w' later : World} (below : Stacked call target name original ls v w)
      (applies : Applies call target (.str name) spec w x w₁ w₂ w') (lasts : w'.Lasts later)
      (keeps : later.Keeps name x.wrapper target) :
      Stacked call target name original (⟨x.patch, x.id, x.hooks⟩ :: ls) x.wrapper later

variable {call : Caller} {target : Value} {name : String}

theorem Stacked.found (hcall : call.Confined) (h : Stacked call target name original ls v w) :
    ∃ w₁, (Member.lookup call target name).Gives w (some (.plain, v)) w₁ := by
  cases h with
  | bare found => exact ⟨_, found⟩
  | patched below applies lasts keeps =>
    obtain ⟨w₁, hfound, -⟩ := ((applies.wraps hcall).lasts lasts).lookup keeps call
    exact ⟨w₁, hfound⟩

/-- **Patches that are applied one after another are a stack.** -/
theorem Stacked.stack (hcall : call.Confined) (h : Stacked call target name original ls v w) :
    Stack w v ls original := by
  induction h with
  | bare => exact .bare _
  | @patched ls v _ x w _ _ _ _ below applies lasts keeps ih =>
    -- What is patched is what has been found, which is the newest wrapper below.
    obtain ⟨_, hfound⟩ := below.found hcall
    obtain ⟨_, hresolve, -⟩ := (prepare_readies hcall applies.prepared).found
    obtain ⟨-, -, hlookup⟩ := Member.resolve_gives hresolve
    obtain ⟨hsame, -⟩ := Run.gives_unique hlookup hfound
    have hvalue : x.member.value = v := (Prod.mk.inj (Option.some.inj hsame)).2
    have hwraps := (applies.wraps hcall).lasts lasts
    rw [hvalue] at hwraps
    exact .patched hwraps (ih.lasts ((applies.lasts hcall).trans lasts))

/-- A patch of what is found in an ordinary slot of what is no class is a new layer. -/
theorem Stacked.apply (hcall : call.Confined) {spec : Option Spec} {x : Prepared} {w₁ w₂ : World}
    (below : Stacked call target name original ls v w)
    (applies : Applies call target (.str name) spec w x w₁ w₂ w')
    (hordinary : World.IsOrdinary w w₁ name target) (hclass : w₁.isClass target = false) :
    Stacked call target name original (⟨x.patch, x.id, x.hooks⟩ :: ls) x.wrapper w' := by
  obtain ⟨_, hresolve, -⟩ := (prepare_readies hcall applies.prepared).found
  obtain ⟨htarget, hname, -⟩ := Member.resolve_gives hresolve
  refine .patched below applies (.refl _) ?_
  have hkeeps := applies.keeps hcall (by rwa [htarget, hname]) (by rwa [htarget])
  rwa [htarget, hname] at hkeeps

end Graft.Patch

namespace Graft

open Machine Patch

/-- How the calls of a journey follow each other.  On the way down the prefix hooks of the layers that
    are passed are called, the newest first, and then the original if there are no more layers, or a
    hook of the next one.  On the way up the postfix hooks that are wanted are called, the oldest
    first, up to one that has raised something; if that has happened where the call turns, none
    is called and that is what the call ends with. -/
structure Patch.Journey.IsOrdered (j : Journey) (ls : List Layer) : Prop where
  down : ∃ rest role, ls = j.passed.map Passed.layer ++ rest ∧ Turns rest role ∧
    j.down.map Step.role = befores j.passed ++ [role]
  up : j.up.map Step.role <+: afters j.passed
  completed : j.ending.IsResult → j.up.map Step.role = afters j.passed
  raised : ¬j.turn.IsResult → j.up = [] ∧ j.ending = j.turn ∧ j.left = j.atTurn

theorem Patch.Journey.IsOf.isOrdered {j : Journey} {n : Nat} {original : Value} {ls : List Layer}
    {args : Args} {w : World} (h : j.IsOf n original ls args w) : j.IsOrdered ls where
  down := h.descends.order
  up := h.ascends.order.1
  completed := h.ascends.order.2
  raised := h.ascends.raised

/-- Where hooks fail in no way but with exceptions whose text can be told, a call of a stack has a
    result if it has one where it turns, and it has one there if a prefix hook makes it turn. -/
theorem Patch.Journey.IsOf.gives_result {j : Journey} {n : Nat} {original : Value}
    {ls : List Layer} {args : Args} {w : World} (h : j.IsOf n original ls args w)
    (hends : ∀ l ∈ ls, ∀ m, l.FailsPlainly (callWithin (n + m))) :
    (j.ending.IsResult ↔ j.turn.IsResult) ∧
      ∀ level id, (j.down.map Step.role).getLast? = some (.before level id) → j.turn.IsResult := by
  refine ⟨⟨fun hresult => ?_, ?_⟩, fun level id => h.descends.turns_with_result hends⟩
  · by_contra hraised
    obtain ⟨-, hsame, -⟩ := h.ascends.raised hraised
    exact hraised (hsame ▸ hresult)
  · exact h.ascends.gives_result fun p hp => hends _ (h.descends.mem_of_passed hp) _

/-- A world in which an object holds a function, and two functions that can be its hooks. -/
def deskWorld : World :=
  { things := #[{ body := .module "world" },
      { body := .function (describedFunction "run" (.gives (.value (.int 5)))) },
      { body := .function (describedFunction "swap"
          (.hook (.value .none) (some (.tuple [])) (.value (.choice (.flow .continueExec))))) },
      { body := .function (describedFunction "sum" .sum) },
      { body := .namespace, table := [("run", .thing ⟨1⟩)] }] }

/-- The object. -/
def desk : Value := .thing ⟨4⟩

/-- The patches that are applied to it one after the other. -/
def deskSpecs : Spec × Spec :=
  ({ hooks := { after := .thing ⟨3⟩ } }, { hooks := { before := .thing ⟨2⟩ } })

/-- Whether both patches give identifiers. -/
def patchesDesk : Bool :=
  match Run.result (apply Machine.call desk (.str "run") (some deskSpecs.1)).run deskWorld with
  | (.ok (.ok _), w) =>
    match Run.result (apply Machine.call desk (.str "run") (some deskSpecs.2)).run w with
    | (.ok (.ok _), _) => true
    | _ => false
  | _ => false

theorem desk_checks : patchesDesk = true := by decide +kernel

theorem desk_gives : ∃ id w id' w',
    Attempt.Gives (apply Machine.call desk (.str "run") (some deskSpecs.1)) deskWorld id w ∧
      Attempt.Gives (apply Machine.call desk (.str "run") (some deskSpecs.2)) w id' w' := by
  have hchecks := desk_checks
  unfold patchesDesk at hchecks
  split at hchecks
  · rename_i id w hfirst
    split at hchecks
    · rename_i id' w' hsecond
      exact ⟨id, w, id', w', hfirst, hsecond⟩
    · cases hchecks
  · cases hchecks

/-- Patches of the object are written to an ordinary slot. -/
theorem desk_isOrdinary {w w₁ : World} (hw : deskWorld.Lasts w) (hlasts : w.Lasts w₁) :
    World.IsOrdinary w w₁ "run" desk ∧ w₁.isClass desk = false := by
  have hbefore := hw.fixed (v := desk) (b := .namespace) rfl rfl
  have hbody := hlasts.fixed hbefore rfl
  refine ⟨World.isOrdinary_of_namespace hbody (by decide) ?_, ?_⟩
  · intro hnone
    rw [desk, World.body?, hnone] at hbefore
    cases hbefore
  · rw [desk] at hbody
    simp [desk, World.isClass, World.madeClass?, hbody]

end Graft
