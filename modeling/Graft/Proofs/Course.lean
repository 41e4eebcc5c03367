import Graft.Machine.Call
import Graft.Proofs.World

set_option autoImplicit false

/-! # The course of a call of a patched function

The protocol of a call, stated as which calls are made one after the other and how they decide what
the whole call ends with.  It is stated for any way to make calls, also for such ones that count
them, so that nothing but what it names is called.

A hook that fails is logged and otherwise counts as absent, if the text of what it has raised can be
told.  That text can come from code of the exception's class.  Where that code fails as well, so
does the call: it is muted, which is the one way in which a call departs from the protocol.

Every call has exactly one course, and it ends as its course does. -/

namespace Graft.Patch

open Graft.Machine

/-! ## The protocol -/

/-- A call that is made: what is called, with which arguments, and the world at that time. -/
structure Made where
  callee : Value
  args : Args
  world : World

/-- What a call ends with, and the world that it leaves. -/
def Made.Ends (call : Caller) (m : Made) (o : Except Halt Value) (w : World) : Prop :=
  (call m.callee m.args).result m.world = (o, w)

/-- One warning is logged of a hook that has raised something, once the text of that is told. -/
def Warns (call : Caller) (id : Value) (hook : String) (e : Value) (w w' : World) : Prop :=
  ∃ text w₁, (World.tellField call e).Gives w text w₁ ∧
    w' = { w₁ with logs := ⟨.warning, logger, failureText w id hook e ++ text⟩ :: w₁.logs }

/-- Something that has been raised is an ordinary exception. -/
def IsFailure (w : World) (h : Halt) (e : Value) : Prop := h = .raised e ∧ w.isException e = true

/-- How it turns out to hear a hook. -/
inductive Heard (α : Type)
  | given (a : α)
  /-- The hook has failed, and that has been logged. -/
  | failed
  | halted (h : Halt)
  /-- The hook has failed, and what it has raised can not be told. -/
  | muted (h : Halt)

/-- How it turns out to hear a hook that ends in a given way. -/
inductive Hears {α : Type} (call : Caller) (id : Value) (hook : String)
    (ends : Except Halt α → World → Prop) : Heard α → World → Prop
  | given {a : α} {w' : World} (h : ends (.ok a) w') : Hears call id hook ends (.given a) w'
  | failed {h : Halt} {e : Value} {w₁ w' : World} (hook_ends : ends (.error h) w₁)
      (failure : IsFailure w₁ h e) (warned : Warns call id hook e w₁ w') :
      Hears call id hook ends .failed w'
  | halted {h : Halt} {w' : World} (hook_ends : ends (.error h) w')
      (other : ∀ e, ¬IsFailure w' h e) : Hears call id hook ends (.halted h) w'
  | muted {h h' : Halt} {e : Value} {w₁ w' : World} (hook_ends : ends (.error h) w₁)
      (failure : IsFailure w₁ h e)
      (untold : (World.tellField call e).result w₁ = (.error h', w')) :
      Hears call id hook ends (.muted h') w'

/-- What asking the prefix hook ends with.  It answers if its result spreads over three items the
    second of which gives values one after the other. -/
inductive Asks (call : Caller) (hook : Value) (args : Args) (w : World) :
    Except Halt (Value × List Value × Value) → World → Prop
  | halted {h : Halt} {w' : World} (called : Made.Ends call ⟨hook, args, w⟩ (.error h) w') :
      Asks call hook args w (.error h) w'
  | misshapen {v : Value} {h : Halt} {w₁ w' : World}
      (called : Made.Ends call ⟨hook, args, w⟩ (.ok v) w₁)
      (spread : (World.unpack call 3 v).result w₁ = (.error h, w')) :
      Asks call hook args w (.error h) w'
  | unlisted {v early new flow : Value} {h : Halt} {w₁ w₂ w' : World}
      (called : Made.Ends call ⟨hook, args, w⟩ (.ok v) w₁)
      (spread : (World.unpack call 3 v).Gives w₁ [early, new, flow] w₂)
      (listed : (World.toList call new).result w₂ = (.error h, w')) :
      Asks call hook args w (.error h) w'
  | answered {v early new flow : Value} {positional : List Value} {w₁ w₂ w' : World}
      (called : Made.Ends call ⟨hook, args, w⟩ (.ok v) w₁)
      (spread : (World.unpack call 3 v).Gives w₁ [early, new, flow] w₂)
      (listed : (World.toList call new).Gives w₂ positional w') :
      Asks call hook args w (.ok (early, positional, flow)) w'

/-- What an answer of the prefix hook decides. -/
def verdict (w : World) (early : Value) (positional : List Value) (flow : Value) : Decision :=
  if w.isChoice flow (.flow .stopExec) then .stop early
  else .proceed positional (w.isChoice flow (.flow .continueWithoutPostfix))

/-- What a part of a call ends with. -/
inductive Ending (α : Type)
  | done (outcome : Except Halt α)
  /-- A hook has failed, and what it has raised can not be told. -/
  | muted (h : Halt)

/-- What is seen of an ending from outside. -/
def Ending.outcome {α : Type} : Ending α → Except Halt α
  | .done o => o
  | .muted h => .error h

/-- What comes of hearing the prefix hook; if it has failed, the call goes on with its own
    arguments. -/
def decided (w : World) (args : Args) : Heard (Value × List Value × Value) → Ending Decision
  | .given (early, positional, flow) => .done (.ok (verdict w early positional flow))
  | .failed => .done (.ok (.proceed args.positional false))
  | .halted h => .done (.error h)
  | .muted h => .muted h

/-- How a call begins: the calls that the prefix hook brings about, and what is decided. -/
inductive Opens (call : Caller) (hook id : Value) (args : Args) (w : World) :
    List Made → Ending Decision → World → Prop
  | silent (absent : hook.isNone = true) :
      Opens call hook id args w [] (.done (.ok (.proceed args.positional false))) w
  | heard {x : Heard (Value × List Value × Value)} {w' : World} (present : hook.isNone = false)
      (heard : Hears call id "prefix" (Asks call hook args w) x w') :
      Opens call hook id args w [⟨hook, args, w⟩] (decided w' args x) w'

/-- What comes of hearing the postfix hook; if it has failed, the result stays as it is. -/
def settled (result : Value) : Heard Value → Ending Value
  | .given v => .done (.ok v)
  | .failed => .done (.ok result)
  | .halted h => .done (.error h)
  | .muted h => .muted h

/-- The arguments of the postfix hook: the result goes in front. -/
def behind (result : Value) (args : Args) : Args :=
  { args with positional := result :: args.positional }

/-- How a call closes once the patched callable has given a result. -/
inductive Closes (call : Caller) (hook id : Value) (skipsAfter : Bool) (args : Args)
    (result : Value) (w : World) : List Made → Ending Value → World → Prop
  | silent (absent : hook.isNone = true ∨ skipsAfter = true) :
      Closes call hook id skipsAfter args result w [] (.done (.ok result)) w
  | heard {x : Heard Value} {w' : World} (present : hook.isNone = false)
      (wanted : skipsAfter = false)
      (heard : Hears call id "postfix" (Made.Ends call ⟨hook, behind result args, w⟩) x w') :
      Closes call hook id skipsAfter args result w [⟨hook, behind result args, w⟩]
        (settled result x) w'

/-- The course of a call of a patched function: the calls that are made, in their order, what the
    call ends with, and the world that it leaves. -/
inductive Course (call : Caller) (patch : Ref) (id wrapped : Value) (args : Args) (w : World) :
    List Made → Ending Value → World → Prop
  | replaced {o : Except Halt Value} {w' : World}
      (present : (hooksOf w patch).instead.isNone = false)
      (called : Made.Ends call ⟨(hooksOf w patch).instead, args, w⟩ o w') :
      Course call patch id wrapped args w [⟨(hooksOf w patch).instead, args, w⟩] (.done o) w'
  | stopped {ms : List Made} {result : Value} {w' : World}
      (absent : (hooksOf w patch).instead.isNone = true)
      (opened : Opens call (hooksOf w patch).before id args w ms (.done (.ok (.stop result))) w') :
      Course call patch id wrapped args w ms (.done (.ok result)) w'
  | halted {ms : List Made} {h : Halt} {w' : World}
      (absent : (hooksOf w patch).instead.isNone = true)
      (opened : Opens call (hooksOf w patch).before id args w ms (.done (.error h)) w') :
      Course call patch id wrapped args w ms (.done (.error h)) w'
  | muted {ms : List Made} {h : Halt} {w' : World}
      (absent : (hooksOf w patch).instead.isNone = true)
      (opened : Opens call (hooksOf w patch).before id args w ms (.muted h) w') :
      Course call patch id wrapped args w ms (.muted h) w'
  | failed {ms : List Made} {positional : List Value} {skipsAfter : Bool} {h : Halt} {w₁ w' : World}
      (absent : (hooksOf w patch).instead.isNone = true)
      (opened : Opens call (hooksOf w patch).before id args w ms
        (.done (.ok (.proceed positional skipsAfter))) w₁)
      (called : Made.Ends call ⟨wrapped, { args with positional }, w₁⟩ (.error h) w') :
      Course call patch id wrapped args w (ms ++ [⟨wrapped, { args with positional }, w₁⟩])
        (.done (.error h)) w'
  | finished {ms ms' : List Made} {positional : List Value} {skipsAfter : Bool} {result : Value}
      {e : Ending Value} {w₁ w₂ w' : World}
      (absent : (hooksOf w patch).instead.isNone = true)
      (opened : Opens call (hooksOf w patch).before id args w ms
        (.done (.ok (.proceed positional skipsAfter))) w₁)
      (called : Made.Ends call ⟨wrapped, { args with positional }, w₁⟩ (.ok result) w₂)
      (closed : Closes call (hooksOf w₂ patch).after id skipsAfter { args with positional } result
        w₂ ms' e w') :
      Course call patch id wrapped args w
        (ms ++ ⟨wrapped, { args with positional }, w₁⟩ :: ms') e w'

/-! ## Hearing a hook -/

variable {α : Type} {call : Caller} {id hook result : Value} {args : Args} {w w' : World}

/-- What running a hook gives: nothing if it has failed. -/
def Heard.outcome : Heard α → Except Halt (Option α)
  | .given a => .ok (some a)
  | .failed => .ok none
  | .halted h => .error h
  | .muted h => .error h

theorem Made.ends_iff {m : Made} {o : Except Halt Value} :
    m.Ends call o w' ↔ (call m.callee m.args).result m.world = (o, w') := Iff.rfl

theorem Made.ends_unique {m : Made} {o o' : Except Halt Value} {w'' : World}
    (h : m.Ends call o w') (h' : m.Ends call o' w'') : o = o' ∧ w' = w'' :=
  Prod.mk.inj (Eq.trans (Eq.symm h) h')

theorem Warns.unique {name : String} {e : Value} {w'' : World} (h : Warns call id name e w w')
    (h' : Warns call id name e w w'') : w' = w'' := by
  obtain ⟨text, w₁, htext, rfl⟩ := h
  obtain ⟨text', w₂, htext', rfl⟩ := h'
  obtain ⟨⟨⟩, rfl⟩ := Prod.mk.inj (Eq.trans (Eq.symm htext) htext')
  rfl

/-- What is warned of can be told. -/
theorem Warns.told {name : String} {e : Value} {h : Halt} {w'' : World}
    (hwarns : Warns call id name e w w')
    (huntold : (World.tellField call e).result w = (.error h, w'')) : False := by
  obtain ⟨text, w₁, htext, -⟩ := hwarns
  exact nomatch (Prod.mk.inj (Eq.trans (Eq.symm htext) huntold)).1

theorem IsFailure.unique {h : Halt} {e e' : Value} (he : IsFailure w h e) (he' : IsFailure w h e') :
    e = e' := by
  obtain ⟨rfl, -⟩ := he
  obtain ⟨⟨⟩, -⟩ := he'
  rfl

theorem IsFailure.or_not (w : World) (h : Halt) : (∃ e, IsFailure w h e) ∨ ∀ e, ¬IsFailure w h e :=
  Classical.or_iff_not_imp_left.2 not_exists.1

theorem Hears.sound {name : String} {run : Run α} {ends : Except Halt α → World → Prop}
    (hends : ∀ o w', ends o w' → run.result w = (o, w')) {x : Heard α}
    (h : Hears call id name ends x w') :
    (guarded call id name run).result w = (x.outcome, w') := by
  unfold guarded
  rw [Run.result_tryCatch, Run.result_map]
  -- Each way to hear a hook is one way through the handler: passed by, logged, or failing in its
  -- turn.
  cases h with
  | given h => rw [hends _ _ h]; rfl
  | failed hook_ends failure warned =>
    obtain ⟨rfl, he⟩ := failure
    obtain ⟨text, w₁, htext, rfl⟩ := warned
    have htext : Run.result _ _ = _ := htext
    rw [hends _ _ hook_ends]
    simp only [Run.result_bind, Run.result_world, he, if_pos, htext]
    rfl
  | halted hook_ends other =>
    rw [hends _ _ hook_ends]
    rename_i h
    cases h with
    | exhausted => rfl
    | raised e =>
      have he : w'.isException e = false := by
        rw [← Bool.not_eq_true]
        exact fun he => other e ⟨rfl, he⟩
      simp only [Run.result_bind, Run.result_world, he]
      rfl
  | muted hook_ends failure untold =>
    obtain ⟨rfl, he⟩ := failure
    rw [hends _ _ hook_ends]
    simp only [Run.result_bind, Run.result_world, he, if_pos, untold]
    rfl

theorem Hears.unique {name : String} {ends : Except Halt α → World → Prop}
    (hends : ∀ o w o' w', ends o w → ends o' w' → o = o' ∧ w = w') {x x' : Heard α} {w'' : World}
    (h : Hears call id name ends x w') (h' : Hears call id name ends x' w'') :
    x = x' ∧ w' = w'' := by
  -- The hook ends in one way only, and that tells which of the four outcomes it is.
  cases h with
  | given h =>
    cases h' with
    | given h' => obtain ⟨⟨⟩, rfl⟩ := hends _ _ _ _ h h'; exact ⟨rfl, rfl⟩
    | failed h' | halted h' | muted h' => exact nomatch (hends _ _ _ _ h h').1
  | failed h failure warned =>
    cases h' with
    | given h' => exact nomatch (hends _ _ _ _ h h').1
    | failed h' failure' warned' =>
      obtain ⟨⟨⟩, rfl⟩ := hends _ _ _ _ h h'
      exact ⟨rfl, (failure.unique failure' ▸ warned).unique warned'⟩
    | halted h' other =>
      obtain ⟨⟨⟩, rfl⟩ := hends _ _ _ _ h h'
      exact absurd failure (other _)
    | muted h' failure' untold =>
      obtain ⟨⟨⟩, rfl⟩ := hends _ _ _ _ h h'
      exact ((failure.unique failure' ▸ warned).told untold).elim
  | halted h other =>
    cases h' with
    | given h' => exact nomatch (hends _ _ _ _ h h').1
    | halted h' => obtain ⟨⟨⟩, rfl⟩ := hends _ _ _ _ h h'; exact ⟨rfl, rfl⟩
    | failed h' failure | muted h' failure =>
      obtain ⟨⟨⟩, rfl⟩ := hends _ _ _ _ h h'
      exact absurd failure (other _)
  | muted h failure untold =>
    cases h' with
    | given h' => exact nomatch (hends _ _ _ _ h h').1
    | failed h' failure' warned =>
      obtain ⟨⟨⟩, rfl⟩ := hends _ _ _ _ h h'
      exact ((failure'.unique failure ▸ warned).told untold).elim
    | halted h' other =>
      obtain ⟨⟨⟩, rfl⟩ := hends _ _ _ _ h h'
      exact absurd failure (other _)
    | muted h' failure' untold' =>
      obtain ⟨⟨⟩, rfl⟩ := hends _ _ _ _ h h'
      obtain ⟨⟨⟩, rfl⟩ := Prod.mk.inj ((failure.unique failure' ▸ untold).symm.trans untold')
      exact ⟨rfl, rfl⟩

theorem Hears.total (call : Caller) (id : Value) (name : String)
    {ends : Except Halt α → World → Prop} (h : ∃ o w', ends o w') :
    ∃ x w', Hears call id name ends x w' := by
  obtain ⟨o, w₁, ho⟩ := h
  cases o with
  | ok a => exact ⟨_, _, .given ho⟩
  | error h =>
    obtain ⟨e, failure⟩ | other := IsFailure.or_not w₁ h
    · rcases htext : (World.tellField call e).result w₁ with ⟨h' | text, w₂⟩
      · exact ⟨_, _, .muted ho failure htext⟩
      · exact ⟨_, _, .failed ho failure ⟨text, w₂, htext, rfl⟩⟩
    · exact ⟨_, _, .halted ho other⟩

/-! ## Asking the prefix hook -/

/-- A value that is spread over so many targets gives so many items. -/
theorem unpack_length {n : Nat} {v : Value} {vs : List Value}
    (h : (World.unpack call n v).Gives w vs w') : vs.length = n := by
  -- No more items are drawn than there are targets.
  have hdraw : ∀ (n : Nat) (it : Value) (w w' : World) (vs : List Value),
      (World.drawUpTo call it n).Gives w vs w' → vs.length ≤ n := by
    intro n
    induction n with
    | zero =>
      intro it w w' vs h
      obtain ⟨rfl, -⟩ := Run.gives_pure.1 h
      exact Nat.le_refl 0
    | succ n ih =>
      intro it w w' vs h
      unfold World.drawUpTo at h
      rw [Run.gives_bind] at h
      obtain ⟨x, w₁, -, h⟩ := h
      cases x with
      | none =>
        obtain ⟨rfl, -⟩ := Run.gives_pure.1 h
        exact Nat.zero_le _
      | some x =>
        obtain ⟨xs, w₂, hxs, h⟩ := Run.gives_bind.1 h
        obtain ⟨rfl, -⟩ := Run.gives_pure.1 h
        exact Nat.succ_le_succ (ih it w₁ w₂ xs hxs)
  unfold World.unpack at h
  simp only [Run.gives_bind] at h
  obtain ⟨it, w₁, -, xs, w₂, hxs, h⟩ := h
  split at h
  · exact absurd h Run.not_gives_raise
  · rename_i hlength
    rw [Run.gives_bind] at h
    obtain ⟨x, w₃, -, h⟩ := h
    cases x with
    | none =>
      obtain ⟨rfl, -⟩ := Run.gives_pure.1 h
      exact Nat.le_antisymm (hdraw _ _ _ _ _ hxs) (Nat.le_of_not_lt hlength)
    | some x => exact absurd h Run.not_gives_raise

theorem Asks.sound {o : Except Halt (Value × List Value × Value)}
    (h : Asks call hook args w o w') : (askBefore call hook args).result w = (o, w') := by
  unfold askBefore
  cases h with
  | halted called =>
    rw [Made.ends_iff] at called
    simp only [Run.result_bind, called]
  | misshapen called spread =>
    rw [Made.ends_iff] at called
    simp only [Run.result_bind, called, spread]
  | unlisted called spread listed =>
    rw [Made.ends_iff] at called
    have spread : Run.result _ _ = _ := spread
    simp only [Run.result_bind, called, spread, listed]
  | answered called spread listed =>
    rw [Made.ends_iff] at called
    have spread : Run.result _ _ = _ := spread
    have listed : Run.result _ _ = _ := listed
    simp only [Run.result_bind, called, spread, listed, Run.result_pure]

theorem Asks.unique {o o' : Except Halt (Value × List Value × Value)} {w'' : World}
    (h : Asks call hook args w o w') (h' : Asks call hook args w o' w'') : o = o' ∧ w' = w'' :=
  Prod.mk.inj (h.sound.symm.trans h'.sound)

theorem Asks.total (call : Caller) (hook : Value) (args : Args) (w : World) :
    ∃ o w', Asks call hook args w o w' := by
  rcases hcall : (call hook args).result w with ⟨h | v, w₁⟩
  · exact ⟨_, _, .halted hcall⟩
  rcases hspread : (World.unpack call 3 v).result w₁ with ⟨h | vs, w₂⟩
  · exact ⟨_, _, .misshapen hcall hspread⟩
  match vs, unpack_length hspread with
  | [early, new, flow], _ =>
    rcases hlist : (World.toList call new).result w₂ with ⟨h | positional, w₃⟩
    · exact ⟨_, _, .unlisted hcall hspread hlist⟩
    · exact ⟨_, _, .answered hcall hspread hlist⟩

/-- What asking ends with is what it amounts to. -/
theorem Asks.of_result {o : Except Halt (Value × List Value × Value)}
    (h : (askBefore call hook args).result w = (o, w')) : Asks call hook args w o w' := by
  obtain ⟨o', w'', hasks⟩ := Asks.total call hook args w
  obtain ⟨rfl, rfl⟩ := Prod.mk.inj (h.symm.trans hasks.sound)
  exact hasks

/-! ## The beginning and the end of a call -/

theorem Opens.sound {ms : List Made} {e : Ending Decision} (h : Opens call hook id args w ms e w') :
    (decide call hook id args).result w = (e.outcome, w') := by
  unfold decide
  cases h with
  | silent absent => simp only [absent, if_pos]; rfl
  | heard present heard =>
    have hguarded := heard.sound fun _ _ => Asks.sound
    simp only [present, Bool.false_eq_true, if_false, Run.result_bind, hguarded]
    rename_i x
    cases x with
    | given answer =>
      obtain ⟨early, positional, flow⟩ := answer
      simp only [Heard.outcome, Run.result_bind, Run.result_world, decided, verdict]
      split <;> rfl
    | failed => rfl
    | halted h => rfl
    | muted h => rfl

theorem Opens.unique {ms ms' : List Made} {e e' : Ending Decision} {w'' : World}
    (h : Opens call hook id args w ms e w') (h' : Opens call hook id args w ms' e' w'') :
    ms = ms' ∧ e = e' ∧ w' = w'' := by
  cases h with
  | silent absent =>
    cases h' with
    | silent => exact ⟨rfl, rfl, rfl⟩
    | heard present => rw [absent] at present; cases present
  | heard present heard =>
    cases h' with
    | silent absent => rw [absent] at present; cases present
    | heard _ heard' =>
      obtain ⟨rfl, rfl⟩ := heard.unique (fun _ _ _ _ => Asks.unique) heard'
      exact ⟨rfl, rfl, rfl⟩

theorem Opens.total (call : Caller) (hook id : Value) (args : Args) (w : World) :
    ∃ ms e w', Opens call hook id args w ms e w' := by
  cases hnone : hook.isNone with
  | true => exact ⟨_, _, _, .silent hnone⟩
  | false =>
    obtain ⟨x, w', heard⟩ := Hears.total call id "prefix" (Asks.total call hook args w)
    exact ⟨_, _, _, .heard hnone heard⟩

theorem Closes.sound {skipsAfter : Bool} {ms : List Made} {e : Ending Value}
    (h : Closes call hook id skipsAfter args result w ms e w') :
    (finish call hook id skipsAfter args result).result w = (e.outcome, w') := by
  unfold finish
  cases h with
  | silent absent =>
    have hquiet : (hook.isNone || skipsAfter) = true := by simpa using absent
    simp only [hquiet, if_pos]
    rfl
  | heard present wanted heard =>
    have hguarded := heard.sound fun _ _ => Made.ends_iff.1
    dsimp only [behind] at hguarded
    simp only [present, wanted, Bool.or_self, Bool.false_eq_true, if_false, Run.result_bind,
      hguarded]
    rename_i x
    cases x <;> rfl

theorem Closes.unique {skipsAfter : Bool} {ms ms' : List Made} {e e' : Ending Value} {w'' : World}
    (h : Closes call hook id skipsAfter args result w ms e w')
    (h' : Closes call hook id skipsAfter args result w ms' e' w'') :
    ms = ms' ∧ e = e' ∧ w' = w'' := by
  cases h with
  | silent absent =>
    cases h' with
    | silent => exact ⟨rfl, rfl, rfl⟩
    | heard present wanted => simp [present, wanted] at absent
  | heard present wanted heard =>
    cases h' with
    | silent absent => simp [present, wanted] at absent
    | heard _ _ heard' =>
      obtain ⟨rfl, rfl⟩ := heard.unique (fun _ _ _ _ => Made.ends_unique) heard'
      exact ⟨rfl, rfl, rfl⟩

theorem Closes.total (call : Caller) (hook id : Value) (skipsAfter : Bool) (args : Args)
    (result : Value) (w : World) :
    ∃ ms e w', Closes call hook id skipsAfter args result w ms e w' := by
  by_cases habsent : hook.isNone = true ∨ skipsAfter = true
  · exact ⟨_, _, _, .silent habsent⟩
  · rw [not_or, Bool.not_eq_true, Bool.not_eq_true] at habsent
    have hends : ∃ o w', Made.Ends call ⟨hook, behind result args, w⟩ o w' := ⟨_, _, rfl⟩
    obtain ⟨x, w', heard⟩ := Hears.total call id "postfix" hends
    exact ⟨_, _, _, .heard habsent.1 habsent.2 heard⟩

/-! ## The whole call -/

theorem Course.sound {patch : Ref} {wrapped : Value} {ms : List Made} {e : Ending Value}
    (h : Course call patch id wrapped args w ms e w') :
    (dispatch call patch id wrapped args).result w = (e.outcome, w') := by
  unfold dispatch
  rw [Run.result_bind, Run.result_world]
  cases h with
  | replaced present called =>
    simp only [present, Bool.not_false, if_pos]
    exact called
  | stopped absent opened =>
    simp only [absent, Bool.not_true, Bool.false_eq_true, if_false, Run.result_bind, opened.sound]
    rfl
  | halted absent opened =>
    simp only [absent, Bool.not_true, Bool.false_eq_true, if_false, Run.result_bind, opened.sound]
    rfl
  | muted absent opened =>
    simp only [absent, Bool.not_true, Bool.false_eq_true, if_false, Run.result_bind, opened.sound]
    rfl
  | failed absent opened called =>
    rw [Made.ends_iff] at called
    simp only [absent, Bool.not_true, Bool.false_eq_true, if_false, Run.result_bind, opened.sound,
      Ending.outcome, called]
  | finished absent opened called closed =>
    rw [Made.ends_iff] at called
    simp only [absent, Bool.not_true, Bool.false_eq_true, if_false, Run.result_bind, opened.sound,
      Ending.outcome, called, Run.result_world]
    exact closed.sound

theorem Course.unique {patch : Ref} {wrapped : Value} {ms ms' : List Made} {e e' : Ending Value}
    {w'' : World} (h : Course call patch id wrapped args w ms e w')
    (h' : Course call patch id wrapped args w ms' e' w'') : ms = ms' ∧ e = e' ∧ w' = w'' := by
  -- Two courses of one call begin alike, so that they part nowhere.
  cases h with
  | replaced present called =>
    cases h' with
    | replaced _ called' =>
      obtain ⟨rfl, rfl⟩ := Made.ends_unique called called'
      exact ⟨rfl, rfl, rfl⟩
    | stopped absent | halted absent | muted absent | failed absent | finished absent =>
      rw [absent] at present
      cases present
  | stopped absent opened =>
    cases h' with
    | replaced present => rw [absent] at present; cases present
    | stopped _ opened' =>
      obtain ⟨rfl, ⟨⟩, rfl⟩ := opened.unique opened'
      exact ⟨rfl, rfl, rfl⟩
    | halted _ opened' | muted _ opened' | failed _ opened' | finished _ opened' =>
      exact nomatch (opened.unique opened').2.1
  | halted absent opened =>
    cases h' with
    | replaced present => rw [absent] at present; cases present
    | halted _ opened' =>
      obtain ⟨rfl, ⟨⟩, rfl⟩ := opened.unique opened'
      exact ⟨rfl, rfl, rfl⟩
    | stopped _ opened' | muted _ opened' | failed _ opened' | finished _ opened' =>
      exact nomatch (opened.unique opened').2.1
  | muted absent opened =>
    cases h' with
    | replaced present => rw [absent] at present; cases present
    | muted _ opened' =>
      obtain ⟨rfl, ⟨⟩, rfl⟩ := opened.unique opened'
      exact ⟨rfl, rfl, rfl⟩
    | stopped _ opened' | halted _ opened' | failed _ opened' | finished _ opened' =>
      exact nomatch (opened.unique opened').2.1
  | failed absent opened called =>
    cases h' with
    | replaced present => rw [absent] at present; cases present
    | stopped _ opened' | halted _ opened' | muted _ opened' =>
      exact nomatch (opened.unique opened').2.1
    | failed _ opened' called' =>
      obtain ⟨rfl, ⟨⟩, rfl⟩ := opened.unique opened'
      obtain ⟨⟨⟩, rfl⟩ := Made.ends_unique called called'
      exact ⟨rfl, rfl, rfl⟩
    | finished _ opened' called' =>
      obtain ⟨rfl, ⟨⟩, rfl⟩ := opened.unique opened'
      exact nomatch (Made.ends_unique called called').1
  | finished absent opened called closed =>
    cases h' with
    | replaced present => rw [absent] at present; cases present
    | stopped _ opened' | halted _ opened' | muted _ opened' =>
      exact nomatch (opened.unique opened').2.1
    | failed _ opened' called' =>
      obtain ⟨rfl, ⟨⟩, rfl⟩ := opened.unique opened'
      exact nomatch (Made.ends_unique called called').1
    | finished _ opened' called' closed' =>
      obtain ⟨rfl, ⟨⟩, rfl⟩ := opened.unique opened'
      obtain ⟨⟨⟩, rfl⟩ := Made.ends_unique called called'
      obtain ⟨rfl, rfl, rfl⟩ := closed.unique closed'
      exact ⟨rfl, rfl, rfl⟩

/-- A call that is not decided when it begins goes on with the patched callable. -/
theorem Opens.goesOn {patch : Ref} {ms : List Made} {positional : List Value} {skipsAfter : Bool}
    (absent : (hooksOf w patch).instead.isNone = true)
    (opened : Opens call (hooksOf w patch).before id args w ms
      (.done (.ok (.proceed positional skipsAfter))) w') (wrapped : Value) :
    ∃ ms' e w'', Course call patch id wrapped args w
      (ms ++ ⟨wrapped, { args with positional }, w'⟩ :: ms') e w'' := by
  rcases hcall : (call wrapped { args with positional }).result w' with ⟨h | result, w₂⟩
  · exact ⟨_, _, _, .failed absent opened hcall⟩
  · obtain ⟨ms', e, w'', closed⟩ := Closes.total call (hooksOf w₂ patch).after id skipsAfter
      { args with positional } result w₂
    exact ⟨_, _, _, .finished absent opened hcall closed⟩

theorem Course.total (call : Caller) (patch : Ref) (id wrapped : Value) (args : Args) (w : World) :
    ∃ ms e w', Course call patch id wrapped args w ms e w' := by
  cases hinstead : (hooksOf w patch).instead.isNone with
  | false => exact ⟨_, _, _, .replaced hinstead rfl⟩
  | true =>
    obtain ⟨ms, e, w₁, opened⟩ := Opens.total call (hooksOf w patch).before id args w
    match e, opened with
    | .muted h, opened => exact ⟨_, _, _, .muted hinstead opened⟩
    | .done (.error h), opened => exact ⟨_, _, _, .halted hinstead opened⟩
    | .done (.ok (.stop result)), opened => exact ⟨_, _, _, .stopped hinstead opened⟩
    | .done (.ok (.proceed positional skipsAfter)), opened =>
      obtain ⟨ms', e, w', hcourse⟩ := opened.goesOn hinstead wrapped
      exact ⟨_, _, _, hcourse⟩

/-- A hook is muted by an exception whose text can not be told, and ends with what comes of that. -/
theorem Hears.untold {β : Type} {name : String} {ends : Except Halt β → World → Prop} {h : Halt}
    (heard : Hears call id name ends (.muted h) w') :
    ∃ e w₁, w₁.isException e = true ∧ (World.tellField call e).result w₁ = (.error h, w') := by
  cases heard with
  | muted _ failure untold => exact ⟨_, _, failure.2, untold⟩

theorem Opens.untold {hook : Value} {ms : List Made} {d : Ending Decision} {h : Halt}
    (opened : Opens call hook id args w ms d w') (hd : d = .muted h) :
    ∃ e w₁, w₁.isException e = true ∧ (World.tellField call e).result w₁ = (.error h, w') := by
  cases opened with
  | silent => cases hd
  | @heard x _ present heard =>
    cases x with
    | muted h' =>
      cases hd
      exact heard.untold
    | _ => cases hd

theorem Closes.untold {hook result : Value} {skipsAfter : Bool} {ms : List Made} {e : Ending Value}
    {h : Halt} (closed : Closes call hook id skipsAfter args result w ms e w') (he : e = .muted h) :
    ∃ e w₁, w₁.isException e = true ∧ (World.tellField call e).result w₁ = (.error h, w') := by
  cases closed with
  | silent => cases he
  | @heard x _ present wanted heard =>
    cases x with
    | muted h' =>
      cases he
      exact heard.untold
    | _ => cases he

/-- A call is muted by one of its hooks. -/
theorem Course.untold {patch : Ref} {wrapped : Value} {ms : List Made} {h : Halt}
    (hcourse : Course call patch id wrapped args w ms (.muted h) w') :
    ∃ e w₁, w₁.isException e = true ∧ (World.tellField call e).result w₁ = (.error h, w') := by
  generalize he : Ending.muted h = e at hcourse
  cases hcourse with
  | muted absent opened =>
    cases he
    exact opened.untold rfl
  | finished absent opened called closed => exact closed.untold he.symm
  | _ => cases he

/-- A function that runs the hooks of a patch around a callable. -/
def IsWrapper (w : World) (v : Value) (patch : Ref) (id wrapped : Value) : Prop :=
  ∃ f, w.body? v = some (.function f) ∧ f.behaviour = .dispatch patch id wrapped

theorem IsWrapper.invoke_eq {v wrapped : Value} {patch : Ref}
    (h : IsWrapper w v patch id wrapped) :
    (World.invoke call v args).result w = (dispatch call patch id wrapped args).result w := by
  obtain ⟨f, hbody, hdispatch⟩ := h
  cases v with
  | thing r =>
    have hthing : (w.thing? r).map Thing.body = some (.function f) := hbody
    unfold World.invoke
    rw [Run.result_bind, Run.result_world]
    simp only [hthing, Machine.Function.run, hdispatch]
  | _ => cases hbody

end Graft.Patch
