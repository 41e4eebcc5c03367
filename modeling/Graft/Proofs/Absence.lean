import Mathlib.Data.List.Forall2
import Graft.Proofs.Stack

set_option autoImplicit false

/-! # Hooks that count as absent

A prefix or postfix hook that does nothing but fail has no effect but a warning.  To say so, a call of
a stack is compared with a call of the stack that goes without such hooks.  The two start from worlds
that programs can not tell apart, and all other hooks and the original do the same in both.  Then the
calls of these are the same in both, in the same order and with the same arguments, and both calls
end alike.  One warning is logged for each call of a hook that is left out, and otherwise the same. -/

namespace Graft.Patch

open Graft.Machine

/-! ## Worlds that programs can not tell apart -/

/-- A way to compare two runs stage by stage: worlds that programs can not tell apart, and values that
    stand for each other from then on. -/
structure Likeness where
  Stage : Type
  later : Stage → Stage → Prop
  worlds : Stage → World → World → Prop
  values : Stage → Value → Value → Prop
  refl : ∀ s, later s s
  trans : ∀ {s t r}, later s t → later t r → later s r
  values_later : ∀ {s t v v'}, later s t → values s v v' → values t v v'
  /-- Programs do not see what is logged. -/
  logs : ∀ {s w u} (l l' : List LogEntry), worlds s w u →
    worlds s { w with logs := l } { u with logs := l' }
  isChoice : ∀ {s w u v v'} (c : Choice), worlds s w u → values s v v' →
    w.isChoice v c = u.isChoice v' c
  isException : ∀ {s w u e e'}, worlds s w u → values s e e' → w.isException e = u.isException e'
  typeName : ∀ {s w u e e'}, worlds s w u → values s e e' → w.typeName e = u.typeName e'

namespace Likeness

variable (L : Likeness)

/-- What halts two runs is alike. -/
inductive Halts (s : L.Stage) : Halt → Halt → Prop
  | raised {e e' : Value} (h : L.values s e e') : Halts s (.raised e) (.raised e')
  | exhausted : Halts s .exhausted .exhausted

/-- Two runs end alike. -/
inductive Outcomes {α : Type} (s : L.Stage) (R : α → α → Prop) :
    Except Halt α → Except Halt α → Prop
  | ok {a a' : α} (h : R a a') : Outcomes s R (.ok a) (.ok a')
  | error {h h' : Halt} (halts : L.Halts s h h') : Outcomes s R (.error h) (.error h')

/-- Two runs go from worlds that programs can not tell apart to such worlds, and log the same. -/
structure Together (s : L.Stage) (w u : World) (t : L.Stage) (w' u' : World) : Prop where
  later : L.later s t
  worlds : L.worlds t w' u'
  logs : ∃ new, w'.logs = new ++ w.logs ∧ u'.logs = new ++ u.logs

/-- They end alike, too. -/
structure Agree {α : Type} (R : L.Stage → α → α → Prop) (s : L.Stage) (w u : World)
    (x y : Except Halt α × World) (t : L.Stage) : Prop where
  together : L.Together s w u t x.2 y.2
  outcomes : L.Outcomes t (R t) x.1 y.1

/-- Arguments stand for each other. -/
structure ArgsAlike (s : L.Stage) (args args' : Args) : Prop where
  positional : List.Forall₂ (L.values s) args.positional args'.positional
  keywords : List.Forall₂ (fun a a' => a.1 = a'.1 ∧ L.values s a.2 a'.2) args.keywords args'.keywords

/-- Answers of prefix hooks stand for each other. -/
structure Answers (s : L.Stage) (a a' : Value × List Value × Value) : Prop where
  early : L.values s a.1 a'.1
  positional : List.Forall₂ (L.values s) a.2.1 a'.2.1
  flow : L.values s a.2.2 a'.2.2

/-! ## What is asked of programs -/

variable (n : Nat)

/-- A callable does the same in worlds that programs can not tell apart. -/
def Called (f : Value) : Prop :=
  ∀ k s w u args args', n ≤ k → L.worlds s w u → L.ArgsAlike s args args' →
    ∃ t, L.Agree L.values s w u ((callWithin k f args).result w) ((callWithin k f args').result u) t

/-- A prefix hook answers the same in worlds that programs can not tell apart. -/
def Asked (hook : Value) : Prop :=
  ∀ k s w u args args', n ≤ k → L.worlds s w u → L.ArgsAlike s args args' →
    ∃ t, L.Agree L.Answers s w u ((askBefore (callWithin k) hook args).result w)
      ((askBefore (callWithin k) hook args').result u) t

/-- Exceptions tell the same of themselves in worlds that programs can not tell apart. -/
def Told : Prop :=
  ∀ k s w u e e', n ≤ k → L.worlds s w u → L.values s e e' → w.isException e = true →
    ∃ t, L.Agree (fun _ text text' => text = text') s w u
      ((World.tellField (callWithin k) e).result w) ((World.tellField (callWithin k) e').result u) t

/-- Whatever it is called with, a run does nothing but raise an ordinary exception: when the text of
    that has been told, programs can not tell that it has run, and nothing has been logged. -/
def Fails {α : Type} (run : Caller → Args → Run α) : Prop :=
  ∀ k s w u args, n ≤ k → L.worlds s w u → ∃ e w₁ text w₂,
    (run (callWithin k) args).result w = (.error (.raised e), w₁) ∧ w₁.isException e = true ∧
      (World.tellField (callWithin k) e).Gives w₁ text w₂ ∧ L.worlds s w₂ u ∧ w₂.logs = w.logs

end Likeness

/-! ## Leaving hooks out -/

/-- A hook, if it is not left out. -/
def keptHook (out : Role → Bool) (role : Role) (hook : Value) : Value :=
  if out role then .none else hook

/-- The hooks of a layer without those that are left out. -/
def Layer.kept (out : Role → Bool) (level : Nat) (l : Layer) : Hooks :=
  { before := keptHook out (.before level l.id) l.hooks.before
    after := keptHook out (.after level l.id) l.hooks.after }

/-- A stack is another one without the hooks that are left out. -/
inductive Thins (out : Role → Bool) : List Layer → List Layer → Prop
  | nil : Thins out [] []
  | cons {l l' : Layer} {ls ls' : List Layer} (id : l'.id = l.id)
      (hooks : l'.hooks = l.kept out ls.length) (rest : Thins out ls ls') :
      Thins out (l :: ls) (l' :: ls')

/-- A hook either does the same in both runs, or it is left out and does nothing but fail. -/
structure Likeness.HookSuits (L : Likeness) (n : Nat) {α : Type} (out : Bool) (hook : Value)
    (same : Prop) (run : Caller → Args → Run α) : Prop where
  kept : hook.isNone = false → out = false → same
  leftOut : hook.isNone = false → out = true → L.Fails n run

/-- The hooks of a layer can be left out like that, and it has no replacing hook. -/
structure Likeness.Suits (L : Likeness) (n : Nat) (out : Role → Bool) (level : Nat) (l : Layer) :
    Prop where
  instead : l.hooks.instead.isNone = true
  before : L.HookSuits n (out (.before level l.id)) l.hooks.before (L.Asked n l.hooks.before)
    fun call => askBefore call l.hooks.before
  after : L.HookSuits n (out (.after level l.id)) l.hooks.after (L.Called n l.hooks.after)
    fun call => call l.hooks.after
  id : ∀ s w u, L.worlds s w u → w.text l.id = u.text l.id

/-- So can those of all layers of a stack. -/
inductive Likeness.SuitsAll (L : Likeness) (n : Nat) (out : Role → Bool) : List Layer → Prop
  | nil : SuitsAll L n out []
  | cons {l : Layer} {ls : List Layer} (first : L.Suits n out ls.length l)
      (rest : SuitsAll L n out ls) : SuitsAll L n out (l :: ls)

theorem Thins.length {out : Role → Bool} {ls ls' : List Layer} (h : Thins out ls ls') :
    ls'.length = ls.length := by
  induction h with
  | nil => rfl
  | cons _ _ _ ih => rw [List.length_cons, List.length_cons, ih]

/-! ## Runs side by side -/

/-- A log entry warns of the failure of a hook. -/
def Role.Warns : Role → LogEntry → Prop
  | .before _ id, entry => ∃ w e text,
    entry = ⟨.warning, logger, failureText w id "prefix" e ++ text⟩
  | .after _ id, entry => ∃ w e text,
    entry = ⟨.warning, logger, failureText w id "postfix" e ++ text⟩
  | _, _ => False

/-- The same call, with arguments that stand for each other. -/
structure Likeness.SameStep (L : Likeness) (s : L.Stage) (a a' : Step) : Prop where
  role : a.role = a'.role
  callee : a.made.callee = a'.made.callee
  args : L.ArgsAlike s a.made.args a'.made.args

/-- Two parts of runs side by side: all calls are the same but those of hooks that are left out in
    the second one.  What is logged is the same but for one warning for each of these, which is
    marked. -/
structure Likeness.Alongside (L : Likeness) (out : Role → Bool) (s : L.Stage) (w u : World)
    (steps steps' : List Step) (t : L.Stage) (w' u' : World) : Prop where
  later : L.later s t
  worlds : L.worlds t w' u'
  calls : List.Forall₂ (L.SameStep t) (steps.filter fun a => !out a.role) steps'
  logs : ∃ marked : List (LogEntry × Bool), w'.logs = marked.map Prod.fst ++ w.logs ∧
    u'.logs = (marked.filter fun entry => !entry.2).map Prod.fst ++ u.logs ∧
    List.Forall₂ Role.Warns ((steps.filter fun a => out a.role).map Step.role)
      ((marked.filter Prod.snd).map Prod.fst).reverse

namespace Likeness

variable {L : Likeness} {out : Role → Bool} {s t r : L.Stage} {w u w₁ u₁ w' u' : World}
  {steps steps' more more' : List Step}

theorem values_forall_later {vs vs' : List Value} (h : L.later s t)
    (hvs : List.Forall₂ (L.values s) vs vs') : List.Forall₂ (L.values t) vs vs' :=
  hvs.imp fun _ _ => L.values_later h

theorem ArgsAlike.at {args args' : Args} (hargs : L.ArgsAlike s args args') (h : L.later s t) :
    L.ArgsAlike t args args' where
  positional := values_forall_later h hargs.positional
  keywords := hargs.keywords.imp fun _ _ ha => ⟨ha.1, L.values_later h ha.2⟩

theorem SameStep.at {a a' : Step} (hstep : L.SameStep s a a') (h : L.later s t) :
    L.SameStep t a a' :=
  ⟨hstep.role, hstep.callee, hstep.args.at h⟩

namespace Alongside

theorem refl (h : L.worlds s w u) : L.Alongside out s w u [] [] s w u where
  later := L.refl s
  worlds := h
  calls := .nil
  logs := ⟨[], rfl, rfl, .nil⟩

theorem trans (h : L.Alongside out s w u steps steps' t w₁ u₁)
    (h' : L.Alongside out t w₁ u₁ more more' r w' u') :
    L.Alongside out s w u (steps ++ more) (steps' ++ more') r w' u' where
  later := L.trans h.later h'.later
  worlds := h'.worlds
  calls := by
    rw [List.filter_append]
    exact List.rel_append (h.calls.imp fun _ _ hstep => hstep.at h'.later) h'.calls
  logs := by
    obtain ⟨marked, hw, hu, hwarns⟩ := h.logs
    obtain ⟨marked', hw', hu', hwarns'⟩ := h'.logs
    refine ⟨marked' ++ marked, ?_, ?_, ?_⟩
    · rw [hw', hw, List.map_append, List.append_assoc]
    · rw [hu', hu, List.filter_append, List.map_append, List.append_assoc]
    · rw [List.filter_append, List.map_append, List.filter_append, List.map_append,
        List.reverse_append]
      exact List.rel_append hwarns hwarns'

end Alongside

/-! ### One call -/

theorem Together.trans {t : L.Stage} (h : L.Together s w u t w₁ u₁)
    (h' : L.Together t w₁ u₁ r w' u') : L.Together s w u r w' u' where
  later := L.trans h.later h'.later
  worlds := h'.worlds
  logs := by
    obtain ⟨new, hw, hu⟩ := h.logs
    obtain ⟨new', hw', hu'⟩ := h'.logs
    exact ⟨new' ++ new, by rw [hw', hw, List.append_assoc], by rw [hu', hu, List.append_assoc]⟩

/-- The same entry is logged in both. -/
theorem Together.log (h : L.Together s w u t w' u') (entry : LogEntry) :
    L.Together s w u t { w' with logs := entry :: w'.logs }
      { u' with logs := entry :: u'.logs } where
  later := h.later
  worlds := L.logs _ _ h.worlds
  logs := by
    obtain ⟨new, hw, hu⟩ := h.logs
    exact ⟨entry :: new, by rw [hw]; rfl, by rw [hu]; rfl⟩

variable {role : Role} {callee : Value} {args args' : Args}

/-- A call that is made in both. -/
theorem Together.alongside (h : L.Together s w u t w' u') (hout : out role = false)
    (hargs : L.ArgsAlike s args args') :
    L.Alongside out s w u (stepsOf role [⟨callee, args, w⟩]) (stepsOf role [⟨callee, args', u⟩]) t
      w' u' where
  later := h.later
  worlds := h.worlds
  calls := by
    have hkept : (stepsOf role [⟨callee, args, w⟩]).filter (fun a => !out a.role) =
        stepsOf role [⟨callee, args, w⟩] := by simp [stepsOf, hout]
    rw [hkept]
    exact .cons ⟨rfl, rfl, hargs.at h.later⟩ .nil
  logs := by
    obtain ⟨new, hw, hu⟩ := h.logs
    refine ⟨new.map (·, false), ?_, ?_, ?_⟩
    · rw [hw, List.map_map]
      simp [Function.comp_def]
    · rw [hu]
      simp [List.filter_map, Function.comp_def]
    · simp [stepsOf, hout, List.filter_map, Function.comp_def]

/-- A call of a hook that is left out in the second run, and the warning of its failure. -/
theorem Alongside.leftOut {entry : LogEntry} (hout : out role = true) (hworlds : L.worlds s w' u)
    (hlogs : w'.logs = entry :: w.logs) (hwarns : role.Warns entry) :
    L.Alongside out s w u (stepsOf role [⟨callee, args, w⟩]) [] s w' u where
  later := L.refl s
  worlds := hworlds
  calls := by
    have hnone : (stepsOf role [⟨callee, args, w⟩]).filter (fun a => !out a.role) = [] := by
      simp [stepsOf, hout]
    rw [hnone]
    exact .nil
  logs := by
    refine ⟨[(entry, true)], hlogs, rfl, ?_⟩
    have hone : (stepsOf role [⟨callee, args, w⟩]).filter (fun a => out a.role) =
        stepsOf role [⟨callee, args, w⟩] := by simp [stepsOf, hout]
    rw [hone]
    exact .cons hwarns .nil

/-! ### Hearing hooks -/

/-- It turns out alike to hear a hook. -/
inductive HeardAlike (L : Likeness) {α : Type} (s : L.Stage) (R : α → α → Prop) :
    Heard α → Heard α → Prop
  | given {a a' : α} (h : R a a') : HeardAlike L s R (.given a) (.given a')
  | failed : HeardAlike L s R .failed .failed
  | halted {h h' : Halt} (halts : L.Halts s h h') : HeardAlike L s R (.halted h) (.halted h')
  | muted {h h' : Halt} (halts : L.Halts s h h') : HeardAlike L s R (.muted h) (.muted h')

theorem failureText_alike {id e e' : Value} (hook : String) (hid : w.text id = u.text id)
    (htype : w.typeName e = u.typeName e') : failureText w id hook e = failureText u id hook e' := by
  rw [failureText, failureText, hid, htype]

/-- A hook that does the same in both runs is heard alike. -/
theorem Agree.hears {α : Type} {R : L.Stage → α → α → Prop} {x y : Except Halt α × World}
    (ends ends' : Except Halt α → World → Prop) {n k : Nat} {id : Value} (hook : String)
    (h : L.Agree R s w u x y t) (hx : ends x.1 x.2) (hy : ends' y.1 y.2) (htold : L.Told n)
    (hk : n ≤ k) (hid : ∀ s w u, L.worlds s w u → w.text id = u.text id) :
    ∃ o o' w' u' r, Hears (callWithin k) id hook ends o w' ∧
      Hears (callWithin k) id hook ends' o' u' ∧ L.HeardAlike r (R r) o o' ∧
      L.Together s w u r w' u' := by
  obtain ⟨x, w₁⟩ := x
  obtain ⟨y, u₁⟩ := y
  obtain ⟨htogether, houtcomes⟩ := h
  dsimp only at hx hy htogether houtcomes
  cases houtcomes with
  | ok hR => exact ⟨_, _, _, _, t, .given hx, .given hy, .given hR, htogether⟩
  | error halts =>
    have hhalts := halts
    cases halts with
    | exhausted =>
      have hno : ∀ (w : World) e, ¬IsFailure w .exhausted e := fun _ _ hfails => nomatch hfails.1
      exact ⟨_, _, _, _, t, .halted hx (hno _), .halted hy (hno _), .halted .exhausted, htogether⟩
    | @raised e e' he =>
      have hsame := L.isException htogether.worlds he
      -- Only an exception is a failure that is logged, and both sides raise one or neither does.
      cases hexception : w₁.isException e with
      | false =>
        have hno : ∀ {w : World} {e : Value}, w.isException e = false →
            ∀ e', ¬IsFailure w (.raised e) e' := by
          rintro w e hfalse e' ⟨⟨⟩, htrue⟩
          rw [hfalse] at htrue
          cases htrue
        exact ⟨_, _, _, _, t, .halted hx (hno hexception),
          .halted hy (hno (hsame.symm.trans hexception)), .halted hhalts, htogether⟩
      | true =>
        have hfailure : IsFailure w₁ (.raised e) e := ⟨rfl, hexception⟩
        have hfailure' : IsFailure u₁ (.raised e') e' := ⟨rfl, hsame.symm.trans hexception⟩
        obtain ⟨r, hagree⟩ := htold k t w₁ u₁ e e' hk htogether.worlds he hexception
        rcases htell : (World.tellField (callWithin k) e).result w₁ with ⟨o, w₂⟩
        rcases htell' : (World.tellField (callWithin k) e').result u₁ with ⟨o', u₂⟩
        rw [htell, htell'] at hagree
        obtain ⟨htogether', houtcomes'⟩ := hagree
        dsimp only at htogether' houtcomes'
        have hthrough := htogether.trans htogether'
        cases houtcomes' with
        | @ok text _ htext =>
          subst htext
          have hsay := failureText_alike hook (hid _ _ _ htogether.worlds)
            (L.typeName htogether.worlds he)
          have hwarned : Warns (callWithin k) id hook e' u₁ { u₂ with logs :=
              ⟨.warning, logger, failureText w₁ id hook e ++ text⟩ :: u₂.logs } := by
            rw [hsay]
            exact ⟨text, u₂, htell', rfl⟩
          exact ⟨_, _, _, _, r, .failed hx hfailure ⟨text, w₂, htell, rfl⟩,
            .failed hy hfailure' hwarned, .failed, hthrough.log _⟩
        | error halts' =>
          exact ⟨_, _, _, _, r, .muted hx hfailure htell, .muted hy hfailure' htell',
            .muted halts', hthrough⟩

/-- A hook that does nothing but fail is heard to fail, and programs can not tell that it has been
    called. -/
theorem Fails.hears {α : Type} {run : Caller → Args → Run α} {n k : Nat} (h : L.Fails n run)
    (hk : n ≤ k) (hworlds : L.worlds s w u) (ends : Except Halt α → World → Prop)
    (hends : ∀ o w', (run (callWithin k) args).result w = (o, w') → ends o w') (id : Value)
    (hook : String) :
    ∃ w₁ e text w', Hears (callWithin k) id hook ends .failed w' ∧ L.worlds s w' u ∧
      w'.logs = ⟨.warning, logger, failureText w₁ id hook e ++ text⟩ :: w.logs := by
  obtain ⟨e, w₁, text, w₂, hrun, hexception, htold, hlater, hlogs⟩ := h k s w u args hk hworlds
  refine ⟨w₁, e, text, _, .failed (hends _ _ hrun) ⟨rfl, hexception⟩ ⟨text, w₂, htold, rfl⟩,
    L.logs (u := u) _ u.logs hlater, ?_⟩
  dsimp only
  rw [hlogs]

/-! ### The beginning and the end of a layer -/

/-- Parts of calls end alike. -/
inductive Endings (L : Likeness) {α : Type} (s : L.Stage) (R : α → α → Prop) :
    Ending α → Ending α → Prop
  | done {o o' : Except Halt α} (h : L.Outcomes s R o o') : Endings L s R (.done o) (.done o')
  | muted {h h' : Halt} (halts : L.Halts s h h') : Endings L s R (.muted h) (.muted h')

/-- The same is decided. -/
inductive Decisions (L : Likeness) (s : L.Stage) : Decision → Decision → Prop
  | stop {v v' : Value} (h : L.values s v v') : Decisions L s (.stop v) (.stop v')
  | proceed {vs vs' : List Value} (skipsAfter : Bool) (h : List.Forall₂ (L.values s) vs vs') :
      Decisions L s (.proceed vs skipsAfter) (.proceed vs' skipsAfter)

theorem verdict_alike {a a' : Value × List Value × Value} (hworlds : L.worlds s w u)
    (ha : L.Answers s a a') :
    L.Decisions s (verdict w a.1 a.2.1 a.2.2) (verdict u a'.1 a'.2.1 a'.2.2) := by
  rw [verdict, verdict, ← L.isChoice _ hworlds ha.flow, ← L.isChoice _ hworlds ha.flow]
  split
  · exact .stop ha.early
  · exact .proceed _ ha.positional

theorem decided_alike {x x' : Heard (Value × List Value × Value)} (hworlds : L.worlds s w u)
    (hargs : L.ArgsAlike s args args') (h : L.HeardAlike s (L.Answers s) x x') :
    L.Endings s (L.Decisions s) (decided w args x) (decided u args' x') := by
  cases h with
  | given ha => exact .done (.ok (verdict_alike hworlds ha))
  | failed => exact .done (.ok (.proceed false hargs.positional))
  | halted halts => exact .done (.error halts)
  | muted halts => exact .muted halts

theorem settled_alike {result result' : Value} {x x' : Heard Value}
    (hresult : L.values s result result') (h : L.HeardAlike s (L.values s) x x') :
    L.Endings s (L.values s) (settled result x) (settled result' x') := by
  cases h with
  | given hv => exact .done (.ok hv)
  | failed => exact .done (.ok hresult)
  | halted halts => exact .done (.error halts)
  | muted halts => exact .muted halts

theorem keptHook_none {hook : Value} (h : hook.isNone = true) :
    (keptHook out role hook).isNone = true := by
  unfold keptHook
  split
  · rfl
  · exact h

variable {n k level : Nat} {l : Layer}

/-- A layer begins alike with and without the hooks that are left out. -/
theorem Suits.opens (hl : L.Suits n out level l) (htold : L.Told n) (hk : n ≤ k)
    (hworlds : L.worlds s w u) (hargs : L.ArgsAlike s args args') :
    ∃ ms d w' ms' d' u' t, Opens (callWithin k) l.hooks.before l.id args w ms d w' ∧
      Opens (callWithin k) (keptHook out (.before level l.id) l.hooks.before) l.id args' u ms' d'
        u' ∧
      L.Endings t (L.Decisions t) d d' ∧ L.Alongside out s w u
        (stepsOf (.before level l.id) ms) (stepsOf (.before level l.id) ms') t w' u' := by
  have hsilent : L.Endings s (L.Decisions s) (.done (.ok (.proceed args.positional false)))
      (.done (.ok (.proceed args'.positional false))) := .done (.ok (.proceed false hargs.positional))
  cases hnone : l.hooks.before.isNone with
  | true =>
    exact ⟨_, _, _, _, _, _, s, .silent hnone, .silent (keptHook_none hnone), hsilent, .refl hworlds⟩
  | false =>
    -- A hook that is left out has only logged; a hook that is kept is heard on both sides.
    cases hout : out (.before level l.id) with
    | true =>
      obtain ⟨w₁, e, text, w', hears, hlater, hlogs⟩ := (hl.before.leftOut hnone hout).hears hk
        hworlds (Asks (callWithin k) l.hooks.before args w) (fun _ _ => Asks.of_result) l.id "prefix"
      refine ⟨_, _, _, _, _, _, s, .heard hnone hears, .silent ?_, hsilent, ?_⟩
      · rw [keptHook, if_pos hout]
        rfl
      · exact .leftOut hout hlater hlogs ⟨w₁, e, text, rfl⟩
    | false =>
      obtain ⟨t, hagree⟩ := hl.before.kept hnone hout k s w u args args' hk hworlds hargs
      obtain ⟨o, o', w', u', r, hears, hears', halike, htogether⟩ := hagree.hears
        (Asks (callWithin k) l.hooks.before args w) (Asks (callWithin k) l.hooks.before args' u)
        "prefix" (Asks.of_result rfl) (Asks.of_result rfl) htold hk hl.id
      rw [keptHook, if_neg (by simp [hout])]
      exact ⟨_, _, _, _, _, _, r, .heard hnone hears, .heard hnone hears',
        decided_alike htogether.worlds (hargs.at htogether.later) halike,
        htogether.alongside hout hargs⟩

/-- A layer ends alike with and without the hooks that are left out. -/
theorem Suits.closes (hl : L.Suits n out level l) (htold : L.Told n) (hk : n ≤ k)
    (hworlds : L.worlds s w u) (hargs : L.ArgsAlike s args args') {result result' : Value}
    (hresult : L.values s result result') (skipsAfter : Bool) :
    ∃ ms e w' ms' e' u' t,
      Closes (callWithin k) l.hooks.after l.id skipsAfter args result w ms e w' ∧
      Closes (callWithin k) (keptHook out (.after level l.id) l.hooks.after) l.id skipsAfter args'
        result' u ms' e' u' ∧
      L.Endings t (L.values t) e e' ∧ L.Alongside out s w u
        (stepsOf (.after level l.id) ms) (stepsOf (.after level l.id) ms') t w' u' := by
  have hsilent : L.Endings s (L.values s) (.done (.ok result)) (.done (.ok result')) :=
    .done (.ok hresult)
  by_cases habsent : l.hooks.after.isNone = true ∨ skipsAfter = true
  · exact ⟨_, _, _, _, _, _, s, .silent habsent, .silent (habsent.imp_left keptHook_none), hsilent,
      .refl hworlds⟩
  -- From here on the hook is there and wanted, and is left out or kept.
  rw [not_or, Bool.not_eq_true, Bool.not_eq_true] at habsent
  obtain ⟨hpresent, hwanted⟩ := habsent
  have hbehind : L.ArgsAlike s (behind result args) (behind result' args') :=
    ⟨.cons hresult hargs.positional, hargs.keywords⟩
  cases hout : out (.after level l.id) with
  | true =>
    obtain ⟨w₁, e, text, w', hears, hlater, hlogs⟩ := (hl.after.leftOut hpresent hout).hears hk
      hworlds (Made.Ends (callWithin k) ⟨l.hooks.after, behind result args, w⟩) (fun _ _ h => h) l.id
      "postfix"
    refine ⟨_, _, _, _, _, _, s, .heard hpresent hwanted hears, .silent (.inl ?_), hsilent, ?_⟩
    · rw [keptHook, if_pos hout]
      rfl
    · exact .leftOut hout hlater hlogs ⟨w₁, e, text, rfl⟩
  | false =>
    obtain ⟨t, hagree⟩ := hl.after.kept hpresent hout k s w u _ _ hk hworlds hbehind
    obtain ⟨o, o', w', u', r, hears, hears', halike, htogether⟩ := hagree.hears
      (Made.Ends (callWithin k) ⟨l.hooks.after, behind result args, w⟩)
      (Made.Ends (callWithin k) ⟨l.hooks.after, behind result' args', u⟩) "postfix" rfl rfl htold hk
      hl.id
    rw [keptHook, if_neg (by simp [hout])]
    exact ⟨_, _, _, _, _, _, r, .heard hpresent hwanted hears, .heard hpresent hwanted hears',
      settled_alike (L.values_later htogether.later hresult) halike,
      htogether.alongside hout hbehind⟩

/-! ### The whole stack -/

/-- What both calls go on with in a layer that they have passed. -/
structure PassedAlike (L : Likeness) (n : Nat) (out : Role → Bool) (s : L.Stage) (p p' : Passed) :
    Prop where
  level : p'.level = p.level
  id : p'.layer.id = p.layer.id
  after : p'.layer.hooks.after = keptHook out (.after p.level p.layer.id) p.layer.hooks.after
  skipsAfter : p'.skipsAfter = p.skipsAfter
  args : L.ArgsAlike s p.args p'.args
  suits : L.Suits n out p.level p.layer

variable {original : Value} {ls ls' : List Layer}

/-- A call that turns with the hooks does so alike without those that are left out, or goes on. -/
theorem Endings.turn_or_proceed {d d' : Ending Decision} (h : L.Endings s (L.Decisions s) d d') :
    (∃ e e', d.turn? = some e ∧ d'.turn? = some e' ∧ L.Endings s (L.values s) e e') ∨
      ∃ vs vs' skipsAfter, d = .done (.ok (.proceed vs skipsAfter)) ∧
        d' = .done (.ok (.proceed vs' skipsAfter)) ∧ List.Forall₂ (L.values s) vs vs' := by
  cases h with
  | done h =>
    cases h with
    | ok h =>
      cases h with
      | stop hv => exact .inl ⟨_, _, rfl, rfl, .done (.ok hv)⟩
      | proceed skipsAfter hvs => exact .inr ⟨_, _, _, rfl, rfl, hvs⟩
    | error halts => exact .inl ⟨_, _, rfl, rfl, .done (.error halts)⟩
  | muted halts => exact .inl ⟨_, _, rfl, rfl, .muted halts⟩

/-- **The way down** is the same without the hooks that are left out. -/
theorem SuitsAll.descends (hsuits : L.SuitsAll n out ls) (hthins : Thins out ls ls')
    (htold : L.Told n) (horiginal : L.Called n original) (hout : out .original = false)
    (hworlds : L.worlds s w u) (hargs : L.ArgsAlike s args args') :
    ∃ steps ps e w' steps' ps' e' u' t, Descends n original ls args w steps ps e w' ∧
      Descends n original ls' args' u steps' ps' e' u' ∧ L.Endings t (L.values t) e e' ∧
      List.Forall₂ (L.PassedAlike n out t) ps ps' ∧ L.Alongside out s w u steps steps' t w' u' := by
  induction hthins generalizing s w u args args' with
  | nil =>
    obtain ⟨t, hagree⟩ := horiginal n s w u args args' (Nat.le_refl n) hworlds hargs
    exact ⟨_, _, _, _, _, _, _, _, t, .original rfl, .original rfl, .done hagree.outcomes, .nil,
      hagree.together.alongside hout hargs⟩
  | @cons l l' ls ls' hid hhooks hrest ih =>
    cases hsuits with
    | cons hl hls =>
    obtain ⟨ms, d, w₁, ms', d', u₁, t, opened, opened', hdecided, halong⟩ :=
      hl.opens htold (Nat.le_add_right n ls.length) hworlds hargs
    have hlength := hrest.length
    have hinstead : l'.hooks.instead.isNone = true := by rw [hhooks]; rfl
    have hbefore : l'.hooks.before = keptHook out (.before ls.length l.id) l.hooks.before := by
      rw [hhooks]
      rfl
    rw [← hbefore, ← hid, ← hlength] at opened'
    -- Having opened alike, both layers turn back or both pass on to the layers that are left.
    obtain ⟨e, e', hturn, hturn', hendings⟩ | ⟨vs, vs', skipsAfter, rfl, rfl, hvs⟩ :=
      hdecided.turn_or_proceed
    · have down : Descends n original (l :: ls) args w _ [] e w₁ := .turned hl.instead opened hturn
      have down' : Descends n original (l' :: ls') args' u _ [] e' u₁ :=
        .turned hinstead opened' hturn'
      rw [hlength, hid] at down'
      exact ⟨_, _, _, _, _, _, _, _, t, down, down', hendings, .nil, halong⟩
    · have hargs₁ : L.ArgsAlike t { args with positional := vs } { args' with positional := vs' } :=
        ⟨hvs, (hargs.at halong.later).keywords⟩
      obtain ⟨steps, ps, e, w', steps', ps', e', u', r, down, down', hendings, hpassed, halong'⟩ :=
        ih hls halong.worlds hargs₁
      replace down := Descends.passed hl.instead opened down
      replace down' := Descends.passed hinstead opened' down'
      rw [hlength, hid] at down'
      have hfirst : L.PassedAlike n out r ⟨l, ls.length, { args with positional := vs }, skipsAfter⟩
          ⟨l', ls.length, { args' with positional := vs' }, skipsAfter⟩ := {
        level := rfl
        id := hid
        after := by rw [hhooks]; rfl
        skipsAfter := rfl
        args := hargs₁.at halong'.later
        suits := hl }
      exact ⟨_, _, _, _, _, _, _, _, r, down, down', hendings, .cons hfirst hpassed,
        halong.trans halong'⟩

/-- **The way up** is the same without the hooks that are left out. -/
theorem PassedAlike.ascends {ps ps' : List Passed} {e e' : Ending Value}
    (hpassed : List.Forall₂ (L.PassedAlike n out s) ps ps') (htold : L.Told n)
    (hworlds : L.worlds s w u) (hendings : L.Endings s (L.values s) e e') :
    ∃ steps e₁ w' steps' e₁' u' t, Ascends n ps e w steps e₁ w' ∧
      Ascends n ps' e' u steps' e₁' u' ∧ L.Endings t (L.values t) e₁ e₁' ∧
      L.Alongside out s w u steps steps' t w' u' := by
  induction hpassed with
  | nil => exact ⟨_, _, _, _, _, _, s, .turned e w, .turned e' u, hendings, .refl hworlds⟩
  | @cons p p' ps ps' hp hrest ih =>
    obtain ⟨steps, e₁, w₁, steps', e₁', u₁, t, up, up', hendings₁, halong⟩ := ih
    -- Only a result is handed to the layers further out; whatever else ended the call passes them
    -- by.
    cases hendings₁ with
    | muted halts =>
      have hraised : ∀ {h : Halt}, ¬(Ending.muted h : Ending Value).IsResult := nofun
      exact ⟨_, _, _, _, _, _, t, .through up hraised, .through up' hraised, .muted halts, halong⟩
    | done houtcomes =>
      cases houtcomes with
      | error halts =>
        have hraised : ∀ {h : Halt}, ¬(Ending.done (.error h) : Ending Value).IsResult := nofun
        exact ⟨_, _, _, _, _, _, t, .through up hraised, .through up' hraised,
          .done (.error halts), halong⟩
      | ok hresult =>
        obtain ⟨ms, e₂, w', ms', e₂', u', r, closed, closed', hendings₂, halong'⟩ :=
          hp.suits.closes htold (Nat.le_add_right n p.level) halong.worlds
            (hp.args.at halong.later) hresult p.skipsAfter
        rw [← hp.after, ← hp.id, ← hp.level, ← hp.skipsAfter] at closed'
        replace up' := Ascends.closed up' closed'
        rw [hp.level, hp.id] at up'
        exact ⟨_, _, _, _, _, _, r, .closed up closed, up', hendings₂, halong.trans halong'⟩

end Likeness

end Graft.Patch

namespace Graft

open Machine Patch

/-- The prefix hook of the older of two patches is left out. -/
def leavesOut : Role → Bool
  | .before 0 _ => true
  | _ => false

/-- A function that runs the hooks of a sample patch. -/
def layerWrapper (patch : Ref) (id : String) (wrapped : Value) : Function :=
  { behaviour := .dispatch patch (.str id) wrapped, name := "run", qualname := "run"
    module := .str "world", globals := ⟨0⟩ }

/-- A world in which a function has two patches; the older one has a prefix hook or none, and the
    newer one has a postfix hook. -/
def layeredWorld (before : Value) : World :=
  { things := #[{ body := .module "world" },
      { body := .function (describedFunction "run" (.gives (.value (.int 5)))) },
      { body := .function (describedFunction "count" (.gives (.value (.int 0)))) },
      { body := .function (describedFunction "next" (.gives (.value (.int 6)))) },
      { body := .patch before .none .none .none (.bool false) },
      { body := .function (layerWrapper ⟨4⟩ "fn_old" (.thing ⟨1⟩)) },
      { body := .patch .none (.thing ⟨3⟩) .none .none (.bool false) },
      { body := .function (layerWrapper ⟨6⟩ "fn_new" (.thing ⟨5⟩)) }] }

/-- The two patches. -/
def sampleLayers (before : Value) : List Layer :=
  [⟨⟨6⟩, .str "fn_new", { after := .thing ⟨3⟩ }⟩, ⟨⟨4⟩, .str "fn_old", { before }⟩]

theorem layered_stack (before : Value) :
    Stack (layeredWorld before) (.thing ⟨7⟩) (sampleLayers before) (.thing ⟨1⟩) :=
  .patched ⟨⟨_, rfl, rfl⟩, _, _, rfl⟩ (.patched ⟨⟨_, rfl, rfl⟩, _, _, rfl⟩ (.bare _))

/-- Worlds that come from the sample worlds; numbers stand for themselves. -/
def layeredLikeness : Likeness where
  Stage := Unit
  later _ _ := True
  worlds _ w u := (layeredWorld (.thing ⟨2⟩)).Lasts w ∧ (layeredWorld .none).Lasts u
  values _ v v' := v = v' ∧ ∃ i, v = .int i
  refl _ := trivial
  trans _ _ := trivial
  values_later _ h := h
  logs _ _ h := ⟨h.1.trans (.of_things rfl), h.2.trans (.of_things rfl)⟩
  isChoice := by
    rintro _ w u v _ c - ⟨rfl, i, rfl⟩
    cases c <;> rfl
  isException := by
    rintro _ w u v _ - ⟨rfl, i, rfl⟩
    rfl
  typeName := by
    rintro _ w u v _ - ⟨rfl, i, rfl⟩
    rfl

/-- A described function that gives a number does so in every world that comes from one in which it
    is there, and logs nothing. -/
theorem described_gives {w₀ w : World} {v : Value} {name : String} {i : Int} (h : w₀.Lasts w)
    (hbody : w₀.body? v =
      some (.function (describedFunction name (.gives (.value (.int i)))))) (k : Nat) (args : Args) :
    ∃ w', (callWithin (k + 1) v args).result w = (.ok (.int i), w') ∧ w.Lasts w' ∧
      w'.logs = w.logs := by
  obtain ⟨f, hf, hsame⟩ := h.function hbody
  have hdescribed : f.behaviour = .described { name, does := .gives (.value (.int i)) } :=
    hsame.behaviour
  cases v with
  | thing r =>
    have hthing : (w.thing? r).map Thing.body = some (.function f) := hf
    refine ⟨{ w with trace := ⟨name, args.positional, args.keywords, w.things⟩ :: w.trace }, ?_,
      .of_things rfl, rfl⟩
    change (World.invoke (callWithin k) (.thing r) args).result w = _
    unfold World.invoke
    rw [Run.result_bind, Run.result_world]
    simp only [hthing, Machine.Function.run, hdescribed]
    rfl
  | _ => cases hf

theorem layered_called {v : Value} {name : String} {i : Int}
    (hbody : ∀ before, (layeredWorld before).body? v =
      some (.function (describedFunction name (.gives (.value (.int i)))))) :
    layeredLikeness.Called 1 v := by
  rintro k s w u args args' hk ⟨hw, hu⟩ -
  obtain ⟨k, rfl⟩ := Nat.exists_eq_add_of_le' hk
  obtain ⟨w', hcall, hlasts, hlogs⟩ := described_gives hw (hbody _) k args
  obtain ⟨u', hcall', hlasts', hlogs'⟩ := described_gives hu (hbody _) k args'
  rw [hcall, hcall']
  exact ⟨(), ⟨trivial, ⟨hw.trans hlasts, hu.trans hlasts'⟩, [], hlogs, hlogs'⟩,
    .ok ⟨rfl, i, rfl⟩⟩

/-- What is raised where a number is spread. -/
def notSpread : Thing :=
  { body := .exception (.cls "TypeError") [.str "cannot unpack non-iterable int object"] }

/-- A number is no answer of a prefix hook. -/
theorem count_fails : layeredLikeness.Fails 1 fun call => askBefore call (.thing ⟨2⟩) := by
  rintro k s w u args hk ⟨hw, hu⟩
  obtain ⟨k, rfl⟩ := Nat.exists_eq_add_of_le' hk
  obtain ⟨w₁, hcall, hlasts, hlogs⟩ := described_gives (v := .thing ⟨2⟩) hw rfl k args
  have hspread : (World.unpack (callWithin (k + 1)) 3 (.int 0)).result w₁ =
      (.error (.raised (.thing (w₁.alloc notSpread).1)), (w₁.alloc notSpread).2) := rfl
  obtain ⟨text, htext⟩ := World.tellField_supplied (callWithin (k + 1))
    (World.body?_alloc_self (w := w₁) (t := notSpread))
  refine ⟨_, _, text, _, ?_, ?_, htext, ⟨?_, hu⟩, hlogs⟩
  · unfold askBefore
    simp only [Run.result_bind, hcall, hspread]
  · unfold World.isException World.isInstance
    rw [World.classOf_exception (World.body?_alloc_self (t := notSpread))]
    rfl
  · exact hw.trans (hlasts.trans (.alloc w₁ _))

theorem layered_suits : layeredLikeness.SuitsAll 1 leavesOut (sampleLayers (.thing ⟨2⟩)) := by
  refine .cons ⟨rfl, ⟨nofun, nofun⟩, ⟨fun _ _ => layered_called fun _ => rfl, nofun⟩, ?_⟩
    (.cons ⟨rfl, ⟨nofun, fun _ _ => count_fails⟩, ⟨nofun, nofun⟩, ?_⟩ .nil)
  · exact fun _ _ _ _ => rfl
  · exact fun _ _ _ _ => rfl

end Graft
