import Graft.Proofs.Grammar.Lockstep

set_option autoImplicit false

/-! # Matching step by step

What an ordinary reading matches can be told from the parts of a rule: where the parts match or fail
at a place, with what is remembered there, so does the whole.  How many tokens have been looked at
makes no difference. -/

namespace Graft.Syntax

/-- What a reading remembers. -/
abbrev Remembered := Memo (Option Node × Nat)

/-- A reading is at a place, remembers something of the kind, and has no fault. -/
structure ReadState.At (st : ReadState) (a : Nat) (P : Remembered → Prop) : Prop where
  mark : st.mark = a
  memo : P st.memo
  clean : st.fault = none

/-- From the place `a` on something is matched up to `b`: if `P` holds of what is remembered before,
    then `Q` holds of the node and of what is remembered afterwards. -/
def Finds (f : ReadState → Match) (a : Nat) (P : Remembered → Prop) (b : Nat)
    (Q : Node → Remembered → Prop) : Prop :=
  ∀ st : ReadState, st.At a P → ∃ n st', f st = (some n, st') ∧ st'.At b (Q n)

/-- From the place `a` on nothing is matched, without a fault. -/
def Misses (f : ReadState → Match) (a : Nat) (P P' : Remembered → Prop) : Prop :=
  ∀ st : ReadState, st.At a P → ∃ b st', f st = (none, st') ∧ st'.At b P'

section Steps

variable {call : RuleMatcher} {join : StringJoiner} {rd : Reading} {a b c : Nat}
  {P P₁ P₂ : Remembered → Prop} {Q : Node → Remembered → Prop} {i : Item} {items : List Item}
  {rest : List Alt} {action : Action} {st : ReadState}

namespace ReadState.At

theorem looked (h : st.At a P) : (Lockstep.looked st).At a P :=
  ⟨by simp [h.mark], by simp [h.memo], by simp [h.clean]⟩

theorem goTo (h : st.At a P) (b : Nat) : { st with mark := b }.At b P := ⟨rfl, h.memo, h.clean⟩

theorem isSome (h : st.At a P) : st.fault.isSome = false := by simp [h.clean]

end ReadState.At

/-! ## Tokens -/

theorem finds_expect {p : Token → Bool} {t : Token} (ht : rd.source.tokens[a]? = some t)
    (hbroken : t.kind ≠ .broken) (hp : p t = true) :
    Finds (rd.expect p) a P (a + 1) (fun _ => P) := by
  intro st h
  rw [← h.mark] at ht
  refine ⟨.token t, { Lockstep.looked st with mark := (Lockstep.looked st).mark + 1 }, ?_, ?_⟩
  · simp only [Reading.expect, Lockstep.peek_of_getElem? ht hbroken, hp, if_true]
  · exact ⟨by simp [h.mark], h.looked.memo, h.looked.clean⟩

theorem misses_expect {p : Token → Bool} {t : Token} (ht : rd.source.tokens[a]? = some t)
    (hbroken : t.kind ≠ .broken) (hp : p t = false) : Misses (rd.expect p) a P P := by
  intro st h
  rw [← h.mark] at ht
  refine ⟨a, Lockstep.looked st, ?_, h.looked⟩
  simp only [Reading.expect, Lockstep.peek_of_getElem? ht hbroken, hp, Bool.false_eq_true, if_false]

theorem finds_lit {text : String} {t : Token} (ht : rd.source.tokens[a]? = some t)
    (h : t.isLit text = true) : Finds ((Item.lit text).run call join rd) a P (a + 1) (fun _ => P) := by
  have hbroken : t.kind ≠ .broken := by
    intro hkind
    simp [Token.isLit, hkind] at h
  intro st hst
  exact finds_expect ht hbroken h st hst

theorem misses_lit {text : String} {t : Token} (ht : rd.source.tokens[a]? = some t)
    (hbroken : t.kind ≠ .broken) (h : t.isLit text = false) :
    Misses ((Item.lit text).run call join rd) a P P := by
  intro st hst
  exact misses_expect ht hbroken h st hst

theorem finds_kind {t : Token} (ht : rd.source.tokens[a]? = some t) (hbroken : t.kind ≠ .broken) :
    Finds ((Item.kind t.kind).run call join rd) a P (a + 1) (fun _ => P) := by
  intro st hst
  exact finds_expect ht hbroken (by simp) st hst

theorem misses_kind {k : TokenKind} {t : Token} (ht : rd.source.tokens[a]? = some t)
    (hbroken : t.kind ≠ .broken) (hne : t.kind ≠ k) :
    Misses ((Item.kind k).run call join rd) a P P := by
  intro st hst
  exact misses_expect ht hbroken (by simpa using hne) st hst

/-! ## Items -/

theorem finds_rule {r : Rule} (h : Finds (call rd r) a P b Q) :
    Finds ((Item.rule r).run call join rd) a P b Q := fun st hst => by
  exact h st hst

theorem misses_rule {r : Rule} (h : Misses (call rd r) a P P₁) :
    Misses ((Item.rule r).run call join rd) a P P₁ := fun st hst => by
  exact h st hst

theorem finds_absent (h : Misses (i.run call join rd) a P P₁) :
    Finds ((Item.opt i).run call join rd) a P a (fun n M => n = .absent ∧ P₁ M) := by
  intro st hst
  obtain ⟨b, st', hrun, hst'⟩ := h st hst
  refine ⟨.absent, { st' with mark := a }, ?_, rfl, ⟨rfl, hst'.memo⟩, hst'.clean⟩
  simp only [Lockstep.run_opt, hrun, hst'.isSome, Bool.false_eq_true, if_false, hst.mark]

theorem finds_ahead (h : Finds (i.run call join rd) a P b (fun _ => P₁)) :
    Finds ((Item.ahead i).run call join rd) a P a (fun _ => P₁) := by
  intro st hst
  obtain ⟨n, st', hrun, hst'⟩ := h st hst
  refine ⟨.absent, { st' with mark := a }, ?_, hst'.goTo a⟩
  simp only [Lockstep.run_ahead, hrun, hst'.isSome, Bool.false_eq_true, if_false, hst.mark]

theorem misses_ahead (h : Misses (i.run call join rd) a P P₁) :
    Misses ((Item.ahead i).run call join rd) a P P₁ := by
  intro st hst
  obtain ⟨b, st', hrun, hst'⟩ := h st hst
  exact ⟨b, st', by rw [Lockstep.run_ahead, hrun], hst'⟩

theorem finds_notAhead (h : Misses (i.run call join rd) a P P₁) :
    Finds ((Item.notAhead i).run call join rd) a P a (fun _ => P₁) := by
  intro st hst
  obtain ⟨b, st', hrun, hst'⟩ := h st hst
  refine ⟨.absent, { st' with mark := a }, ?_, hst'.goTo a⟩
  simp only [Lockstep.run_notAhead, hrun, hst'.isSome, Bool.false_eq_true, if_false, hst.mark]

/-- Mistakes are not described. -/
theorem misses_mistake {r : Rule} (hplain : rd.diagnosing = false) :
    Misses ((Item.mistake r).run call join rd) a P P := fun st hst =>
  ⟨a, st, Lockstep.run_mistake _ _ _ _ r hplain, hst⟩

/-- An item that matches once and then no more. -/
theorem finds_many1 {p : Node → Prop} (h : Finds (i.run call join rd) a P b fun n M => p n ∧ P₁ M)
    (hlt : a < b) (hmiss : Misses (i.run call join rd) b P₁ P₂)
    (hsize : rd.source.tokens.size ≠ 0) :
    Finds ((Item.many1 i).run call join rd) a P b fun n _ => ∃ x, n = .seq [x] ∧ p x := by
  intro st hst
  obtain ⟨x, st₁, hrun, hmark, ⟨hx, hmemo⟩, hclean⟩ := h st hst
  obtain ⟨c, st₂, hmiss, hst₂⟩ := hmiss st₁ ⟨hmark, hmemo, hclean⟩
  obtain ⟨k, hk⟩ := Nat.exists_eq_succ_of_ne_zero hsize
  have hmore : ¬ b ≤ st.mark := by rw [hst.mark]; omega
  refine ⟨.seq [x], { st₂ with mark := b }, ?_, rfl, ⟨x, rfl, hx⟩, hst₂.clean⟩
  simp only [Lockstep.run_many1, hk, repeatMatch, hrun, hmark, hmore, if_false, hmiss,
    List.reverse_cons, List.reverse_nil, List.nil_append, hst₂.isSome, List.isEmpty_cons,
    Bool.or_false, Bool.false_eq_true]

/-! ## Items in a row -/

/-- From the place `a` on the items match one behind the other, up to `b`. -/
def FindsAll (call : RuleMatcher) (join : StringJoiner) (rd : Reading) (items : List Item) (a : Nat)
    (P : Remembered → Prop) (b : Nat) (Q : List Node → Remembered → Prop) : Prop :=
  ∀ (st : ReadState) (acc : List Node) (past : Bool), st.At a P →
    ∃ ns past' st', Item.runAll call join rd items acc past st = (some (acc.reverse ++ ns), past', st')
      ∧ st'.At b (Q ns)

/-- From the place `a` on one of the items fails, and there is no cut before it. -/
def MissesAll (call : RuleMatcher) (join : StringJoiner) (rd : Reading) (items : List Item) (a : Nat)
    (P P' : Remembered → Prop) : Prop :=
  ∀ (st : ReadState) (acc : List Node), st.At a P →
    ∃ b st', Item.runAll call join rd items acc false st = (none, false, st') ∧ st'.At b P'

variable {Qs : List Node → Remembered → Prop}

theorem FindsAll.nil (h : ∀ M, P M → Qs [] M) : FindsAll call join rd [] a P a Qs :=
  fun st acc past hst =>
    ⟨[], past, st, by rw [Item.runAll, List.append_nil], hst.mark, h _ hst.memo, hst.clean⟩

theorem FindsAll.cons (h : Finds (i.run call join rd) a P b Q) (hsilent : i.isSilent = false)
    (hrest : ∀ n, FindsAll call join rd items b (Q n) c (fun ns => Qs (n :: ns))) :
    FindsAll call join rd (i :: items) a P c Qs := by
  intro st acc past hst
  obtain ⟨n, st₁, hrun, hst₁⟩ := h st hst
  obtain ⟨ns, past', st', hall, hst'⟩ := hrest n st₁ (n :: acc) (past || Lockstep.isCut i) hst₁
  refine ⟨n :: ns, past', st', ?_, hst'⟩
  simp only [Lockstep.runAll_cons, hrun, hst₁.isSome, hsilent, Bool.false_eq_true, if_false, hall,
    List.reverse_cons, List.append_assoc, List.singleton_append]

theorem FindsAll.silent (h : Finds (i.run call join rd) a P b (fun _ => P₁))
    (hsilent : i.isSilent = true) (hrest : FindsAll call join rd items b P₁ c Qs) :
    FindsAll call join rd (i :: items) a P c Qs := by
  intro st acc past hst
  obtain ⟨n, st₁, hrun, hst₁⟩ := h st hst
  obtain ⟨ns, past', st', hall, hst'⟩ := hrest st₁ acc (past || Lockstep.isCut i) hst₁
  refine ⟨ns, past', st', ?_, hst'⟩
  simp only [Lockstep.runAll_cons, hrun, hst₁.isSome, hsilent, Bool.false_eq_true, if_false, if_true,
    hall]

theorem MissesAll.here (h : Misses (i.run call join rd) a P P₁) :
    MissesAll call join rd (i :: items) a P P₁ := by
  intro st acc hst
  obtain ⟨b, st', hrun, hst'⟩ := h st hst
  exact ⟨b, st', by rw [Lockstep.runAll_cons, hrun], hst'⟩

theorem MissesAll.later (h : Finds (i.run call join rd) a P b Q) (hcut : Lockstep.isCut i = false)
    (hrest : ∀ n, MissesAll call join rd items b (Q n) P₂) :
    MissesAll call join rd (i :: items) a P P₂ := by
  intro st acc hst
  obtain ⟨n, st₁, hrun, hst₁⟩ := h st hst
  obtain ⟨c, st', hall, hst'⟩ := hrest n st₁ (if i.isSilent then acc else n :: acc) hst₁
  refine ⟨c, st', ?_, hst'⟩
  simp only [Lockstep.runAll_cons, hrun, hst₁.isSome, hcut, Bool.or_false, Bool.false_eq_true,
    if_false, hall]

/-! ## Alternatives -/

/-- The first of some alternatives that matches. -/
def choose (call : RuleMatcher) (join : StringJoiner) (rd : Reading) (alts : List Alt)
    (st : ReadState) : Match :=
  Alt.runAny call join rd st.mark [] alts st

theorem finds_choose (Qs : List Node → Remembered → Prop)
    (h : FindsAll call join rd items a P b Qs)
    (hact : ∀ (ns : List Node) (M : Remembered) (st : ReadState), Qs ns M → st.mark = b →
      ∃ n, rd.act a ns action st = (some n, st) ∧ Q n M) :
    Finds (choose call join rd (.mk items action :: rest)) a P b Q := by
  intro st hst
  obtain ⟨ns, past, st', hall, hst'⟩ := h st [] false hst
  obtain ⟨n, hrun, hn⟩ := hact ns st'.memo st' hst'.memo hst'.mark
  refine ⟨n, st', ?_, hst'.mark, hn, hst'.clean⟩
  rw [choose, Alt.runAny, hall, hst.mark]
  exact hrun

theorem choose_of_missesAll (action : Action) (rest : List Alt)
    (h : MissesAll call join rd items a P P₁) (hst : st.At a P) :
    ∃ st', st'.At a P₁ ∧ choose call join rd (.mk items action :: rest) st =
      choose call join rd rest st' := by
  obtain ⟨b, st', hall, hst'⟩ := h st [] hst
  refine ⟨{ st' with mark := a }, hst'.goTo a, ?_⟩
  simp only [choose, Alt.runAny, hall, hst'.isSome, Bool.or_false, Bool.false_eq_true, if_false, hst.mark]

theorem Finds.behind (h : MissesAll call join rd items a P P₁)
    (hrest : Finds (choose call join rd rest) a P₁ b Q) :
    Finds (choose call join rd (.mk items action :: rest)) a P b Q := by
  intro st hst
  obtain ⟨st₁, hst₁, heq⟩ := choose_of_missesAll action rest h hst
  obtain ⟨n, st', hrun, hst'⟩ := hrest st₁ hst₁
  exact ⟨n, st', heq.trans hrun, hst'⟩

theorem misses_choose_nil : Misses (choose call join rd []) a P P := fun st h =>
  ⟨a, st, by rw [choose, Alt.runAny], h⟩

theorem Misses.behind (h : MissesAll call join rd items a P P₁)
    (hrest : Misses (choose call join rd rest) a P₁ P₂) :
    Misses (choose call join rd (.mk items action :: rest)) a P P₂ := by
  intro st hst
  obtain ⟨st₁, hst₁, heq⟩ := choose_of_missesAll action rest h hst
  obtain ⟨c, st', hrun, hst'⟩ := hrest st₁ hst₁
  exact ⟨c, st', heq.trans hrun, hst'⟩

theorem misses_group (h : Misses (choose call join rd rest) a P P₁) :
    Misses ((Item.group rest).run call join rd) a P P₁ := fun st hst => by
  exact h st hst

end Steps

/-! ## Rules -/

section Rules

variable {rd : Reading} {m a b : Nat} {r : Rule} {alts : List Alt} {P P' : Remembered → Prop}
  {Q : Node → Remembered → Prop}

/-- What the alternatives of a rule amount to. -/
abbrev chooseOf (m : Nat) (rd : Reading) (alts : List Alt) : ReadState → Match :=
  choose (matchRules m) (joinStrings (matchRules m)) rd alts

/-- A rule is its alternatives. -/
theorem matchRules_choice (alts : List Alt) (hbody : r.body = .choice alts) (hforgotten : r.isRemembered = false) :
    matchRules (m + 1) rd r = chooseOf m rd alts := by
  funext st
  change rd.matchRule (matchRules m) (joinStrings (matchRules m)) r st = _
  simp only [Reading.matchRule, hforgotten, Bool.false_eq_true, if_false, hbody]
  rfl

/-- A rule whose results are remembered is matched once at a place. -/
theorem finds_remembered (alts : List Alt) (hbody : r.body = .choice alts) (hremembered : r.isRemembered = true)
    (hnew : ∀ M, P M → M.get? (r.key a) = none)
    (h : Finds (chooseOf m rd alts) a P b fun n M => Q n (M.insert (r.key a) (some n, b))) :
    Finds (matchRules (m + 1) rd r) a P b Q := by
  intro st hst
  obtain ⟨n, st', hrun, hst'⟩ := h st hst
  refine ⟨n, { st' with memo := st'.memo.insert (r.key a) (some n, b) }, ?_,
    hst'.mark, hst'.memo, hst'.clean⟩
  have hkey : st.mark * 512 + r.index = r.key a := by rw [hst.mark]; rfl
  have hrun : r.body.run (matchRules m) (joinStrings (matchRules m)) rd st = (some n, st') := by
    rw [hbody]
    exact hrun
  change rd.matchRule (matchRules m) (joinStrings (matchRules m)) r st = _
  simp only [Reading.matchRule, hremembered, if_true, hkey, hnew _ hst.memo, hrun, hst'.isSome,
    Bool.false_eq_true, if_false, hst'.mark]

/-- What is remembered is matched again. -/
theorem finds_again (hremembered : r.isRemembered = true)
    (hget : ∀ M, P M → ∃ n, M.get? (r.key a) = some (some n, b) ∧ Q n M) :
    Finds (matchRules (m + 1) rd r) a P b Q := by
  intro st hst
  obtain ⟨n, hn, hQ⟩ := hget _ hst.memo
  refine ⟨n, { st with mark := b }, ?_, rfl, hQ, hst.clean⟩
  have hkey : st.mark * 512 + r.index = r.key a := by rw [hst.mark]; rfl
  change rd.matchRule (matchRules m) (joinStrings (matchRules m)) r st = _
  simp only [Reading.matchRule, hremembered, if_true, hkey, hn]

end Rules

end Graft.Syntax
