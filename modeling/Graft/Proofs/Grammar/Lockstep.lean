import Mathlib.Data.List.Forall2
import Graft.Proofs.Grammar.Parallel

set_option autoImplicit false

/-! # Matching side by side

Where two readings run side by side, an item that matches in the first matches in the second, and
one that fails without a fault fails there too.  The nodes look the same, the rows of tokens are of
the same length, and the memos stay in step.  Nothing is said once the first reading has a fault. -/

namespace Graft.Syntax

/-- Two readings side by side, with a property of what rules take in the first.  The second one may
    remember what it has matched elsewhere. -/
structure Lockstep where
  left : Reading
  right : Reading
  vantage : Vantage
  /-- How many tokens the second has before those that it shares with the first. -/
  shift : Nat
  /-- The index in the first up to which the tokens are alike. -/
  top : Nat
  /-- What is known of rules, the tokens that they take from one index up to another, and nodes. -/
  taken : Rule → Nat → Nat → Node → Prop
  /-- What the second remembers of other places. -/
  elsewhere : Memo (Option Node × Nat)
  parallel : left.Parallel right vantage shift top
  stretch : ∀ {r a b n}, taken r a b n → left.Stretch r a b
  closed : ∀ {r a b n}, r.isOrdinary = true → r.body.Takes left taken a b n → taken r a b n

namespace Lockstep

variable (L : Lockstep)

/-- Nodes that look the same. -/
def Looks (n n' : Node) : Prop := n.view L.vantage.left = n'.view L.vantage.right

/-- What the two memos may hold of a rule at a place. -/
inductive SameEntry (R : Nat → Node → Prop) :
    Option (Option Node × Nat) → Option (Option Node × Nat) → Prop
  | absent : SameEntry R none none
  | failed (b b' : Nat) : SameEntry R (some (none, b)) (some (none, b'))
  | matched {n n' : Node} {b : Nat} (le : b ≤ L.top) (holds : R b n) (looks : L.Looks n n') :
    SameEntry R (some (some n, b)) (some (some n', b + L.shift))

/-- States without faults whose memos are in step. -/
structure Kept (st st' : ReadState) : Prop where
  clean : st.fault = none
  clean' : st'.fault = none
  entry : ∀ (r : Rule) (a : Nat), a ≤ L.top →
    L.SameEntry (L.taken r a) (st.memo.get? (r.key a)) (st'.memo.get? (r.key (a + L.shift)))
  frame : ∀ (r : Rule) (a : Nat), a < L.shift ∨ L.top + L.shift < a →
    st'.memo.get? (r.key a) = L.elsewhere.get? (r.key a)

/-- States in step. -/
structure Synced (st st' : ReadState) : Prop extends L.Kept st st' where
  le : st.mark ≤ L.top
  mark : st'.mark = st.mark + L.shift

/-- Results in step: a fault on the left, two failures, or two matches that are related. -/
inductive Agree (Q : Nat → Node → Node → Prop) : Match → Match → Prop
  | fault {st : ReadState} (h : st.fault ≠ none) (m' : Match) : Agree Q (none, st) m'
  | fail {st st' : ReadState} (h : L.Kept st st') : Agree Q (none, st) (none, st')
  | done {st st' : ReadState} {n n' : Node} (h : L.Synced st st') (hq : Q st.mark n n') :
    Agree Q (some n, st) (some n', st')

variable {L} {st st' s s' : ReadState} {Q Q' : Nat → Node → Node → Prop} {m m' : Match}

variable (L) in
/-- What becomes of items in a row on the two sides. -/
inductive AgreeAll (Q : Nat → List Node → List Node → Prop) :
    Option (List Node) × Bool × ReadState → Option (List Node) × Bool × ReadState → Prop
  | fault {st : ReadState} (past : Bool) (h : st.fault ≠ none) (x') :
    AgreeAll Q (none, past, st) x'
  | fail {st st' : ReadState} (past : Bool) (h : L.Kept st st') :
    AgreeAll Q (none, past, st) (none, past, st')
  | done {st st' : ReadState} {ns ns' : List Node} (past : Bool) (h : L.Synced st st')
      (hq : Q st.mark ns ns') : AgreeAll Q (some ns, past, st) (some ns', past, st')

variable (L) in
/-- What becomes of a repetition on the two sides. -/
inductive AgreeMany (Q : Nat → List Node → List Node → Prop) :
    List Node × ReadState → List Node × ReadState → Prop
  | fault {st : ReadState} {ns : List Node} (h : st.fault ≠ none) (x') : AgreeMany Q (ns, st) x'
  | done {st st' : ReadState} {ns ns' : List Node} (h : L.Synced st st') (hq : Q st.mark ns ns') :
    AgreeMany Q (ns, st) (ns', st')

theorem AgreeAll.mono {Q Q' : Nat → List Node → List Node → Prop}
    {x x' : Option (List Node) × Bool × ReadState} (h : L.AgreeAll Q x x')
    (hQ : ∀ b ns ns', Q b ns ns' → Q' b ns ns') : L.AgreeAll Q' x x' := by
  cases h with
  | fault past h x' => exact .fault past h x'
  | fail past h => exact .fail past h
  | done past h hq => exact .done past h (hQ _ _ _ hq)

theorem Agree.mono (h : L.Agree Q m m') (hQ : ∀ b n n', Q b n n' → Q' b n n') :
    L.Agree Q' m m' := by
  cases h with
  | fault h m' => exact .fault h m'
  | fail h => exact .fail h
  | done h hq => exact .done h (hQ _ _ _ hq)

theorem Kept.withMark (h : L.Kept s s') (a a' : Nat) :
    L.Kept { s with mark := a } { s' with mark := a' } :=
  { clean := h.clean, clean' := h.clean', entry := h.entry, frame := h.frame }

/-- What both readings have matched at a place is put into their memos. -/
theorem Kept.insert (h : L.Kept s s') (r : Rule) {a : Nat} (ha : a ≤ L.top)
    {x x' : Option Node × Nat} (hx : L.SameEntry (L.taken r a) (some x) (some x')) :
    L.Kept { s with memo := s.memo.insert (r.key a) x }
      { s' with memo := s'.memo.insert (r.key (a + L.shift)) x' } where
  clean := h.clean
  clean' := h.clean'
  entry q c hc := by
    simp only [Memo.get?_insert]
    by_cases hkey : q.key c = r.key a
    · obtain ⟨rfl, rfl⟩ := Rule.key_inj hkey
      rw [if_pos rfl, if_pos rfl]
      exact hx
    · have hkey' : q.key (c + L.shift) ≠ r.key (a + L.shift) := by
        intro heq
        obtain ⟨rfl, hc⟩ := Rule.key_inj heq
        exact hkey (by rw [Nat.add_right_cancel hc])
      rw [if_neg hkey, if_neg hkey']
      exact h.entry q c hc
  frame q c hc := by
    have hkey : q.key c ≠ r.key (a + L.shift) := by
      intro heq
      obtain ⟨-, hc⟩ := Rule.key_inj heq
      omega
    simp only [Memo.get?_insert, if_neg hkey]
    exact h.frame q c hc

/-- After a failure both readings go back to where they were. -/
theorem Synced.reset (h : L.Synced st st') (hkept : L.Kept s s') :
    L.Synced { s with mark := st.mark } { s' with mark := st'.mark } :=
  { clean := hkept.clean, clean' := hkept.clean', entry := hkept.entry, frame := hkept.frame,
    le := h.le, mark := h.mark }

theorem Synced.advance (h : L.Synced st st') (hlt : st.mark < L.top) :
    L.Synced { st with mark := st.mark + 1 } { st' with mark := st'.mark + 1 } :=
  { clean := h.clean, clean' := h.clean', entry := h.entry, frame := h.frame, le := hlt,
    mark := by simp only [h.mark]; omega }

/-! ## Tokens -/

/-- The state after a token has been looked at. -/
def looked (st : ReadState) : ReadState :=
  if st.seen ≤ st.mark then { st with seen := st.mark + 1 } else st

@[simp] theorem looked_mark (st : ReadState) : (looked st).mark = st.mark := by
  unfold looked; split <;> rfl

@[simp] theorem looked_fault (st : ReadState) : (looked st).fault = st.fault := by
  unfold looked; split <;> rfl

@[simp] theorem looked_memo (st : ReadState) : (looked st).memo = st.memo := by
  unfold looked; split <;> rfl

theorem Synced.looked (h : L.Synced st st') : L.Synced (looked st) (looked st') :=
  { clean := by simpa using h.clean, clean' := by simpa using h.clean',
    entry := by simpa using h.entry, frame := by simpa using h.frame, le := by simpa using h.le,
    mark := by simpa using h.mark }

variable (L) in
/-- What becomes of a look at the token with the index `a`. -/
inductive AgreePeek (a : Nat) : Option Token × ReadState → Option Token × ReadState → Prop
  | fault {st : ReadState} (h : st.fault ≠ none) (x') : AgreePeek a (none, st) x'
  | fail {st st' : ReadState} (h : L.Kept st st') : AgreePeek a (none, st) (none, st')
  | token {st st' : ReadState} {t t' : Token} (h : L.Synced st st') (hmark : st.mark = a)
      (hlt : a < L.top) (hget : L.left.source.tokens[a]? = some t)
      (halike : t.Alike L.vantage t') : AgreePeek a (some t, st) (some t', st')
  | ends {st st' : ReadState} {t t' : Token} (h : L.Synced st st') (hmark : st.mark = a)
      (hkind : t.kind = .endMarker) (hkind' : t'.kind = .endMarker
        ∨ (t'.kind = .dedent ∧ ∀ c ≤ L.top, L.left.level a ≤ L.left.level c)) :
    AgreePeek a (some t, st) (some t', st')

theorem peek_of_none {rd : Reading} (h : rd.source.tokens[st.mark]? = none) :
    rd.peek st = (none, st) := by
  simp only [Reading.peek, h]

theorem peek_of_getElem? {rd : Reading} {t : Token} (h : rd.source.tokens[st.mark]? = some t)
    (hkind : t.kind ≠ .broken) : rd.peek st = (some t, looked st) := by
  have hbeq : (t.kind == TokenKind.broken) = false := by simpa using hkind
  simp only [Reading.peek, h, hbeq]
  rfl

theorem peek_of_broken {rd : Reading} {t : Token} (h : rd.source.tokens[st.mark]? = some t)
    (hkind : t.kind = .broken) :
    (rd.source.broken = none → rd.peek st = (none, looked st))
    ∧ (rd.source.broken ≠ none → ∃ f, rd.peek st = (none, { looked st with fault := some f })) := by
  simp only [Reading.peek, h, hkind, beq_self_eq_true, if_true]
  refine ⟨fun hnone => ?_, fun hsome => ?_⟩
  · rw [hnone]
    rfl
  · obtain ⟨b, hb⟩ := Option.ne_none_iff_exists'.1 hsome
    rw [hb]
    exact ⟨_, rfl⟩

theorem Synced.peek (h : L.Synced st st') :
    L.AgreePeek st.mark (L.left.peek st) (L.right.peek st') := by
  -- Behind the stretch the readings may differ: each stops there or finds a block's end.
  rcases h.le.lt_or_eq with hlt | heq
  · obtain ⟨t, t', ht, ht', halike⟩ := L.parallel.tokens _ hlt
    rw [← h.mark] at ht'
    by_cases hbroken : t.kind = .broken
    · have hleft := peek_of_broken ht hbroken
      have hright := peek_of_broken ht' (halike.kind.trans hbroken)
      by_cases hnone : L.left.source.broken = none
      · rw [hleft.1 hnone, hright.1 (L.parallel.whole hnone)]
        exact .fail h.looked.toKept
      · obtain ⟨f, hf⟩ := hleft.2 hnone
        rw [hf]
        exact .fault (by simp) _
    · rw [peek_of_getElem? ht hbroken, peek_of_getElem? ht' (by rwa [halike.kind])]
      exact .token h.looked (looked_mark st) hlt ht halike
  · obtain ⟨hnone, hnone'⟩ | ⟨t, ht, hkind, hbroken⟩ | ⟨t, t', ht, ht', hkind, hkind'⟩ :=
      L.parallel.frontier
    · rw [← heq] at hnone hnone'
      rw [← h.mark] at hnone'
      rw [peek_of_none hnone, peek_of_none hnone']
      exact .fail h.toKept
    · rw [← heq] at ht
      obtain ⟨f, hf⟩ := (peek_of_broken ht hkind).2 hbroken
      rw [hf]
      exact .fault (by simp) _
    · rw [← heq] at ht ht'
      rw [← h.mark] at ht'
      have hb : t.kind ≠ .broken := by simp [hkind]
      have hb' : t'.kind ≠ .broken := by
        rcases hkind' with hkind' | ⟨hkind', -⟩ <;> simp [hkind']
      rw [peek_of_getElem? ht hb, peek_of_getElem? ht' hb']
      refine .ends h.looked (looked_mark st) hkind (hkind'.imp_right fun ⟨hkind', hle, hpos⟩ =>
        ⟨hkind', fun c hc => ?_⟩)
      rw [heq]
      exact hle.trans (hpos c hc)

/-- A test that looks at the kind and the text of a token alone. -/
def PlaceFree (p : Token → Bool) : Prop :=
  ∀ t t' : Token, t'.kind = t.kind → t'.text = t.text → p t' = p t

/-- A test that accepts neither the end of the text nor, but where a block is open, the end of one. -/
def WithinText (L : Lockstep) (a : Nat) (p : Token → Bool) : Prop :=
  (∀ t, p t = true → t.kind ≠ .endMarker)
  ∧ ((∀ t, p t = true → t.kind ≠ .dedent) ∨ ∃ c ≤ L.top, L.left.level c < L.left.level a)

theorem WithinText.rejects {a : Nat} {p : Token → Bool} (h : L.WithinText a p) {t : Token}
    (hkind : t.kind = .endMarker
      ∨ (t.kind = .dedent ∧ ∀ c ≤ L.top, L.left.level a ≤ L.left.level c)) : p t = false := by
  rw [← Bool.not_eq_true]
  intro hpt
  rcases hkind with hkind | ⟨hkind, hle⟩
  · exact h.1 t hpt hkind
  · rcases h.2 with hdedent | ⟨c, hc, hlt⟩
    · exact hdedent t hpt hkind
    · exact absurd (hle c hc) (not_le.2 hlt)

variable (L) in
/-- Nodes that are tokens of one kind and text. -/
def Tokens (n n' : Node) : Prop :=
  ∃ t t', n = .token t ∧ n' = .token t' ∧ t.Alike L.vantage t'

/-- Tests of tokens are in step. -/
theorem Synced.expect (h : L.Synced st st') {p : Token → Bool} (hp : PlaceFree p)
    (hwithin : L.WithinText st.mark p) :
    L.Agree (fun b n n' => L.left.TakesToken p st.mark b n ∧ L.Tokens n n')
      (L.left.expect p st) (L.right.expect p st') := by
  have hpeek := h.peek
  unfold Reading.expect
  generalize L.left.peek st = x at hpeek
  generalize L.right.peek st' = x' at hpeek
  cases hpeek with
  | fault hfault x' => exact .fault hfault _
  | fail hkept => exact .fail hkept
  | @token s s' t t' hsync hmark hlt hget halike =>
    simp only [hp t t' halike.kind halike.text]
    by_cases hpt : p t = true
    · rw [if_pos hpt, if_pos hpt]
      refine .done (hsync.advance (by omega)) ⟨⟨t, hget, hpt, ?_, rfl⟩, t, t', rfl, rfl, halike⟩
      simp only [hmark]
    · rw [if_neg hpt, if_neg hpt]
      exact .fail hsync.toKept
  | ends hsync hmark hkind hkind' =>
    simp only [hwithin.rejects (.inl hkind), hwithin.rejects hkind', Bool.false_eq_true, if_false]
    exact .fail hsync.toKept

theorem Tokens.looks {n n' : Node} (h : L.Tokens n n') {p : Token → Bool} {a b : Nat}
    (htake : L.left.TakesToken p a b n) (hsolid : ∀ t, p t = true → t.isLayout = false) :
    L.Looks n n' := by
  obtain ⟨t, t', rfl, rfl, halike⟩ := h
  obtain ⟨u, -, hu, -, heq⟩ := htake
  obtain rfl := Node.token.inj heq
  exact halike.view (hsolid t hu)

theorem withinText_of_solid {a : Nat} {p : Token → Bool}
    (h : ∀ t, p t = true → t.isLayout = false) : L.WithinText a p := by
  refine ⟨fun t ht hkind => ?_, .inl fun t ht hkind => ?_⟩ <;>
  simpa [Token.isLayout, hkind] using h t ht

theorem placeFree_isLit (text : String) : PlaceFree (·.isLit text) := fun t t' hkind htext => by
  simp only [Token.isLit, hkind, htext]

theorem withinText_isLit (a : Nat) (text : String) : L.WithinText a (·.isLit text) :=
  withinText_of_solid fun _ ht => Token.isLayout_eq_false_of_isLit ht

theorem placeFree_kind (k : TokenKind) : PlaceFree (·.kind == k) := fun t t' hkind _ => by
  simp only [hkind]

/-! ## Repetition -/

/-- Nodes that are taken one behind the other in the first reading, and look the same in pairs. -/
theorem repeatMatch_agree {step step' : ReadState → Match} {R : Nat → Nat → Node → Prop}
    {S : Node → Node → Prop}
    (hstep : ∀ st st', L.Synced st st' →
      L.Agree (fun b n n' => st.mark < b ∧ R st.mark b n ∧ S n n') (step st) (step' st')) :
    ∀ (f f' : Nat) (acc acc' : List Node) (st st' : ReadState), L.Synced st st' →
      L.top - st.mark < f → L.top - st.mark < f' →
      (repeatMatch step f acc st).2.fault ≠ none ∨
        (L.Synced (repeatMatch step f acc st).2 (repeatMatch step' f' acc' st').2
          ∧ ∃ ns ns', (repeatMatch step f acc st).1 = acc.reverse ++ ns
            ∧ (repeatMatch step' f' acc' st').1 = acc'.reverse ++ ns'
            ∧ Chain R st.mark (repeatMatch step f acc st).2.mark ns ∧ List.Forall₂ S ns ns') := by
  intro f
  induction f with
  | zero => exact fun f' acc acc' st st' _ hf => absurd hf (Nat.not_lt_zero _)
  | succ f ih =>
    intro f' acc acc' st st' h hf hf'
    obtain ⟨f', rfl⟩ : ∃ g, f' = g + 1 := ⟨f' - 1, by omega⟩
    have hagree := hstep st st' h
    rw [repeatMatch, repeatMatch]
    generalize step st = m at hagree
    generalize step' st' = m' at hagree
    cases hagree with
    | fault hfault m' => exact .inl hfault
    | fail hkept => exact .inr ⟨h.reset hkept, [], [], by simp, by simp, .nil _, .nil⟩
    | @done s s' n n' hsync hq =>
      obtain ⟨hlt, hR, hS⟩ := hq
      have hlt' : ¬ s.mark ≤ st.mark := by omega
      have hlt'' : ¬ s'.mark ≤ st'.mark := by rw [hsync.mark, h.mark]; omega
      have htop := hsync.le
      simp only [if_neg hlt', if_neg hlt'']
      rcases ih f' (n :: acc) (n' :: acc') s s' hsync (by omega) (by omega) with
        hfault | ⟨hsync', ns, ns', hns, hns', hchain, hall⟩
      · exact .inl hfault
      · refine .inr ⟨hsync', n :: ns, n' :: ns', ?_, ?_, .cons hR hchain, .cons hS hall⟩
        · rw [hns, List.reverse_cons, List.append_assoc, List.singleton_append]
        · rw [hns', List.reverse_cons, List.append_assoc, List.singleton_append]

theorem Synced.lt_size (h : L.Synced st st') :
    L.top - st.mark < L.left.source.tokens.size + 1 := by
  have := L.parallel.hi_le_size
  have := h.le
  omega

theorem Synced.lt_size' (h : L.Synced st st') :
    L.top - st.mark < L.right.source.tokens.size + 1 := by
  have := L.parallel.hi_le_size'
  have := h.le
  omega

/-- A step is repeated often enough on both sides to get to the end of the stretch. -/
theorem repeated_agree {step step' : ReadState → Match} {R : Nat → Nat → Node → Prop}
    {S : Node → Node → Prop}
    (hstep : ∀ st st', L.Synced st st' →
      L.Agree (fun b n n' => st.mark < b ∧ R st.mark b n ∧ S n n') (step st) (step' st'))
    (h : L.Synced st st') :
    L.AgreeMany (fun b ns ns' => Chain R st.mark b ns ∧ List.Forall₂ S ns ns')
      (repeatMatch step (L.left.source.tokens.size + 1) [] st)
      (repeatMatch step' (L.right.source.tokens.size + 1) [] st') := by
  have hrepeat := repeatMatch_agree hstep _ _ [] [] st st' h h.lt_size h.lt_size'
  generalize repeatMatch step _ [] st = x at hrepeat
  generalize repeatMatch step' _ [] st' = x' at hrepeat
  obtain ⟨ns, s⟩ := x
  obtain ⟨ns', s'⟩ := x'
  rcases hrepeat with hfault | ⟨hsync, ns, ns', rfl, rfl, hchain, hall⟩
  · exact .fault hfault _
  · exact .done hsync ⟨hchain, hall⟩

/-! ## Items -/

/-- A separator and an element behind it. -/
def separated (call : RuleMatcher) (join : StringJoiner) (rd : Reading) (s e : Item)
    (st : ReadState) : Match :=
  match s.run call join rd st with
  | (none, st) => (none, st)
  | (some _, st) => if st.fault.isSome then (none, st) else e.run call join rd st

section Equations

variable (call : RuleMatcher) (join : StringJoiner) (rd : Reading) (i : Item) (st : ReadState)

theorem run_mistake (r : Rule) (h : rd.diagnosing = false) :
    (Item.mistake r).run call join rd st = (none, st) :=
  if_neg (by simp [h])

theorem run_opt : (Item.opt i).run call join rd st =
    match i.run call join rd st with
    | (some n, st) => (some n, st)
    | (none, st') =>
      if st'.fault.isSome then (none, st') else (some .absent, { st' with mark := st.mark }) :=
  rfl

theorem run_many : (Item.many i).run call join rd st =
    match repeatMatch (i.run call join rd) (rd.source.tokens.size + 1) [] st with
    | (ns, st) => if st.fault.isSome then (none, st) else (some (.seq ns), st) :=
  rfl

theorem run_many1 : (Item.many1 i).run call join rd st =
    match repeatMatch (i.run call join rd) (rd.source.tokens.size + 1) [] st with
    | (ns, st) => if st.fault.isSome || ns.isEmpty then (none, st) else (some (.seq ns), st) :=
  rfl

theorem run_sepBy (s e : Item) : (Item.sepBy s e).run call join rd st =
    match e.run call join rd st with
    | (none, st) => (none, st)
    | (some first, st) =>
      match repeatMatch (separated call join rd s e) (rd.source.tokens.size + 1) [] st with
      | (ns, st) => if st.fault.isSome then (none, st) else (some (.seq (first :: ns)), st) :=
  rfl

theorem run_ahead : (Item.ahead i).run call join rd st =
    match i.run call join rd st with
    | (some _, st') =>
      if st'.fault.isSome then (none, st') else (some .absent, { st' with mark := st.mark })
    | (none, st') => (none, st') :=
  rfl

theorem run_notAhead : (Item.notAhead i).run call join rd st =
    match i.run call join rd st with
    | (some _, st') => (none, st')
    | (none, st') =>
      if st'.fault.isSome then (none, st') else (some .absent, { st' with mark := st.mark }) :=
  rfl

theorem run_force (text : String) : (Item.force text).run call join rd st =
    match rd.peek st with
    | (some t, st) =>
      if t.isLit text then (some (.token t), { st with mark := st.mark + 1 })
      else (none, { st with fault := some (rd.faultAt st .syntactic t.line (t.column.getD 0 + 1)
        ("expected '" ++ text ++ "'")) })
    | (none, st) => (none, st) :=
  rfl

theorem run_strings : Item.strings.run call join rd st =
    match repeatMatch (rd.expect (·.kind == .string)) (rd.source.tokens.size + 1) [] st with
    | (ns, st) =>
      if st.fault.isSome || ns.isEmpty then (none, st) else join rd (ns.filterMap Node.token?) st :=
  rfl

theorem run_group (alts : List Alt) : (Item.group alts).run call join rd st =
    Alt.runAny call join rd st.mark [] alts st :=
  rfl

end Equations

/-- Whether an item commits the alternative. -/
def isCut : Item → Bool
  | .cut => true
  | _ => false

theorem runAll_cons (call : RuleMatcher) (join : StringJoiner) (rd : Reading) (i : Item)
    (rest : List Item) (acc : List Node) (past : Bool) (st : ReadState) :
    Item.runAll call join rd (i :: rest) acc past st =
      match i.run call join rd st with
      | (none, st) => (none, past, st)
      | (some n, st) =>
        if st.fault.isSome then (none, past, st)
        else Item.runAll call join rd rest (if i.isSilent then acc else n :: acc) (past || isCut i)
          st := by
  cases i <;> cases past <;> rfl

variable (L) in
/-- Ways to match rules that are in step. -/
def Matches (call call' : RuleMatcher) : Prop :=
  ∀ (r : Rule) (st st' : ReadState), r.isOrdinary = true → L.Synced st st' →
    L.Agree (fun b n n' => L.taken r st.mark b n ∧ L.Looks n n') (call L.left r st)
      (call' L.right r st')

variable (L) in
/-- Ways to join string literals that are in step. -/
def Joins (join join' : StringJoiner) : Prop :=
  ∀ (ts ts' : List Token) (st st' : ReadState), L.Synced st st' → ts ≠ [] →
    (∀ t ∈ ts, t.kind = .string) → List.Forall₂ (Token.Alike L.vantage) ts ts' →
    L.Agree (fun b n n' => b = st.mark ∧ L.Looks n n' ∧ ∃ e first last,
        ts.head? = some first ∧ ts.getLast? = some last ∧ n = .expr e
          ∧ e.span = first.span.to last.span)
      (join L.left ts st) (join' L.right ts' st')

theorem isSome_fault {st : ReadState} (h : st.fault ≠ none) : st.fault.isSome = true :=
  Option.isSome_iff_ne_none.2 h

theorem Kept.isSome (h : L.Kept st st') : st.fault.isSome = false := by simp [h.clean]

theorem Kept.isSome' (h : L.Kept st st') : st'.fault.isSome = false := by simp [h.clean']

theorem looks_seq {p : Prop} {ns ns' : List Node}
    (h : List.Forall₂ (fun n n' => p → L.Looks n n') ns ns') (hp : p) :
    L.Looks (.seq ns) (.seq ns') := by
  unfold Looks
  rw [Node.view_seq, Node.view_seq]
  congr 1
  induction h with
  | nil => rfl
  | cons hn _ ih => rw [List.map_cons, List.map_cons, hn hp, ih]

theorem isEmpty_eq_of_forall₂ {S : Node → Node → Prop} {ns ns' : List Node}
    (h : List.Forall₂ S ns ns') : ns.isEmpty = ns'.isEmpty := by
  cases h <;> rfl

theorem lt_of_takesToken {rd : Reading} {p : Token → Bool} {a b : Nat} {n : Node}
    (h : rd.TakesToken p a b n) : a < b := by
  obtain ⟨t, -, -, rfl, -⟩ := h
  exact Nat.lt_succ_self a

theorem solid_string (t : Token) (h : (t.kind == .string) = true) : t.isLayout = false := by
  simp [Token.isLayout, eq_of_beq h]

theorem filterMap_token?_map (ts : List Token) :
    (ts.map Node.token).filterMap Node.token? = ts := by
  induction ts with
  | nil => rfl
  | cons t ts ih => simp [Node.token?, ih]

theorem exists_tokens_of_forall₂ {ns ns' : List Node} (h : List.Forall₂ L.Tokens ns ns') :
    ∃ ts ts', ns = ts.map Node.token ∧ ns' = ts'.map Node.token
      ∧ List.Forall₂ (Token.Alike L.vantage) ts ts' := by
  induction h with
  | nil => exact ⟨[], [], rfl, rfl, .nil⟩
  | cons hn _ ih =>
    obtain ⟨t, t', rfl, rfl, ht⟩ := hn
    obtain ⟨ts, ts', rfl, rfl, hts⟩ := ih
    exact ⟨t :: ts, t' :: ts', rfl, rfl, .cons ht hts⟩

theorem act_agree {start start' : Nat} {nodes nodes' : List Node} {action : Action}
    (hsync : L.Synced s s')
    (hupshot : ((action (L.left.matchedAt start s.mark nodes)).upshot.map fun o =>
        o.map (Node.view L.vantage.left)) =
      (action (L.right.matchedAt start' s'.mark nodes')).upshot.map fun o =>
        o.map (Node.view L.vantage.right)) :
    L.Agree (fun b n n' => b = s.mark
        ∧ action (L.left.matchedAt start b nodes) = .node n ∧ L.Looks n n')
      (L.left.act start nodes action s) (L.right.act start' nodes' action s') := by
  rw [Reading.act_eq, Reading.act_eq]
  rcases hleft : action (L.left.matchedAt start s.mark nodes) with n | _ | ⟨cls, site, message⟩
  · rcases hright : action (L.right.matchedAt start' s'.mark nodes') with n' | _ | _ <;>
      rw [hleft, hright] at hupshot <;> simp [Outcome.upshot] at hupshot
    exact .done hsync ⟨rfl, hleft, hupshot⟩
  · rcases hright : action (L.right.matchedAt start' s'.mark nodes') with n' | _ | _ <;>
      rw [hleft, hright] at hupshot <;> simp [Outcome.upshot] at hupshot
    exact .fail hsync.toKept
  · exact .fault (by simp) _

variable (L) in
/-- An item takes the same in both readings, and if its places count, what it gives looks the
    same. -/
def AgreeOn (call call' : RuleMatcher) (join join' : StringJoiner) (i : Item) : Prop :=
  ∀ {st st' : ReadState}, L.Synced st st' →
    L.Agree (fun b n n' => i.Takes L.left L.taken st.mark b n
        ∧ (i.isStrict = true → L.Looks n n'))
      (i.run call join L.left st) (i.run call' join' L.right st')

section Items

variable {call call' : RuleMatcher} {join join' : StringJoiner} {i s e : Item}

theorem kind_agree {k : TokenKind} (hsound : (Item.kind k).isSound = true) :
    L.AgreeOn call call' join join' (.kind k) := by
  intro st st' h
  simp only [Item.isSound, Bool.and_eq_true, bne_iff_ne] at hsound
  refine (h.expect (placeFree_kind k) ⟨?_, .inl ?_⟩).mono fun b n n' hq =>
    ⟨hq.1, fun hstrict => hq.2.looks hq.1 fun t ht => ?_⟩
  · exact fun t ht hkind => hsound.2 ((eq_of_beq ht).symm.trans hkind)
  · exact fun t ht hkind => hsound.1.2 ((eq_of_beq ht).symm.trans hkind)
  · simp only [Item.isStrict, Bool.and_eq_true, bne_iff_ne, ← eq_of_beq ht] at hstrict
    unfold Token.isLayout
    split <;> simp_all

theorem lit_agree (text : String) : L.AgreeOn call call' join join' (.lit text) := by
  intro st st' h
  exact (h.expect (placeFree_isLit text) (withinText_isLit _ text)).mono fun b n n' hq =>
    ⟨hq.1, fun _ => hq.2.looks hq.1 fun t ht => Token.isLayout_eq_false_of_isLit ht⟩

theorem soft_agree (text : String) : L.AgreeOn call call' join join' (.soft text) := by
  intro st st' h
  refine (h.expect (fun t t' hkind htext => by simp only [hkind, htext])
    (withinText_of_solid ?_)).mono fun b n n' hq => ⟨hq.1, fun _ => hq.2.looks hq.1 ?_⟩ <;>
  exact fun t ht => Token.isLayout_eq_false_of_name (by simp_all)

theorem softKeyword_agree : L.AgreeOn call call' join join' .softKeyword := by
  intro st st' h
  refine (h.expect (fun t t' hkind htext => by simp only [hkind, htext])
    (withinText_of_solid ?_)).mono fun b n n' hq => ⟨hq.1, fun _ => hq.2.looks hq.1 ?_⟩ <;>
  exact fun t ht => Token.isLayout_eq_false_of_name (by simp_all)

theorem rule_agree {r : Rule} (hcall : L.Matches call call')
    (hsound : (Item.rule r).isSound = true) : L.AgreeOn call call' join join' (.rule r) :=
  fun h => (hcall r _ _ hsound h).mono fun _ _ _ hq => ⟨hq.1, fun _ => hq.2⟩

theorem mistake_agree (r : Rule) : L.AgreeOn call call' join join' (.mistake r) := by
  intro st st' h
  rw [run_mistake _ _ _ _ r L.parallel.plain, run_mistake _ _ _ _ r L.parallel.plain']
  exact .fail h.toKept

theorem opt_agree (hitem : L.AgreeOn call call' join join' i) :
    L.AgreeOn call call' join join' (.opt i) := by
  intro st st' h
  have hagree := hitem h
  rw [run_opt, run_opt]
  generalize i.run call join L.left st = m at hagree
  generalize i.run call' join' L.right st' = m' at hagree
  cases hagree with
  | fault hfault m' =>
    simp only [isSome_fault hfault, if_true]
    exact .fault hfault _
  | fail hkept =>
    simp only [hkept.isSome, hkept.isSome', Bool.false_eq_true, if_false]
    exact .done (h.reset hkept) ⟨.inr ⟨rfl, rfl⟩, fun _ => rfl⟩
  | done hsync hq => exact .done hsync ⟨.inl hq.1, hq.2⟩

theorem repeatedItem_agree (hitem : L.AgreeOn call call' join join' i) (hsound : i.isSound = true)
    (htaking : i.isTaking = true) (h : L.Synced st st') :
    L.AgreeMany (fun b ns ns' => Chain (i.Takes L.left L.taken) st.mark b ns
        ∧ List.Forall₂ (fun n n' => i.isStrict = true → L.Looks n n') ns ns')
      (repeatMatch (i.run call join L.left) (L.left.source.tokens.size + 1) [] st)
      (repeatMatch (i.run call' join' L.right) (L.right.source.tokens.size + 1) [] st') :=
  repeated_agree (fun _ _ hsync => (hitem hsync).mono fun _ _ _ hq =>
    ⟨(Item.spans_of_takes L.stretch i hsound hq.1).lt htaking, hq⟩) h

theorem many_agree (hitem : L.AgreeOn call call' join join' i) (hsound : i.isSound = true)
    (htaking : i.isTaking = true) : L.AgreeOn call call' join join' (.many i) := by
  intro st st' h
  have hrepeat := repeatedItem_agree hitem hsound htaking h
  rw [run_many, run_many]
  generalize repeatMatch (i.run call join L.left) _ [] st = x at hrepeat
  generalize repeatMatch (i.run call' join' L.right) _ [] st' = x' at hrepeat
  cases hrepeat with
  | fault hfault x' =>
    simp only [isSome_fault hfault, if_true]
    exact .fault hfault _
  | done hsync hq =>
    simp only [hsync.isSome, hsync.isSome', Bool.false_eq_true, if_false]
    exact .done hsync ⟨⟨_, hq.1, rfl⟩, fun hstrict => looks_seq hq.2 hstrict⟩

theorem many1_agree (hitem : L.AgreeOn call call' join join' i) (hsound : i.isSound = true)
    (htaking : i.isTaking = true) : L.AgreeOn call call' join join' (.many1 i) := by
  intro st st' h
  have hrepeat := repeatedItem_agree hitem hsound htaking h
  rw [run_many1, run_many1]
  generalize repeatMatch (i.run call join L.left) _ [] st = x at hrepeat
  generalize repeatMatch (i.run call' join' L.right) _ [] st' = x' at hrepeat
  cases hrepeat with
  | fault hfault x' =>
    simp only [isSome_fault hfault, Bool.true_or, if_true]
    exact .fault hfault _
  | @done _ _ ns ns' hsync hq =>
    obtain ⟨hchain, hall⟩ := hq
    simp only [hsync.isSome, hsync.isSome', Bool.false_or, ← isEmpty_eq_of_forall₂ hall]
    by_cases hempty : ns.isEmpty = true
    · rw [if_pos hempty, if_pos hempty]
      exact .fail hsync.toKept
    · rw [if_neg hempty, if_neg hempty]
      exact .done hsync ⟨⟨_, hchain, by simpa using hempty, rfl⟩,
        fun hstrict => looks_seq hall hstrict⟩

/-- What a separator and the element behind it take, one behind the other. -/
def TakesSeparated (L : Lockstep) (s e : Item) (a b : Nat) (n : Node) : Prop :=
  ∃ m x, s.Takes L.left L.taken a m x ∧ e.Takes L.left L.taken m b n

theorem separated_agree (hs : L.AgreeOn call call' join join' s)
    (he : L.AgreeOn call call' join join' e) (hssound : s.isSound = true)
    (hesound : e.isSound = true) (htaking : e.isTaking = true) (h : L.Synced st st') :
    L.Agree (fun b n n' => st.mark < b ∧ L.TakesSeparated s e st.mark b n
        ∧ (e.isStrict = true → L.Looks n n'))
      (separated call join L.left s e st) (separated call' join' L.right s e st') := by
  unfold separated
  have hs := hs h
  generalize s.run call join L.left st = m at hs
  generalize s.run call' join' L.right st' = m' at hs
  cases hs with
  | fault hfault m' => exact .fault hfault _
  | fail hkept => exact .fail hkept
  | done hsync hq =>
    simp only [hsync.isSome, hsync.isSome', Bool.false_eq_true, if_false]
    refine (he hsync).mono fun b n n' hq' => ⟨?_, ⟨_, _, hq.1, hq'.1⟩, hq'.2⟩
    exact (Item.spans_of_takes L.stretch s hssound hq.1).le.trans_lt
      ((Item.spans_of_takes L.stretch e hesound hq'.1).lt htaking)

theorem sepBy_agree (hs : L.AgreeOn call call' join join' s)
    (he : L.AgreeOn call call' join join' e) (hssound : s.isSound = true)
    (hesound : e.isSound = true) (htaking : e.isTaking = true) :
    L.AgreeOn call call' join join' (.sepBy s e) := by
  intro st st' h
  have hfirst := he h
  rw [run_sepBy, run_sepBy]
  generalize e.run call join L.left st = m at hfirst
  generalize e.run call' join' L.right st' = m' at hfirst
  cases hfirst with
  | fault hfault m' => exact .fault hfault _
  | fail hkept => exact .fail hkept
  | @done t t' first first' hsync hq =>
    have hrepeat := repeated_agree
      (fun _ _ hsync => separated_agree hs he hssound hesound htaking hsync) hsync
    simp only
    generalize repeatMatch (separated call join L.left s e) _ [] t = x at hrepeat
    generalize repeatMatch (separated call' join' L.right s e) _ [] t' = x' at hrepeat
    cases hrepeat with
    | fault hfault x' =>
      simp only [isSome_fault hfault, if_true]
      exact .fault hfault _
    | done hsync' hq' =>
      simp only [hsync'.isSome, hsync'.isSome', Bool.false_eq_true, if_false]
      exact .done hsync' ⟨⟨_, _, _, hq.1, hq'.1, rfl⟩,
        fun hstrict => looks_seq (.cons (fun hstrict => hq.2 hstrict) hq'.2) hstrict⟩

theorem ahead_agree (hitem : L.AgreeOn call call' join join' i) :
    L.AgreeOn call call' join join' (.ahead i) := by
  intro st st' h
  have hagree := hitem h
  rw [run_ahead, run_ahead]
  generalize i.run call join L.left st = m at hagree
  generalize i.run call' join' L.right st' = m' at hagree
  cases hagree with
  | fault hfault m' => exact .fault hfault _
  | fail hkept => exact .fail hkept
  | done hsync hq =>
    simp only [hsync.isSome, hsync.isSome', Bool.false_eq_true, if_false]
    exact .done (h.reset hsync.toKept) ⟨⟨rfl, rfl⟩, fun _ => rfl⟩

theorem notAhead_agree (hitem : L.AgreeOn call call' join join' i) :
    L.AgreeOn call call' join join' (.notAhead i) := by
  intro st st' h
  have hagree := hitem h
  rw [run_notAhead, run_notAhead]
  generalize i.run call join L.left st = m at hagree
  generalize i.run call' join' L.right st' = m' at hagree
  cases hagree with
  | fault hfault m' =>
    simp only [isSome_fault hfault, if_true]
    exact .fault hfault _
  | fail hkept =>
    simp only [hkept.isSome, hkept.isSome', Bool.false_eq_true, if_false]
    exact .done (h.reset hkept) ⟨⟨rfl, rfl⟩, fun _ => rfl⟩
  | done hsync hq => exact .fail hsync.toKept

theorem force_agree (text : String) : L.AgreeOn call call' join join' (.force text) := by
  intro st st' h
  have hpeek := h.peek
  rw [run_force, run_force]
  generalize L.left.peek st = x at hpeek
  generalize L.right.peek st' = x' at hpeek
  cases hpeek with
  | fault hfault x' => exact .fault hfault _
  | fail hkept => exact .fail hkept
  | @token s s' t t' hsync hmark hlt hget halike =>
    simp only [placeFree_isLit text t t' halike.kind halike.text]
    -- A forced literal that is missing is a fault, so that there is no failure to go back from.
    by_cases hlit : t.isLit text = true
    · rw [if_pos hlit, if_pos hlit]
      refine .done (hsync.advance (by omega)) ⟨⟨t, hget, hlit, ?_, rfl⟩,
        fun _ => halike.view (Token.isLayout_eq_false_of_isLit hlit)⟩
      simp only [hmark]
    · rw [if_neg hlit]
      exact .fault (by simp) _
  | ends hsync hmark hkind hkind' =>
    simp only [(withinText_isLit (L := L) st.mark text).rejects (.inl hkind),
      Bool.false_eq_true, if_false]
    exact .fault (by simp) _

theorem strings_agree (hjoin : L.Joins join join') : L.AgreeOn call call' join join' .strings := by
  intro st st' h
  have hrepeat := repeated_agree (fun st st' (hsync : L.Synced st st') =>
    (hsync.expect (placeFree_kind .string) (withinText_of_solid solid_string)).mono
      fun b n n' hq => ⟨lt_of_takesToken hq.1, hq⟩) h
  rw [run_strings, run_strings]
  generalize repeatMatch (L.left.expect _) _ [] st = x at hrepeat
  generalize repeatMatch (L.right.expect _) _ [] st' = x' at hrepeat
  cases hrepeat with
  | fault hfault x' =>
    simp only [isSome_fault hfault, Bool.true_or, if_true]
    exact .fault hfault _
  | @done s s' ns ns' hsync hq =>
    obtain ⟨hchain, hall⟩ := hq
    simp only [hsync.isSome, hsync.isSome', Bool.false_or, ← isEmpty_eq_of_forall₂ hall]
    by_cases hempty : ns.isEmpty = true
    · rw [if_pos hempty, if_pos hempty]
      exact .fail hsync.toKept
    · rw [if_neg hempty, if_neg hempty]
      obtain ⟨ts, ts', rfl, rfl, halike⟩ := exists_tokens_of_forall₂ hall
      have hts : ts ≠ [] := by simpa using hempty
      simp only [filterMap_token?_map]
      have hkind : ∀ t ∈ ts, t.kind = .string := fun t ht => by
        obtain ⟨i, hi⟩ := List.mem_iff_getElem?.1 ht
        exact eq_of_beq ((L.left.getElem?_of_chain hchain).2 i t hi).2
      refine (hjoin ts ts' s s' hsync hts hkind halike).mono fun b n n' ⟨hb, hlooks, e, hq⟩ =>
        ⟨?_, fun _ => hlooks⟩
      rw [hb]
      exact L.left.takesStrings_of_chain hchain hts hq

/-- Of items in a row that close the blocks they open, the first one takes the same in both readings,
    and the others close what is open behind it. -/
theorem level_agree {d a : Nat} {rest : List Item}
    (hitem : i.isSound = true → L.AgreeOn call call' join join' i)
    (hsound : Item.allSound d (i :: rest) = true) (h : L.Synced st st') (ha : a ≤ L.top)
    (hlevel : L.left.level st.mark = L.left.level a + d) :
    ∃ d', Item.allSound d' rest = true ∧
      L.Agree (fun b n n' => i.Takes L.left L.taken st.mark b n
          ∧ (i.isStrict = true → L.Looks n n') ∧ L.left.level b = L.left.level a + d')
        (i.run call join L.left st) (i.run call' join' L.right st') := by
  -- The item leaves the open blocks alone, or it opens or closes one.
  obtain ⟨rfl, hrest⟩ | ⟨rfl, hd, hrest⟩ | ⟨hi, hrest⟩ := Item.allSound_cons hsound
  · refine ⟨d + 1, hrest, ?_⟩
    refine (h.expect (placeFree_kind .indent) ⟨?_, .inl ?_⟩).mono fun b n n' hq =>
      ⟨hq.1, fun hstrict => absurd hstrict (by decide), ?_⟩
    · exact fun t ht hkind => absurd ((eq_of_beq ht).symm.trans hkind) (by decide)
    · exact fun t ht hkind => absurd ((eq_of_beq ht).symm.trans hkind) (by decide)
    · rw [L.left.level_of_takesToken_indent hq.1, hlevel]
      push_cast
      omega
  · refine ⟨d - 1, hrest, ?_⟩
    refine (h.expect (placeFree_kind .dedent) ⟨?_, .inr ⟨a, ha, by omega⟩⟩).mono
      fun b n n' hq => ⟨hq.1, fun hstrict => absurd hstrict (by decide), ?_⟩
    · exact fun t ht hkind => absurd ((eq_of_beq ht).symm.trans hkind) (by decide)
    · rw [L.left.level_of_takesToken_dedent hq.1, hlevel]
      omega
  · refine ⟨d, hrest, (hitem hi h).mono fun b n n' hq => ⟨hq.1, hq.2, ?_⟩⟩
    rw [(Item.spans_of_takes L.stretch i hi hq.1).level, hlevel]
    simp

end Items

section Run

set_option linter.unusedSectionVars false

variable {call call' : RuleMatcher} {join join' : StringJoiner}
  (hcall : L.Matches call call') (hjoin : L.Joins join join')

include hcall hjoin

mutual

theorem run_agree : (i : Item) → i.isSound = true → i.Natural →
    L.AgreeOn call call' join join' i
  | .kind _, hsound, _ => kind_agree hsound
  | .lit text, _, _ => lit_agree text
  | .soft text, _, _ => soft_agree text
  | .softKeyword, _, _ => softKeyword_agree
  | .rule _, hsound, _ => rule_agree hcall hsound
  | .plainly _, hsound, _ => absurd hsound (by simp [Item.isSound])
  | .mistake r, _, _ => mistake_agree r
  | .opt i, hsound, hnat => opt_agree (run_agree i hsound hnat)
  | .many i, hsound, hnat => by
    rw [Item.isSound, Bool.and_eq_true] at hsound
    exact many_agree (run_agree i hsound.1 hnat) hsound.1 hsound.2
  | .many1 i, hsound, hnat => by
    rw [Item.isSound, Bool.and_eq_true] at hsound
    exact many1_agree (run_agree i hsound.1 hnat) hsound.1 hsound.2
  | .sepBy s e, hsound, hnat => by
    simp only [Item.isSound, Bool.and_eq_true] at hsound
    exact sepBy_agree (run_agree s hsound.1.1 hnat.1) (run_agree e hsound.1.2 hnat.2) hsound.1.1
      hsound.1.2 hsound.2
  | .ahead i, hsound, hnat => ahead_agree (run_agree i hsound hnat)
  | .notAhead i, hsound, hnat => notAhead_agree (run_agree i hsound hnat)
  | .cut, _, _ => fun h => .done h ⟨⟨rfl, rfl⟩, fun _ => rfl⟩
  | .force text, _, _ => force_agree text
  | .group alts, hsound, hnat => fun h => by
    rw [run_group, run_group, h.mark]
    exact (runAny_agree alts hsound hnat [] [] h (.inl ⟨rfl, rfl, rfl⟩)).mono
      fun b n n' hq => ⟨hq.1, fun _ => hq.2⟩
  | .strings, _, _ => strings_agree hjoin

theorem runAll_agree : (items : List Item) → ∀ {d : Nat}, Item.allSound d items = true →
    Item.AllNatural items → ∀ {a : Nat} (acc acc' : List Node) (past : Bool) {st st' : ReadState},
    L.Synced st st' → a ≤ L.top → L.left.level st.mark = L.left.level a + d →
    L.AgreeAll (fun b ns ns' => ∃ new new', ns = acc.reverse ++ new ∧ ns' = acc'.reverse ++ new'
        ∧ Item.AllTake L.left L.taken items st.mark b new
        ∧ (Item.mask items new).map (Node.view L.vantage.left) =
          (Item.mask items new').map (Node.view L.vantage.right))
      (Item.runAll call join L.left items acc past st)
      (Item.runAll call' join' L.right items acc' past st')
  | [], _, _, _, a, acc, acc', past, st, st', h, _, _ => by
    rw [Item.runAll, Item.runAll]
    exact .done past h ⟨[], [], by simp, by simp, ⟨rfl, rfl⟩, rfl⟩
  | i :: rest, d, hsound, hnat, a, acc, acc', past, st, st', h, ha, hlevel => by
    obtain ⟨d', hrest, hitem⟩ :=
      level_agree (fun hi => run_agree i hi hnat.1) hsound h ha hlevel
    rw [runAll_cons, runAll_cons]
    generalize i.run call join L.left st = m at hitem
    generalize i.run call' join' L.right st' = m' at hitem
    cases hitem with
    | fault hfault m' => exact .fault past hfault _
    | fail hkept => exact .fail past hkept
    | @done s s' n n' hsync hq =>
      obtain ⟨htake, hstrict, hlevel'⟩ := hq
      simp only [hsync.isSome, hsync.isSome', Bool.false_eq_true, if_false]
      by_cases hsilent : i.isSilent = true
      · simp only [if_pos hsilent]
        refine (runAll_agree rest hrest hnat.2 _ _ (past || isCut i) hsync ha hlevel').mono
          fun b ns ns' ⟨new, new', hns, hns', hall, hmask⟩ => ⟨new, new', hns, hns', ?_, ?_⟩
        · rw [Item.allTake_cons, if_pos hsilent]
          rwa [Item.eq_of_takes_of_isSilent _ _ hsilent htake] at hall
        · simpa only [Item.mask, if_pos hsilent] using hmask
      · simp only [if_neg hsilent]
        refine (runAll_agree rest hrest hnat.2 _ _ (past || isCut i) hsync ha hlevel').mono
          fun b ns ns' ⟨new, new', hns, hns', hall, hmask⟩ =>
            ⟨n :: new, n' :: new', ?_, ?_, ?_, ?_⟩
        · rw [hns, List.reverse_cons, List.append_assoc, List.singleton_append]
        · rw [hns', List.reverse_cons, List.append_assoc, List.singleton_append]
        · rw [Item.allTake_cons, if_neg hsilent]
          exact ⟨_, n, new, htake, hall, rfl⟩
        · simp only [Item.mask, if_neg hsilent, List.map_cons, hmask]
          congr 1
          by_cases hi : i.isStrict = true
          · rw [if_pos hi, if_pos hi]
            exact hstrict hi
          · rw [if_neg hi, if_neg hi]
            rfl

theorem runAny_agree : (alts : List Alt) → Alt.allSound alts = true → Alt.AllNatural alts →
    ∀ {start : Nat} (before before' : List Node) {st st' : ReadState}, L.Synced st st' →
    ((start = st.mark ∧ before = [] ∧ before' = [])
      ∨ (start ≤ st.mark ∧ L.left.SolidAt start
        ∧ before.map (Node.view L.vantage.left) = before'.map (Node.view L.vantage.right)
        ∧ alts.all (fun | .mk items _ => items.all Item.isStrict) = true)) →
    L.Agree (fun b n n' => Alt.AnyTakes L.left L.taken start before alts st.mark b n
        ∧ L.Looks n n')
      (Alt.runAny call join L.left start before alts st)
      (Alt.runAny call' join' L.right (start + L.shift) before' alts st')
  | [], _, _, _, _, _, st, st', h, _ => by
    rw [Alt.runAny, Alt.runAny]
    exact .fail h.toKept
  | .mk items action :: rest, hsound, hnat, start, before, before', st, st', h, hstart => by
    simp only [Alt.allSound, Bool.and_eq_true] at hsound
    obtain ⟨hact, hspan, hmask, hitems, hrestnat⟩ := hnat
    have hall := runAll_agree items hsound.1.1 hitems [] [] false h h.le (by simp)
    rw [Alt.runAny, Alt.runAny]
    generalize Item.runAll call join L.left items [] false st = x at hall
    generalize Item.runAll call' join' L.right items [] false st' = x' at hall
    cases hall with
    | fault past hfault x' =>
      simp only [isSome_fault hfault, Bool.true_or, if_true]
      exact .fault hfault _
    | fail past hkept =>
      simp only [hkept.isSome, hkept.isSome', Bool.false_or]
      cases past with
      | true => exact .fail hkept
      | false =>
        refine (runAny_agree rest hsound.2 hrestnat before before' (h.reset hkept) ?_).mono
          fun b n n' hq => ⟨.inr hq.1, hq.2⟩
        refine hstart.imp_right fun ⟨hle, hsolid, hbefore, hstrict⟩ => ⟨hle, hsolid, hbefore, ?_⟩
        rw [List.all_cons, Bool.and_eq_true] at hstrict
        exact hstrict.2
    | @done s s' ns ns' past hsync hq =>
      obtain ⟨new, new', rfl, rfl, htake, hnodes⟩ := hq
      have hspans := Item.spans_of_allTake L.stretch items hsound.1.1 htake
      have hlt := hspans.lt hsound.1.2
      refine (act_agree hsync (hact.upshot_eq items ?_ ?_)).mono fun b n n' ⟨hb, hn, hlooks⟩ =>
        ⟨.inl ⟨ns, hb ▸ htake, hn⟩, hlooks⟩
      · -- The span of the match begins with a solid token, whose place the vantages agree on.
        refine hspan.imp_left fun hsolid => ?_
        have hstart' : start < s.mark ∧ L.left.SolidAt start := by
          rcases hstart with ⟨rfl, -⟩ | ⟨hle, hsolid, -⟩
          · exact ⟨hlt, hspans.solid hsolid hlt⟩
          · exact ⟨hle.trans_lt hlt, hsolid⟩
        have hspanFrom := L.parallel.span_spanFrom hstart'.2 hstart'.1 hsync.le
        rw [← hsync.mark] at hspanFrom
        exact hspanFrom
      · rcases hstart with ⟨-, rfl, rfl⟩ | ⟨-, -, hbefore, hstrict⟩
        · rcases hmask with hstrict | hblind
          · rw [Item.mask_of_all hstrict, Item.mask_of_all hstrict] at hnodes
            exact .inl hnodes
          · exact .inr ⟨hblind, hnodes⟩
        · rw [List.all_cons, Bool.and_eq_true] at hstrict
          rw [Item.mask_of_all hstrict.1, Item.mask_of_all hstrict.1] at hnodes
          refine .inl ?_
          simp only [Reading.matchedAt, List.map_append, hbefore, hnodes]

end

theorem extend_agree {starts steps : List Alt} (hsound : Alt.allSound steps = true)
    (hnat : Alt.AllNatural steps)
    (hstrict : steps.all (fun | .mk items _ => items.all Item.isStrict) = true) {a : Nat}
    (hsolid : L.left.SolidAt a) :
    ∀ (f f' : Nat) {n n' : Node} {st st' : ReadState}, L.Synced st st' → a ≤ st.mark →
      L.Looks n n' → Grown L.left L.taken starts steps a st.mark n → L.top - st.mark < f →
      L.top - st.mark < f' →
      L.Agree (fun b n n' => Grown L.left L.taken starts steps a b n ∧ L.Looks n n')
        (RuleBody.run.extend call join L.left a steps f n st)
        (RuleBody.run.extend call' join' L.right (a + L.shift) steps f' n' st') := by
  intro f
  induction f with
  | zero => exact fun f' n n' st st' _ _ _ _ hf => absurd hf (Nat.not_lt_zero _)
  | succ f ih =>
    intro f' n n' st st' h ha hlooks hgrown hf hf'
    obtain ⟨f', rfl⟩ : ∃ g, f' = g + 1 := ⟨f' - 1, by omega⟩
    have hany := runAny_agree hcall hjoin steps hsound hnat [n] [n'] h
      (.inr ⟨ha, hsolid, congrArg (· :: []) hlooks, hstrict⟩)
    rw [RuleBody.run.extend, RuleBody.run.extend]
    generalize Alt.runAny call join L.left a [n] steps st = m at hany
    generalize Alt.runAny call' join' L.right (a + L.shift) [n'] steps st' = m' at hany
    -- Each step takes a token, so that both sides stop growing before they run out.
    cases hany with
    | fault hfault m' =>
      simp only [isSome_fault hfault, if_true]
      exact .fault hfault _
    | fail hkept =>
      simp only [hkept.isSome, hkept.isSome', Bool.false_eq_true, if_false]
      exact .done (h.reset hkept) ⟨hgrown, hlooks⟩
    | @done s s' x x' hsync hq =>
      have hlt := (Alt.spans_of_anyTakes L.stretch steps hsound hq.1).lt
        (Alt.allTaking_of_allSound hsound)
      have htop := hsync.le
      exact ih f' hsync (ha.trans hlt.le) hq.2 (hgrown.step hq.1) (by omega) (by omega)

theorem body_agree {r : Rule} (hr : r.isOrdinary = true) (h : L.Synced st st') :
    L.Agree (fun b n n' => r.body.Takes L.left L.taken st.mark b n ∧ L.Looks n n')
      (r.body.run call join L.left st) (r.body.run call' join' L.right st') := by
  obtain ⟨hsound, hsolid, hstrict⟩ := Rule.sound_of_isOrdinary hr
  have hnat := Rule.natural_of_isOrdinary hr
  rcases hbody : r.body with alts | ⟨starts, steps⟩ <;> rw [hbody] at hsound hsolid hstrict hnat
  · rw [RuleBody.run, RuleBody.run, h.mark]
    exact runAny_agree hcall hjoin alts hsound hnat [] [] h (.inl ⟨rfl, rfl, rfl⟩)
  · have hne : r ≠ .block := by
      rintro rfl
      exact RuleBody.noConfusion hbody
    rw [RuleBody.alts, Alt.allSound_append, Bool.and_eq_true] at hsound
    rw [RuleBody.alts, Alt.allSolid_append, Bool.and_eq_true] at hsolid
    obtain ⟨hnatstarts, hnatsteps⟩ := Alt.allNatural_append.1 hnat
    have hany := runAny_agree hcall hjoin starts hsound.1 hnatstarts [] [] h
      (.inl ⟨rfl, rfl, rfl⟩)
    rw [RuleBody.run, RuleBody.run, h.mark]
    generalize Alt.runAny call join L.left st.mark [] starts st = m at hany
    generalize Alt.runAny call' join' L.right (st.mark + L.shift) [] starts st' = m' at hany
    cases hany with
    | fault hfault m' => exact .fault hfault _
    | fail hkept => exact .fail hkept
    | @done s s' n n' hsync hq =>
      have hspans := Alt.spans_of_anyTakes L.stretch starts hsound.1 hq.1
      have hlt := hspans.lt (Alt.allTaking_of_allSound hsound.1)
      exact extend_agree hcall hjoin hsound.2 hnatsteps hstrict
        (hspans.solid (hsolid hne).1 hlt) _ _ hsync hlt.le hq.2 (.start hq.1) hsync.lt_size
        hsync.lt_size'

theorem matchRule_agree {r : Rule} (hr : r.isOrdinary = true) (h : L.Synced st st') :
    L.Agree (fun b n n' => L.taken r st.mark b n ∧ L.Looks n n')
      (L.left.matchRule call join r st) (L.right.matchRule call' join' r st') := by
  have hbody := (body_agree hcall hjoin hr h).mono fun b n n' hq =>
    (⟨L.closed hr hq.1, hq.2⟩ : L.taken r st.mark b n ∧ L.Looks n n')
  unfold Reading.matchRule
  by_cases hremembered : r.isRemembered = true
  · rw [if_pos hremembered, if_pos hremembered]
    have hentry := h.entry r st.mark h.le
    rw [← h.mark] at hentry
    -- What the memos hold for the place is in step as well, and so is what is added to them.
    have hkey : ∀ mark : Nat, mark * 512 + r.index = r.key mark := fun _ => rfl
    simp only [hkey]
    generalize st.memo.get? (r.key st.mark) = e at hentry
    generalize st'.memo.get? (r.key st'.mark) = e' at hentry
    cases hentry with
    | absent =>
      simp only
      generalize r.body.run call join L.left st = m at hbody
      generalize r.body.run call' join' L.right st' = m' at hbody
      cases hbody with
      | fault hfault m' =>
        simp only [isSome_fault hfault, if_true]
        exact .fault hfault _
      | @fail s s' hkept =>
        simp only [hkept.isSome, hkept.isSome', Bool.false_eq_true, if_false]
        have hinsert := hkept.insert r h.le (.failed s.mark s'.mark)
        rw [← h.mark] at hinsert
        exact .fail hinsert
      | @done s s' n n' hsync hq =>
        simp only [hsync.isSome, hsync.isSome', Bool.false_eq_true, if_false]
        have hinsert := hsync.toKept.insert r h.le (.matched hsync.le hq.1 hq.2)
        rw [← h.mark, ← hsync.mark] at hinsert
        exact .done { hinsert with le := hsync.le, mark := hsync.mark } hq
    | failed b b' => exact .fail (h.toKept.withMark b b')
    | @matched n n' b hle hholds hlooks =>
      exact .done { h.toKept.withMark b (b + L.shift) with le := hle, mark := rfl }
        ⟨hholds, hlooks⟩
  · rw [if_neg hremembered, if_neg hremembered]
    exact hbody

end Run

end Lockstep

end Graft.Syntax
