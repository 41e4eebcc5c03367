import Graft.Proofs.Lexer.Abreast

set_option autoImplicit false

/-! # Margins side by side

What two readers find before the first token of a line, and how they compare it with the levels
that are open: the second text may have a level below those of the first, and be indented more
deeply. -/

namespace Graft.Syntax

open Text (isIndent)

namespace Scanner

variable {s t : Scanner}

/-! ## Reading a margin -/

/-- Whether a margin may hold a character. -/
def isMargin (c : Char) : Bool := isIndent c || c == '\x0c'

/-- A margin with one more character. -/
def Margin.read (m : Margin) (c : Char) : Margin :=
  if c == ' ' then { m with wide := m.wide + 1, narrow := m.narrow + 1 }
  else if c == '\t' then { m with wide := (m.wide / 8 + 1) * 8, narrow := m.narrow + 1 }
  else { m with wide := 0, narrow := 0 }

/-- A margin that goes on in the next line. -/
def Margin.goOn (m : Margin) : Margin where
  wide := m.wide
  narrow := m.narrow
  continued := match m.continued with
    | some (k + 1) => some (k + 1)
    | _ => some m.wide

/-- Whether the margin ends before a text. -/
def MarginEnds (rest : List Char) : Prop :=
  ∀ c, rest.head? = some c → isMargin c = false ∧ c ≠ '\\'

theorem readMargin_read {c : Char} {r : List Char} (h : s.rest = c :: r) (hc : isMargin c = true)
    (n : Nat) (m : Margin) : readMargin (n + 1) s m = readMargin n s.take (m.read c) := by
  simp only [isMargin, isIndent, Bool.or_eq_true, beq_iff_eq] at hc
  rw [readMargin]
  rcases hc with (rfl | rfl) | rfl <;> simp only [h] <;> rfl

theorem readMargin_back {r : List Char} (h : s.rest = '\\' :: r) (n : Nat) (m : Margin) :
    readMargin (n + 1) s m = (s.take.continueLine false).bind fun t => readMargin n t m.goOn := by
  rw [readMargin]
  simp only [h]
  rfl

theorem readMargin_stop (h : MarginEnds s.rest) (n : Nat) (m : Margin) :
    readMargin n s m = .ok (s, m) := by
  rcases n with _ | n
  · rfl
  rw [readMargin]
  split <;> first | rfl | simp_all [MarginEnds, isMargin, isIndent]

theorem readMargin_blanks {x r : List Char} (h : s.rest = x ++ r) (hx : x.all isMargin = true)
    (n : Nat) (m : Margin) :
    readMargin (x.length + n) s m = readMargin n (s.takeMany x.length) (x.foldl Margin.read m) := by
  induction x generalizing s m with
  | nil => rw [List.length_nil, Nat.zero_add]; rfl
  | cons c x ih =>
    rw [List.all_cons, Bool.and_eq_true] at hx
    rw [List.length_cons, Nat.succ_add, readMargin_read h hx.1]
    exact ih (by simp [take_eq h]) hx.2 _

/-- Reading a margin goes on behind its blanks. -/
theorem readMargin_behind {x r : List Char} {n : Nat} (h : s.rest = x ++ r)
    (hx : x.all isMargin = true) (hn : s.rest.length < n) :
    ∃ k ≤ n, (s.takeMany x.length).rest.length < k ∧ ∀ m,
      readMargin n s m = readMargin k (s.takeMany x.length) (x.foldl Margin.read m) := by
  have hlength := congrArg List.length h
  rw [List.length_append] at hlength
  obtain ⟨k, rfl⟩ := Nat.exists_eq_add_of_le (show x.length ≤ n by omega)
  refine ⟨k, by omega, ?_, readMargin_blanks h hx k⟩
  rw [takeMany_rest, List.length_drop]
  omega

theorem all_isMargin {x : List Char} (h : x.all isIndent = true) : x.all isMargin = true :=
  List.all_eq_true.2 fun c hc => by rw [isMargin, List.all_eq_true.1 h c hc, Bool.true_or]

/-- A reader that has read all of a margin is in a line. -/
theorem readMargin_exit (n : Nat) {m : Margin} {z : Scanner × Margin} (hn : s.rest.length < n)
    (hspent : s.spent = false) (h : readMargin n s m = .ok z) :
    MarginEnds z.1.rest ∧ z.1.spent = false := by
  -- Every step leaves a shorter rest, so what bounds it is not used up.
  induction n generalizing s m with
  | zero => exact absurd hn (Nat.not_lt_zero _)
  | succ n ih =>
    rcases hrest : s.rest with _ | ⟨c, r⟩
    · rw [readMargin_stop (by simp [MarginEnds, hrest])] at h
      obtain rfl := Except.ok.inj h
      exact ⟨by simp [MarginEnds, hrest], hspent⟩
    rw [hrest, List.length_cons] at hn
    have htake := take_eq hrest
    by_cases hc : isMargin c = true
    · rw [readMargin_read hrest hc] at h
      refine ih ?_ ?_ h
      · rw [htake]; exact Nat.lt_of_succ_lt_succ hn
      · rw [htake]
        simp only [isMargin, isIndent, Bool.or_eq_true, beq_iff_eq] at hc
        rcases hc with (rfl | rfl) | rfl <;> rfl
    · by_cases hback : c = '\\'
      · subst hback
        rw [readMargin_back hrest] at h
        rcases hcont : s.take.continueLine false with e | t
        · rw [hcont] at h
          cases h
        rw [hcont] at h
        have hle := (Moves.continueLine hcont).rest.length_le
        rw [htake] at hle
        have hle : t.rest.length ≤ r.length := hle
        refine ih (by omega) ?_ h
        unfold continueLine at hcont
        split at hcont
        · rename_i rest' hrest'
          have htake' := take_eq hrest'
          simp only at hcont
          split_ifs at hcont with hempty
          obtain rfl := Except.ok.inj hcont
          simp only [enter, htake']
          rw [htake'] at hempty
          simp only [Bool.not_eq_true] at hempty
          simp [hempty]
        · cases hcont
      · have hends : MarginEnds s.rest := by
          intro d hd
          rw [hrest, List.head?_cons, Option.some.injEq] at hd
          subst hd
          exact ⟨by simpa using hc, hback⟩
        rw [readMargin_stop hends] at h
        obtain rfl := Except.ok.inj h
        exact ⟨hends, hspent⟩

end Scanner

namespace Facing

open Scanner (Margin isMargin)

/-- What is known of the margins of lines that stand side by side, before and after the blanks that
    they begin with. -/
structure Margins (F : Facing) where
  before : Nat → Margin → Margin → Prop
  after : Nat → Margin → Margin → Prop
  first : ∀ l, before l {} {}
  blanks : ∀ {l x y c m m'}, F.row l (x ++ c) (y ++ c) → x.all isIndent = true →
    y.all isIndent = true → c ≠ [] → before l m m' →
    after l (x.foldl Margin.read m) (y.foldl Margin.read m')
  feed : ∀ {l a b m m'}, F.row l a b → '\x0c' ∈ a → after l m m' →
    ∀ d, after l (m.read d) (m'.read d)
  back : ∀ {l x y m m'}, F.row l (x ++ ['\\']) (y ++ ['\\']) → x.all isMargin = true →
    after l m m' → before (l + 1) m.goOn m'.goOn

variable {F : Facing} {pa pb x y c cs cs' : List Char} {s s' : Scanner}

theorem InLine.readMargin (M : F.Margins) (n : Nat) : ∀ {n' : Nat} {pa pb c cs cs' : List Char}
    {s s' : Scanner} {m m' : Margin} {z : Scanner × Margin}, F.InLine pa pb c cs cs' s s' →
    ('\x0c' ∈ pa ∨ ∀ d, c.head? = some d → isIndent d = false) → pa.all isMargin = true →
    (c ≠ [] → M.after s.line m m') → s.rest.length < n → s'.rest.length < n' →
    Scanner.readMargin n s m = .ok z →
    ∃ z' pa pb c cs cs', Scanner.readMargin n' s' m' = .ok z'
      ∧ F.InLine pa pb c cs cs' z.1 z'.1
      ∧ (Scanner.endsBlank z.1.rest = false → M.after z.1.line z.2 z'.2) := by
  -- Behind a backslash all the blanks of the next line are read at once, so the induction is a
  -- strong one.
  induction n using Nat.strong_induction_on with
  | _ n ih =>
    intro n' pa pb c cs cs' s s' m m' z h hfeed hmargin hafter hn hn' hok
    obtain ⟨n, rfl⟩ : ∃ k, n = k + 1 := ⟨n - 1, by omega⟩
    obtain ⟨n', rfl⟩ : ∃ k, n' = k + 1 := ⟨n' - 1, by omega⟩
    have hrest := h.rest
    have hrest' := h.rest'
    have hstop : (Scanner.MarginEnds s.rest) → Scanner.MarginEnds s'.rest →
        (Scanner.endsBlank s.rest = false → M.after s.line m m') →
        ∃ z' pa pb c cs cs', Scanner.readMargin (n' + 1) s' m' = .ok z'
          ∧ F.InLine pa pb c cs cs' z.1 z'.1
          ∧ (Scanner.endsBlank z.1.rest = false → M.after z.1.line z.2 z'.2) := by
      intro hends hends' hafter
      rw [Scanner.readMargin_stop hends] at hok
      obtain rfl := Except.ok.inj hok
      exact ⟨_, pa, pb, c, cs, cs', Scanner.readMargin_stop hends' _ _, h, hafter⟩
    rcases c with _ | ⟨d, c⟩
    · rw [List.nil_append] at hrest hrest'
      refine hstop ?_ ?_ ?_
      · rw [hrest]; rintro d ⟨⟩; decide
      · rw [hrest']; rintro d ⟨⟩; decide
      · rw [hrest]; exact nofun
    rw [List.cons_append] at hrest hrest'
    have htake := h.take
    have hline : s.take.line = s.line := Scanner.takeMany_line s 1
    have hlength : s.take.rest.length < n := by
      rw [Scanner.take_eq hrest]
      rw [hrest, List.length_cons] at hn
      exact Nat.lt_of_succ_lt_succ hn
    have hlength' : s'.take.rest.length < n' := by
      rw [Scanner.take_eq hrest']
      rw [hrest', List.length_cons] at hn'
      exact Nat.lt_of_succ_lt_succ hn'
    have hhere := hafter (List.cons_ne_nil _ _)
    -- The line's own blanks have been read before, so what is left of its margin holds a form feed.
    by_cases hd : isMargin d = true
    · rw [Scanner.readMargin_read hrest hd] at hok
      rw [Scanner.readMargin_read hrest' hd]
      have hmem : '\x0c' ∈ pa ++ [d] := by
        rcases hfeed with hfeed | hfeed
        · exact List.mem_append_left _ hfeed
        · have hindent := hfeed d rfl
          simp only [isMargin, hindent, Bool.false_or, beq_iff_eq] at hd
          simp [hd]
      refine ih n (Nat.lt_succ_self n) htake (.inl hmem) (by simp [hmargin, hd]) (fun _ => ?_) hlength
        hlength' hok
      rw [hline]
      exact M.feed h.row (by rw [List.append_cons]; exact List.mem_append_left _ hmem) hhere d
    by_cases hback : d = '\\'
    · subst hback
      rw [Scanner.readMargin_back hrest] at hok
      rw [Scanner.readMargin_back hrest']
      obtain ⟨b, u, herror⟩ | ⟨x, y, e, ds, ds', t, t', rfl, hcont, hcont', hnext, hat⟩ :=
        h.continueLine false
      · rw [herror] at hok
        exact nomatch hok
      rw [hcont] at hok
      rw [hcont']
      change Scanner.readMargin n t _ = _ at hok
      change ∃ z' pa pb c cs cs', Scanner.readMargin n' t' _ = .ok z' ∧ _
      have hle := (Scanner.Moves.continueLine hcont).rest.length_le
      have hle' := (Scanner.Moves.continueLine hcont').rest.length_le
      obtain ⟨k, hk, hlt, heq⟩ := Scanner.readMargin_behind (by rw [hat.rest, List.append_assoc])
        (Scanner.all_isMargin hat.blank) (hle.trans_lt hlength)
      obtain ⟨k', -, hlt', heq'⟩ := Scanner.readMargin_behind
        (by rw [hat.rest', List.append_assoc]) (Scanner.all_isMargin hat.blank')
        (hle'.trans_lt hlength')
      have hbefore := M.back h.row hmargin hhere
      rw [← hnext] at hbefore
      rw [heq] at hok
      rw [heq']
      refine ih k (by omega) hat.skip (.inr hat.head) (Scanner.all_isMargin hat.blank)
        (fun hne => ?_) hlt hlt' hok
      rw [Scanner.takeMany_line]
      exact M.blanks hat.row hat.blank hat.blank' hne hbefore
    · have hends : ∀ r, Scanner.MarginEnds (d :: r) := by
        rintro r e ⟨⟩
        exact ⟨by simpa using hd, hback⟩
      exact hstop (hrest ▸ hends _) (hrest' ▸ hends _) fun _ => hhere

/-- At the beginning of a line both readers come to the end of its margin. -/
theorem AtEnd.readMargin (M : F.Margins) (h : F.AtEnd s s') (hne : s'.rest ≠ [])
    {z : Scanner × Margin}
    (hok : Scanner.readMargin (s.begin.rest.length + 1) s.begin {} = .ok z) :
    ∃ z' pa pb c cs cs', Scanner.readMargin (s'.begin.rest.length + 1) s'.begin {} = .ok z'
      ∧ F.InLine pa pb c cs cs' z.1 z'.1
      ∧ (Scanner.endsBlank z.1.rest = false → M.after z.1.line z.2 z'.2) := by
  obtain ⟨x, y, c, cs, cs', hat⟩ := h.enter hne false
  have hat : F.AtMargin x y c cs cs' s.begin s'.begin := { hat with }
  obtain ⟨k, -, hlt, heq⟩ := Scanner.readMargin_behind (by rw [hat.rest, List.append_assoc])
    (Scanner.all_isMargin hat.blank) (Nat.lt_succ_self _)
  obtain ⟨k', -, hlt', heq'⟩ := Scanner.readMargin_behind (by rw [hat.rest', List.append_assoc])
    (Scanner.all_isMargin hat.blank') (Nat.lt_succ_self _)
  rw [heq] at hok
  rw [heq']
  refine hat.skip.readMargin M k (.inr hat.head) (Scanner.all_isMargin hat.blank) (fun hne => ?_) hlt
    hlt' hok
  rw [Scanner.takeMany_line]
  exact M.blanks hat.row hat.blank hat.blank' hne (M.first _)

end Facing

/-! ## Levels side by side -/

/-- By how much the lines of a second text are indented more deeply than those of the first one,
    and the level that the second one has below those of the first. -/
structure Nesting where
  deeper : Nat × Nat
  base : List (Nat × Nat)
  valid : (base = [] ∧ deeper = (0, 0)) ∨ (base = [(0, 0)] ∧ 0 < deeper.1 ∧ 0 < deeper.2)

/-- Open levels: the outermost one has no indentation, and all others have one. -/
def Rising (ls : List (Nat × Nat)) : Prop :=
  ∃ front, ls = front ++ [(0, 0)] ∧ ∀ x ∈ front, 0 < x.1

theorem Rising.suffix {ls ls' : List (Nat × Nat)} (h : Rising ls) (hsuffix : ls' <:+ ls)
    (hne : ls' ≠ []) : Rising ls' := by
  obtain ⟨front, rfl, hpos⟩ := h
  obtain hnil | ⟨front', rfl, hsuffix'⟩ := List.suffix_concat_iff.1 hsuffix
  · exact absurd hnil hne
  · exact ⟨front', rfl, fun x hx => hpos x (hsuffix'.subset hx)⟩

theorem Rising.cons {x : Nat × Nat} {ls : List (Nat × Nat)} (h : Rising ls) (hx : 0 < x.1) :
    Rising (x :: ls) := by
  obtain ⟨front, rfl, hpos⟩ := h
  exact ⟨x :: front, rfl, by simpa using ⟨hx, fun a b hab => hpos (a, b) hab⟩⟩

theorem Rising.ne_nil {ls : List (Nat × Nat)} (h : Rising ls) : ls ≠ [] := by
  obtain ⟨front, rfl, -⟩ := h
  simp

namespace Nesting

variable (N : Nesting)

/-- A depth in the second text. -/
def deepen (x : Nat × Nat) : Nat × Nat := (x.1 + N.deeper.1, x.2 + N.deeper.2)

/-- The levels that are open in the second text. -/
def levels (ls : List (Nat × Nat)) : List (Nat × Nat) := ls.map N.deepen ++ N.base

variable {N} {s s' t : Scanner} {wide narrow : Nat}

theorem length_levels (ls : List (Nat × Nat)) : (N.levels ls).length = ls.length + N.base.length := by
  simp [levels]

theorem rising_levels {ls : List (Nat × Nat)} (h : Rising ls) : Rising (N.levels ls) := by
  obtain ⟨front, rfl, hpos⟩ := h
  rcases N.valid with ⟨hbase, hdeeper⟩ | ⟨hbase, hdeeper, -⟩
  · refine ⟨front, ?_, hpos⟩
    have hid : N.deepen = id := by
      funext x
      simp [deepen, hdeeper]
    simp [levels, hbase, hid]
  · refine ⟨(front ++ [(0, 0)]).map N.deepen, by simp [levels, hbase], fun x hx => ?_⟩
    obtain ⟨y, -, rfl⟩ := List.mem_map.1 hx
    exact Nat.add_pos_right _ hdeeper

theorem close_levels : ∀ {ls : List (Nat × Nat)} {s s' t : Scanner}, ls ≠ [] →
    s'.pending = s.pending → Scanner.indent.close wide narrow s ls = .ok t →
    ∃ ls' p, ls' <:+ ls ∧ ls' ≠ [] ∧ p ≤ s.pending ∧ t = { s with indents := ls', pending := p }
      ∧ Scanner.indent.close (wide + N.deeper.1) (narrow + N.deeper.2) s' (N.levels ls) =
        .ok { s' with indents := N.levels ls', pending := p } := by
  intro ls
  induction ls with
  | nil => exact fun h => absurd rfl h
  | cons l outer ih =>
    intro s s' t _ hpending hok
    obtain ⟨w, n⟩ := l
    have hlevels : N.levels ((w, n) :: outer) =
        (w + N.deeper.1, n + N.deeper.2) :: N.levels outer := rfl
    rw [Scanner.indent.close] at hok
    rw [hlevels, Scanner.indent.close]
    -- Both sides of each comparison are deeper by the same amount in the second text.
    by_cases hlt : wide < w
    · by_cases houter : outer = []
      · rw [houter] at hok
        simp [hlt, Nat.ne_of_lt hlt] at hok
      have hclose : (decide (wide < w) && !outer.isEmpty) = true := by simp [hlt, houter]
      have hclose' : (decide (wide + N.deeper.1 < w + N.deeper.1) && !(N.levels outer).isEmpty) =
          true := by simp [hlt, levels, houter]
      rw [if_pos hclose] at hok
      rw [if_pos hclose']
      obtain ⟨ls', p, hsuffix, hne, hle, rfl, hok'⟩ := @ih { s with pending := s.pending - 1 }
        { s' with pending := s.pending - 1 } _ houter rfl hok
      refine ⟨ls', p, hsuffix.trans (List.suffix_cons _ _), hne, ?_, rfl, ?_⟩
      · dsimp only at hle
        omega
      · rw [hpending]
        exact hok'
    · have hclose : ¬ (decide (wide < w) && !outer.isEmpty) = true := by simp [hlt]
      have hclose' : ¬ (decide (wide + N.deeper.1 < w + N.deeper.1) && !(N.levels outer).isEmpty) =
          true := by simp [hlt]
      rw [if_neg hclose] at hok
      rw [if_neg hclose']
      by_cases hwide : wide = w
      · by_cases hnarrow : narrow = n
        · subst hwide hnarrow
          simp only [bne_self_eq_false, Bool.false_eq_true, if_false] at hok ⊢
          obtain rfl := Except.ok.inj hok
          exact ⟨_, s.pending, List.suffix_rfl, List.cons_ne_nil _ _, Int.le_refl _, rfl, by
            rw [← hpending]
            rfl⟩
        · simp [hwide, hnarrow] at hok
      · simp [hwide] at hok

/-- The indentation of a line has the same effect on the levels of both texts, if there is room for
    a level that it opens. -/
theorem indent_levels (hlevels : s'.indents = N.levels s.indents) (hrising : Rising s.indents)
    (hpending : s'.pending = s.pending) (hok : s.indent wide narrow = .ok t)
    (hroom : N.base = [] ∨ (s.pending < t.pending → t.indents.length < maxIndents)) :
    ∃ ls p, Rising ls ∧ t = { s with indents := ls, pending := p }
      ∧ s'.indent (wide + N.deeper.1) (narrow + N.deeper.2) =
        .ok { s' with indents := N.levels ls, pending := p } := by
  unfold Scanner.indent at hok ⊢
  rcases hs : s.indents with _ | ⟨⟨w, n⟩, outer⟩
  · exact absurd hs hrising.ne_nil
  have hs' : s'.indents = (w + N.deeper.1, n + N.deeper.2) :: N.levels outer := by
    rw [hlevels, hs]
    rfl
  have hkeep : ({ s' with indents := N.levels s.indents, pending := s.pending } : Scanner) = s' := by
    rw [← hlevels, ← hpending]
  rw [hs] at hok
  rw [hs']
  dsimp only at hok ⊢
  by_cases heq : wide = w
  · have hwide : (wide + N.deeper.1 == w + N.deeper.1) = true := by simp [heq]
    rw [if_pos (by simpa using heq)] at hok
    rw [if_pos hwide]
    by_cases hnarrow : narrow = n
    · rw [if_pos (by simpa using hnarrow)] at hok
      obtain rfl := Except.ok.inj hok
      refine ⟨s.indents, s.pending, hrising, rfl, ?_⟩
      rw [if_pos (by simp [hnarrow]), hkeep]
    · rw [if_neg (by simpa using hnarrow)] at hok
      exact nomatch hok
  have hwide : ¬ (wide + N.deeper.1 == w + N.deeper.1) = true := by simp [heq]
  rw [if_neg (by simpa using heq)] at hok
  rw [if_neg hwide]
  -- Only a line that opens a level needs room in the second text, which may have one more.
  by_cases hlt : w < wide
  · rw [if_pos hlt] at hok
    rw [if_pos (Nat.add_lt_add_right hlt _)]
    split_ifs at hok with hdeep hnarrow
    obtain rfl := Except.ok.inj hok
    refine ⟨(wide, narrow) :: s.indents, s.pending + 1, hrising.cons (by omega), by rw [hs], ?_⟩
    have hroom' : ¬ s'.indents.length ≥ maxIndents := by
      rw [hlevels, length_levels, hs]
      rcases hroom with hbase | hroom
      · rw [hbase]
        simpa using hdeep
      · have := hroom (by dsimp only; omega)
        have : ((w, n) :: outer).length + 1 < maxIndents := this
        rcases N.valid with ⟨hbase, -⟩ | ⟨hbase, -⟩
        · rw [hbase, List.length_nil]
          omega
        · rw [hbase, List.length_singleton]
          omega
    rw [hs'] at hroom'
    rw [if_neg hroom', if_neg (by omega), hpending, ← hs']
    congr 2
    rw [hlevels]
    rfl
  · rw [if_neg hlt] at hok
    rw [if_neg (by omega)]
    obtain ⟨ls, p, hsuffix, hne, -, rfl, hok'⟩ :=
      close_levels (N := N) (List.cons_ne_nil _ _) hpending hok
    exact ⟨ls, p, hrising.suffix (hs ▸ hsuffix) hne, rfl, hok'⟩

end Nesting

/-- At the end of the text all levels but the outermost one are closed. -/
theorem Scanner.indent_outermost {s : Scanner} {front : List (Nat × Nat)}
    (h : s.indents = front ++ [(0, 0)]) (hpos : ∀ x ∈ front, 0 < x.1) :
    s.indent 0 0 = .ok { s with indents := [(0, 0)], pending := s.pending - front.length } := by
  have hclose : ∀ (front : List (Nat × Nat)) (s : Scanner), (∀ x ∈ front, 0 < x.1) →
      indent.close 0 0 s (front ++ [(0, 0)]) =
        .ok { s with indents := [(0, 0)], pending := s.pending - front.length } := by
    intro front
    induction front with
    | nil =>
      intro s _
      simp [indent.close]
    | cons x front ih =>
      intro s hpos
      obtain ⟨w, n⟩ := x
      have hw : 0 < w := hpos (w, n) List.mem_cons_self
      rw [List.cons_append, indent.close, if_pos (by simp [hw]),
        ih _ fun x hx => hpos x (List.mem_cons_of_mem _ hx)]
      simp only [List.length_cons]
      congr 2
      omega
  rcases front with _ | ⟨⟨w, n⟩, front⟩
  · have hkeep : s.pending - (([] : List (Nat × Nat)).length : Int) = s.pending := by simp
    rw [hkeep]
    simp only [indent, h, List.nil_append, beq_self_eq_true, if_true]
    rw [← List.nil_append [((0, 0) : Nat × Nat)], ← h]
  · have hw : 0 < w := hpos (w, n) List.mem_cons_self
    simp only [indent, h, List.cons_append]
    rw [if_neg (by simp [Nat.ne_of_lt hw]), if_neg (by omega)]
    exact hclose ((w, n) :: front) s hpos

end Graft.Syntax
