import Graft.Proofs.Lexer.Ahead

set_option autoImplicit false

/-! # Tokens in step

Two texts whose lines stand side by side give the same tokens, up to their places.  If the second
text has a level below those of the first, the end of that level comes before its end. -/

namespace Graft.Syntax

open Reading (opening)

/-! ## Rows of tokens -/

/-- Rows of tokens in step, before which so many levels are open. -/
inductive InStep (V : Vantage) (N : Nesting) : Int → List Token → List Token → Prop
  | ends {e e' : Token} (base : N.base = []) (kind : e.kind = .endMarker) (alike : e.Alike V e') :
    InStep V N 0 [e] [e']
  | closes {e d e' : Token} (base : N.base ≠ []) (kind : e.kind = .endMarker)
      (kind' : d.kind = .dedent) : InStep V N 0 [e] [d, e']
  | more {n : Int} {t t' : Token} {ts ts' : List Token} (level : 0 ≤ n) (kind : t.kind ≠ .endMarker)
      (alike : t.Alike V t') (others : InStep V N (n + opening t) ts ts') :
    InStep V N n (t :: ts) (t' :: ts')

theorem Token.alike_layout {V : Vantage} {t t' : Token} (hlayout : t.isLayout = true)
    (hkind : t'.kind = t.kind) (htext : t'.text = t.text) : t.Alike V t' :=
  ⟨hkind, htext, fun h => absurd (hlayout.symm.trans h) (by decide),
    fun h => absurd (hlayout.symm.trans h) (by decide)⟩

namespace Scanner

/-- How many levels have been handed out, but for the outermost one. -/
def depth (s : Scanner) : Int := s.indents.length - s.pending - 1

variable {s s' t u : Scanner} {lines lines' : Array (List Char)}

theorem depth_readLineStart {blank : Bool} (h : s.readLineStart = .ok (t, blank)) :
    t.depth = s.depth := by
  unfold depth
  by_cases hstart : s.lineStart = true
  · obtain ⟨z, hz, hcases⟩ := readLineStart_ok hstart h
    have hmove := Moves.readMargin _ hz
    have henter := Moves.enter s false
    have hindents : z.1.indents = s.indents := hmove.indents.trans henter.indents
    have hpending : z.1.pending = s.pending := hmove.pending.trans henter.pending
    rw [← hindents, ← hpending]
    rcases hcases with ⟨-, rfl, -⟩ | ⟨-, -, -, hindent⟩
    · rfl
    · obtain ⟨-, -, -, -, -, hlevels⟩ := indent_ok hindent
      omega
  · obtain ⟨rfl, -⟩ := Prod.mk.inj (Except.ok.inj
      ((readLineStart_of_not (by simpa using hstart)).symm.trans h))
    rfl

/-- A line opens one level at most. -/
theorem pending_readLineStart {blank : Bool} (hstart : s.lineStart = true) (hpending : s.pending = 0)
    (h : s.readLineStart = .ok (t, blank)) : t.pending ≤ 1 := by
  obtain ⟨z, hz, hcases⟩ := readLineStart_ok hstart h
  have hzero : z.1.pending = 0 :=
    ((Moves.readMargin _ hz).pending.trans (Moves.enter s false).pending).trans hpending
  rcases hcases with ⟨-, rfl, -⟩ | ⟨-, -, -, hindent⟩
  · omega
  · obtain ⟨-, -, -, -, -, hlevels⟩ := indent_ok hindent
    omega

/-- Where only levels are left to be closed, the tokens are in step. -/
theorem Over.inStep {V : Vantage} {N : Nesting} {k : Nat} {ts : List Token} (h : Over lines s k)
    (h' : Over lines' s' (k + N.base.length)) (hrun : Run lines s ts none) :
    ∃ ts', Run lines' s' ts' none ∧ InStep V N k ts ts' := by
  obtain ⟨ds, e, hrun₁, hlength, hds, hkind, htext⟩ := h
  obtain ⟨ds', e', hrun', hlength', hds', hkind', htext'⟩ := h'
  obtain ⟨rfl, -⟩ := hrun.unique hrun₁
  refine ⟨_, hrun', ?_⟩
  have hend : e.Alike V e' := Token.alike_layout (by simp [Token.isLayout, hkind])
    (hkind'.trans hkind.symm) (htext'.trans htext.symm)
  clear hrun hrun₁ hrun'
  induction ds generalizing ds' k with
  | nil =>
    obtain rfl : k = 0 := hlength.symm
    -- All levels that were open at the start are closed; what is left is the one around, if there
    -- is one.
    rcases N.valid with ⟨hbase, -⟩ | ⟨hbase, -⟩
    · rw [hbase] at hlength'
      obtain rfl := List.length_eq_zero_iff.1 hlength'
      exact .ends hbase hkind hend
    · rw [hbase] at hlength'
      obtain ⟨d, rfl⟩ := List.length_eq_one_iff.1 hlength'
      exact .closes (by simp [hbase]) hkind (hds' d List.mem_cons_self).1
  | cons d ds ih =>
    obtain ⟨k, rfl⟩ : ∃ n, k = n + 1 := ⟨k - 1, by rw [← hlength]; rfl⟩
    rcases ds' with _ | ⟨d', ds'⟩
    · rw [List.length_nil] at hlength'
      omega
    have hd := hds d List.mem_cons_self
    have hd' := hds' d' List.mem_cons_self
    have hopening : ((k + 1 : Nat) : Int) + opening d = k := by
      simp only [opening, hd.1]
      omega
    refine .more (by omega) (by simp [hd.1]) ?_ (hopening ▸ ih ?_ ?_ ds' ?_ ?_)
    · exact Token.alike_layout (by simp [Token.isLayout, hd.1]) (hd'.1.trans hd.1.symm)
        (hd'.2.trans hd.2.symm)
    · exact Nat.succ.inj hlength
    · exact fun t ht => hds t (List.mem_cons_of_mem _ ht)
    · rw [List.length_cons] at hlength'
      omega
    · exact fun t ht => hds' t (List.mem_cons_of_mem _ ht)

end Scanner

namespace Facing

open Scanner (Begins Over Run Found Margin Piece)

variable (F : Facing) (N : Nesting)

/-! ## Readers abreast -/

/-- Two readers between tokens: before a line, or both in one. -/
structure Abreast (s s' : Scanner) : Prop where
  even : Scanner.Even s s'
  levels : s'.indents = N.levels s.indents
  rising : Rising s.indents
  level : 0 ≤ s.depth
  ended : Scanner.Ended s.rest
  ended' : Scanner.Ended s'.rest
  place : (s.lineStart = true ∧ s.pending = 0 ∧ F.AtEnd s s')
    ∨ (s.lineStart = false ∧ ∃ pa pb c cs cs', F.InLine pa pb c cs cs' s s')

variable {F N} {s s' t t' u : Scanner} {lines lines' : Array (List Char)} {blank : Bool}

theorem endsBlank_of_head? {r r' : List Char} (h : r'.head? = r.head?) :
    Scanner.endsBlank r' = Scanner.endsBlank r := by
  rcases r with _ | ⟨c, r⟩ <;> rcases r' with _ | ⟨c', r'⟩
  · rfl
  · exact nomatch h
  · exact nomatch h
  · obtain rfl : c' = c := by simpa using h
    unfold Scanner.endsBlank
    split <;> simp_all

theorem Rows.eq_nil {l : Nat} {r r' : List Char} (h : F.Rows l r r') (hnil : r = []) : r' = [] := by
  cases h with
  | cons => simp at hnil
  | nil | extra => rfl

/-- At the beginning of a line both readers read its margin; the levels are looked at if the line
    counts. -/
theorem AtEnd.readLineStart (M : F.Margins) (h : F.AtEnd s s') (heven : Scanner.Even s s')
    (hlineStart : s.lineStart = true) (hne : s'.rest ≠ [])
    (hstart : s.readLineStart = .ok (t, blank)) :
    ∃ (z z' : Scanner) (m m' : Margin) (pa pb c cs cs' : List Char),
      F.InLine pa pb c cs cs' z z' ∧ Scanner.Even z z' ∧ z.lineStart = false
      ∧ z.indents = s.indents ∧ z'.indents = s'.indents ∧ z.pending = s.pending
      ∧ z.brackets = s.brackets ∧ z.rest <:+ s.rest ∧ z'.rest <:+ s'.rest
      ∧ Scanner.MarginEnds z.rest ∧ blank = Scanner.endsBlank z.rest
      ∧ (blank = true ∨ s.brackets ≠ [] → t = z ∧ s'.readLineStart = .ok (z', blank))
      ∧ (blank = false → s.brackets = [] → z.indent m.depth.1 m.depth.2 = .ok t
        ∧ M.after z.line m m'
        ∧ s'.readLineStart = (z'.indent m'.depth.1 m'.depth.2).map (·, false)) := by
  have hlineStart' : s'.lineStart = true := heven.lineStart.trans hlineStart
  obtain ⟨⟨z, m⟩, hz, hcases⟩ := Scanner.readLineStart_ok hlineStart hstart
  obtain ⟨⟨z', m'⟩, pa, pb, c, cs, cs', hz', hin, hafter⟩ := h.readMargin M hne hz
  dsimp only at hcases hin hafter
  have hrest : s.rest ≠ [] := fun hnil => hne (h.more.eq_nil hnil)
  have hspent : s.begin.spent = false := by simp [Scanner.begin, Scanner.enter, h.spent, hrest]
  have hmoves := Scanner.Moves.readMargin _ hz
  have hmoves' := Scanner.Moves.readMargin _ hz'
  have henter := Scanner.Moves.enter s false
  have henter' := Scanner.Moves.enter s' false
  have hbrackets : z.brackets = s.brackets := hmoves.brackets.trans henter.brackets
  have hends := (Scanner.readMargin_exit _ (Nat.lt_succ_self _) hspent hz).1
  have hblank' := endsBlank_of_head? hin.head?_rest
  have heven' : Scanner.Even z z' :=
    { lineStart := hmoves'.lineStart.trans hmoves.lineStart.symm
      pending := (hmoves'.pending.trans henter'.pending).trans
        (heven.pending.trans (hmoves.pending.trans henter.pending).symm)
      brackets := by
        rw [hmoves'.brackets.trans henter'.brackets, hbrackets]
        exact heven.brackets }
  -- Whether a line counts depends on what is behind its margin, which is the same on both sides.
  have hline' := Scanner.readLineStart_eq hlineStart'
  rw [hz'] at hline'
  change s'.readLineStart = if (Scanner.endsBlank z'.rest || !z'.brackets.isEmpty) = true
    then .ok (z', Scanner.endsBlank z'.rest) else _ at hline'
  rw [hblank', heven'.isEmpty_brackets] at hline'
  refine ⟨z, z', m, m', pa, pb, c, cs, cs', hin, heven', hmoves.lineStart,
    hmoves.indents.trans henter.indents, hmoves'.indents.trans henter'.indents,
    hmoves.pending.trans henter.pending, hbrackets, hmoves.rest.trans henter.rest,
    hmoves'.rest.trans henter'.rest, hends, ?_, ?_, ?_⟩
  · rcases hcases with ⟨-, -, hblank⟩ | ⟨hblank, -, rfl, -⟩
    · exact hblank
    · exact hblank.symm
  · intro hwhy
    rcases hcases with ⟨hcond, rfl, rfl⟩ | ⟨-, hnil, rfl, -⟩
    · rw [if_pos hcond] at hline'
      exact ⟨rfl, hline'⟩
    · rcases hwhy with hwhy | hwhy
      · cases hwhy
      · exact absurd (hbrackets.symm.trans hnil) hwhy
  · intro hfalse hnil
    rcases hcases with ⟨hcond, -, hblank⟩ | ⟨hblank, hnil', -, hindent⟩
    · rw [hbrackets, hnil, ← hblank, hfalse] at hcond
      cases hcond
    · rw [hblank, hnil'] at hline'
      exact ⟨hindent, hafter hblank, hline'⟩

/-- What both readers need to know of the lines that count: where the first text has a line with
    the property, the margin of the second text is deeper by as much as its levels are. -/
def Deepens (M : F.Margins) (N : Nesting) (P : Nat → Prop) : Prop :=
  ∀ l m m', P l → M.after l m m' → m'.depth = N.deepen m.depth

/-- Where the readers are in a line, they have the same text before them. -/
theorem Abreast.inLine (h : F.Abreast N s s') (hlineStart : s.lineStart = false) :
    ∃ pa pb c cs cs', F.InLine pa pb c cs cs' s s' :=
  (h.place.resolve_left fun hends => absurd (hlineStart.symm.trans hends.1) (by decide)).2

/-- Both readers come from abreast to abreast in a line, if more of the texts is left. -/
theorem Abreast.readLineStart {M : F.Margins} {P : Nat → Prop} (hP : Deepens M N P)
    {ts : List Token} (h : F.Abreast N s s') (hstart : s.readLineStart = .ok (t, blank))
    (hne : s.lineStart = true → s'.rest ≠ []) (hrun : Run lines s ts none)
    (hbegins : s.lineStart = true → s.brackets = [] → Begins P true ts)
    (hroom : N.base = [] ∨ (s.lineStart = true → 0 < t.pending → t.indents.length < maxIndents)) :
    ∃ t', s'.readLineStart = .ok (t', blank) ∧ F.Abreast N t t' := by
  have hlevel : 0 ≤ t.depth := Scanner.depth_readLineStart hstart ▸ h.level
  rcases h.place with ⟨hlineStart, hpending, hends⟩ | ⟨hlineStart, hin⟩
  swap
  · -- Within a line there is no margin to be read.
    obtain ⟨rfl, rfl⟩ := Prod.mk.inj (Except.ok.inj
      ((Scanner.readLineStart_of_not hlineStart).symm.trans hstart))
    exact ⟨s', Scanner.readLineStart_of_not (h.even.lineStart.trans hlineStart), h⟩
  obtain ⟨z, z', m, m', pa, pb, c, cs, cs', hin, heven, hz, hindents, hindents', hzpending,
    hzbrackets, hsuffix, hsuffix', hmargin, hblank, hskip, hcount⟩ :=
    hends.readLineStart M h.even hlineStart (hne hlineStart) hstart
  by_cases hwhy : blank = true ∨ s.brackets ≠ []
  · obtain ⟨rfl, hstart'⟩ := hskip hwhy
    exact ⟨z', hstart',
      { even := heven
        levels := by rw [hindents, hindents']; exact h.levels
        rising := hindents ▸ h.rising
        level := hlevel
        ended := h.ended.of_suffix hsuffix
        ended' := h.ended'.of_suffix hsuffix'
        place := .inr ⟨hz, pa, pb, c, cs, cs', hin⟩ }⟩
  · rw [not_or, Bool.not_eq_true, not_not] at hwhy
    obtain ⟨rfl, hbrackets⟩ := hwhy
    obtain ⟨hindent, hafter, hstart'⟩ := hcount rfl hbrackets
    obtain ⟨hrest, hline, hspent, hstart₁, -, -⟩ := Scanner.indent_ok hindent
    -- The line counts, for the first token that is no layout stands in it.
    have hcounts : P t.line := by
      refine (hrun.congr fun hfound => hfound.behind_start hstart).begins rfl (hstart₁.trans hz)
        (hspent.trans hin.spent) ?_ ?_ ?_ (hbegins hlineStart hbrackets)
      · rw [hrest]; exact hmargin
      · rw [hrest]; exact hblank.symm
      · rw [hrest, hin.rest]; simp
    rw [hline] at hcounts
    rw [hP _ _ _ hcounts hafter] at hstart'
    have hroom : N.base = [] ∨ (z.pending < t.pending → t.indents.length < maxIndents) :=
      hroom.imp_right fun hroom hlt => hroom hlineStart (by omega)
    obtain ⟨ls, p, hrising, rfl, hindent'⟩ := Nesting.indent_levels (N := N)
      (by rw [hindents, hindents']; exact h.levels) (hindents ▸ h.rising) heven.pending hindent hroom
    change s'.readLineStart = (z'.indent (m.depth.1 + N.deeper.1) (m.depth.2 + N.deeper.2)).map _
      at hstart'
    rw [hindent'] at hstart'
    exact ⟨_, hstart',
      { even := ⟨heven.lineStart, rfl, heven.brackets⟩
        levels := rfl
        rising := hrising
        level := hlevel
        ended := h.ended.of_suffix hsuffix
        ended' := h.ended'.of_suffix hsuffix'
        place := .inr ⟨hz, pa, pb, c, cs, cs', { hin with }⟩ }⟩

/-- At the end of the texts only levels are left to be closed. -/
theorem Abreast.over (h : F.Abreast N s s') (hlineStart : s.lineStart = true) (hnil : s'.rest = [])
    {ts : List Token} (hrun : Run lines s ts none) :
    ∃ k : Nat, s.depth = k ∧ Over lines s k ∧ Over lines' s' (k + N.base.length) := by
  rcases h.place with ⟨-, hpending, hends⟩ | ⟨hlineStart', -⟩
  swap
  · exact absurd (hlineStart.symm.trans hlineStart') (by decide)
  have hover : (s.brackets = [] → ∃ k, s.indents.length = k + 1 ∧ Over lines s k)
      ∧ (s.brackets ≠ [] → ∃ ts b, Run lines s ts (some b)) := by
    have hmore := hends.more
    generalize hr : s.rest = r at hmore
    generalize hr' : s'.rest = r' at hmore hnil
    cases hmore with
    | nil => exact Scanner.over_of_end lines hlineStart hr hpending h.rising
    | extra row ne blank =>
      exact Scanner.over_of_blank lines hlineStart hends.spent hr blank hpending h.rising
    | cons => simp at hnil
  have hbrackets : s.brackets = [] := by
    by_contra hne
    obtain ⟨ts', b, hrun'⟩ := hover.2 hne
    exact nomatch (hrun.unique hrun').2
  obtain ⟨k, hk, hover⟩ := hover.1 hbrackets
  have hbrackets' : s'.brackets = [] := by
    have := h.even.isEmpty_brackets
    simpa [hbrackets] using this
  obtain ⟨k', hk', hover'⟩ := (Scanner.over_of_end lines'
    (h.even.lineStart.trans hlineStart) hnil (h.even.pending.trans hpending)
    (h.levels ▸ Nesting.rising_levels h.rising)).1 hbrackets'
  rw [h.levels, Nesting.length_levels, hk] at hk'
  obtain rfl : k' = k + N.base.length := by omega
  exact ⟨k, by simp only [Scanner.depth, hk, hpending]; omega, hover, hover'⟩

/-- What the readers do in step: both find tokens that are alike, and are abreast behind them. -/
structure Step (F : Facing) (N : Nesting) (lines' : Array (List Char)) (s s' : Scanner) (tok : Token)
    (u : Scanner) (tok' : Token) (u' : Scanner) : Prop where
  found : Found lines' s' (.token tok') u'
  alike : tok.Alike F.vantage tok'
  abreast : F.Abreast N u u'
  kind : tok.kind ≠ .endMarker
  depth : u.depth = s.depth + opening tok
  layout : u.lineStart = true → u.brackets = [] → tok.isLayout = true

/-- The readers are abreast at the beginning of a line, unless only levels are left to be closed in
    both texts. -/
theorem Abreast.over_or_readLineStart (lines' : Array (List Char)) {M : F.Margins} {P : Nat → Prop}
    (hP : Deepens M N P) {ts : List Token} (h : F.Abreast N s s')
    (hstart : s.readLineStart = .ok (t, blank)) (hrun : Run lines s ts none)
    (hbegins : s.lineStart = true → s.brackets = [] → Begins P true ts)
    (hroom : N.base = [] ∨ (s.lineStart = true → 0 < t.pending → t.indents.length < maxIndents)) :
    (∃ k : Nat, s.depth = k ∧ Over lines s k ∧ Over lines' s' (k + N.base.length))
    ∨ ∃ t', s'.readLineStart = .ok (t', blank) ∧ F.Abreast N t t' := by
  by_cases hend : s.lineStart = true ∧ s'.rest = []
  · exact .inl (h.over hend.1 hend.2 hrun)
  · exact .inr (h.readLineStart hP hstart (fun hlineStart hnil => hend ⟨hlineStart, hnil⟩) hrun
      hbegins hroom)

/-- A layout token that is handed out by both readers in a line. -/
theorem Abreast.step_layout {kind : TokenKind} {pending : Int} {t t' : Scanner}
    (h : F.Abreast N t t') (hlineStart : t.lineStart = false)
    (hfound : Found lines' s' (.token (Scanner.layout kind t')) { t' with pending })
    (hkind : kind = .indent ∨ kind = .dedent)
    (hdepth : Scanner.depth { t with pending } = s.depth + opening (Scanner.layout kind t))
    (hlevel : 0 ≤ Scanner.depth { t with pending }) :
    Step F N lines' s s' (Scanner.layout kind t) { t with pending } (Scanner.layout kind t')
      { t' with pending } where
  found := hfound
  alike := Token.alike_layout (by rcases hkind with rfl | rfl <;> rfl) rfl rfl
  abreast := {
    even := ⟨h.even.lineStart, rfl, h.even.brackets⟩
    levels := h.levels
    rising := h.rising
    level := hlevel
    ended := h.ended
    ended' := h.ended'
    place := .inr ⟨hlineStart, (h.inLine hlineStart).imp
      fun _ ⟨_, _, _, _, h⟩ => ⟨_, _, _, _, { h with }⟩⟩ }
  kind := by rcases hkind with rfl | rfl <;> exact nofun
  depth := hdepth
  layout h := absurd (hlineStart.symm.trans h) (by decide)

/-- Both readers close a level. -/
theorem Abreast.step_dedent (h : F.Abreast N t t') (hstart : s.readLineStart = .ok (t, blank))
    (hstart' : s'.readLineStart = .ok (t', blank)) (hpending : t.pending < 0) :
    ∃ u', Step F N lines' s s' (Scanner.layout .dedent t) { t with pending := t.pending + 1 }
      (Scanner.layout .dedent t') u' := by
  have hfound := @Found.dedent lines' s' t' blank hstart' (h.even.pending ▸ hpending)
  rw [h.even.pending] at hfound
  refine ⟨_, h.step_layout (Scanner.starts_readLineStart hstart).lineStart hfound (.inr rfl) ?_ ?_⟩
  · rw [← Scanner.depth_readLineStart hstart]
    simp only [Scanner.depth, opening, Scanner.layout]
    omega
  · have := List.length_pos_iff.2 h.rising.ne_nil
    simp only [Scanner.depth]
    omega

/-- Both readers open a level. -/
theorem Abreast.step_indent (h : F.Abreast N t t') (hstart : s.readLineStart = .ok (t, blank))
    (hstart' : s'.readLineStart = .ok (t', blank)) (hpending : 0 < t.pending) :
    ∃ u', Step F N lines' s s' (Scanner.layout .indent t) { t with pending := t.pending - 1 }
      (Scanner.layout .indent t') u' := by
  have hfound := @Found.indent lines' s' t' blank hstart' (h.even.pending ▸ hpending)
  rw [h.even.pending] at hfound
  refine ⟨_, h.step_layout (Scanner.starts_readLineStart hstart).lineStart hfound (.inl rfl) ?_ ?_⟩
  · rw [← Scanner.depth_readLineStart hstart]
    simp only [Scanner.depth, opening, Scanner.layout]
    omega
  · have hlevel := h.level
    simp only [Scanner.depth] at hlevel ⊢
    omega

/-- A line that opens a level has room for one more in the second text. -/
theorem Abreast.room_of_indent (h : F.Abreast N s s') (hstart : s.readLineStart = .ok (t, blank))
    (hlineStart : s.lineStart = true) (hroom : s.depth + 2 < maxIndents) :
    t.indents.length < maxIndents := by
  have hpending := (h.place.resolve_right fun hin =>
    absurd (hlineStart.symm.trans hin.1) (by decide)).2.1
  have hone := Scanner.pending_readLineStart hlineStart hpending hstart
  rw [← Scanner.depth_readLineStart hstart, Scanner.depth] at hroom
  omega

/-- The readers are abreast behind what has been read of a line, if the levels are the same. -/
theorem Abreast.behind {u' : Scanner} (h : F.Abreast N t t') (heven : Scanner.Even u u')
    (hindents : u.indents = t.indents) (hindents' : u'.indents = t'.indents)
    (hpending : u.pending = t.pending) (hrest : u.rest <:+ t.rest) (hrest' : u'.rest <:+ t'.rest)
    (hplace : (u.lineStart = true ∧ u.pending = 0 ∧ F.AtEnd u u')
      ∨ (u.lineStart = false ∧ ∃ pa pb c cs cs', F.InLine pa pb c cs cs' u u')) :
    F.Abreast N u u' where
  even := heven
  levels := by rw [hindents, hindents']; exact h.levels
  rising := hindents ▸ h.rising
  level := by
    have hlevel := h.level
    rwa [Scanner.depth, ← hindents, ← hpending] at hlevel
  ended := h.ended.of_suffix hrest
  ended' := h.ended'.of_suffix hrest'
  place := hplace

/-- Both readers find the same piece in a line. -/
theorem Abreast.alongside (lines lines' : Array (List Char)) (blank : Bool)
    (h : F.Abreast N t t') (hlineStart : t.lineStart = false)
    (hexact : ∀ tok, (t.readPiece lines blank (t.rest.length + 1)).1 = .token tok → F.Exact tok) :
    F.Alongside (t.readPiece lines blank (t.rest.length + 1))
      (t'.readPiece lines' blank (t'.rest.length + 1)) := by
  obtain ⟨pa, pb, c, cs, cs', hin⟩ := h.inLine hlineStart
  exact readPiece_alongside lines lines' blank _ h.even hin.behindBlanks (Nat.lt_succ_self _)
    (Nat.lt_succ_self _) hexact

/-- Both readers find a token in a line. -/
theorem Abreast.step_piece {tok : Token} (h : F.Abreast N t t')
    (hstart : s.readLineStart = .ok (t, blank)) (hstart' : s'.readLineStart = .ok (t', blank))
    (hpending : t.pending = 0)
    (hread : t.readPiece lines blank (t.rest.length + 1) = (.token tok, u)) (hexact : F.Exact tok) :
    ∃ tok' u', Step F N lines' s s' tok u tok' u' := by
  have hlineStart := (Scanner.starts_readLineStart hstart).lineStart
  have halong := h.alongside lines lines' blank hlineStart
    (by rw [hread]; rintro _ ⟨⟩; exact hexact)
  have hyields := Scanner.readPiece_fits lines blank _ h.ended (Nat.lt_succ_self t.rest.length)
  have hyields' := Scanner.readPiece_fits lines' blank _ h.ended' (Nat.lt_succ_self t'.rest.length)
  rw [hread] at halong hyields
  generalize hread' : t'.readPiece lines' blank (t'.rest.length + 1) = x' at halong hyields'
  have henter := Scanner.Moves.enter t false
  have henter' := Scanner.Moves.enter t' false
  have hindents : u.indents = t.indents := hyields.indents.trans henter.indents
  have hkept : u.pending = t.pending := hyields.pending.trans henter.pending
  have hdepth : u.depth = s.depth + opening tok := by
    have hnone : opening tok = 0 := by
      have := hyields.kind
      unfold opening
      split <;> simp_all
    rw [hnone, Int.add_zero, ← Scanner.depth_readLineStart hstart, Scanner.depth, Scanner.depth,
      hindents, hkept]
  have hpending' : t'.pending = 0 := h.even.pending.trans hpending
  -- Behind a newline a new line starts; behind any other token both are still in the same line.
  cases halong with
  | newline kind alike ends even =>
    exact ⟨_, _, {
      found := .piece hstart' hpending' hread' (by rintro ⟨⟩)
      alike := alike
      abreast := h.behind even hindents (hyields'.indents.trans henter'.indents) hkept
        (hyields.rest.trans henter.rest) (hyields'.rest.trans henter'.rest)
        (.inl ⟨(hyields.newline kind).1, hkept.trans hpending, ends⟩)
      kind := by simp [kind]
      depth := hdepth
      layout := fun _ _ => by simp [Token.isLayout, kind] }⟩
  | solid solid alike inLine even =>
    have hlineStart' : u.lineStart = false :=
      (hyields.solid solid).trans (henter.lineStart.trans hlineStart)
    exact ⟨_, _, {
      found := .piece hstart' hpending' hread' (by rintro ⟨⟩)
      alike := alike
      abreast := h.behind even hindents (hyields'.indents.trans henter'.indents) hkept
        (hyields.rest.trans henter.rest) (hyields'.rest.trans henter'.rest)
        (.inr ⟨hlineStart', _, _, _, _, _, inLine⟩)
      kind := by
        rintro hkind
        simp [Token.isLayout, hkind] at solid
      depth := hdepth
      layout := fun h _ => absurd (hlineStart'.symm.trans h) (by decide) }⟩

/-- Both readers find nothing in a line, and are abreast at its end. -/
theorem Abreast.skip (lines' : Array (List Char)) (h : F.Abreast N t t')
    (hlineStart : t.lineStart = false) (hpending : t.pending = 0)
    (hread : t.readPiece lines blank (t.rest.length + 1) = (.nothing, u)) :
    ∃ u', t'.readPiece lines' blank (t'.rest.length + 1) = (.nothing, u') ∧ F.Abreast N u u'
      ∧ u.depth = t.depth ∧ u.brackets = t.brackets := by
  have halong := h.alongside lines lines' blank hlineStart (by rw [hread]; rintro _ ⟨⟩)
  have hfits := Scanner.readPiece_fits lines blank _ h.ended (Nat.lt_succ_self t.rest.length)
  have hfits' := Scanner.readPiece_fits lines' blank _ h.ended' (Nat.lt_succ_self t'.rest.length)
  rw [hread] at halong hfits
  generalize t'.readPiece lines' blank (t'.rest.length + 1) = x' at halong hfits'
  have henter := Scanner.Moves.enter t false
  have henter' := Scanner.Moves.enter t' false
  cases halong with
  | @nothing _ u' ends even =>
    have hskips : Scanner.Skips (t.enter false) u := hfits
    have hskips' : Scanner.Skips (t'.enter false) u' := hfits'
    have hindents : u.indents = t.indents := hskips.indents.trans henter.indents
    have hkept : u.pending = t.pending := hskips.pending.trans henter.pending
    exact ⟨u', rfl,
      h.behind even hindents (hskips'.indents.trans henter'.indents) hkept
        (hskips.rest.trans henter.rest) (hskips'.rest.trans henter'.rest)
        (.inl ⟨hskips.lineStart, hkept.trans hpending, ends⟩),
      by rw [Scanner.depth, Scanner.depth, hindents, hkept], hskips.brackets.trans henter.brackets⟩

/-- Nothing is found only in a line that has been read from its beginning, or within brackets. -/
theorem lineStart_of_nothing (hstart : s.readLineStart = .ok (t, blank))
    (hread : t.readPiece lines blank (t.rest.length + 1) = (.nothing, u)) (hnil : s.brackets = []) :
    s.lineStart = true := by
  by_contra hlineStart
  obtain ⟨rfl, rfl⟩ := Prod.mk.inj (Except.ok.inj
    ((Scanner.readLineStart_of_not (by simpa using hlineStart)).symm.trans hstart))
  rcases Scanner.readPiece_nothing false _ (Nat.lt_succ_self _) (by rw [hread]) with hblank | hne
  · cases hblank
  · exact hne hnil

/-- What the first reader finds the second one finds as well, unless only levels are left to be
    closed in both texts. -/
theorem found_step (lines' : Array (List Char)) {M : F.Margins} {P : Nat → Prop}
    (hP : Deepens M N P) {p : Piece} (h : Found lines s p u) : ∀ {tok : Token} {ts : List Token} {s' : Scanner}, p = .token tok →
    Run lines s ts none → F.Abreast N s s' →
    (s.lineStart = true → s.brackets = [] → Begins P true ts) → F.Exact tok →
    (N.base = [] ∨ (tok.kind = .indent → s.depth + 2 < maxIndents)) →
    (∃ k : Nat, s.depth = k ∧ Over lines s k ∧ Over lines' s' (k + N.base.length))
    ∨ ∃ tok' u', Step F N lines' s s' tok u tok' u' := by
  -- The induction is on the lines that are skipped before the token.
  induction h with
  | stuck start => rintro _ _ _ ⟨⟩
  | dedent start pending =>
    rintro _ ts s' ⟨⟩ hrun habreast hbegins - -
    rcases habreast.over_or_readLineStart lines' hP start hrun hbegins (.inr fun _ h => by omega)
      with hover | ⟨t', hstart', habreast'⟩
    · exact .inl hover
    · exact .inr ⟨_, habreast'.step_dedent start hstart' pending⟩
  | indent start pending =>
    rintro _ ts s' ⟨⟩ hrun habreast hbegins - hroom
    rcases habreast.over_or_readLineStart lines' hP start hrun hbegins
      (hroom.imp_right fun hroom hlineStart _ =>
        habreast.room_of_indent start hlineStart (hroom rfl)) with hover | ⟨t', hstart', habreast'⟩
    · exact .inl hover
    · exact .inr ⟨_, habreast'.step_indent start hstart' pending⟩
  | piece start pending read something =>
    rintro tok ts s' rfl hrun habreast hbegins hexact -
    rcases habreast.over_or_readLineStart lines' hP start hrun hbegins (.inr fun _ h => by omega)
      with hover | ⟨t', hstart', habreast'⟩
    · exact .inl hover
    · exact .inr (habreast'.step_piece start hstart' pending read hexact)
  | @skip s t u v blank p start pending read more ih =>
    rintro tok ts s' rfl hrun habreast hbegins hexact hroom
    rcases habreast.over_or_readLineStart lines' hP start hrun hbegins (.inr fun _ h => by omega)
      with hover | ⟨t', hstart', habreast'⟩
    · exact .inl hover
    have hstarts := Scanner.starts_readLineStart start
    obtain ⟨u', hread', hnext, hlevel, hbrackets⟩ :=
      habreast'.skip lines' hstarts.lineStart pending read
    have hdepth : u.depth = s.depth := hlevel.trans (Scanner.depth_readLineStart start)
    have hbegins' : u.lineStart = true → u.brackets = [] → Begins P true ts := by
      intro _ hnil
      have hnil : s.brackets = [] := hstarts.brackets.symm.trans (hbrackets.symm.trans hnil)
      exact hbegins (lineStart_of_nothing start read hnil) hnil
    have hskip : ∀ {p v}, Found lines' u' p v → Found lines' s' p v :=
      fun h => .skip hstart' (habreast'.even.pending.trans pending) hread' h
    rcases ih rfl (hrun.behind_skip start pending read) hnext hbegins' hexact (hdepth ▸ hroom)
      with ⟨k, hk, hover, hover'⟩ | ⟨tok', v', hstep⟩
    · exact .inl ⟨k, hdepth ▸ hk, hover.congr fun h => .skip start pending read h,
        hover'.congr hskip⟩
    · exact .inr ⟨tok', v', { hstep with
        found := hskip hstep.found
        depth := hdepth ▸ hstep.depth }⟩

/-- The tokens of both texts are in step, if the lines that begin logical lines are indented
    accordingly, strings over several lines are the same, and there is room for one level more. -/
theorem run_inStep (lines' : Array (List Char)) {M : F.Margins} {P : Nat → Prop} (hP : Deepens M N P) {ts : List Token}
    {b : Option Break} (h : Run lines s ts b) : ∀ {s' : Scanner} {fresh : Bool}, b = none →
    F.Abreast N s s' → Begins P fresh ts →
    (s.lineStart = true → s.brackets = [] → fresh = true) → (∀ t ∈ ts, F.Exact t) →
    (N.base = [] ∨ ∀ k, s.depth + ((ts.take k).map opening).sum + 1 < maxIndents) →
    ∃ ts', Run lines' s' ts' none ∧ InStep F.vantage N s.depth ts ts' := by
  have hover : ∀ {s s' : Scanner} {ts : List Token}, Run lines s ts none →
      (∃ k : Nat, s.depth = k ∧ Over lines s k ∧ Over lines' s' (k + N.base.length)) →
      ∃ ts', Run lines' s' ts' none ∧ InStep F.vantage N s.depth ts ts' := by
    rintro s s' ts hrun ⟨k, hk, hover, hover'⟩
    rw [hk]
    exact hover.inStep hover' hrun
  have hroom : ∀ {d : Int} {t : Token} {ts : List Token},
      (N.base = [] ∨ ∀ k, d + (((t :: ts).take k).map opening).sum + 1 < maxIndents) →
      (N.base = [] ∨ (t.kind = .indent → d + 2 < maxIndents)) := by
    refine fun h => h.imp_right fun h hkind => ?_
    have := h 1
    simp only [List.take_succ_cons, List.take_zero, List.map_cons, List.map_nil, opening, hkind,
      List.sum_cons, List.sum_nil] at this
    omega
  -- The induction is on the run that is known; the other one is built step by step beside it.
  induction h with
  | @ends s u t found kind =>
    intro s' fresh _ habreast hbegins hfresh hexact hdepth
    have hrun : Run lines s [t] none := .ends found kind
    rcases found_step lines' hP found rfl hrun habreast
      (fun h hnil => hfresh h hnil ▸ hbegins) (hexact t List.mem_cons_self) (hroom hdepth) with hend | ⟨tok', u', hstep⟩
    · exact hover hrun hend
    · exact absurd kind hstep.kind
  | @more s u t ts b found kind others ih =>
    rintro s' fresh rfl habreast hbegins hfresh hexact hdepth
    have hrun : Run lines s (t :: ts) none := .more found kind others
    rcases found_step lines' hP found rfl hrun habreast
      (fun h hnil => hfresh h hnil ▸ hbegins) (hexact t List.mem_cons_self) (hroom hdepth) with hend | ⟨t', u', hstep⟩
    · exact hover hrun hend
    obtain ⟨ts', hrun', hin⟩ := ih rfl hstep.abreast hbegins.2 hstep.layout
      (fun t ht => hexact t (List.mem_cons_of_mem _ ht)) (hdepth.imp_right fun h k => by
        have := h (k + 1)
        simp only [List.take_succ_cons, List.map_cons, List.sum_cons] at this
        rw [hstep.depth]
        omega)
    have hkind : t'.kind ≠ .endMarker := hstep.alike.kind ▸ kind
    exact ⟨t' :: ts', .more hstep.found hkind hrun', .more habreast.level kind hstep.alike
      (hstep.depth ▸ hin)⟩
  | stops found => rintro _ _ ⟨⟩

/-! ## A level below the first text -/

/-- Two readers before texts of which the second one has a level that the first one does not. -/
structure Opening (F : Facing) (s s' : Scanner) : Prop where
  even : Scanner.Even s s'
  ends : F.AtEnd s s'
  lineStart : s.lineStart = true
  pending : s.pending = 0
  brackets : s.brackets = []
  indents : s.indents = [(0, 0)]
  indents' : s'.indents = [(0, 0)]
  ended : Scanner.Ended s.rest
  ended' : Scanner.Ended s'.rest

/-- Where a token that is no layout comes first, the texts have not ended. -/
theorem Opening.rest_ne_nil (h : F.Opening s s') {tok : Token} {ts : List Token}
    (hrun : Run lines s (tok :: ts) none) (hsolid : tok.isLayout = false) : s'.rest ≠ [] := by
  intro hnil
  have hover : ∃ k, s.indents.length = k + 1 ∧ Over lines s k := by
    have hmore := h.ends.more
    have hrising : Rising s.indents := ⟨[], h.indents, nofun⟩
    generalize hr : s.rest = r at hmore
    generalize hr' : s'.rest = r' at hmore hnil
    cases hmore with
    | nil => exact (Scanner.over_of_end lines h.lineStart hr h.pending hrising).1 h.brackets
    | extra row ne blank =>
      exact (Scanner.over_of_blank lines h.lineStart h.ends.spent hr blank h.pending hrising).1
        h.brackets
    | cons => simp at hnil
  obtain ⟨k, -, ds, e, hrun', -, hds, he, -⟩ := hover
  have heq := (hrun.unique hrun').1
  rcases ds with _ | ⟨d, ds⟩
  · obtain ⟨rfl, -⟩ := List.cons.inj heq
    simp [Token.isLayout, he] at hsolid
  · obtain ⟨rfl, -⟩ := List.cons.inj heq
    simp [Token.isLayout, (hds _ List.mem_cons_self).1] at hsolid

theorem indent_flat {wide narrow : Nat} (hindents : s.indents = [(0, 0)])
    (h : s.indent wide narrow = .ok t) (hpending : t.pending = s.pending) :
    wide = 0 ∧ narrow = 0 ∧ t = s := by
  rw [Scanner.indent, hindents] at h
  dsimp only at h
  split_ifs at h with hwide hnarrow hlt hdeep
  · obtain rfl := Except.ok.inj h
    exact ⟨by simpa using hwide, by simpa using hnarrow, rfl⟩
  · obtain rfl := Except.ok.inj h
    dsimp only at hpending
    omega
  · simp only [beq_iff_eq] at hwide
    omega

theorem indent_opening (hbase : N.base = [(0, 0)]) (hindents : s.indents = [(0, 0)]) :
    s.indent (N.deepen (0, 0)).1 (N.deepen (0, 0)).2 =
      .ok { s with indents := N.levels [(0, 0)], pending := s.pending + 1 } := by
  obtain ⟨hnil, -⟩ | ⟨-, hwide, hnarrow⟩ := N.valid
  · rw [hbase] at hnil
    exact nomatch hnil
  have hdeepen : N.deepen (0, 0) = N.deeper := by simp [Nesting.deepen]
  rw [hdeepen, Scanner.indent, hindents]
  simp only
  rw [if_neg (by simpa using hwide.ne'), if_pos hwide, if_neg (by decide), if_neg (by omega)]
  simp [Nesting.levels, hdeepen, hbase]

/-- At a line that counts the second reader opens its level, and is abreast of the first one when
    that has been handed out. -/
theorem Opening.indent {M : F.Margins} {P : Nat → Prop} (hP : Deepens M N P)
    (hbase : N.base = [(0, 0)]) (h : F.Opening s s') {ts : List Token} (hne : s'.rest ≠ [])
    (hrun : Run lines s ts none) (hbegins : Begins P true ts)
    (hstart : s.readLineStart = .ok (t, false)) (hpending : t.pending = 0) :
    ∃ t', s'.readLineStart = .ok (t', false) ∧ 0 < t'.pending ∧ t.depth = 0
      ∧ F.Abreast N t { t' with pending := t'.pending - 1 } := by
  obtain ⟨z, z', m, m', pa, pb, c, cs, cs', hin, heven, hz, hindents, hindents', hzpending,
    hzbrackets, hsuffix, hsuffix', hmargin, hblank, hskip, hcount⟩ :=
    h.ends.readLineStart M h.even h.lineStart hne hstart
  obtain ⟨hindent, hafter, hstart'⟩ := hcount rfl h.brackets
  obtain ⟨hwide, hnarrow, rfl⟩ := indent_flat (hindents.trans h.indents) hindent
    (hpending.trans (hzpending.trans h.pending).symm)
  have hcounts : P t.line := (hrun.congr fun hfound => hfound.behind_start hstart).begins rfl hz
    hin.spent hmargin hblank.symm (by rw [hin.rest]; simp) hbegins
  have hdepth : m.depth = (0, 0) := Prod.ext hwide hnarrow
  rw [hP _ _ _ hcounts hafter, hdepth, indent_opening hbase (hindents'.trans h.indents')] at hstart'
  have hzero' : z'.pending = 0 := heven.pending.trans hpending
  have hlevel : t.depth = 0 := by
    rw [Scanner.depth, hindents.trans h.indents, hpending]
    rfl
  exact ⟨_, hstart', by dsimp only; omega, hlevel,
    { even := ⟨heven.lineStart, by dsimp only; omega, heven.brackets⟩
      levels := by rw [hindents.trans h.indents]
      rising := ⟨[], hindents.trans h.indents, by simp⟩
      level := hlevel.ge
      ended := h.ended.of_suffix hsuffix
      ended' := h.ended'.of_suffix hsuffix'
      place := .inr ⟨hz, pa, pb, c, cs, cs', { hin with }⟩ }⟩

/-- In a line that does not count there is no token. -/
theorem Opening.reads_nothing (lines : Array (List Char)) (M : F.Margins) (h : F.Opening s s')
    (hne : s'.rest ≠ []) (hstart : s.readLineStart = .ok (t, true)) :
    (t.readPiece lines true (t.rest.length + 1)).1 = .nothing := by
  obtain ⟨z, z', m, m', pa, pb, c, cs, cs', hin, heven, hz, hindents, hindents', hzpending,
    hzbrackets, hsuffix, hsuffix', hmargin, hblank, hskip, hcount⟩ :=
    h.ends.readLineStart M h.even h.lineStart hne hstart
  obtain ⟨rfl, -⟩ := hskip (.inl rfl)
  obtain ⟨y, more, hline, hclean⟩ :=
    (h.ended.of_suffix hsuffix).exists_line (by rw [hin.rest]; simp)
  rw [Scanner.readPiece_blank lines t.rest.length hin.spent hline hclean hblank.symm]

/-- A line that does not count leaves the second reader before its level. -/
theorem Opening.skip (lines' : Array (List Char)) (M : F.Margins) (h : F.Opening s s')
    (hne : s'.rest ≠ []) (hstart : s.readLineStart = .ok (t, true)) (hpending : t.pending = 0)
    (hread : t.readPiece lines true (t.rest.length + 1) = (.nothing, u)) :
    ∃ t' u', s'.readLineStart = .ok (t', true) ∧ t'.pending = 0
      ∧ t'.readPiece lines' true (t'.rest.length + 1) = (.nothing, u') ∧ F.Opening u u' := by
  obtain ⟨z, z', m, m', pa, pb, c, cs, cs', hin, heven, hz, hindents, hindents', hzpending,
    hzbrackets, hsuffix, hsuffix', hmargin, hblank, hskip, hcount⟩ :=
    h.ends.readLineStart M h.even h.lineStart hne hstart
  obtain ⟨rfl, hstart'⟩ := hskip (.inl rfl)
  have hended := h.ended.of_suffix hsuffix
  have hended' := h.ended'.of_suffix hsuffix'
  have halong := readPiece_alongside lines lines' true (t.rest.length + 1) heven
    hin.behindBlanks (Nat.lt_succ_self _) (Nat.lt_succ_self z'.rest.length)
    (by rw [hread]; rintro _ ⟨⟩)
  have hfits := Scanner.readPiece_fits lines true _ hended (Nat.lt_succ_self t.rest.length)
  have hfits' := Scanner.readPiece_fits lines' true _ hended' (Nat.lt_succ_self z'.rest.length)
  rw [hread] at halong hfits
  generalize hread' : z'.readPiece lines' true (z'.rest.length + 1) = x' at halong hfits'
  have henter := Scanner.Moves.enter t false
  have henter' := Scanner.Moves.enter z' false
  cases halong with
  | @nothing _ u' ends even =>
    have hskips : Scanner.Skips (t.enter false) u := hfits
    have hskips' : Scanner.Skips (z'.enter false) u' := hfits'
    exact ⟨z', u', hstart', heven.pending.trans hpending, hread',
      { even := even
        ends := ends
        lineStart := hskips.lineStart
        pending := hskips.pending.trans (henter.pending.trans hpending)
        brackets := hskips.brackets.trans (henter.brackets.trans (hzbrackets.trans h.brackets))
        indents := hskips.indents.trans (henter.indents.trans (hindents.trans h.indents))
        indents' := hskips'.indents.trans (henter'.indents.trans (hindents'.trans h.indents'))
        ended := hended.of_suffix (hskips.rest.trans henter.rest)
        ended' := hended'.of_suffix (hskips'.rest.trans henter'.rest) }⟩

/-- If the first text begins with a token that is no layout, the second one opens its level before
    that, and then the tokens are in step. -/
theorem run_opening (lines' : Array (List Char)) {M : F.Margins} {P : Nat → Prop}
    (hP : Deepens M N P) (hbase : N.base = [(0, 0)]) {p : Piece} (h : Found lines s p u) :
    ∀ {tok : Token} {ts : List Token} {s' : Scanner}, p = .token tok → tok.isLayout = false →
    Run lines s (tok :: ts) none → F.Opening s s' → Begins P true (tok :: ts) →
    (∀ t ∈ tok :: ts, F.Exact t) →
    (∀ k, (((tok :: ts).take k).map opening).sum + 1 < (maxIndents : Int)) →
    ∃ d ts', Run lines' s' (d :: ts') none ∧ d.kind = .indent
      ∧ InStep F.vantage N 0 (tok :: ts) ts' := by
  -- The induction is on the lines that are skipped before the token.
  induction h with
  | stuck start => rintro _ _ _ ⟨⟩
  | dedent start pending | indent start pending => rintro _ ts s' ⟨⟩ hsolid; cases hsolid
  | @piece s t u blank p start pending read something =>
    rintro tok ts s' rfl hsolid hrun hopening hbegins hexact hroom
    have hne := hopening.rest_ne_nil hrun hsolid
    cases blank with
    | true =>
      have hnothing := hopening.reads_nothing lines M hne start
      rw [read] at hnothing
      cases hnothing
    | false =>
      obtain ⟨t', hstart', hpending', hlevel, habreast⟩ :=
        hopening.indent hP hbase hne hrun hbegins start pending
      have hfound := @Found.indent lines' s' t' false hstart' hpending'
      obtain ⟨ts', hrun', hin⟩ := run_inStep lines' hP
        (hrun.congr fun hfound => hfound.behind_start start) rfl habreast hbegins (fun _ _ => rfl)
        hexact (.inr fun k => by rw [hlevel, Int.zero_add]; exact hroom k)
      exact ⟨_, ts', .more hfound (by rintro ⟨⟩) hrun', rfl, hlevel ▸ hin⟩
  | @skip s t u v blank p start pending read more ih =>
    rintro tok ts s' rfl hsolid hrun hopening hbegins hexact hroom
    have hne := hopening.rest_ne_nil hrun hsolid
    cases blank with
    | false =>
      have hbrackets := (Scanner.starts_readLineStart start).brackets.trans hopening.brackets
      rcases Scanner.readPiece_nothing false _ (Nat.lt_succ_self _) (by rw [read]) with hblank | hnil
      · cases hblank
      · exact absurd hbrackets hnil
    | true =>
      obtain ⟨t', u', hstart', hpending', hread', hnext⟩ :=
        hopening.skip lines' M hne start pending read
      obtain ⟨d, ts', hrun', hd, hin⟩ := ih rfl hsolid (hrun.behind_skip start pending read) hnext
        hbegins hexact hroom
      exact ⟨d, ts', hrun'.congr fun h => .skip hstart' hpending' hread' h, hd, hin⟩

end Facing

end Graft.Syntax
