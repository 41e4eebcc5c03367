import Graft.Proofs.Lexer.Margins

set_option autoImplicit false

/-! # What comes next

A line that counts for something gives a token that begins in it.  Behind the last line the levels
that are open are closed, and the text ends. -/

namespace Graft.Syntax

open Text (isIndent)

namespace Scanner

variable {lines : Array (List Char)} {s t u : Scanner} {c : Char} {rest : List Char}

/-! ## Solid pieces -/

/-- A token that is no layout and begins in a line, or a break. -/
def Piece.SolidIn (line : Nat) : Piece → Prop
  | .token t => t.isLayout = false ∧ t.line = line
  | .broken _ => True
  | .nothing => False

theorem readName_solidIn (s : Scanner) : (s.readName lines).1.SolidIn s.line := by
  unfold readName
  extract_lets text stop kind
  split
  · trivial
  · refine ⟨?_, takeMany_line s _⟩
    have hkind : kind = .keyword ∨ kind = .name := ite_eq_or_eq _ _ _
    rcases hkind with hkind | hkind <;> rw [Token.isLayout, token, hkind]

theorem readNumber_solidIn (s : Scanner) : (s.readNumber lines).1.SolidIn s.line := by
  unfold readNumber
  split
  · exact ⟨rfl, takeMany_line s _⟩
  · trivial
  · trivial

theorem readQuoted_solidIn (s : Scanner) (before : Nat) :
    (s.readQuoted lines before).1.SolidIn s.line := by
  rw [readQuoted_eq lines s before rfl rfl]
  unfold stringPiece
  split
  · exact ⟨rfl, rfl⟩
  · trivial

theorem readOperator_solidIn (s : Scanner) (c : Char) :
    (s.readOperator lines c).1.SolidIn s.line := by
  have hline := takeMany_line s (operatorLength s.rest)
  unfold readOperator
  extract_lets n stop text bad
  split_ifs
  · exact ⟨rfl, hline⟩
  · trivial
  · exact ⟨rfl, hline⟩
  · split
    · trivial
    · split_ifs
      · exact ⟨rfl, hline⟩
      · trivial
      · trivial
  · trivial
  · exact ⟨rfl, hline⟩

/-- A piece is solid if it begins neither with a line end nor with a line continuation. -/
theorem pieceAt_solidIn {again : Scanner → Piece × Scanner} (blank : Bool) (hrest : s.rest = c :: rest)
    (hend : c ≠ '\n') (hback : c ≠ '\\') : (s.pieceAt lines blank again).1.SolidIn s.line := by
  unfold pieceAt
  have hend' : (c == '\n') = false := by simpa using hend
  have hback' : (c == '\\') = false := by simpa using hback
  simp only [hrest, hend', hback', Bool.false_eq_true, if_false]
  split_ifs
  · split
    · exact readQuoted_solidIn s _
    · exact readName_solidIn s
  · exact readNumber_solidIn s
  · exact readQuoted_solidIn s 0
  · exact readOperator_solidIn s c

/-- Nothing is found only in a line that is blank or where a bracket is open. -/
theorem readPiece_nothing (blank : Bool) (n : Nat) (hn : s.rest.length < n)
    (h : (s.readPiece lines blank n).1 = .nothing) : blank = true ∨ s.brackets ≠ [] := by
  induction n generalizing s with
  | zero => exact absurd hn (Nat.not_lt_zero _)
  | succ n ih =>
    have hmoves := (Moves.enter s false).trans (moves_behindBlanks s)
    have hn := hmoves.rest.length_le.trans_lt hn
    rw [readPiece_succ] at h
    rw [← hmoves.brackets]
    generalize s.behindBlanks = s at h hn
    rcases hrest : s.rest with _ | ⟨c, rest⟩
    · simp only [pieceAt, hrest] at h
      split_ifs at h
    -- Nothing is found at the end of a line only, or behind a backslash if nothing is found there.
    by_cases hend : c = '\n'
    · subst hend
      have hname : (NumberScan.nameLike '\n' && !Char.isDigit '\n') = false := by decide
      simp only [pieceAt, hrest, hname, beq_self_eq_true, Bool.false_eq_true, if_false, if_true,
        lineEnd] at h
      split_ifs at h with hblank
      simpa using hblank
    by_cases hback : c = '\\'
    · subst hback
      have hname : (NumberScan.nameLike '\\' && !Char.isDigit '\\') = false := by decide
      have hdigit : (Char.isDigit '\\' || ('\\' == '.' && (rest.head?.map Char.isDigit).getD false)) =
          false := rfl
      have hquote : ('\\' == '"' || '\\' == '\'') = false := by decide
      have hne : ('\\' == '\n') = false := by decide
      simp only [pieceAt, hrest, hname, hne, hdigit, hquote, beq_self_eq_true, Bool.false_eq_true,
        if_false, if_true] at h
      rcases hcont : s.take.continueLine true with e | t <;> rw [hcont] at h
      · exact nomatch h
      have hmoves := (Moves.take s).trans (Moves.continueLine hcont)
      have hle := (Moves.continueLine hcont).rest.length_le
      rw [take_eq hrest] at hle
      rw [hrest, List.length_cons] at hn
      rw [← hmoves.brackets]
      exact ih (hle.trans_lt (Nat.lt_of_succ_lt_succ hn)) h
    · have hsolid := @pieceAt_solidIn lines s c rest (readPiece lines blank n) blank hrest hend hback
      rw [h] at hsolid
      exact hsolid.elim

theorem behindBlanks_of_ends (hspent : s.spent = false) (hends : MarginEnds s.rest)
    (hblank : endsBlank s.rest = false) : s.behindBlanks = s := by
  have hskip : s.skipBlanks = s := by
    unfold skipBlanks
    rcases hrest : s.rest with _ | ⟨c, rest⟩
    · rfl
    · have hc := (hends c (by rw [hrest]; rfl)).1
      have hc : (c == ' ' || c == '\t' || c == '\x0c') = false := hc
      rw [List.takeWhile_cons, hc]
      rfl
  have hcomment : ¬ (s.rest.head? == some '#') = true := by
    intro h
    rcases hrest : s.rest with _ | ⟨c, rest⟩ <;> rw [hrest] at h
    · exact nomatch h
    · obtain rfl : c = '#' := by simpa using h
      rw [hrest] at hblank
      exact nomatch hblank
  unfold behindBlanks
  rw [enter_of_not_spent hspent, hskip, if_neg hcomment]

/-- Behind the margin of a line that counts a piece begins in that line. -/
theorem readPiece_solidIn (blank : Bool) (n : Nat) (hspent : s.spent = false)
    (hends : MarginEnds s.rest) (hblank : endsBlank s.rest = false) (hne : s.rest ≠ []) :
    (s.readPiece lines blank (n + 1)).1.SolidIn s.line := by
  rw [readPiece_succ, behindBlanks_of_ends hspent hends hblank]
  obtain ⟨c, rest, hrest⟩ := List.exists_cons_of_ne_nil hne
  refine pieceAt_solidIn blank hrest ?_ (hends c (by rw [hrest]; rfl)).2
  rintro rfl
  rw [hrest] at hblank
  exact nomatch hblank

/-- Behind the margin of a blank line there is at most a comment. -/
theorem behindBlanks_of_blank {y more : List Char} (hspent : s.spent = false)
    (hrest : s.rest = y ++ '\n' :: more) (hclean : '\n' ∉ y) (hblank : endsBlank s.rest = true) :
    s.behindBlanks = s.takeMany y.length := by
  have hskip : ∀ {c : Char} {rest : List Char}, s.rest = c :: rest → isMargin c = false →
      s.skipBlanks = s := by
    intro c rest hrest hc
    have hc : (c == ' ' || c == '\t' || c == '\x0c') = false := hc
    unfold skipBlanks
    rw [hrest, List.takeWhile_cons, hc]
    rfl
  unfold behindBlanks
  rw [enter_of_not_spent hspent]
  -- The rest of the line is empty, or it is a comment.
  rcases y with _ | ⟨c, y⟩
  · rw [hskip hrest (by decide), hrest]
    rfl
  · obtain rfl : c = '#' := by
      rw [hrest, List.cons_append] at hblank
      unfold endsBlank at hblank
      split at hblank
      · rename_i heq
        exact (List.cons.inj heq).1
      · rename_i heq
        exact absurd (List.mem_cons.2 (.inl (List.cons.inj heq).1.symm)) hclean
      · cases hblank
    have hall : ∀ d ∈ '#' :: y, (d != '\n') = true := fun d hd =>
      bne_iff_ne.2 fun heq => hclean (heq ▸ hd)
    rw [hskip hrest (by decide), if_pos (by rw [hrest]; rfl), hrest, List.takeWhile_append_of_pos hall]
    simp

/-- In a blank line there is nothing. -/
theorem readPiece_blank (lines : Array (List Char)) {y more : List Char} (n : Nat)
    (hspent : s.spent = false) (hrest : s.rest = y ++ '\n' :: more) (hclean : '\n' ∉ y)
    (hblank : endsBlank s.rest = true) : s.readPiece lines true (n + 1) =
      (.nothing, { (s.takeMany y.length).take with lineStart := true }) := by
  have hname : (NumberScan.nameLike '\n' && !Char.isDigit '\n') = false := by decide
  have hat : (s.takeMany y.length).rest = '\n' :: more := by rw [takeMany_rest, hrest, List.drop_left]
  rw [readPiece_succ, behindBlanks_of_blank hspent hrest hclean hblank]
  simp only [pieceAt, hat, hname, beq_self_eq_true, Bool.false_eq_true, if_false, if_true, lineEnd,
    Bool.true_or]

/-! ## Steps in a run -/

theorem Found.behind_start {p : Piece} (h : Found lines s p u)
    (hstart : s.readLineStart = .ok (t, false)) : Found lines t p u := by
  have hagain := readLineStart_of_not (starts_readLineStart hstart).lineStart
  cases h with
  | stuck start => exact nomatch hstart.symm.trans start
  | dedent start pending =>
    obtain ⟨rfl, rfl⟩ := Prod.mk.inj (Except.ok.inj (hstart.symm.trans start))
    exact .dedent hagain pending
  | indent start pending =>
    obtain ⟨rfl, rfl⟩ := Prod.mk.inj (Except.ok.inj (hstart.symm.trans start))
    exact .indent hagain pending
  | piece start pending read something =>
    obtain ⟨rfl, rfl⟩ := Prod.mk.inj (Except.ok.inj (hstart.symm.trans start))
    exact .piece hagain pending read something
  | skip start pending read more =>
    obtain ⟨rfl, rfl⟩ := Prod.mk.inj (Except.ok.inj (hstart.symm.trans start))
    exact .skip hagain pending read more

theorem Found.of_start {p : Piece} (h : Found lines t p u)
    (hstart : s.readLineStart = .ok (t, false)) : Found lines s p u := by
  have hagain := readLineStart_of_not (starts_readLineStart hstart).lineStart
  cases h with
  | stuck start => exact nomatch hagain.symm.trans start
  | dedent start pending =>
    obtain ⟨rfl, rfl⟩ := Prod.mk.inj (Except.ok.inj (hagain.symm.trans start))
    exact .dedent hstart pending
  | indent start pending =>
    obtain ⟨rfl, rfl⟩ := Prod.mk.inj (Except.ok.inj (hagain.symm.trans start))
    exact .indent hstart pending
  | piece start pending read something =>
    obtain ⟨rfl, rfl⟩ := Prod.mk.inj (Except.ok.inj (hagain.symm.trans start))
    exact .piece hstart pending read something
  | skip start pending read more =>
    obtain ⟨rfl, rfl⟩ := Prod.mk.inj (Except.ok.inj (hagain.symm.trans start))
    exact .skip hstart pending read more

/-- A run is the same from another reader that finds the same. -/
theorem Run.congr {s' : Scanner} {ts : List Token} {b : Option Break} (h : Run lines s ts b)
    (hfound : ∀ {p u}, Found lines s p u → Found lines s' p u) : Run lines s' ts b := by
  cases h with
  | ends found kind => exact .ends (hfound found) kind
  | more found kind others => exact .more (hfound found) kind others
  | stops found => exact .stops (hfound found)

/-- The run behind lines that count for nothing. -/
theorem Run.behind_skip {ts : List Token} {b : Option Break} {blank : Bool} (h : Run lines s ts b)
    (start : s.readLineStart = .ok (t, blank)) (pending : t.pending = 0)
    (read : t.readPiece lines blank (t.rest.length + 1) = (.nothing, u)) : Run lines u ts b := by
  refine h.congr fun {p v} hfound => ?_
  cases hfound with
  | stuck start' => exact nomatch start.symm.trans start'
  | dedent start' pending' =>
    obtain ⟨rfl, rfl⟩ := Prod.mk.inj (Except.ok.inj (start.symm.trans start'))
    omega
  | indent start' pending' =>
    obtain ⟨rfl, rfl⟩ := Prod.mk.inj (Except.ok.inj (start.symm.trans start'))
    omega
  | piece start' pending' read' something =>
    obtain ⟨rfl, rfl⟩ := Prod.mk.inj (Except.ok.inj (start.symm.trans start'))
    obtain ⟨rfl, -⟩ := Prod.mk.inj (read.symm.trans read')
    exact absurd rfl something
  | skip start' pending' read' more =>
    obtain ⟨rfl, rfl⟩ := Prod.mk.inj (Except.ok.inj (start.symm.trans start'))
    obtain ⟨-, rfl⟩ := Prod.mk.inj (read.symm.trans read')
    exact more

/-! ## The beginning of a logical line -/

/-- Tokens of which those that begin a logical line stand in lines with a property; the first one
    may begin one or not. -/
def Begins (P : Nat → Prop) : Bool → List Token → Prop
  | _, [] => True
  | fresh, t :: ts => (fresh = true → t.isLayout = false → P t.line) ∧ Begins P t.isLayout ts

/-- The line in which a solid token is about to be found. -/
theorem Run.begins {P : Nat → Prop} {ts : List Token} {b : Option Break} (h : Run lines s ts b)
    (hb : b = none) (hstart : s.lineStart = false) (hspent : s.spent = false)
    (hends : MarginEnds s.rest) (hblank : endsBlank s.rest = false) (hne : s.rest ≠ [])
    (hbegins : Begins P true ts) : P s.line := by
  have hagain := readLineStart_of_not hstart
  have hsolid := @readPiece_solidIn lines s false s.rest.length hspent hends hblank hne
  induction h with
  | @ends s u t found kind =>
    cases found with
    | dedent | indent => exact nomatch kind
    | piece start pending read something =>
      obtain ⟨rfl, rfl⟩ := Prod.mk.inj (Except.ok.inj (hagain.symm.trans start))
      rw [read] at hsolid
      have : t.isLayout = false := hsolid.1
      simp [Token.isLayout, kind] at this
    | skip start pending read more =>
      obtain ⟨rfl, rfl⟩ := Prod.mk.inj (Except.ok.inj (hagain.symm.trans start))
      rw [read] at hsolid
      exact hsolid.elim
  -- Levels are handed out before the line is read on, so that the reader stays where it is.
  | @more s u t ts b found kind others ih =>
    cases found with
    | dedent start pending =>
      obtain ⟨rfl, rfl⟩ := Prod.mk.inj (Except.ok.inj (hagain.symm.trans start))
      exact ih hb hstart hspent hends hblank hne hbegins.2 (readLineStart_of_not hstart) (readPiece_solidIn _ _ hspent hends hblank hne)
    | indent start pending =>
      obtain ⟨rfl, rfl⟩ := Prod.mk.inj (Except.ok.inj (hagain.symm.trans start))
      exact ih hb hstart hspent hends hblank hne hbegins.2 (readLineStart_of_not hstart) (readPiece_solidIn _ _ hspent hends hblank hne)
    | piece start pending read something =>
      obtain ⟨rfl, rfl⟩ := Prod.mk.inj (Except.ok.inj (hagain.symm.trans start))
      rw [read] at hsolid
      have hsolid : t.isLayout = false ∧ t.line = s.line := hsolid
      exact hsolid.2 ▸ hbegins.1 rfl hsolid.1
    | skip start pending read more =>
      obtain ⟨rfl, rfl⟩ := Prod.mk.inj (Except.ok.inj (hagain.symm.trans start))
      rw [read] at hsolid
      exact hsolid.elim
  | stops found => exact nomatch hb

/-! ## The end of the text -/

/-- Nothing is left but to close so many levels. -/
def Over (lines : Array (List Char)) (s : Scanner) (k : Nat) : Prop :=
  ∃ ds e, Run lines s (ds ++ [e]) none ∧ ds.length = k
    ∧ (∀ t ∈ ds, t.kind = .dedent ∧ t.text = "") ∧ e.kind = .endMarker ∧ e.text = ""

theorem Over.congr {s' : Scanner} {k : Nat} (h : Over lines s k)
    (hfound : ∀ {p u}, Found lines s p u → Found lines s' p u) : Over lines s' k := by
  obtain ⟨ds, e, hrun, hrest⟩ := h
  exact ⟨ds, e, hrun.congr hfound, hrest⟩

theorem readPiece_end (blank : Bool) (n : Nat) (hrest : s.rest = []) :
    s.readPiece lines blank (n + 1) =
      if s.brackets.isEmpty then (.token (layout .endMarker s), s) else (.broken .endOfText, s) := by
  have hbehind : s.behindBlanks = s := by
    have henter : s.enter false = s := by simp [enter, hrest]
    have hskip : s.skipBlanks = s := by simp [skipBlanks, hrest, takeMany]
    unfold behindBlanks
    rw [henter, hskip, hrest]
    rfl
  rw [readPiece_succ, hbehind]
  simp only [pieceAt, hrest]

theorem over_of_pending (k : Nat) (hstart : s.lineStart = false) (hrest : s.rest = [])
    (hbrackets : s.brackets = []) (hpending : s.pending = -k) : Over lines s k := by
  induction k generalizing s with
  | zero =>
    have hread := @readPiece_end lines s false s.rest.length hrest
    rw [hbrackets] at hread
    exact ⟨[], _, .ends (.piece (readLineStart_of_not hstart) hpending hread nofun) rfl, rfl, nofun,
      rfl, rfl⟩
  | succ k ih =>
    obtain ⟨ds, e, hrun, hlength, hds, he⟩ := @ih { s with pending := s.pending + 1 } hstart hrest
      hbrackets (by dsimp only; omega)
    have hfound : Found lines s _ _ := .dedent (readLineStart_of_not hstart) (by omega)
    refine ⟨layout .dedent s :: ds, e, .more hfound nofun hrun, by simp [hlength], ?_, he⟩
    intro t ht
    rcases List.mem_cons.1 ht with rfl | ht
    · exact ⟨rfl, rfl⟩
    · exact hds t ht

/-- At the end of the text all open levels are closed, unless a bracket is open. -/
theorem over_of_end (lines : Array (List Char)) (hstart : s.lineStart = true) (hrest : s.rest = []) (hpending : s.pending = 0)
    (hrising : Rising s.indents) :
    (s.brackets = [] → ∃ k, s.indents.length = k + 1 ∧ Over lines s k)
    ∧ (s.brackets ≠ [] → ∃ ts b, Run lines s ts (some b)) := by
  obtain ⟨front, hindents, hpos⟩ := hrising
  have hbegin : s.begin = { s with lineStart := false } := by simp [begin, enter, hrest]
  have hmargin : readMargin (s.begin.rest.length + 1) s.begin {} = .ok (s.begin, {}) :=
    readMargin_stop (by simp [hbegin, hrest, MarginEnds]) _ _
  have hline := readLineStart_eq hstart
  rw [hmargin] at hline
  simp only [Except.bind, hbegin, hrest, endsBlank, Bool.false_or] at hline
  refine ⟨fun hbrackets => ?_, fun hbrackets => ?_⟩
  · simp only [hbrackets, List.isEmpty_nil, Bool.not_true, Bool.false_eq_true, if_false] at hline
    -- At the end the indentation is none, which closes every level but the outermost one.
    have hindent := @indent_outermost { s with lineStart := false } front hindents hpos
    refine ⟨front.length, by simp [hindents], ?_⟩
    have hdepth : Margin.depth {} = (0, 0) := rfl
    rw [hdepth, ← hbrackets, ← hrest, hindent] at hline
    have hclosing := @over_of_pending lines { s with
      lineStart := false, indents := [(0, 0)], pending := s.pending - front.length } front.length rfl
      hrest hbrackets (by simp [hpending])
    exact hclosing.congr fun h => h.of_start hline
  · have hread := @readPiece_end lines s.begin false s.begin.rest.length (by simp [hbegin, hrest])
    have hempty : s.brackets.isEmpty = false := by simpa using hbrackets
    simp only [hempty, Bool.not_false, if_true] at hline
    rw [hbegin] at hread
    dsimp only at hread
    rw [hempty] at hread
    refine ⟨_, _, .stops (.piece (t := { s with lineStart := false }) ?_ hpending hread (by rintro ⟨⟩))⟩
    rw [hline, hrest]

/-- A blank line counts for nothing: what is found behind it is found before it. -/
theorem exists_behind_blank (lines : Array (List Char)) {x y more : List Char}
    (hstart : s.lineStart = true) (hspent : s.spent = true) (hrest : s.rest = x ++ (y ++ '\n' :: more))
    (hx : x.all isMargin = true) (hclean : '\n' ∉ y) (hblank : endsBlank (y ++ '\n' :: more) = true)
    (hpending : s.pending = 0) : ∃ u : Scanner, u.rest = more ∧ u.lineStart = true ∧ u.spent = true
      ∧ Moves s u ∧ ∀ {p v}, Found lines u p v → Found lines s p v := by
  have hclean' : '\n' ∉ x := fun hmem => absurd (List.all_eq_true.1 hx _ hmem) (by decide)
  have hbegin : s.begin.rest = x ++ (y ++ '\n' :: more) := (enter_rest s false).trans hrest
  have hinside : s.begin.spent = false := by simp [begin, enter, hspent, hrest]
  obtain ⟨k, -, -, heq⟩ := readMargin_behind hbegin hx (Nat.lt_succ_self s.begin.rest.length)
  have hmoves := Moves.takeMany s.begin x.length
  have htake := takeMany_eq hinside hbegin hclean'
  have hmargin := heq {}
  have hline := readLineStart_eq hstart
  generalize s.begin.takeMany x.length = z at hmargin hmoves htake
  have hzrest : z.rest = y ++ '\n' :: more := by rw [htake]
  have hzspent : z.spent = false := by rw [htake]; exact hinside
  -- A comment or the end of the line follows, and either ends the margin.
  have hends : MarginEnds z.rest := by
    rw [hzrest]
    rcases y with _ | ⟨c, y⟩
    · rintro d ⟨⟩
      decide
    · rintro d ⟨⟩
      unfold endsBlank at hblank
      split at hblank
      · rename_i heq
        obtain ⟨rfl, -⟩ := List.cons.inj heq
        decide
      · rename_i heq
        obtain ⟨rfl, -⟩ := List.cons.inj heq
        decide
      · cases hblank
  rw [hmargin, readMargin_stop hends] at hline
  simp only [Except.bind, hzrest, hblank, Bool.true_or, if_true] at hline
  have hread := readPiece_blank lines z.rest.length hzspent hzrest hclean (hzrest ▸ hblank)
  have hat : (z.takeMany y.length).rest = '\n' :: more := by rw [takeMany_rest, hzrest, List.drop_left]
  have hmoves' := (hmoves.trans (.takeMany z y.length)).trans (.take _)
  have htake' := take_eq hat
  have henter := Moves.enter s false
  refine ⟨_, ?_, rfl, ?_, ?_, fun h => .skip hline ?_ hread h⟩
  · rw [htake']
  · rw [htake']
    rfl
  · exact ⟨henter.line.trans hmoves'.line, hmoves'.rest.trans henter.rest,
      hmoves'.inset ∘ henter.inset, hstart.symm, hmoves'.indents.trans henter.indents,
      hmoves'.pending.trans henter.pending, hmoves'.brackets.trans henter.brackets⟩
  · exact hmoves.pending.trans (henter.pending.trans hpending)

/-- A blank line at the end counts for nothing. -/
theorem over_of_blank (lines : Array (List Char)) {x : List Char} (hstart : s.lineStart = true) (hspent : s.spent = true)
    (hrest : s.rest = x ++ ['\n']) (hx : x.all isIndent = true) (hpending : s.pending = 0)
    (hrising : Rising s.indents) :
    (s.brackets = [] → ∃ k, s.indents.length = k + 1 ∧ Over lines s k)
    ∧ (s.brackets ≠ [] → ∃ ts b, Run lines s ts (some b)) := by
  obtain ⟨u, hurest, hustart, -, hmoves, hfound⟩ := exists_behind_blank lines (y := []) hstart hspent
    hrest (all_isMargin hx) nofun rfl hpending
  have hover := over_of_end lines hustart hurest (hmoves.pending.trans hpending)
    (hmoves.indents ▸ hrising)
  rw [hmoves.brackets, hmoves.indents] at hover
  refine ⟨fun hbrackets => ?_, fun hbrackets => ?_⟩
  · obtain ⟨k, hk, hover⟩ := hover.1 hbrackets
    exact ⟨k, hk, hover.congr hfound⟩
  · obtain ⟨ts, b, hrun⟩ := hover.2 hbrackets
    exact ⟨ts, b, hrun.congr hfound⟩

end Scanner

end Graft.Syntax
