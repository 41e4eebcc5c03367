import Graft.Proofs.Lexer.Numbers
import Graft.Syntax.Lexer
import Graft.Text.Dedent

set_option autoImplicit false

/-! # How the reader moves

The reader goes forward only: over characters and into the next line.  What it reads on the way
leaves the open levels alone, and a token that it gives begins and ends between where the reader
was and where it is then. -/

namespace Graft.Syntax

theorem drop_length_takeWhile {α : Type} (p : α → Bool) (l : List α) :
    l.drop (l.takeWhile p).length = l.dropWhile p := by
  calc l.drop (l.takeWhile p).length
      = (l.takeWhile p ++ l.dropWhile p).drop (l.takeWhile p).length := by
        rw [List.takeWhile_append_dropWhile]
    _ = l.dropWhile p := List.drop_left

namespace Scanner

variable {s t u : Scanner}

/-- Text that does not begin with a character of a line that could be indented but is not. -/
def BeginsInset (cs : List Char) : Prop :=
  ∀ c, cs.head? = some c → Text.isIndent c = true ∨ c = '\n'

/-- All lines that the reader is still to begin are empty or begin with a blank. -/
def Inset (s : Scanner) : Prop :=
  (s.spent = true ∨ s.column = 0 → BeginsInset s.rest)
  ∧ ∀ p q, s.rest = p ++ '\n' :: q → BeginsInset q

theorem Inset.take (h : s.Inset) : s.take.Inset := by
  rcases hrest : s.rest with _ | ⟨c, rest⟩
  · rwa [Scanner.take, hrest]
  have hahead : ∀ p q, rest = p ++ '\n' :: q → BeginsInset q := fun p q heq =>
    h.2 (c :: p) q (by rw [hrest, heq]; rfl)
  simp only [Scanner.take, hrest]
  refine ⟨fun hbegun => ?_, hahead⟩
  have hc : c = '\n' := by
    rcases hbegun with hspent | hcolumn
    · simpa using hspent
    · have := c.utf8Size_pos
      simp only at hcolumn
      omega
  exact h.2 [] rest (by rw [hrest, hc]; rfl)

theorem Inset.enter (h : s.Inset) (inToken : Bool) : (s.enter inToken).Inset := by
  unfold Scanner.enter
  split
  · rename_i hspent
    rw [Bool.and_eq_true] at hspent
    exact ⟨fun _ => h.1 (.inl hspent.1), h.2⟩
  · exact h

/-- The reader has gone on without a change of the levels, or of what it knows of the line. -/
structure Moves (s t : Scanner) : Prop where
  line : s.line ≤ t.line
  rest : t.rest <:+ s.rest
  inset : s.Inset → t.Inset
  lineStart : t.lineStart = s.lineStart
  indents : t.indents = s.indents
  pending : t.pending = s.pending
  brackets : t.brackets = s.brackets

namespace Moves

theorem refl (s : Scanner) : Moves s s :=
  ⟨le_rfl, List.suffix_rfl, id, rfl, rfl, rfl, rfl⟩

theorem trans (h : Moves s t) (h' : Moves t u) : Moves s u :=
  ⟨h.line.trans h'.line, h'.rest.trans h.rest, h'.inset ∘ h.inset, h'.lineStart.trans h.lineStart,
    h'.indents.trans h.indents, h'.pending.trans h.pending, h'.brackets.trans h.brackets⟩

theorem take (s : Scanner) : Moves s s.take := by
  have hinset := @Inset.take s
  unfold Scanner.take at hinset ⊢
  split
  · exact refl s
  · rename_i c rest hrest
    simp only [hrest] at hinset
    exact ⟨le_rfl, by simp [hrest, List.suffix_cons], hinset, rfl, rfl, rfl, rfl⟩

theorem enter (s : Scanner) (inToken : Bool) : Moves s (s.enter inToken) := by
  have hinset := fun h => @Inset.enter s h inToken
  unfold Scanner.enter at hinset ⊢
  split
  · rename_i hspent
    rw [if_pos hspent] at hinset
    exact ⟨Nat.le_succ _, List.suffix_rfl, hinset, rfl, rfl, rfl, rfl⟩
  · exact refl s

theorem takeMany (s : Scanner) (n : Nat) : Moves s (s.takeMany n) := by
  induction n generalizing s with
  | zero => exact refl s
  | succ n ih => exact (take s).trans (ih s.take)

theorem skipBlanks (s : Scanner) : Moves s s.skipBlanks :=
  takeMany s _

theorem readString (quote : Char) (long : Bool) (n : Nat) (s : Scanner) (run : Nat) :
    Moves s (readString quote long n s run).1 := by
  induction n generalizing s run with
  | zero => exact refl s
  | succ n ih =>
    rw [Scanner.readString]
    have henter := enter s true
    generalize s.enter true = s' at henter
    simp only
    split
    · exact henter
    · rename_i c rest hrest
      by_cases hstop : (c == '\n' && !long) = true
      · rw [if_pos hstop]
        exact henter
      rw [if_neg hstop]
      by_cases hquote : (c == quote) = true
      · rw [if_pos hquote]
        by_cases hclosed : (run + 1 == if long then 3 else 1) = true
        · rw [if_pos hclosed]
          exact henter.trans (take s')
        · rw [if_neg hclosed]
          exact henter.trans ((take s').trans (ih _ _))
      rw [if_neg hquote]
      split_ifs
      · exact henter.trans ((take s').trans ((enter _ true).trans ((take _).trans (ih _ _))))
      · exact henter.trans ((take s').trans (ih _ _))

theorem continueLine {inToken : Bool} (h : s.continueLine inToken = .ok t) : Moves s t := by
  unfold Scanner.continueLine at h
  split at h
  · simp only at h
    split_ifs at h
    obtain rfl := Except.ok.inj h
    exact (take s).trans (enter _ _)
  · exact nomatch h

theorem readMargin (n : Nat) {s : Scanner} {m : Margin} {x : Scanner × Margin}
    (h : Scanner.readMargin n s m = .ok x) : Moves s x.1 := by
  induction n generalizing s m with
  | zero =>
    obtain rfl := Except.ok.inj h
    exact refl s
  | succ n ih =>
    rw [Scanner.readMargin] at h
    split at h
    · exact (take s).trans (ih h)
    · exact (take s).trans (ih h)
    · exact (take s).trans (ih h)
    · rcases hcont : Scanner.continueLine s.take false with e | s'
      · rw [hcont] at h
        exact nomatch h
      · rw [hcont] at h
        exact (take s).trans ((continueLine hcont).trans (ih h))
    · obtain rfl := Except.ok.inj h
      exact refl s

end Moves

theorem readMargin_shorter (n : Nat) {s : Scanner} {m : Margin} {x : Scanner × Margin}
    (h : Scanner.readMargin n s m = .ok x) : x.2 = m ∨ x.1.rest.length < s.rest.length := by
  rcases n with _ | n
  · obtain rfl := Except.ok.inj h
    exact .inl rfl
  rw [Scanner.readMargin] at h
  split at h
  · rename_i rest hrest
    exact .inr (by simpa [Scanner.take, hrest, Nat.lt_succ_iff] using (Moves.readMargin n h).rest.length_le)
  · rename_i rest hrest
    exact .inr (by simpa [Scanner.take, hrest, Nat.lt_succ_iff] using (Moves.readMargin n h).rest.length_le)
  · rename_i rest hrest
    exact .inr (by simpa [Scanner.take, hrest, Nat.lt_succ_iff] using (Moves.readMargin n h).rest.length_le)
  · rename_i rest hrest
    rcases hcont : Scanner.continueLine s.take false with e | s'
    · rw [hcont] at h
      exact nomatch h
    · rw [hcont] at h
      have := ((Moves.continueLine hcont).trans (Moves.readMargin n h)).rest.length_le
      exact .inr (by simpa [Scanner.take, hrest, Nat.lt_succ_iff] using this)
  · obtain rfl := Except.ok.inj h
    exact .inl rfl

/-! ## Indentation -/

/-- An upper bound for the tokens that are still to come. -/
def potential (s : Scanner) : Nat := 2 * s.rest.length + s.indents.length + s.pending.natAbs

theorem indent_close (wide narrow : Nat) {ls : List (Nat × Nat)} {s t : Scanner}
    (h : indent.close wide narrow s ls = .ok t) :
    t.rest = s.rest ∧ t.line = s.line ∧ t.spent = s.spent ∧ t.lineStart = s.lineStart
      ∧ t.brackets = s.brackets ∧ (ls ≠ [] → t.pending ≤ s.pending
        ∧ t.indents.length - t.pending = ls.length - s.pending) := by
  induction ls generalizing s with
  | nil =>
    obtain rfl := Except.ok.inj h
    exact ⟨rfl, rfl, rfl, rfl, rfl, fun h => absurd rfl h⟩
  | cons l outer ih =>
    obtain ⟨w, n⟩ := l
    rw [indent.close] at h
    by_cases hclose : (decide (wide < w) && !outer.isEmpty) = true
    · rw [if_pos hclose] at h
      obtain ⟨hrest, hline, hspent, hstart, hbrackets, hlevels⟩ := ih h
      refine ⟨hrest, hline, hspent, hstart, hbrackets, fun _ => ?_⟩
      have := hlevels (by simp_all)
      simp only [List.length_cons] at this ⊢
      omega
    · rw [if_neg hclose] at h
      split_ifs at h
      obtain rfl := Except.ok.inj h
      exact ⟨rfl, rfl, rfl, rfl, rfl, fun _ => ⟨Int.le_refl _, rfl⟩⟩

/-- The indentation of a line opens one level, closes some, or neither. -/
theorem indent_ok {wide narrow : Nat} (h : s.indent wide narrow = .ok t) :
    t.rest = s.rest ∧ t.line = s.line ∧ t.spent = s.spent ∧ t.lineStart = s.lineStart
      ∧ t.brackets = s.brackets
      ∧ ((0 < wide ∧ t.indents.length = s.indents.length + 1 ∧ t.pending = s.pending + 1)
        ∨ (t.pending ≤ s.pending
          ∧ t.indents.length - t.pending = s.indents.length - s.pending)) := by
  unfold indent at h
  split at h
  · obtain rfl := Except.ok.inj h
    exact ⟨rfl, rfl, rfl, rfl, rfl, .inr ⟨Int.le_refl _, rfl⟩⟩
  · rename_i w n outer hindents
    by_cases heq : (wide == w) = true
    · rw [if_pos heq] at h
      split_ifs at h
      obtain rfl := Except.ok.inj h
      exact ⟨rfl, rfl, rfl, rfl, rfl, .inr ⟨Int.le_refl _, rfl⟩⟩
    rw [if_neg heq] at h
    by_cases hlt : w < wide
    · rw [if_pos hlt] at h
      split_ifs at h
      obtain rfl := Except.ok.inj h
      exact ⟨rfl, rfl, rfl, rfl, rfl, .inl ⟨by omega, by simp, rfl⟩⟩
    · rw [if_neg hlt] at h
      obtain ⟨hrest, hline, hspent, hstart, hbrackets, hlevels⟩ := indent_close wide narrow h
      refine ⟨hrest, hline, hspent, hstart, hbrackets, .inr ?_⟩
      rw [hindents]
      exact hlevels (List.cons_ne_nil _ _)

theorem Inset.indent_close {wide narrow : Nat} {ls : List (Nat × Nat)} (h : s.Inset)
    (hclose : indent.close wide narrow s ls = .ok t) : t.Inset := by
  induction ls generalizing s with
  | nil =>
    obtain rfl := Except.ok.inj hclose
    exact h
  | cons l outer ih =>
    rw [indent.close] at hclose
    by_cases hmore : (decide (wide < l.1) && !outer.isEmpty) = true
    · rw [if_pos hmore] at hclose
      exact ih (s := { s with pending := s.pending - 1 }) h hclose
    · rw [if_neg hmore] at hclose
      split_ifs at hclose
      obtain rfl := Except.ok.inj hclose
      exact h

theorem Inset.indent {wide narrow : Nat} (h : s.Inset) (hindent : s.indent wide narrow = .ok t) :
    t.Inset := by
  unfold Scanner.indent at hindent
  split at hindent
  · obtain rfl := Except.ok.inj hindent
    exact h
  · split_ifs at hindent
    · obtain rfl := Except.ok.inj hindent
      exact h
    · obtain rfl := Except.ok.inj hindent
      exact h
    · exact h.indent_close hindent

/-! ## The start of a line -/

/-- Whether what follows a line's margin is nothing that counts. -/
def endsBlank (rest : List Char) : Bool :=
  match rest with
  | '#' :: _ | '\n' :: _ => true
  | _ => false

/-- The depth of a line by both measures. -/
def Margin.depth (m : Margin) : Nat × Nat :=
  match m.continued with
  | some (k + 1) => (k + 1, k + 1)
  | _ => (m.wide, m.narrow)

/-- The reader in the line that it begins. -/
def begin (s : Scanner) : Scanner := { s.enter false with lineStart := false }

theorem readLineStart_of_not (h : s.lineStart = false) : s.readLineStart = .ok (s, false) := by
  simp [readLineStart, h]

theorem readLineStart_eq (h : s.lineStart = true) :
    s.readLineStart = (readMargin (s.begin.rest.length + 1) s.begin {}).bind fun x =>
      if endsBlank x.1.rest || !x.1.brackets.isEmpty then .ok (x.1, endsBlank x.1.rest)
      else (x.1.indent x.2.depth.1 x.2.depth.2).map (·, false) := by
  unfold readLineStart
  rw [if_pos h]
  change Except.bind _ _ = Except.bind _ _
  congr 1

/-- At the start of a line the margin is read; if something follows that counts and no bracket is
    open, the indentation is compared with the open levels. -/
theorem readLineStart_ok {blank : Bool} (hstart : s.lineStart = true)
    (h : s.readLineStart = .ok (t, blank)) :
    ∃ x : Scanner × Margin, readMargin (s.begin.rest.length + 1) s.begin {} = .ok x
      ∧ ((((endsBlank x.1.rest || !x.1.brackets.isEmpty) = true) ∧ t = x.1
          ∧ blank = endsBlank x.1.rest)
        ∨ (endsBlank x.1.rest = false ∧ x.1.brackets = [] ∧ blank = false
          ∧ x.1.indent x.2.depth.1 x.2.depth.2 = .ok t)) := by
  rw [readLineStart_eq hstart] at h
  rcases hx : readMargin (s.begin.rest.length + 1) s.begin {} with e | x
  · rw [hx] at h
    exact nomatch h
  rw [hx] at h
  refine ⟨x, rfl, ?_⟩
  change (if _ then _ else _) = _ at h
  by_cases hblank : (endsBlank x.1.rest || !x.1.brackets.isEmpty) = true
  · rw [if_pos hblank] at h
    obtain ⟨rfl, rfl⟩ := Prod.mk.inj (Except.ok.inj h)
    exact .inl ⟨hblank, rfl, rfl⟩
  · rw [if_neg hblank] at h
    rw [Bool.or_eq_true, not_or] at hblank
    rcases hindent : x.1.indent x.2.depth.1 x.2.depth.2 with e | u
    · rw [hindent] at h
      exact nomatch h
    · rw [hindent] at h
      obtain ⟨rfl, rfl⟩ := Prod.mk.inj (Except.ok.inj h)
      exact .inr ⟨by simpa using hblank.1, by simpa using hblank.2, rfl, rfl⟩

/-- What becomes of the reader before a token or at the start of a line. -/
structure Starts (s t : Scanner) (blank : Bool) : Prop where
  line : s.line ≤ t.line
  next : (s.enter false).line ≤ (t.enter false).line
  rest : t.rest <:+ s.rest
  inset : s.Inset → t.Inset
  lineStart : t.lineStart = false
  brackets : t.brackets = s.brackets
  potential : (s.lineStart = true → s.pending = 0) → t.potential ≤ s.potential
  pending : blank = true → t.pending = s.pending

theorem enter_rest (s : Scanner) (inToken : Bool) : (s.enter inToken).rest = s.rest := by
  unfold enter
  split <;> rfl

theorem starts_readLineStart {blank : Bool} (h : s.readLineStart = .ok (t, blank)) :
    Starts s t blank := by
  by_cases hstart : s.lineStart = true
  swap
  · have hstart : s.lineStart = false := by simpa using hstart
    obtain ⟨rfl, rfl⟩ := Prod.mk.inj (Except.ok.inj ((readLineStart_of_not hstart).symm.trans h))
    exact ⟨le_rfl, le_rfl, List.suffix_rfl, id, hstart, rfl, fun _ => le_rfl, fun _ => rfl⟩
  obtain ⟨x, hx, hcases⟩ := readLineStart_ok hstart h
  have hmove := Moves.readMargin _ hx
  have hbegin : s.begin.rest = s.rest := enter_rest s false
  have henter := Moves.enter s false
  have hrest : x.1.rest <:+ s.rest := hbegin ▸ hmove.rest
  have hbrackets : x.1.brackets = s.brackets := hmove.brackets.trans henter.brackets
  have hindents : x.1.indents = s.indents := hmove.indents.trans henter.indents
  have hpending : x.1.pending = s.pending := hmove.pending.trans henter.pending
  -- Levels are looked at only if the line counts.
  rcases hcases with ⟨-, rfl, rfl⟩ | ⟨-, -, rfl, hindent⟩
  · refine ⟨henter.line.trans hmove.line, hmove.line.trans (Moves.enter _ _).line, hrest,
      fun h => hmove.inset (henter.inset h), hmove.lineStart, hbrackets, fun _ => ?_, fun _ => hpending⟩
    have := hrest.length_le
    simp only [potential, hindents, hpending]
    omega
  · obtain ⟨hrest', hline, hspent, hstart', hbrackets', hlevels⟩ := indent_ok hindent
    have hmove' : s.begin.line ≤ t.line := hmove.line.trans hline.ge
    refine ⟨henter.line.trans hmove', hmove'.trans (Moves.enter _ _).line, hrest' ▸ hrest,
      fun h => (hmove.inset (henter.inset h)).indent hindent, hstart'.trans hmove.lineStart, hbrackets'.trans hbrackets, fun hzero => ?_,
      fun h => nomatch h⟩
    have hzero := hzero hstart
    rw [hindents, hpending] at hlevels
    simp only [potential, hrest']
    rcases hlevels with ⟨hwide, hlength, hpend⟩ | ⟨hpend, hlength⟩
    · -- A level is opened only behind blanks, which have been read.
      have hlt : x.1.rest.length < s.rest.length := by
        rcases readMargin_shorter _ hx with heq | hlt
        · rw [heq] at hwide
          exact absurd hwide (by decide)
        · exact hbegin ▸ hlt
      omega
    · have := hrest.length_le
      omega

/-! ## Pieces -/

/-- Text whose last line is ended. -/
def Ended (cs : List Char) : Prop := cs = [] ∨ cs.getLast? = some '\n'

theorem Ended.of_suffix {cs ds : List Char} (h : Ended cs) (hsuffix : ds <:+ cs) : Ended ds := by
  rcases List.eq_nil_or_concat ds with rfl | ⟨front, c, rfl⟩
  · exact .inl rfl
  · obtain ⟨before, rfl⟩ := hsuffix
    rcases h with h | h
    · simp at h
    · exact .inr (by simpa using h)

theorem Ended.exists_line {cs : List Char} (h : Ended cs) (hne : cs ≠ []) :
    ∃ c rest, cs = c ++ '\n' :: rest ∧ '\n' ∉ c :=
  List.eq_append_cons_of_mem (List.mem_of_getLast? (h.resolve_left hne))

theorem takeMany_line (s : Scanner) (n : Nat) : (s.takeMany n).line = s.line := by
  induction n generalizing s with
  | zero => rfl
  | succ n ih =>
    rw [takeMany, ih]
    unfold take
    split <;> rfl

theorem takeMany_rest (s : Scanner) (n : Nat) : (s.takeMany n).rest = s.rest.drop n := by
  induction n generalizing s with
  | zero => rfl
  | succ n ih =>
    rw [takeMany, ih]
    unfold take
    split <;> simp_all

/-- Reading on while the characters have a property. -/
theorem takeMany_takeWhile (s : Scanner) (p : Char → Bool) :
    (s.takeMany (s.rest.takeWhile p).length).rest = s.rest.dropWhile p := by
  rw [takeMany_rest, drop_length_takeWhile]

theorem takeMany_add (s : Scanner) (m n : Nat) :
    s.takeMany (m + n) = (s.takeMany m).takeMany n := by
  induction m generalizing s with
  | zero => rw [Nat.zero_add, takeMany]
  | succ m ih => rw [Nat.succ_add, takeMany, ih, takeMany]

/-- A token that the reader gives on its way. -/
structure Yields (s : Scanner) (t : Token) (u : Scanner) : Prop where
  first : s.line ≤ t.line
  within : t.line ≤ t.endLine
  last : t.endLine = u.line
  rest : u.rest <:+ s.rest
  inset : s.Inset → u.Inset
  inside : s.Inset → t.isLayout = false → 0 < t.column.getD 0
  indents : u.indents = s.indents
  pending : u.pending = s.pending
  kind : t.kind ≠ .indent ∧ t.kind ≠ .dedent ∧ t.kind ≠ .broken
  newline : t.kind = .newline → u.lineStart = true ∧ u.spent = true
  solid : t.isLayout = false → u.lineStart = s.lineStart
  shorter : t.kind ≠ .endMarker → u.rest.length < s.rest.length

/-- The reader has come to the end of a line that counts for nothing. -/
structure Skips (s u : Scanner) : Prop where
  line : s.line ≤ u.line
  rest : u.rest <:+ s.rest
  inset : s.Inset → u.Inset
  indents : u.indents = s.indents
  pending : u.pending = s.pending
  brackets : u.brackets = s.brackets
  lineStart : u.lineStart = true
  spent : u.spent = true
  shorter : u.rest.length < s.rest.length

/-- What is known of a piece that the reader gives on its way. -/
def Piece.Fits (s : Scanner) : Piece → Scanner → Prop
  | .token t, u => Yields s t u
  | .nothing, u => Skips s u
  | .broken _, u => s.line ≤ u.line

theorem Moves.fits (h : Moves s t) {p : Piece} (hp : p.Fits t u) : p.Fits s u := by
  cases p with
  | token tok =>
    exact { first := h.line.trans hp.first, within := hp.within, last := hp.last,
            rest := hp.rest.trans h.rest, inset := hp.inset ∘ h.inset,
            inside := hp.inside ∘ h.inset, indents := hp.indents.trans h.indents,
            pending := hp.pending.trans h.pending, kind := hp.kind, newline := hp.newline,
            solid := fun hs => (hp.solid hs).trans h.lineStart,
            shorter := fun hk => (hp.shorter hk).trans_le h.rest.length_le }
  | nothing =>
    exact { line := h.line.trans hp.line, rest := hp.rest.trans h.rest,
            inset := hp.inset ∘ h.inset, indents := hp.indents.trans h.indents, pending := hp.pending.trans h.pending,
            brackets := hp.brackets.trans h.brackets, lineStart := hp.lineStart,
            spent := hp.spent, shorter := hp.shorter.trans_le h.rest.length_le }
  | broken b => exact h.line.trans hp

/-- A token that ends where the reader is, whatever brackets are open then. -/
theorem yields_token {kind : TokenKind} {s u : Scanner} (text : List Char)
    (brackets : List OpenBracket) (h : Moves s u) (hline : u.line = s.line)
    (hcolumn : s.Inset → 0 < s.column)
    (hkind : kind ≠ .indent ∧ kind ≠ .dedent ∧ kind ≠ .broken ∧ kind ≠ .newline)
    (hshorter : u.rest.length < s.rest.length) :
    Yields s (token kind s { u with brackets } text) { u with brackets } where
  first := hline.ge
  within := le_rfl
  last := rfl
  rest := h.rest
  inset := h.inset
  inside hinset _ := hcolumn hinset
  indents := h.indents
  pending := h.pending
  kind := ⟨hkind.1, hkind.2.1, hkind.2.2.1⟩
  newline h := absurd h hkind.2.2.2
  solid _ := h.lineStart
  shorter _ := hshorter

theorem readName_fits (lines : Array (List Char)) {c : Char} {rest : List Char}
    (hcolumn : s.Inset → 0 < s.column) (hrest : s.rest = c :: rest)
    (hc : NumberScan.nameLike c = true) :
    (s.readName lines).1.Fits s (s.readName lines).2 := by
  unfold readName
  extract_lets text
  split
  · exact (Moves.takeMany s _).line
  · dsimp only
    refine yields_token text _ (Moves.takeMany s text.length) (takeMany_line s _) hcolumn ?_ ?_
    · have hkind : ∀ b : Bool, (if b then TokenKind.keyword else .name) ≠ .indent
          ∧ (if b then TokenKind.keyword else .name) ≠ .dedent
          ∧ (if b then TokenKind.keyword else .name) ≠ .broken
          ∧ (if b then TokenKind.keyword else .name) ≠ .newline := by decide
      exact hkind _
    · have hpos : 0 < text.length := by simp [text, hrest, hc]
      rw [takeMany_rest, List.length_drop, hrest, List.length_cons]
      omega

theorem readNumber_fits (lines : Array (List Char)) {c : Char} {rest : List Char}
    (hcolumn : s.Inset → 0 < s.column) (hended : Ended s.rest) (hrest : s.rest = c :: rest) (hc : c.isDigit = true ∨ c = '.') :
    (s.readNumber lines).1.Fits s (s.readNumber lines).2 := by
  unfold readNumber
  split
  · rename_i n hscan
    refine yields_token _ _ (Moves.takeMany s n) (takeMany_line s _) hcolumn (by decide) ?_
    obtain ⟨line, more, hline, -⟩ := hended.exists_line (by simp [hrest])
    rcases line with _ | ⟨x, line⟩
    · rw [hrest] at hline
      obtain ⟨rfl, -⟩ := List.cons.inj hline
      exact absurd hc (by decide)
    · obtain ⟨rfl, -⟩ := List.cons.inj (hrest.symm.trans hline)
      obtain ⟨r, hr, hbounds⟩ := scanNumber_settled line hc
      rw [hline] at hscan
      have hscan : r = .literal n := (hr more).symm.trans hscan
      have := (hbounds n hscan).1
      rw [takeMany_rest, hrest, List.length_drop, List.length_cons]
      omega
  · exact (Moves.takeMany s _).line
  · exact (Moves.take s).line

theorem readQuoted_fits (lines : Array (List Char)) (before : Nat)
    (hcolumn : s.Inset → 0 < s.column) (hne : s.rest ≠ []) :
    (s.readQuoted lines before).1.Fits s (s.readQuoted lines before).2 := by
  unfold readQuoted
  extract_lets open' quote long inner
  have hopen : Moves s open' := Moves.takeMany s before
  have hinner : Moves open' inner := Moves.takeMany open' _
  have hmove := hopen.trans (hinner.trans (Moves.readString quote long (inner.rest.length + 1) inner 0))
  have hshort : inner.rest.length < s.rest.length := by
    have hlength := List.length_pos_iff.2 hne
    simp only [inner, open', takeMany_rest, List.length_drop]
    split_ifs <;> omega
  have hshorter := (Moves.readString quote long (inner.rest.length + 1) inner 0).rest.length_le
  generalize readString quote long (inner.rest.length + 1) inner 0 = x at hmove hshorter
  obtain ⟨stop, how⟩ := x
  cases how with
  | closed =>
    exact { first := le_rfl, within := hmove.line, last := rfl, rest := hmove.rest,
            inset := hmove.inset, inside := fun h _ => hcolumn h,
            indents := hmove.indents, pending := hmove.pending, kind := ⟨nofun, nofun, nofun⟩,
            newline := nofun, solid := fun _ => hmove.lineStart,
            shorter := fun _ => hshorter.trans_lt hshort }
  | unterminated => exact hmove.line

theorem readOperator_fits (lines : Array (List Char)) (c : Char)
    (hcolumn : s.Inset → 0 < s.column) (hne : s.rest ≠ []) :
    (s.readOperator lines c).1.Fits s (s.readOperator lines c).2 := by
  unfold readOperator
  extract_lets n stop text bad
  have hmove : Moves s stop := Moves.takeMany s n
  have hline : stop.line = s.line := takeMany_line s n
  have hshorter : stop.rest.length < s.rest.length := by
    have hlength := List.length_pos_iff.2 hne
    have hpos : 0 < n := by
      simp only [n, operatorLength]
      split <;> (try split) <;> decide
    rw [takeMany_rest, List.length_drop]
    omega
  have hyields := fun b => @yields_token .operator s stop text b hmove hline hcolumn (by decide) hshorter
  split_ifs
  · exact hyields stop.brackets
  · exact hline.ge
  · exact hyields (⟨c, s.line, s.column⟩ :: s.brackets)
  · split
    · exact hline.ge
    · rename_i b outer hbrackets
      split_ifs
      · exact hyields outer
      · exact hline.ge
      · exact hline.ge
  · exact hline.ge
  · exact hyields stop.brackets

/-- The reader behind blanks and a comment. -/
def behindBlanks (s : Scanner) : Scanner :=
  if (s.enter false).skipBlanks.rest.head? == some '#' then
    (s.enter false).skipBlanks.takeMany
      ((s.enter false).skipBlanks.rest.takeWhile (· != '\n')).length
  else (s.enter false).skipBlanks

/-- The end of a line, which counts for nothing if the line is blank or a bracket is open. -/
def lineEnd (blank : Bool) (s : Scanner) : Piece × Scanner :=
  if blank || !s.brackets.isEmpty then (.nothing, { s.take with lineStart := true })
  else (.token { token .newline s { s.take with lineStart := true } [] with
    endColumn := some s.column }, { s.take with lineStart := true })

/-- The piece that begins where the reader is; behind a line continuation it is found again. -/
def pieceAt (lines : Array (List Char)) (blank : Bool) (again : Scanner → Piece × Scanner)
    (s : Scanner) : Piece × Scanner :=
  match s.rest with
  | [] => if s.brackets.isEmpty then (.token (layout .endMarker s), s) else (.broken .endOfText, s)
  | c :: rest =>
    if NumberScan.nameLike c && !c.isDigit then
      match stringPrefix s.rest with
      | some k => readQuoted lines s k
      | none => readName lines s
    else if c == '\n' then s.lineEnd blank
    else if c.isDigit || (c == '.' && (rest.head?.map Char.isDigit).getD false) then
      readNumber lines s
    else if c == '"' || c == '\'' then readQuoted lines s 0
    else if c == '\\' then
      match continueLine s.take true with
      | .error (b, s) => (.broken b, s)
      | .ok s => again s
    else readOperator lines s c

theorem readPiece_succ (lines : Array (List Char)) (blank : Bool) (n : Nat) (s : Scanner) :
    s.readPiece lines blank (n + 1) =
      s.behindBlanks.pieceAt lines blank (readPiece lines blank n) := rfl

theorem moves_behindBlanks (s : Scanner) : Moves (s.enter false) s.behindBlanks := by
  refine (Moves.skipBlanks _).trans ?_
  unfold behindBlanks
  split_ifs
  · exact Moves.takeMany _ _
  · exact .refl _

/-- Behind blanks and a comment there is no blank. -/
theorem isIndent_behindBlanks (s : Scanner) :
    ∀ c, s.behindBlanks.rest.head? = some c → Text.isIndent c = false := by
  have hskip : ∀ c, (s.enter false).skipBlanks.rest.head? = some c → Text.isIndent c = false := by
    intro c hc
    rw [skipBlanks, takeMany_takeWhile] at hc
    have := List.head?_dropWhile_not (fun c => c == ' ' || c == '\t' || c == '\x0c') (s.enter false).rest
    rw [hc] at this
    simp_all [Text.isIndent]
  unfold behindBlanks
  split_ifs
  · intro c hc
    rw [takeMany_takeWhile] at hc
    have := List.head?_dropWhile_not (fun c : Char => c != '\n') (s.enter false).skipBlanks.rest
    rw [hc] at this
    obtain rfl : c = '\n' := by simpa using this
    decide
  · exact hskip

theorem lineEnd_fits (blank : Bool) {rest : List Char} (hrest : s.rest = '\n' :: rest) :
    (s.lineEnd blank).1.Fits s (s.lineEnd blank).2 := by
  have htake : s.take = { s with rest, column := s.column + 1, spent := true } := by
    simp only [take, hrest]
    rfl
  have hlt : rest.length < s.rest.length := by simp [hrest]
  have hsuffix : rest <:+ s.rest := by simp [hrest, List.suffix_cons]
  have hinset := (Moves.take s).inset
  unfold lineEnd
  rw [htake] at hinset ⊢
  split_ifs
  · exact { line := le_rfl, rest := hsuffix, inset := hinset, indents := rfl, pending := rfl, brackets := rfl,
            lineStart := rfl, spent := rfl, shorter := hlt }
  · exact { first := le_rfl, within := le_rfl, last := rfl, rest := hsuffix, inset := hinset,
            inside := nofun, indents := rfl, pending := rfl, kind := ⟨nofun, nofun, nofun⟩,
            newline := fun _ => ⟨rfl, rfl⟩, solid := nofun, shorter := fun _ => hlt }

theorem continueLine_line {inToken : Bool} {b : Break} (h : s.continueLine inToken = .error (b, t)) :
    s.line ≤ t.line := by
  unfold continueLine at h
  split at h
  · dsimp only at h
    split_ifs at h
    obtain ⟨-, rfl⟩ := Prod.mk.inj (Except.error.inj h)
    exact (Moves.take s).line
  · obtain ⟨-, rfl⟩ := Prod.mk.inj (Except.error.inj h)
    exact le_rfl

/-- What begins where the reader is fits, if what is found behind a line continuation does. -/
theorem pieceAt_fits (lines : Array (List Char)) (blank : Bool)
    {again : Scanner → Piece × Scanner} (hended : Ended s.rest)
    (hblank : ∀ c, s.rest.head? = some c → Text.isIndent c = false)
    (hagain : ∀ u, s.take.continueLine true = .ok u → s.take.rest.length < s.rest.length →
      (again u).1.Fits (u.enter false) (again u).2) :
    (s.pieceAt lines blank again).1.Fits s (s.pieceAt lines blank again).2 := by
  unfold pieceAt
  split
  · rename_i hrest
    split_ifs
    · exact { first := le_rfl, within := le_rfl, last := rfl, rest := List.suffix_rfl,
              inset := id, inside := nofun, indents := rfl, pending := rfl,
              kind := ⟨nofun, nofun, nofun⟩, newline := nofun,
              solid := nofun, shorter := fun h => absurd rfl h }
    · exact le_refl s.line
  · rename_i c rest hrest
    have hne : s.rest ≠ [] := by simp [hrest]
    -- In a line that is inset only blanks and the end of the line stand in the first column.
    have hcolumn : c ≠ '\n' → s.Inset → 0 < s.column := fun hend hinset => by
      by_contra hzero
      obtain hc | hc := hinset.1 (.inr (Nat.eq_zero_of_not_pos hzero)) c (by rw [hrest]; rfl)
      · exact absurd (hc.symm.trans (hblank c (by rw [hrest]; rfl))) (by decide)
      · exact hend hc
    by_cases hname : (NumberScan.nameLike c && !c.isDigit) = true
    · rw [if_pos hname]
      rw [Bool.and_eq_true] at hname
      have hcolumn := hcolumn (by rintro rfl; exact absurd hname.1 (by decide))
      split
      · exact readQuoted_fits lines _ hcolumn hne
      · exact readName_fits lines hcolumn hrest hname.1
    rw [if_neg hname]
    by_cases hend : (c == '\n') = true
    · rw [if_pos hend]
      exact lineEnd_fits blank (by rw [hrest, eq_of_beq hend])
    rw [if_neg hend]
    have hcolumn := hcolumn (by simpa using hend)
    by_cases hdigit : (c.isDigit || (c == '.' && (rest.head?.map Char.isDigit).getD false)) = true
    · rw [if_pos hdigit]
      refine readNumber_fits lines hcolumn hended hrest ?_
      simp only [Bool.or_eq_true, Bool.and_eq_true, beq_iff_eq] at hdigit
      exact hdigit.imp_right And.left
    rw [if_neg hdigit]
    by_cases hquote : (c == '"' || c == '\'') = true
    · rw [if_pos hquote]
      exact readQuoted_fits lines 0 hcolumn hne
    rw [if_neg hquote]
    by_cases hback : (c == '\\') = true
    · rw [if_pos hback]
      have htake := Moves.take s
      rcases hcont : s.take.continueLine true with ⟨b, u⟩ | u
      · exact htake.line.trans (continueLine_line hcont)
      · exact ((htake.trans (Moves.continueLine hcont)).trans (Moves.enter u false)).fits
          (hagain u hcont (by simp [take, hrest]))
    · rw [if_neg hback]
      exact readOperator_fits lines c hcolumn hne

theorem readPiece_fits (lines : Array (List Char)) (blank : Bool) (n : Nat)
    (hended : Ended s.rest) (hn : s.rest.length < n) :
    (s.readPiece lines blank n).1.Fits (s.enter false) (s.readPiece lines blank n).2 := by
  -- The induction is on the lines that are continued before the piece begins.
  induction n generalizing s with
  | zero => exact absurd hn (Nat.not_lt_zero _)
  | succ n ih =>
    have hmove := moves_behindBlanks s
    rw [← enter_rest s false] at hended hn
    have hended := hended.of_suffix hmove.rest
    have hn := hmove.rest.length_le.trans_lt hn
    rw [readPiece_succ]
    refine hmove.fits (pieceAt_fits lines blank hended (isIndent_behindBlanks s) ?_)
    intro u hcont hlt
    have hmoves := Moves.continueLine hcont
    have hle := hmoves.rest.length_le
    exact ih (hended.of_suffix ((Moves.take _).trans hmoves).rest) (by omega)

end Scanner

end Graft.Syntax
