import Graft.Proofs.Lexer.Moves

set_option autoImplicit false

/-! # Runs of the reader

A run gives the tokens of a text one after the other.  The bounds on the number of steps are of no
account: they are never reached.  Tokens come in the order of their lines. -/

namespace Graft.Syntax

/-- A token begins where the one before it ends or behind that, and behind its line if it is no
    layout and the one before it ends a line. -/
def Token.Precedes (t t' : Token) : Prop :=
  t.endLine ≤ t'.line ∧ (t.kind = .newline → t'.isLayout = false → t.endLine < t'.line)

namespace Scanner

variable {lines : Array (List Char)} {s t u : Scanner}

/-! ## One token -/

/-- What the reader finds next: a token or a break, behind lines that count for nothing. -/
inductive Found (lines : Array (List Char)) : Scanner → Piece → Scanner → Prop
  | stuck {s u : Scanner} {b : Break} (start : s.readLineStart = .error (b, u)) :
    Found lines s (.broken b) u
  | dedent {s t : Scanner} {blank : Bool} (start : s.readLineStart = .ok (t, blank))
      (pending : t.pending < 0) :
    Found lines s (.token (layout .dedent t)) { t with pending := t.pending + 1 }
  | indent {s t : Scanner} {blank : Bool} (start : s.readLineStart = .ok (t, blank))
      (pending : 0 < t.pending) :
    Found lines s (.token (layout .indent t)) { t with pending := t.pending - 1 }
  | piece {s t u : Scanner} {blank : Bool} {p : Piece} (start : s.readLineStart = .ok (t, blank))
      (pending : t.pending = 0) (read : t.readPiece lines blank (t.rest.length + 1) = (p, u))
      (something : p ≠ .nothing) : Found lines s p u
  | skip {s t u v : Scanner} {blank : Bool} {p : Piece} (start : s.readLineStart = .ok (t, blank))
      (pending : t.pending = 0)
      (read : t.readPiece lines blank (t.rest.length + 1) = (.nothing, u)) (more : Found lines u p v) :
    Found lines s p v

theorem found_next (n : Nat) (hended : Ended s.rest) (hn : s.rest.length < n) :
    Found lines s (s.next lines n).1 (s.next lines n).2 := by
  induction n generalizing s with
  | zero => exact absurd hn (Nat.not_lt_zero _)
  | succ n ih =>
    rw [next]
    rcases hstart : s.readLineStart with ⟨b, t⟩ | ⟨t, blank⟩
    · exact .stuck hstart
    dsimp only
    split_ifs with hneg hpos
    · exact .dedent hstart hneg
    · exact .indent hstart hpos
    have hzero : t.pending = 0 := by omega
    have hsuffix := (starts_readLineStart hstart).rest
    have hfits := readPiece_fits lines blank (t.rest.length + 1) (hended.of_suffix hsuffix)
      (Nat.lt_succ_self _)
    rcases hread : t.readPiece lines blank (t.rest.length + 1) with ⟨p, v⟩
    rw [hread] at hfits
    cases p with
    | token tok => exact .piece hstart hzero hread (by simp)
    | broken b => exact .piece hstart hzero hread (by simp)
    | nothing =>
      -- A line that is skipped leaves a shorter rest.
      have hlt : v.rest.length < _ := hfits.shorter
      have hrest : v.rest <:+ t.rest := enter_rest t false ▸ hfits.rest
      have hle := hsuffix.length_le
      rw [enter_rest] at hlt
      exact .skip hstart hzero hread (ih (hended.of_suffix (hrest.trans hsuffix)) (by omega))

theorem Found.unique {p q : Piece} {v : Scanner} (h : Found lines s p u) (h' : Found lines s q v) :
    p = q ∧ u = v := by
  induction h with
  | stuck start => cases h' <;> simp_all
  | dedent start pending => cases h' <;> simp_all; omega
  | indent start pending => cases h' <;> simp_all; omega
  | piece start pending read something => cases h' <;> simp_all
  | skip start pending read more ih =>
    cases h' with
    | skip start' pending' read' more' =>
      obtain ⟨rfl, rfl⟩ := Prod.mk.inj (Except.ok.inj (start.symm.trans start'))
      obtain ⟨-, rfl⟩ := Prod.mk.inj (read.symm.trans read')
      exact ih more'
    | _ => simp_all

/-- At the start of a line nothing is to be handed out. -/
def Steady (s : Scanner) : Prop := s.lineStart = true → s.pending = 0

/-- What is known of a token that the reader finds. -/
structure Gives (s : Scanner) (t : Token) (u : Scanner) : Prop where
  first : s.line ≤ t.line
  within : t.line ≤ t.endLine
  last : t.endLine = u.line
  next : (s.enter false).line ≤ (u.enter false).line
  rest : u.rest <:+ s.rest
  inset : s.Inset → u.Inset
  inside : s.Inset → t.isLayout = false → 0 < t.column.getD 0
  steady : u.Steady
  kind : t.kind ≠ .broken
  newline : t.kind = .newline → u.lineStart = true ∧ u.spent = true
  solid : t.isLayout = false → (s.enter false).line ≤ t.line ∧ s.rest ≠ []
  potential : t.kind ≠ .endMarker → u.potential < s.potential

/-- What the reader finds behind something that it has passed over. -/
theorem Gives.of_behind {tok : Token} (h : Gives t tok u) (hline : s.line ≤ t.line)
    (hnext : (s.enter false).line ≤ (t.enter false).line) (hrest : t.rest <:+ s.rest)
    (hinset : s.Inset → t.Inset)
    (hpotential : t.potential ≤ s.potential) : Gives s tok u where
  first := hline.trans h.first
  within := h.within
  last := h.last
  next := hnext.trans h.next
  rest := h.rest.trans hrest
  inset := h.inset ∘ hinset
  inside := h.inside ∘ hinset
  steady := h.steady
  kind := h.kind
  newline := h.newline
  solid hs := ⟨hnext.trans (h.solid hs).1, fun hnil =>
    (h.solid hs).2 (List.suffix_nil.1 (hnil ▸ hrest))⟩
  potential hk := (h.potential hk).trans_le hpotential

theorem gives_layout {kind : TokenKind} (pending : Int) (hstart : t.lineStart = false)
    (hkind : kind = .indent ∨ kind = .dedent) (hpending : pending.natAbs < t.pending.natAbs) :
    Gives t (layout kind t) { t with pending } where
  first := le_rfl
  within := le_rfl
  last := rfl
  next := by
    unfold enter
    split <;> exact le_rfl
  rest := List.suffix_rfl
  inset := id
  inside := by rcases hkind with rfl | rfl <;> exact nofun
  steady h := absurd (hstart.symm.trans h) (by decide)
  kind := by rcases hkind with rfl | rfl <;> exact nofun
  newline := by rcases hkind with rfl | rfl <;> exact nofun
  solid := by rcases hkind with rfl | rfl <;> exact nofun
  potential _ := Nat.add_lt_add_left hpending _

theorem gives_piece {tok : Token} (h : Yields (t.enter false) tok u) (hpending : t.pending = 0) :
    Gives t tok u := by
  have henter := Moves.enter t false
  have hpending' : u.pending = 0 := h.pending.trans (henter.pending.trans hpending)
  have hindents : u.indents = t.indents := h.indents.trans henter.indents
  have hshorter := h.shorter
  rw [enter_rest] at hshorter
  exact {
    first := henter.line.trans h.first
    within := h.within
    last := h.last
    next := h.first.trans (h.within.trans (h.last.le.trans (Moves.enter u false).line))
    rest := enter_rest t false ▸ h.rest
    inset := h.inset ∘ henter.inset
    inside := h.inside ∘ henter.inset
    steady := fun _ => hpending'
    kind := h.kind.2.2
    newline := h.newline
    solid := fun hs => ⟨h.first, fun hnil => by
      have := hshorter (by rintro hk; simp [Token.isLayout, hk] at hs)
      simp [hnil] at this⟩
    potential := fun hk => by
      have := hshorter hk
      simp only [potential, hindents, hpending, hpending']
      omega }

theorem Found.gives {p : Piece} (h : Found lines s p u) (hended : Ended s.rest)
    (hsteady : s.Steady) : ∀ tok, p = .token tok → Gives s tok u := by
  -- Reading the beginning of a line neither goes back nor adds to the potential.
  have hbehind : ∀ {s t u : Scanner} {blank : Bool} {tok : Token}, s.Steady →
      s.readLineStart = .ok (t, blank) → Gives t tok u → Gives s tok u := by
    intro s t u blank tok hsteady hstart hgives
    have hstarts := starts_readLineStart hstart
    exact hgives.of_behind hstarts.line hstarts.next hstarts.rest hstarts.inset (hstarts.potential hsteady)
  induction h with
  | stuck start => exact fun tok h => nomatch h
  | dedent start pending =>
    rintro _ ⟨⟩
    exact hbehind hsteady start
      (gives_layout _ (starts_readLineStart start).lineStart (.inr rfl) (by omega))
  | indent start pending =>
    rintro _ ⟨⟩
    exact hbehind hsteady start
      (gives_layout _ (starts_readLineStart start).lineStart (.inl rfl) (by omega))
  | @piece s t u blank p start pending read something =>
    rintro tok rfl
    have hstarts := starts_readLineStart start
    have hfits := readPiece_fits lines blank _ (hended.of_suffix hstarts.rest)
      (Nat.lt_succ_self t.rest.length)
    rw [read] at hfits
    exact hbehind hsteady start (gives_piece hfits pending)
  | @skip s t u v blank p start pending read more ih =>
    intro tok hp
    have hstarts := starts_readLineStart start
    have hfits := readPiece_fits lines blank _ (hended.of_suffix hstarts.rest)
      (Nat.lt_succ_self t.rest.length)
    rw [read] at hfits
    have hfits : Skips (t.enter false) u := hfits
    have henter := Moves.enter t false
    have hrest : u.rest <:+ t.rest := enter_rest t false ▸ hfits.rest
    have hpending : u.pending = 0 := hfits.pending.trans (henter.pending.trans pending)
    have hindents : u.indents = t.indents := hfits.indents.trans henter.indents
    refine hbehind hsteady start ?_
    refine (ih (hended.of_suffix (hrest.trans hstarts.rest)) (fun _ => hpending) tok hp).of_behind
      (henter.line.trans hfits.line) (hfits.line.trans (Moves.enter u false).line) hrest
      (hfits.inset ∘ henter.inset) ?_
    have := hrest.length_le
    simp only [potential, hindents, hpending, pending]
    omega

theorem Found.ne_nothing {p : Piece} (h : Found lines s p u) : p ≠ .nothing := by
  induction h with
  | piece start pending read something => exact something
  | skip start pending read more ih => exact ih
  | _ => exact nofun

/-! ## All tokens -/

/-- The tokens that the reader gives from where it is, and why it stops if it does before the end. -/
inductive Run (lines : Array (List Char)) : Scanner → List Token → Option Break → Prop
  | ends {s u : Scanner} {t : Token} (found : Found lines s (.token t) u) (kind : t.kind = .endMarker) :
    Run lines s [t] none
  | more {s u : Scanner} {t : Token} {ts : List Token} {b : Option Break}
      (found : Found lines s (.token t) u) (kind : t.kind ≠ .endMarker) (others : Run lines u ts b) :
    Run lines s (t :: ts) b
  | stops {s u : Scanner} {b : Break} (found : Found lines s (.broken b) u) :
    Run lines s [Token.broken u] (some b)

theorem Run.unique {ts ts' : List Token} {b b' : Option Break} (h : Run lines s ts b)
    (h' : Run lines s ts' b') : ts = ts' ∧ b = b' := by
  induction h generalizing ts' with
  | ends found kind =>
    cases h' with
    | ends found' kind' =>
      obtain ⟨heq, -⟩ := found.unique found'
      exact ⟨by rw [Piece.token.inj heq], rfl⟩
    | more found' kind' others' =>
      obtain ⟨heq, -⟩ := found.unique found'
      exact absurd (Piece.token.inj heq ▸ kind) kind'
    | stops found' => exact nomatch (found.unique found').1
  | more found kind others ih =>
    cases h' with
    | ends found' kind' =>
      obtain ⟨heq, -⟩ := found.unique found'
      exact absurd (Piece.token.inj heq ▸ kind') kind
    | more found' kind' others' =>
      obtain ⟨heq, rfl⟩ := found.unique found'
      obtain ⟨rfl, rfl⟩ := ih others'
      exact ⟨by rw [Piece.token.inj heq], rfl⟩
    | stops found' => exact nomatch (found.unique found').1
  | stops found =>
    cases h' with
    | ends found' kind' => exact nomatch (found.unique found').1
    | more found' kind' others' => exact nomatch (found.unique found').1
    | stops found' =>
      obtain ⟨heq, rfl⟩ := found.unique found'
      exact ⟨rfl, by rw [Piece.broken.inj heq]⟩

theorem run_go (n : Nat) (acc : Array Token) (hended : Ended s.rest) (hsteady : s.Steady)
    (hn : s.potential < n) : ∃ ts b brackets, Tokens.ofNormalized.go lines n s acc =
      { lines, tokens := acc ++ ts.toArray, broken := b, openBrackets := brackets }
      ∧ Run lines s ts b := by
  induction n generalizing s acc with
  | zero => exact absurd hn (Nat.not_lt_zero _)
  | succ n ih =>
    have hfound := @found_next lines s (s.rest.length + 1) hended (Nat.lt_succ_self _)
    rw [Tokens.ofNormalized.go]
    generalize s.next lines (s.rest.length + 1) = x at hfound
    obtain ⟨p, u⟩ := x
    cases p with
    | token t =>
      have hgives := hfound.gives hended hsteady t rfl
      dsimp only
      by_cases hkind : t.kind = .endMarker
      · rw [if_pos (by simpa using hkind)]
        exact ⟨[t], none, u.brackets, by simp, .ends hfound hkind⟩
      · rw [if_neg (by simpa using hkind)]
        -- Every token but the last one lowers the potential, which bounds the steps.
        have := hgives.potential hkind
        obtain ⟨ts, b, brackets, hgo, hrun⟩ :=
          ih (acc.push t) (hended.of_suffix hgives.rest) hgives.steady (by omega)
        exact ⟨t :: ts, b, brackets, by rw [hgo]; simp, .more hfound hkind hrun⟩
    | broken b => exact ⟨[Token.broken u], some b, u.brackets, by simp, .stops hfound⟩
    | nothing => exact absurd rfl hfound.ne_nothing

/-! ## The order of tokens -/

/-- The last token of a run ends the text or stands for the break, and it is the only such token. -/
theorem Run.exists_last {ts : List Token} {b : Option Break} (h : Run lines s ts b)
    (hended : Ended s.rest) (hsteady : s.Steady) :
    ∃ front last, ts = front ++ [last] ∧ (∀ t ∈ front, t.kind ≠ .endMarker ∧ t.kind ≠ .broken)
      ∧ (b = none → last.kind = .endMarker) ∧ (b ≠ none → last.kind = .broken) := by
  induction h with
  | @ends s u t found kind =>
    exact ⟨[], t, rfl, nofun, fun _ => kind, fun h => absurd rfl h⟩
  | @more s u t ts b found kind others ih =>
    have hgives := found.gives hended hsteady t rfl
    obtain ⟨front, last, rfl, hfront, hlast⟩ := ih (hended.of_suffix hgives.rest) hgives.steady
    refine ⟨t :: front, last, rfl, fun t' ht' => ?_, hlast⟩
    rcases List.mem_cons.1 ht' with rfl | ht'
    · exact ⟨kind, hgives.kind⟩
    · exact hfront t' ht'
  | @stops s u b found =>
    exact ⟨[], _, rfl, nofun, nofun, fun _ => rfl⟩

theorem Run.line_le {ts : List Token} {b : Option Break} (h : Run lines s ts b)
    (hended : Ended s.rest) (hsteady : s.Steady) : ∀ t ∈ ts, t.kind ≠ .broken →
      s.line ≤ t.line ∧ t.line ≤ t.endLine
        ∧ (t.isLayout = false → (s.enter false).line ≤ t.line ∧ s.rest ≠ []) := by
  induction h with
  | ends found kind =>
    intro t ht _
    obtain rfl := List.mem_singleton.1 ht
    have hgives := found.gives hended hsteady t rfl
    exact ⟨hgives.first, hgives.within, hgives.solid⟩
  | @more s u t ts b found kind others ih =>
    have hgives := found.gives hended hsteady t rfl
    intro t' ht' hbroken
    rcases List.mem_cons.1 ht' with rfl | ht'
    · exact ⟨hgives.first, hgives.within, hgives.solid⟩
    · obtain ⟨hfirst, hwithin, hsolid⟩ :=
        ih (hended.of_suffix hgives.rest) hgives.steady t' ht' hbroken
      refine ⟨?_, hwithin, fun hs => ⟨hgives.next.trans (hsolid hs).1, fun hnil => ?_⟩⟩
      · exact hgives.first.trans (hgives.within.trans (hgives.last.le.trans hfirst))
      · exact (hsolid hs).2 (List.suffix_nil.1 (hnil ▸ hgives.rest))
  | stops found =>
    intro t ht hbroken
    obtain rfl := List.mem_singleton.1 ht
    exact absurd rfl hbroken

/-- Where all lines are empty or begin with a blank, no token begins with its line. -/
theorem Run.inside {ts : List Token} {b : Option Break} (h : Run lines s ts b)
    (hended : Ended s.rest) (hsteady : s.Steady) (hinset : s.Inset) :
    ∀ t ∈ ts, t.kind ≠ .broken → t.isLayout = false → 0 < t.column.getD 0 := by
  induction h with
  | ends found kind =>
    intro t ht _
    obtain rfl := List.mem_singleton.1 ht
    exact (found.gives hended hsteady t rfl).inside hinset
  | more found kind others ih =>
    have hgives := found.gives hended hsteady _ rfl
    intro t ht hbroken
    rcases List.mem_cons.1 ht with rfl | ht
    · exact hgives.inside hinset
    · exact ih (hended.of_suffix hgives.rest) hgives.steady (hgives.inset hinset) t ht hbroken
  | stops found =>
    intro t ht hbroken
    obtain rfl := List.mem_singleton.1 ht
    exact absurd rfl hbroken

theorem Run.pairwise {ts : List Token} {b : Option Break} (h : Run lines s ts b)
    (hended : Ended s.rest) (hsteady : s.Steady) :
    ts.Pairwise fun t t' => t'.kind ≠ .broken → Token.Precedes t t' := by
  induction h with
  | ends found kind => exact List.pairwise_singleton _ _
  | @more s u t ts b found kind others ih =>
    have hgives := found.gives hended hsteady t rfl
    have hended' := hended.of_suffix hgives.rest
    refine List.pairwise_cons.2 ⟨fun t' ht' hbroken => ?_, ih hended' hgives.steady⟩
    obtain ⟨hfirst, -, hsolid⟩ := others.line_le hended' hgives.steady t' ht' hbroken
    refine ⟨hgives.last.le.trans hfirst, fun hnewline hs => ?_⟩
    obtain ⟨hnext, hne⟩ := hsolid hs
    have henter : (u.enter false).line = u.line + 1 := by
      simp [enter, (hgives.newline hnewline).2, hne]
    rw [hgives.last]
    omega
  | stops found => exact List.pairwise_singleton _ _

end Scanner

/-! ## Whole texts -/

theorem normalizeLineEnds_getLast? (cs : List Char) :
    (normalizeLineEnds cs).getLast? = some '\n' := by
  fun_induction normalizeLineEnds cs with
  | case1 => rfl
  | case2 => rfl
  | case3 => rfl
  | case4 => rfl
  | case5 rest _ ih => rw [List.getLast?_cons, ih]; rfl
  | case6 rest _ _ _ ih => rw [List.getLast?_cons, ih]; rfl
  | case7 c rest _ _ _ _ _ ih => rw [List.getLast?_cons, ih]; rfl

/-- The reader before a text. -/
def Scanner.atStart (cs : List Char) : Scanner := { rest := normalizeLineEnds cs }

theorem Scanner.atStart_ended (cs : List Char) : Ended (atStart cs).rest :=
  .inr (normalizeLineEnds_getLast? cs)

theorem Scanner.atStart_steady (cs : List Char) : (atStart cs).Steady := fun _ => rfl

theorem Tokens.run_ofText (cs : List Char) :
    (Scanner.atStart cs).Run (Tokens.ofText cs).lines (Tokens.ofText cs).tokens.toList
      (Tokens.ofText cs).broken := by
  have hpotential : (Scanner.atStart cs).potential <
      2 * (normalizeLineEnds cs).length + 2 * maxIndents + 2 := by
    simp [Scanner.potential, Scanner.atStart, maxIndents]
  obtain ⟨ts, b, brackets, hgo, hrun⟩ := Scanner.run_go _ #[] (Scanner.atStart_ended cs)
    (Scanner.atStart_steady cs) hpotential
  have hof : Tokens.ofText cs = _ := hgo
  rw [hof]
  simpa using hrun

namespace Tokens

variable {cs : List Char} {t t' : Token} {i j : Nat}

theorem one_le_line (h : (ofText cs).tokens[i]? = some t) (hsolid : t.isLayout = false)
    (hbroken : t.kind ≠ .broken) : 1 ≤ t.line ∧ t.line ≤ t.endLine := by
  have hmem : t ∈ (ofText cs).tokens.toList :=
    List.mem_of_getElem? (by rwa [Array.getElem?_toList])
  obtain ⟨-, hwithin, hline⟩ := (run_ofText cs).line_le (Scanner.atStart_ended cs)
    (Scanner.atStart_steady cs) t hmem hbroken
  obtain ⟨hline, hne⟩ := hline hsolid
  have hne : normalizeLineEnds cs ≠ [] := hne
  refine ⟨?_, hwithin⟩
  simpa [Scanner.enter, Scanner.atStart, hne] using hline

theorem precedes (hi : (ofText cs).tokens[i]? = some t) (hj : (ofText cs).tokens[j]? = some t')
    (hij : i < j) (hbroken : t'.kind ≠ .broken) : t.Precedes t' := by
  have hpairwise := (run_ofText cs).pairwise (Scanner.atStart_ended cs) (Scanner.atStart_steady cs)
  rw [List.pairwise_iff_getElem] at hpairwise
  rw [← Array.getElem?_toList] at hi hj
  obtain ⟨hi', rfl⟩ := List.getElem?_eq_some_iff.1 hi
  obtain ⟨hj', rfl⟩ := List.getElem?_eq_some_iff.1 hj
  exact hpairwise i j hi' hj' hij hbroken

/-- The last token ends the text or stands for the break. -/
theorem exists_last (cs : List Char) : ∃ last,
    (ofText cs).tokens[(ofText cs).tokens.size - 1]? = some last ∧ 0 < (ofText cs).tokens.size
      ∧ (∀ i t, i + 1 < (ofText cs).tokens.size → (ofText cs).tokens[i]? = some t →
        t.kind ≠ .endMarker ∧ t.kind ≠ .broken)
      ∧ ((ofText cs).broken = none → last.kind = .endMarker)
      ∧ ((ofText cs).broken ≠ none → last.kind = .broken) := by
  obtain ⟨front, last, hlist, hfront, hlast⟩ := (run_ofText cs).exists_last
    (Scanner.atStart_ended cs) (Scanner.atStart_steady cs)
  have hsize : (ofText cs).tokens.size = front.length + 1 := by
    rw [← Array.length_toList, hlist, List.length_append, List.length_singleton]
  refine ⟨last, ?_, by omega, fun i t hi ht => ?_, hlast⟩
  · rw [← Array.getElem?_toList, hlist, hsize, Nat.add_sub_cancel]
    simp
  · rw [← Array.getElem?_toList, hlist, List.getElem?_append_left (by omega)] at ht
    exact hfront t (List.mem_of_getElem? ht)

/-- Where there is no break, no token stands for one. -/
theorem kind_ne_broken_of_whole (hwhole : (ofText cs).broken = none) (h : t ∈ (ofText cs).tokens) :
    t.kind ≠ .broken := by
  obtain ⟨i, hi, rfl⟩ := Array.mem_iff_getElem.1 h
  obtain ⟨last, hlast, -, hbefore, hend, -⟩ := exists_last cs
  by_cases hlt : i + 1 < (ofText cs).tokens.size
  · exact (hbefore i _ hlt (Array.getElem?_eq_getElem hi)).2
  · have hindex : (ofText cs).tokens.size - 1 = i := by omega
    rw [hindex, Array.getElem?_eq_getElem hi, Option.some.injEq] at hlast
    rw [hlast, hend hwhole]
    decide

/-- Only the last token ends the text, and then there is no break. -/
theorem endMarker_last (h : (ofText cs).tokens[i]? = some t) (hkind : t.kind = .endMarker) :
    i + 1 = (ofText cs).tokens.size ∧ (ofText cs).broken = none := by
  obtain ⟨last, hlast, -, hbefore, -, hbroken⟩ := exists_last cs
  have hlt := (Array.getElem?_eq_some_iff.1 h).1
  have hi : i + 1 = (ofText cs).tokens.size := by
    by_contra hne
    exact (hbefore i t (by omega) h).1 hkind
  refine ⟨hi, by_contra fun hne => ?_⟩
  have hindex : (ofText cs).tokens.size - 1 = i := by omega
  rw [hindex, h, Option.some.injEq] at hlast
  subst hlast
  exact absurd (hkind.symm.trans (hbroken hne)) (by decide)

end Tokens

end Graft.Syntax
