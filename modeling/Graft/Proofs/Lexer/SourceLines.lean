import Graft.Proofs.Lexer.InStep

set_option autoImplicit false

/-! # Lines of program text

Program text is its lines, each with its end behind it.  Two texts whose lines stand side by side
give tokens in step. -/

namespace Graft.Syntax

/-! ## Lines and their ends -/

/-- Lines with their ends behind them. -/
def unlines (ls : List (List Char)) : List Char := ls.flatMap (· ++ ['\n'])

@[simp] theorem unlines_nil : unlines [] = [] := rfl

@[simp] theorem unlines_cons (l : List Char) (ls : List (List Char)) :
    unlines (l :: ls) = l ++ '\n' :: unlines ls := by
  simp [unlines]

@[simp] theorem unlines_append (ls ls' : List (List Char)) :
    unlines (ls ++ ls') = unlines ls ++ unlines ls' := by
  simp [unlines]

theorem textLines_line {line : List Char} (h : '\n' ∉ line) (rest : List Char) :
    textLines (line ++ '\n' :: rest) = line :: textLines rest := by
  suffices hgo : ∀ before, textLines.go (line ++ '\n' :: rest) before =
      (before.reverse ++ line) :: textLines.go rest [] from hgo []
  induction line with
  | nil => intro before; simp [textLines.go]
  | cons c line ih =>
    rw [List.mem_cons, not_or] at h
    intro before
    rw [List.cons_append, textLines.go, ih h.2, List.reverse_cons, List.append_assoc]
    · rfl
    · exact fun hc => h.1 hc.symm

/-- Text whose last line is ended consists of its lines, each with its end. -/
theorem unlines_textLines (n : Nat) {cs : List Char} (hn : cs.length < n) (h : Scanner.Ended cs) :
    unlines (textLines cs) = cs ∧ ∀ l ∈ textLines cs, '\n' ∉ l := by
  induction n generalizing cs with
  | zero => exact absurd hn (Nat.not_lt_zero _)
  | succ n ih =>
    by_cases hne : cs = []
    · subst hne
      exact ⟨rfl, nofun⟩
    obtain ⟨line, rest, rfl, hline⟩ := h.exists_line hne
    obtain ⟨heq, hall⟩ := @ih rest (by simp at hn; omega) (h.of_suffix ⟨line ++ ['\n'], by simp⟩)
    rw [textLines_line hline, unlines_cons, heq]
    exact ⟨rfl, List.forall_mem_cons.2 ⟨hline, hall⟩⟩

/-- The lines of program text, without their ends. -/
def sourceLines (cs : List Char) : List (List Char) := textLines (normalizeLineEnds cs)

theorem unlines_sourceLines (cs : List Char) : unlines (sourceLines cs) = normalizeLineEnds cs :=
  (unlines_textLines _ (Nat.lt_succ_self _) (Scanner.atStart_ended cs)).1

theorem newline_notMem_of_mem_sourceLines {cs l : List Char} (h : l ∈ sourceLines cs) : '\n' ∉ l :=
  (unlines_textLines _ (Nat.lt_succ_self _) (Scanner.atStart_ended cs)).2 l h

theorem normalizeLineEnds_ne_nil (cs : List Char) : normalizeLineEnds cs ≠ [] := by
  intro hnil
  have hlast := normalizeLineEnds_getLast? cs
  rw [hnil] at hlast
  exact nomatch hlast

theorem sourceLines_ne_nil (cs : List Char) : sourceLines cs ≠ [] := by
  intro hnil
  have heq := unlines_sourceLines cs
  rw [hnil] at heq
  exact normalizeLineEnds_ne_nil cs heq.symm

theorem textLines_unlines {ls : List (List Char)} (h : ∀ l ∈ ls, '\n' ∉ l) :
    textLines (unlines ls) = ls := by
  induction ls with
  | nil => rfl
  | cons l ls ih =>
    rw [List.forall_mem_cons] at h
    rw [unlines_cons, textLines_line h.1, ih h.2]

theorem unlines_eq_nil {ls : List (List Char)} : unlines ls = [] ↔ ls = [] := by
  cases ls <;> simp

/-! ## Line ends written as one line feed -/

theorem normalizeLineEnds_cons {c : Char} (hreturn : c ≠ '\r') (hfeed : c ≠ '\n') (cs : List Char) :
    normalizeLineEnds (c :: cs) = c :: normalizeLineEnds cs := by
  rw [normalizeLineEnds.eq_7] <;> simp_all

/-- Characters that end no line stay. -/
theorem normalizeLineEnds_behind {before : List Char} (h : ∀ c ∈ before, c ≠ '\r' ∧ c ≠ '\n')
    (cs : List Char) : normalizeLineEnds (before ++ cs) = before ++ normalizeLineEnds cs := by
  induction before with
  | nil => rfl
  | cons c before ih =>
    rw [List.forall_mem_cons] at h
    rw [List.cons_append, normalizeLineEnds_cons h.1.1 h.1.2, ih h.2, List.cons_append]

/-- The lines behind a line feed follow those before it. -/
theorem normalizeLineEnds_feed {line : List Char} (h : '\n' ∉ line) (more : List Char) :
    normalizeLineEnds (line ++ '\n' :: more) =
      normalizeLineEnds line ++ if more = [] then [] else normalizeLineEnds more := by
  have hfeed : normalizeLineEnds ('\n' :: more) =
      '\n' :: if more = [] then [] else normalizeLineEnds more := by
    by_cases hmore : more = []
    · rw [hmore, if_pos rfl]; rfl
    · rw [if_neg hmore, normalizeLineEnds.eq_7] <;> simp_all
  induction line using normalizeLineEnds.induct with
  | case1 => exact hfeed
  | case2 | case3 => simp at h
  | case4 =>
    change normalizeLineEnds ('\r' :: '\n' :: more) = _
    by_cases hmore : more = []
    · rw [hmore, if_pos rfl]; rfl
    · rw [if_neg hmore, normalizeLineEnds.eq_5]
      · rfl
      · simp_all
  | case5 rest hne ih => simp at h
  | case6 rest hlast hne hboth ih =>
    rw [List.mem_cons, not_or] at h
    rw [List.cons_append, normalizeLineEnds.eq_6, normalizeLineEnds.eq_6, ih h.2, List.cons_append]
    all_goals rcases rest with _ | ⟨d, rest⟩ <;> simp_all
  | case7 c rest h₁ h₂ h₃ h₄ h₅ ih =>
    rw [List.mem_cons, not_or] at h
    have hreturn : c ≠ '\r' := by
      rintro rfl
      exact h₅ rfl
    rw [List.cons_append, normalizeLineEnds_cons hreturn (Ne.symm h.1), ih h.2,
      normalizeLineEnds_cons hreturn (Ne.symm h.1), List.cons_append]

/-! ## Lines side by side -/

namespace Facing

variable {F : Facing} {l : Nat} {X Y : List Char}

/-- Lines that are the same in both texts. -/
theorem rows_of_lines {A : List (List Char)} (hrow : ∀ i a, A[i]? = some a → F.row (l + i) a a)
    (hclean : ∀ a ∈ A, '\n' ∉ a) (hmore : F.Rows (l + A.length) X Y)
    (hlast : ∀ a, A.getLast? = some a → a.getLast? = some '\\' → Y = [] → X = []) :
    F.Rows l (unlines A ++ X) (unlines A ++ Y) := by
  induction A generalizing l with
  | nil => exact hmore
  | cons a A ih =>
    rw [List.forall_mem_cons] at hclean
    rw [unlines_cons, List.append_assoc, List.append_assoc, List.cons_append, List.cons_append]
    refine .cons (hrow 0 a rfl) hclean.1 hclean.1 (ih (fun i b hb => ?_) hclean.2 ?_ ?_) ?_
    · rw [Nat.add_assoc, Nat.add_comm 1 i]
      exact hrow (i + 1) b hb
    · rw [Nat.add_assoc, Nat.add_comm 1]
      exact hmore
    · intro b hb
      refine hlast b ?_
      rw [List.getLast?_cons, hb]
      rfl
    · intro hback hnil
      rw [List.append_eq_nil_iff, unlines_eq_nil] at hnil ⊢
      obtain ⟨rfl, hY⟩ := hnil
      exact ⟨rfl, hlast a rfl hback hY⟩

open Scanner (Begins)

variable {N : Nesting} {cs cs' : List Char}

/-- The readers before two texts whose lines stand side by side. -/
theorem abreast_atStart (hshift : F.shift = 0) (hlevels : N.levels [(0, 0)] = [(0, 0)])
    (h : F.Rows 1 (normalizeLineEnds cs) (normalizeLineEnds cs')) :
    F.Abreast N (.atStart cs) (.atStart cs') where
  even := ⟨rfl, rfl, rfl⟩
  levels := hlevels.symm
  rising := ⟨[], rfl, nofun⟩
  level := le_rfl
  ended := Scanner.atStart_ended cs
  ended' := Scanner.atStart_ended cs'
  place := .inl ⟨rfl, rfl, by rw [hshift]; rfl, rfl, rfl, h⟩

/-- Two texts whose lines stand side by side give tokens in step. -/
theorem tokens_inStep {M : F.Margins} {P : Nat → Prop} (hP : Deepens M N P) (hbase : N.base = [])
    (hdeeper : N.deeper = (0, 0)) (hshift : F.shift = 0)
    (hrows : F.Rows 1 (normalizeLineEnds cs) (normalizeLineEnds cs'))
    (hwhole : (Tokens.ofText cs).broken = none)
    (hbegins : Begins P true (Tokens.ofText cs).tokens.toList)
    (hexact : ∀ t ∈ (Tokens.ofText cs).tokens, F.Exact t) :
    (Tokens.ofText cs').broken = none
      ∧ InStep F.vantage N 0 (Tokens.ofText cs).tokens.toList (Tokens.ofText cs').tokens.toList := by
  have hlevels : N.levels [(0, 0)] = [(0, 0)] := by
    simp [Nesting.levels, Nesting.deepen, hbase, hdeeper]
  have hrun := Tokens.run_ofText cs
  rw [hwhole] at hrun
  obtain ⟨ts', hrun', hin⟩ := run_inStep (Tokens.ofText cs').lines hP hrun rfl
    (abreast_atStart hshift hlevels hrows) hbegins (fun _ _ => rfl) (by simpa using hexact)
    (.inl hbase)
  obtain ⟨htokens, hbroken⟩ := (Tokens.run_ofText cs').unique hrun'
  exact ⟨hbroken, htokens ▸ hin⟩

end Facing

end Graft.Syntax
