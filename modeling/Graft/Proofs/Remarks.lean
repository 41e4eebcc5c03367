import Graft.Proofs.Snippet

set_option autoImplicit false

/-! # Texts of remarks

A text may hold lines without being any program: blank lines, form feeds and comments.  Such a text
has no tokens but its end, so it is read as no statements at all, and as a snippet it stays such a
text when the indentation of its lines is taken away. -/

namespace Graft.Syntax

open Scanner (isMargin endsBlank)
open Text (isIndent splitLines joinLines dedent strip margin)

/-- Whether a text holds nothing but blanks, form feeds, line ends and comments; the flag says
    whether it begins within a comment. -/
def isRemarks : Bool → List Char → Bool
  | _, [] => true
  | inside, c :: cs =>
    if c == '\n' || c == '\r' then isRemarks false cs
    else if inside then isRemarks true cs
    else if isMargin c then isRemarks false cs
    else c == '#' && isRemarks true cs

/-! ## Lines -/

theorem isRemarks_lineEnd (inside : Bool) (line more : List Char) :
    isRemarks inside (line ++ '\n' :: more) = (isRemarks inside line && isRemarks false more) := by
  induction line generalizing inside with
  | nil => rfl
  | cons c line ih =>
    simp only [List.cons_append, isRemarks, ih]
    split_ifs <;> simp [Bool.and_assoc]

theorem isRemarks_joinLines {lines : List (List Char)} :
    isRemarks false (joinLines lines) = lines.all (isRemarks false) := by
  induction lines with
  | nil => rfl
  | cons line rest ih =>
    by_cases hrest : rest = []
    · simp [hrest, joinLines]
    · rw [Text.joinLines_cons line hrest, isRemarks_lineEnd, ih, List.all_cons]

/-- What is left of a remark without some of its indentation is a remark. -/
theorem isRemarks_drop {line : List Char} (n : Nat) (h : isRemarks false line = true)
    (hn : n ≤ (line.takeWhile isIndent).length) : isRemarks false (line.drop n) = true := by
  induction n generalizing line with
  | zero => exact h
  | succ n ih =>
    rcases line with _ | ⟨c, line⟩
    · rfl
    by_cases hc : isIndent c = true
    · rw [List.takeWhile_cons, if_pos hc, List.length_cons] at hn
      refine ih ?_ (Nat.le_of_succ_le_succ hn)
      simp only [isIndent, Bool.or_eq_true, beq_iff_eq] at hc
      rcases hc with rfl | rfl <;> simpa [isRemarks, isMargin, isIndent] using h
    · rw [List.takeWhile_cons, if_neg hc] at hn
      exact absurd hn (Nat.not_succ_le_zero n)

/-- Dedenting leaves remarks. -/
theorem isRemarks_dedent {cs : List Char} (h : isRemarks false cs = true) :
    isRemarks false (dedent cs) = true := by
  rw [← Text.joinLines_splitLines cs, isRemarks_joinLines, List.all_eq_true] at h
  rw [Text.dedent_eq, isRemarks_joinLines, List.all_map, List.all_eq_true]
  intro line hline
  by_cases hblank : line.all isIndent = true
  · rw [Function.comp_apply, Text.strip_of_blank hblank]
    rfl
  · rw [Function.comp_apply, strip, if_neg hblank]
    exact isRemarks_drop _ (h line hline) (Text.margin_le hline (by simpa using hblank))

/-- How line ends are written does not matter to remarks. -/
theorem isRemarks_normalizeLineEnds (inside : Bool) (cs : List Char) :
    isRemarks inside (normalizeLineEnds cs) = isRemarks inside cs := by
  fun_induction normalizeLineEnds cs generalizing inside with
  | case1 | case2 | case3 | case4 => rfl
  | case5 rest hne ih => exact ih false
  | case6 rest hnil hne hfeed ih => exact ih false
  | case7 c rest _ _ _ _ _ ih => simp only [isRemarks, ih]

theorem return_notMem_normalizeLineEnds (cs : List Char) : '\r' ∉ normalizeLineEnds cs := by
  fun_induction normalizeLineEnds cs with
  | case1 | case2 | case3 | case4 => decide
  | case5 rest hne ih => simpa using ih
  | case6 rest hnil hne hfeed ih => simpa using ih
  | case7 c rest _ _ _ _ hreturn ih =>
    rw [List.mem_cons, not_or]
    exact ⟨fun h => hreturn h.symm, ih⟩

/-! ## Tokens -/

/-- A line of a remark is a margin, with or without a comment behind it. -/
theorem exists_margin {line more : List Char} (hfeed : '\n' ∉ line) (hreturn : '\r' ∉ line)
    (h : isRemarks false line = true) : ∃ x y, line = x ++ y ∧ x.all isMargin = true
      ∧ endsBlank (y ++ '\n' :: more) = true := by
  induction line with
  | nil => exact ⟨[], [], rfl, rfl, rfl⟩
  | cons c line ih =>
    rw [List.mem_cons, not_or] at hfeed hreturn
    have hend : (c == '\n' || c == '\r') = false := by simp [Ne.symm hfeed.1, Ne.symm hreturn.1]
    rw [isRemarks, hend] at h
    simp only [Bool.false_eq_true, if_false] at h
    split_ifs at h with hc
    · obtain ⟨x, y, rfl, hx, hy⟩ := ih hfeed.2 hreturn.2 h
      exact ⟨c :: x, y, rfl, by rw [List.all_cons, hc, hx]; rfl, hy⟩
    · rw [Bool.and_eq_true, beq_iff_eq] at h
      obtain ⟨rfl, -⟩ := h
      exact ⟨[], _, rfl, rfl, rfl⟩

/-- A reader before remarks finds nothing but the end. -/
theorem Scanner.over_of_remarks (lines : Array (List Char)) (n : Nat) {s : Scanner}
    (hn : s.rest.length < n) (hended : Ended s.rest) (hreturn : '\r' ∉ s.rest)
    (h : isRemarks false s.rest = true) (hstart : s.lineStart = true) (hspent : s.spent = true)
    (hpending : s.pending = 0) (hindents : s.indents = [(0, 0)]) (hbrackets : s.brackets = []) :
    Over lines s 0 := by
  induction n generalizing s with
  | zero => exact absurd hn (Nat.not_lt_zero _)
  | succ n ih =>
    by_cases hrest : s.rest = []
    · obtain ⟨k, hk, hover⟩ := (over_of_end lines hstart hrest hpending
        (hindents ▸ ⟨[], rfl, nofun⟩)).1 hbrackets
      rw [hindents] at hk
      obtain rfl : 0 = k := Nat.succ.inj hk
      exact hover
    -- A line is a margin and a remark, and the scanner is in the same state behind it.
    obtain ⟨line, more, heq, hfeed⟩ := hended.exists_line hrest
    rw [heq, List.mem_append, List.mem_cons, not_or, not_or] at hreturn
    rw [heq, isRemarks_lineEnd, Bool.and_eq_true] at h
    obtain ⟨x, y, rfl, hx, hy⟩ := @exists_margin line more hfeed hreturn.1 h.1
    rw [List.append_assoc] at heq
    obtain ⟨u, rfl, hstart', hspent', hmoves, hfound⟩ := exists_behind_blank lines hstart hspent heq hx
      (fun hmem => hfeed (List.mem_append_right _ hmem)) hy hpending
    have hlength := congrArg List.length heq
    simp only [List.length_append, List.length_cons] at hlength
    exact (ih (by omega) (hended.of_suffix hmoves.rest) hreturn.2.2 h.2 hstart' hspent'
      (hmoves.pending.trans hpending) (hmoves.indents.trans hindents)
      (hmoves.brackets.trans hbrackets)).congr hfound

/-- The only token of a text of remarks is its end. -/
theorem tokens_of_remarks {cs : List Char} (h : isRemarks false cs = true) :
    (Tokens.ofText cs).broken = none ∧
      ∃ e, (Tokens.ofText cs).tokens.toList = [e] ∧ e.kind = .endMarker ∧ e.text = "" := by
  obtain ⟨ds, e, hrun, hlength, -, he⟩ := Scanner.over_of_remarks (Tokens.ofText cs).lines _
    (Nat.lt_succ_self _) (Scanner.atStart_ended cs) (return_notMem_normalizeLineEnds cs)
    ((isRemarks_normalizeLineEnds false cs).trans h) rfl rfl rfl rfl rfl
  obtain rfl := List.length_eq_zero_iff.1 hlength
  obtain ⟨htokens, hbroken⟩ := (Tokens.run_ofText cs).unique hrun
  exact ⟨hbroken, e, htokens, he⟩

/-! ## Statements -/

/-- Whether a text is read as no statements. -/
def isReadEmpty (cs : List Char) : Bool :=
  match parseModule cs with
  | .ok [] => true
  | _ => false

theorem isReadEmpty_iff {cs : List Char} : isReadEmpty cs = true ↔ parseModule cs = .ok [] := by
  unfold isReadEmpty
  split
  · simpa
  · rename_i hne
    simpa using hne

theorem isReadEmpty_nil : isReadEmpty [] = true := by decide +kernel

/-- A text of remarks is read as no statements. -/
theorem parseModule_of_remarks {cs : List Char}
    (hplain : ∀ c ∈ cs, Text.isSurrogate c = false ∧ c ≠ '\x00') (h : isRemarks false cs = true) :
    parseModule cs = .ok [] := by
  obtain ⟨-, e, htokens, hkind, htext⟩ := @tokens_of_remarks [] rfl
  obtain ⟨hwhole, e', htokens', hkind', htext'⟩ := tokens_of_remarks h
  have hin : InStep .self .flat 0 (Tokens.ofText []).tokens.toList (Tokens.ofText cs).tokens.toList := by
    rw [htokens, htokens']
    refine .ends rfl hkind (Token.alike_layout ?_ (hkind'.trans hkind.symm) (htext'.trans htext.symm))
    rw [Token.isLayout, hkind]
  obtain ⟨ss, hparse, hsame⟩ := parseModule_inStep rfl hin hwhole hplain (isReadEmpty_iff.1 isReadEmpty_nil)
  rw [hparse, List.map_eq_nil_iff.1 hsame.symm]

end Graft.Syntax

namespace Graft.Splice

open Syntax

/-- A snippet of remarks holds no statement. -/
theorem parseSnippet_of_remarks {code : List Char}
    (hplain : ∀ c ∈ code, Text.isSurrogate c = false ∧ c ≠ '\x00')
    (h : isRemarks false code = true) : parseSnippet code = .ok [] := by
  rw [parseSnippet, parseModule_of_remarks (fun c hc => hplain c (Text.mem_of_mem_dedent hc))
    (isRemarks_dedent h)]

end Graft.Splice
