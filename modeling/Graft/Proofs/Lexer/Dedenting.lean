import Graft.Proofs.Lexer.SourceLines
import Mathlib.Data.List.TakeWhile

set_option autoImplicit false

/-! # A text beside what dedenting leaves of it

Dedenting cuts a text at its line feeds, takes what all lines begin with from each, and empties the
lines of blanks.  The lines of the text and those of what is left stand side by side, except that a
last line of blanks is lost if no line feed ends it. -/

namespace Graft.Text

/-! ## Lines between line feeds -/

theorem joinLines_cons (line : List Char) {rest : List (List Char)} (h : rest ≠ []) :
    joinLines (line :: rest) = line ++ '\n' :: joinLines rest := by
  cases rest with
  | nil => exact absurd rfl h
  | cons => rfl

theorem joinLines_eq_nil {lines : List (List Char)} (h : joinLines lines = []) (hne : lines ≠ []) :
    lines = [[]] := by
  match lines with
  | [] => exact absurd rfl hne
  | [line] => exact congrArg ([·]) h
  | line :: next :: rest =>
    rw [joinLines_cons line (List.cons_ne_nil _ _)] at h
    simp at h

theorem splitLines_ne_nil (cs : List Char) : splitLines cs ≠ [] := by
  fun_induction splitLines cs <;> simp

theorem joinLines_splitLines (cs : List Char) : joinLines (splitLines cs) = cs := by
  fun_induction splitLines cs with
  | case1 => rfl
  | case2 cs ih => rw [joinLines_cons _ (splitLines_ne_nil cs), ih]; rfl
  | case3 c cs _ hnil => exact absurd hnil (splitLines_ne_nil cs)
  | case4 c cs _ line rest heq ih =>
    rw [← ih, heq]
    cases rest <;> rfl

theorem newline_notMem_splitLines (cs : List Char) : ∀ line ∈ splitLines cs, '\n' ∉ line := by
  fun_induction splitLines cs with
  | case1 => simp
  | case2 cs ih => simpa using ih
  | case3 c cs _ hnil => exact absurd hnil (splitLines_ne_nil cs)
  | case4 c cs hc line rest heq ih =>
    rw [heq, List.forall_mem_cons] at ih
    refine List.forall_mem_cons.2 ⟨?_, ih.2⟩
    rw [List.mem_cons, not_or]
    exact ⟨fun h => hc h.symm, ih.1⟩

/-! ## Common indentation -/

theorem commonStart_prefix (a b : List Char) : commonStart a b <+: a ∧ commonStart a b <+: b := by
  fun_induction commonStart a b with
  | case1 a as b bs heq ih =>
    obtain rfl := eq_of_beq heq
    exact ⟨List.cons_prefix_cons.2 ⟨rfl, ih.1⟩, List.cons_prefix_cons.2 ⟨rfl, ih.2⟩⟩
  | case2 | case3 => exact ⟨List.nil_prefix, List.nil_prefix⟩

theorem foldl_commonStart_prefix (rest : List (List Char)) (first : List Char) :
    ∀ x ∈ first :: rest, rest.foldl commonStart first <+: x := by
  induction rest generalizing first with
  | nil => simp
  | cons y rest ih =>
    have hstart := ih (commonStart first y)
    rw [List.forall_mem_cons] at hstart
    obtain ⟨hfirst, hy⟩ := commonStart_prefix first y
    rw [List.forall_mem_cons, List.forall_mem_cons]
    exact ⟨hstart.1.trans hfirst, hstart.1.trans hy, hstart.2⟩

/-- Every line with content begins with the common indentation. -/
theorem commonIndent_begins {lines : List (List Char)} {line : List Char} (h : line ∈ lines)
    (hsolid : line.all isIndent = false) : commonIndent lines <+: line.takeWhile isIndent := by
  have hmem : line.takeWhile isIndent ∈ lines.filterMap fun line =>
      if line.all isIndent then none else some (line.takeWhile isIndent) :=
    List.mem_filterMap.2 ⟨line, h, by rw [hsolid]; rfl⟩
  unfold commonIndent
  dsimp only
  split
  · rename_i hnil
    rw [hnil] at hmem
    cases hmem
  · rename_i first rest heq
    rw [heq] at hmem
    exact foldl_commonStart_prefix rest first _ hmem

/-- A line without so many characters of indentation. -/
def strip (n : Nat) (line : List Char) : List Char :=
  if line.all isIndent then [] else line.drop n

/-- How many characters of indentation dedenting takes from the lines of a text. -/
def margin (cs : List Char) : Nat := (commonIndent (splitLines cs)).length

theorem dedent_eq (cs : List Char) :
    dedent cs = joinLines ((splitLines cs).map (strip (margin cs))) := rfl

theorem strip_of_blank {n : Nat} {line : List Char} (h : line.all isIndent = true) :
    strip n line = [] := if_pos h

theorem margin_le {cs line : List Char} (h : line ∈ splitLines cs)
    (hsolid : line.all isIndent = false) : margin cs ≤ (line.takeWhile isIndent).length :=
  (commonIndent_begins h hsolid).length_le

end Graft.Text

namespace Graft.Syntax

open Text (isIndent splitLines joinLines dedent strip margin)

/-! ## Texts side by side -/

/-- Two texts that are seen as they stand if nothing is taken from their lines, and otherwise so
    that all places look the same. -/
def Vantage.dedented (n : Nat) : Vantage where
  left := ⟨fun p => if n = 0 then p else (0, 0), by split <;> rfl⟩
  right := ⟨fun p => if n = 0 then p else (0, 0), by split <;> rfl⟩
  same p p' := n = 0 → p = p'
  place h := by
    dsimp only
    split
    · exact h ‹_›
    · rfl
  further h k column hn := by rw [h hn]

/-- The lines of a text, given by number, beside what is left of them if `n` characters of
    indentation are taken. -/
def Facing.dedented (text : List (List Char)) (n : Nat) : Facing where
  vantage := .dedented n
  shift := 0
  row l a b := text[l - 1]? = some a ∧ a.dropWhile isIndent = b.dropWhile isIndent
    ∧ (n = 0 → a = b ∨ (a.all isIndent = true ∧ b = []))
  content h := h.2.1
  place := by
    rintro l pa pb c ⟨-, -, hrow⟩ hne hn
    rcases hrow hn with heq | ⟨-, hnil⟩
    · rw [List.append_cancel_right heq]
      rfl
    · exact absurd hnil hne

namespace Facing

variable {text : List (List Char)} {n : Nat}

open Scanner (Margin)

/-- The margins of lines from which nothing is taken are the same. -/
def Margins.dedented (text : List (List Char)) (n : Nat) : (dedented text n).Margins where
  before _ m m' := n = 0 → m = m'
  after _ m m' := n = 0 → m = m'
  first _ _ := rfl
  blanks := by
    rintro l x y c m m' ⟨-, -, hrow⟩ - - hne hbefore hn
    rcases hrow hn with heq | ⟨-, hnil⟩
    · rw [List.append_cancel_right heq, hbefore hn]
    · exact absurd (List.append_eq_nil_iff.1 hnil).2 hne
  feed _ _ hafter d hn := by rw [hafter hn]
  back _ _ hafter hn := by rw [hafter hn]

theorem row_refl {l : Nat} {a : List Char} (h : text[l - 1]? = some a) :
    (dedented text n).row l a a :=
  ⟨h, rfl, fun _ => .inl rfl⟩

end Facing

/-! ## Lines of one line -/

theorem isIndent_ends {before : List Char} (h : before.all isIndent = true) :
    ∀ c ∈ before, c ≠ '\r' ∧ c ≠ '\n' := by
  intro c hc
  have := List.all_eq_true.1 h c hc
  constructor <;> rintro rfl <;> exact absurd this (by decide)

/-- A stretch between line feeds as lines, of which it may hold several. -/
theorem sourceLines_behind {blanks rest c : List Char} {ls : List (List Char)}
    (h : blanks.all isIndent = true) (hlines : sourceLines rest = c :: ls) :
    sourceLines (blanks ++ rest) = (blanks ++ c) :: ls := by
  have hclean := hlines ▸ fun l => @newline_notMem_of_mem_sourceLines rest l
  rw [List.forall_mem_cons] at hclean
  have hblanks : '\n' ∉ blanks := fun hmem => (isIndent_ends h _ hmem).2 rfl
  rw [sourceLines, normalizeLineEnds_behind (isIndent_ends h), ← unlines_sourceLines rest, hlines,
    unlines_cons, ← List.append_assoc, ← unlines_cons]
  refine textLines_unlines (List.forall_mem_cons.2 ⟨?_, hclean.2⟩)
  rw [List.mem_append, not_or]
  exact ⟨hblanks, hclean.1⟩

theorem sourceLines_nil : sourceLines [] = [[]] := rfl

theorem sourceLines_of_blank {blanks : List Char} (h : blanks.all isIndent = true) :
    sourceLines blanks = [blanks] := by
  have hlines := @sourceLines_behind blanks [] [] [] h sourceLines_nil
  rwa [List.append_nil] at hlines

/-- The lines on both sides of a line feed. -/
theorem sourceLines_feed {line : List Char} (h : '\n' ∉ line) (more : List Char) :
    sourceLines (line ++ '\n' :: more) =
      sourceLines line ++ if more = [] then [] else sourceLines more := by
  have hclean : ∀ l ∈ sourceLines line ++ (if more = [] then [] else sourceLines more), '\n' ∉ l := by
    intro l hl
    rcases List.mem_append.1 hl with hl | hl
    · exact newline_notMem_of_mem_sourceLines hl
    · split at hl
      · cases hl
      · exact newline_notMem_of_mem_sourceLines hl
  rw [← textLines_unlines hclean, sourceLines, normalizeLineEnds_feed h, unlines_append,
    unlines_sourceLines]
  split
  · rfl
  · rw [unlines_sourceLines]

theorem normalizeLineEnds_eq_newline {cs : List Char} (h : '\n' ∉ cs)
    (heq : normalizeLineEnds cs = ['\n']) : cs = [] ∨ cs = ['\r'] := by
  fun_cases normalizeLineEnds cs with
  | case1 => exact .inl rfl
  | case4 => exact .inr rfl
  | case2 | case3 | case5 => simp at h
  | case6 rest _ hrest _ | case7 c rest =>
    rw [normalizeLineEnds] at heq
    · exact absurd (List.cons.inj heq).2 (normalizeLineEnds_ne_nil _)
    all_goals assumption

/-- A stretch between line feeds ends like its last line, but for a carriage return. -/
theorem suffix_of_getLast {line : List Char} (h : '\n' ∉ line) {a : List Char}
    (ha : (sourceLines line).getLast? = some a) (hback : a.getLast? = some '\\') :
    ['\\'] <:+ line ∨ ['\\', '\r'] <:+ line := by
  have hsuffix : ['\\', '\n'] <:+ normalizeLineEnds line := by
    obtain ⟨ls, hls⟩ := List.getLast?_eq_some_iff.1 ha
    obtain ⟨front, rfl⟩ := List.getLast?_eq_some_iff.1 hback
    rw [← unlines_sourceLines, hls]
    exact ⟨unlines ls ++ front, by simp⟩
  clear ha hback
  -- The last line feed has been added, or a return at the end of the line has become one.
  induction line using normalizeLineEnds.induct with
  | case1 | case4 => exact absurd hsuffix.length_le (by decide)
  | case2 | case3 | case5 => simp at h
  | case6 rest hlast hne hboth ih =>
    rw [List.mem_cons, not_or] at h
    rw [normalizeLineEnds.eq_6] at hsuffix
    · obtain heq | hrest := List.suffix_cons_iff.1 hsuffix
      · exact absurd (List.cons.inj heq).1 (by decide)
      · exact (ih h.2 hrest).imp (·.trans (List.suffix_cons _ _)) (·.trans (List.suffix_cons _ _))
    all_goals simp_all
  | case7 c rest h₁ h₂ h₃ h₄ h₅ ih =>
    rw [List.mem_cons, not_or] at h
    have hreturn : c ≠ '\r' := by
      rintro rfl
      exact h₅ rfl
    rw [normalizeLineEnds_cons hreturn (Ne.symm h.1)] at hsuffix
    obtain heq | hrest := List.suffix_cons_iff.1 hsuffix
    · obtain ⟨rfl, hend⟩ := List.cons.inj heq
      obtain rfl | rfl := normalizeLineEnds_eq_newline h.2 hend.symm
      · exact .inl List.suffix_rfl
      · exact .inr List.suffix_rfl
    · exact (ih h.2 hrest).imp (·.trans (List.suffix_cons _ _)) (·.trans (List.suffix_cons _ _))

/-! ## What is left of a text -/

/-- Text that ends behind a line continuation in blanks, which no line feed ends. -/
def EndsContinued (cs : List Char) : Prop :=
  ∃ before blanks, cs = before ++ blanks ∧ blanks ≠ [] ∧ blanks.all isIndent = true
    ∧ (['\\', '\n'] <:+ before ∨ ['\\', '\r', '\n'] <:+ before)

theorem EndsContinued.behind {cs : List Char} (h : EndsContinued cs) (front : List Char) :
    EndsContinued (front ++ cs) := by
  obtain ⟨before, blanks, rfl, hne, hblank, hback⟩ := h
  refine ⟨front ++ before, blanks, by rw [List.append_assoc], hne, hblank, ?_⟩
  exact hback.imp (·.trans (List.suffix_append _ _)) (·.trans (List.suffix_append _ _))

namespace Facing

variable {text : List (List Char)} {n l : Nat} {X Y : List Char}

/-- What stands between two line feeds beside what is left of it. -/
theorem rows_strip {line : List Char} (hclean : '\n' ∉ line)
    (hn : line.all isIndent = false → n ≤ (line.takeWhile isIndent).length)
    (htext : ∀ i a, (sourceLines line)[i]? = some a → text[l + i]? = some a)
    (hmore : (dedented text n).Rows (l + 1 + (sourceLines line).length) X Y)
    (hlast : ['\\'] <:+ line ∨ ['\\', '\r'] <:+ line → Y = [] → X = []) :
    (dedented text n).Rows (l + 1) (normalizeLineEnds line ++ X)
      (normalizeLineEnds (strip n line) ++ Y) := by
  by_cases hblank : line.all isIndent = true
  · -- A line of blanks is emptied.
    have hlines := sourceLines_of_blank hblank
    rw [hlines] at htext hmore
    rw [Text.strip_of_blank hblank, ← unlines_sourceLines line, hlines]
    have hall : line.dropWhile isIndent = [] := List.dropWhile_eq_nil_iff.2 (List.all_eq_true.1 hblank)
    have hrow : (dedented text n).row (l + 1) line [] :=
      ⟨htext 0 line rfl, hall, fun _ => .inr ⟨hblank, rfl⟩⟩
    have hback : line.getLast? ≠ some '\\' := fun hback =>
      absurd (List.all_eq_true.1 hblank _ (List.mem_of_getLast? hback)) (by decide)
    have hrows := Rows.cons hrow hclean List.not_mem_nil hmore fun h => absurd h hback
    rw [unlines_cons, List.append_assoc]
    exact hrows
  · have hblank : line.all isIndent = false := by simpa using hblank
    have hstrip : strip n line = line.drop n := by rw [strip, hblank]; rfl
    -- What is taken is blanks, behind which both texts are the same.
    have htaken : (line.take n).all isIndent = true := by
      have hstart : line.take n <+: line.takeWhile isIndent :=
        List.prefix_of_prefix_length_le (List.take_prefix _ _) (List.takeWhile_prefix _)
          ((List.length_take_le _ _).trans (hn hblank))
      exact List.all_eq_true.2 fun c hc =>
        List.all_eq_true.1 List.all_takeWhile c (hstart.subset hc)
    rcases hrest : sourceLines (line.drop n) with _ | ⟨c, ls⟩
    · exact absurd hrest (sourceLines_ne_nil _)
    have hlines := sourceLines_behind htaken hrest
    rw [List.take_append_drop] at hlines
    have hcleans := fun a => @newline_notMem_of_mem_sourceLines line a
    rw [hlines, List.forall_mem_cons] at hcleans
    have hclean' := hrest ▸ fun a => @newline_notMem_of_mem_sourceLines (line.drop n) a
    rw [List.forall_mem_cons] at hclean'
    have hends : ∀ a, (sourceLines line).getLast? = some a → a.getLast? = some '\\' → Y = [] → X = [] :=
      fun a ha hback => hlast (suffix_of_getLast hclean ha hback)
    rw [hlines] at htext hmore hends
    have hcons : ∀ (a : List Char) (Z : List Char),
        unlines (a :: ls) ++ Z = a ++ '\n' :: (unlines ls ++ Z) := fun a Z => by simp
    rw [hstrip, ← unlines_sourceLines line, ← unlines_sourceLines (line.drop n), hlines, hrest,
      hcons, hcons]
    refine .cons ⟨htext 0 _ rfl, ?_, ?_⟩ hcleans.1 hclean'.1
      (rows_of_lines (fun i a ha => row_refl ?_) hcleans.2 ?_ fun a ha => hends a ?_) ?_
    · rw [List.dropWhile_append_of_pos (List.all_eq_true.1 htaken)]
    · rintro rfl
      exact .inl rfl
    · have := htext (i + 1) a ha
      rwa [show l + 1 + 1 + i - 1 = l + (i + 1) by omega]
    · rwa [Nat.add_assoc (l + 1), Nat.add_comm 1]
    · rw [List.getLast?_cons, ha]
      rfl
    · intro hback hnil
      rw [List.append_eq_nil_iff, unlines_eq_nil] at hnil ⊢
      obtain ⟨rfl, hY⟩ := hnil
      exact ⟨rfl, hends _ rfl hback hY⟩

/-- Where nothing is left of the last lines, there was one at most, and it was blank. -/
theorem blank_of_joinLines {ls : List (List Char)} (hne : ls ≠ [])
    (hn : ∀ line ∈ ls, line.all isIndent = false → n ≤ (line.takeWhile isIndent).length)
    (h : joinLines (ls.map (strip n)) = []) : ∃ line, ls = [line] ∧ line.all isIndent = true := by
  have hmap := Text.joinLines_eq_nil h (by simpa using hne)
  obtain ⟨line, rfl⟩ := List.length_eq_one_iff.1
    (show ls.length = 1 by rw [← List.length_map (strip n), hmap]; rfl)
  have hstrip : strip n line = [] := (List.cons.inj hmap).1
  refine ⟨line, rfl, ?_⟩
  by_contra hsolid
  rw [Bool.not_eq_true] at hsolid
  rw [strip, hsolid, if_neg (by decide), List.drop_eq_nil_iff] at hstrip
  -- All of the line would be indentation.
  have hlength := hn line List.mem_cons_self hsolid
  have hstart := (List.takeWhile_prefix isIndent (l := line)).eq_of_length_le (by omega)
  rw [← hstart, List.all_takeWhile] at hsolid
  cases hsolid

/-- A blank line at the end of the first text is left out of the second one. -/
theorem rows_blank {last : List Char} (hblank : last.all isIndent = true)
    (htext : last ≠ [] → text[l]? = some last) :
    (dedented text n).Rows (l + 1) (if last = [] then [] else normalizeLineEnds last) [] := by
  by_cases hlast : last = []
  · rw [if_pos hlast]
    exact .nil _
  · have hrow : (dedented text n).row (l + 1) last [] :=
      ⟨htext hlast, List.dropWhile_eq_nil_iff.2 (List.all_eq_true.1 hblank),
        fun _ => .inr ⟨hblank, rfl⟩⟩
    rw [if_neg hlast, ← unlines_sourceLines, sourceLines_of_blank hblank, unlines_cons, unlines_nil]
    exact .extra hrow hlast hblank

theorem rows_joinLines {ls : List (List Char)} (hne : ls ≠ []) (hclean : ∀ line ∈ ls, '\n' ∉ line)
    (hn : ∀ line ∈ ls, line.all isIndent = false → n ≤ (line.takeWhile isIndent).length)
    (htext : ∀ i a, (sourceLines (joinLines ls))[i]? = some a → text[l + i]? = some a)
    (hends : ¬EndsContinued (joinLines ls)) :
    (dedented text n).Rows (l + 1) (normalizeLineEnds (joinLines ls))
      (normalizeLineEnds (joinLines (ls.map (strip n)))) := by
  induction ls generalizing l with
  | nil => exact absurd rfl hne
  | cons line rest ih =>
    rw [List.forall_mem_cons] at hclean hn
    -- The last line has no end of its own.
    by_cases hrest : rest = []
    · subst hrest
      have hrows := rows_strip hclean.1 hn.1 htext (.nil _) fun _ h => h
      rwa [List.append_nil, List.append_nil] at hrows
    have hmap : rest.map (strip n) ≠ [] := by simpa using hrest
    have hstrip : '\n' ∉ strip n line := fun hmem => by
      unfold strip at hmem
      split at hmem
      · cases hmem
      · exact hclean.1 (List.mem_of_mem_drop hmem)
    rw [Text.joinLines_cons line hrest] at hends htext ⊢
    rw [sourceLines_feed hclean.1] at htext
    rw [List.map_cons, Text.joinLines_cons _ hmap, normalizeLineEnds_feed hclean.1,
      normalizeLineEnds_feed hstrip]
    refine rows_strip hclean.1 hn.1 (fun i a ha => htext i a ?_) ?_ fun hback hY => ?_
    · rw [List.getElem?_append_left (List.getElem?_eq_some_iff.1 ha).1, ha]
    · -- Nothing may be left of the lines that follow, if there is one and it is blank.
      by_cases hY : joinLines (rest.map (strip n)) = []
      · rw [if_pos hY]
        obtain ⟨last, rfl, hblank⟩ := blank_of_joinLines hrest hn.2 hY
        change (dedented text n).Rows _ (if last = [] then [] else normalizeLineEnds last) []
        rw [Nat.add_right_comm]
        refine rows_blank hblank fun hlast => htext (sourceLines line).length last ?_
        rw [List.getElem?_append_right le_rfl, Nat.sub_self]
        change (if last = [] then [] else sourceLines last)[0]? = _
        rw [if_neg hlast, sourceLines_of_blank hblank]
        rfl
      · have hX : joinLines rest ≠ [] := by
          intro hX
          rw [Text.joinLines_eq_nil hX hrest] at hY
          exact hY rfl
        rw [if_neg hX] at htext
        rw [if_neg hX, if_neg hY, Nat.add_right_comm]
        refine ih hrest hclean.2 hn.2 (fun i a ha => ?_) fun hcontinued => hends ?_
        · rw [Nat.add_assoc]
          refine htext _ a ?_
          rw [List.getElem?_append_right (by omega), Nat.add_sub_cancel_left, ha]
        · have hbehind := hcontinued.behind (line ++ ['\n'])
          rwa [List.append_assoc] at hbehind
    · have hY : joinLines (rest.map (strip n)) = [] := by
        by_contra hne
        rw [if_neg hne] at hY
        exact normalizeLineEnds_ne_nil _ hY
      obtain ⟨last, rfl, hblank⟩ := blank_of_joinLines hrest hn.2 hY
      change (if last = [] then [] else normalizeLineEnds last) = []
      by_contra hlast
      have hlast : last ≠ [] := fun hnil => hlast (if_pos hnil)
      refine hends ⟨line ++ ['\n'], last, by simp; rfl, hlast, hblank, ?_⟩
      exact hback.imp (fun ⟨u, hu⟩ => ⟨u, by simp [← hu]⟩) fun ⟨u, hu⟩ => ⟨u, by simp [← hu]⟩

/-- The lines of a text and those of what dedenting leaves of it stand side by side. -/
theorem rows_dedent {cs : List Char} (hends : ¬EndsContinued cs) :
    (dedented (sourceLines cs) (margin cs)).Rows 1 (normalizeLineEnds cs)
      (normalizeLineEnds (dedent cs)) := by
  have hrows := @rows_joinLines (sourceLines cs) (margin cs) 0 (Text.splitLines cs)
    (Text.splitLines_ne_nil cs) (Text.newline_notMem_splitLines cs) (fun _ => Text.margin_le)
  rw [Text.joinLines_splitLines, ← Text.dedent_eq] at hrows
  exact hrows (fun i a ha => by rwa [Nat.zero_add]) hends

end Facing

/-! ## Lines that are indented alike -/

/-- A carriage return ends a line together with a line feed, or the text. -/
def NoLoneReturn (cs : List Char) : Prop := ∀ line ∈ splitLines cs, '\r' ∉ line.dropLast

/-- Without carriage returns of their own, lines are what stands between line feeds. -/
theorem sourceLines_of_noReturn {line : List Char} (h : '\n' ∉ line) (hreturn : '\r' ∉ line.dropLast) :
    ∃ a, sourceLines line = [a] ∧ a <+: line := by
  rcases List.eq_nil_or_concat line with rfl | ⟨front, c, rfl⟩
  · exact ⟨[], rfl, List.prefix_rfl⟩
  rw [List.concat_eq_append] at *
  rw [List.dropLast_concat] at hreturn
  rw [List.mem_append, not_or] at h
  have hfront : ∀ d ∈ front, d ≠ '\r' ∧ d ≠ '\n' := fun d hd =>
    ⟨fun heq => hreturn (heq ▸ hd), fun heq => h.1 (heq ▸ hd)⟩
  by_cases hc : c = '\r'
  · subst hc
    refine ⟨front, ?_, List.prefix_append _ _⟩
    rw [sourceLines, normalizeLineEnds_behind hfront]
    exact textLines_line h.1 []
  · refine ⟨front ++ [c], ?_, List.prefix_rfl⟩
    have hfeed : c ≠ '\n' := fun heq => h.2 (heq ▸ List.mem_cons_self)
    rw [sourceLines, normalizeLineEnds_behind hfront, normalizeLineEnds_cons hc hfeed]
    have hclean : '\n' ∉ front ++ [c] := by
      rw [List.mem_append, not_or]
      exact h
    have hline := textLines_line hclean []
    rwa [List.append_assoc] at hline

theorem mem_sourceLines_joinLines {ls : List (List Char)} (hne : ls ≠ [])
    (hclean : ∀ line ∈ ls, '\n' ∉ line) {a : List Char} (ha : a ∈ sourceLines (joinLines ls)) :
    ∃ line ∈ ls, a ∈ sourceLines line := by
  induction ls with
  | nil => exact absurd rfl hne
  | cons line rest ih =>
    rw [List.forall_mem_cons] at hclean
    by_cases hrest : rest = []
    · subst hrest
      exact ⟨line, List.mem_cons_self, ha⟩
    rw [Text.joinLines_cons line hrest, sourceLines_feed hclean.1, List.mem_append] at ha
    rcases ha with ha | ha
    · exact ⟨line, List.mem_cons_self, ha⟩
    · split at ha
      · cases ha
      · obtain ⟨line', hmem, ha⟩ := ih hrest hclean.2 ha
        exact ⟨line', List.mem_cons_of_mem _ hmem, ha⟩

theorem beginsInset_unlines {ls : List (List Char)}
    (h : ∀ a ∈ ls, ∀ c, a.head? = some c → isIndent c = true) (hclean : ∀ a ∈ ls, '\n' ∉ a) :
    Scanner.BeginsInset (unlines ls)
      ∧ ∀ p q, unlines ls = p ++ '\n' :: q → Scanner.BeginsInset q := by
  induction ls with
  | nil => exact ⟨nofun, fun p q heq => by simp at heq⟩
  | cons a ls ih =>
    rw [List.forall_mem_cons] at h hclean
    obtain ⟨hbegins, hahead⟩ := ih h.2 hclean.2
    rw [unlines_cons]
    refine ⟨?_, fun p q heq => ?_⟩
    · rcases a with _ | ⟨c, a⟩
      · rintro _ ⟨⟩
        exact .inr rfl
      · exact fun d hd => .inl (h.1 d hd)
    · -- The line feed is that of the first line, or it comes later.
      obtain ⟨p', rfl, hp⟩ | ⟨a', rfl, ha⟩ := List.append_eq_append_iff.1 heq
      · rcases p' with _ | ⟨d, p'⟩
        · rw [List.nil_append] at hp
          exact (List.cons.inj hp).2 ▸ hbegins
        · exact hahead p' q (List.cons.inj hp).2
      · rcases a' with _ | ⟨d, a'⟩
        · rw [List.nil_append] at ha
          exact (List.cons.inj ha).2 ▸ hbegins
        · obtain ⟨rfl, -⟩ := List.cons.inj ha
          exact absurd (List.mem_append_right p List.mem_cons_self) hclean.1

/-- If all lines with content are indented, the reader finds every line empty or indented. -/
theorem inset_of_margin {cs : List Char} (hreturn : NoLoneReturn cs) (hmargin : 0 < margin cs) :
    (Scanner.atStart cs).Inset := by
  have hclean := Text.newline_notMem_splitLines cs
  have hline : ∀ a ∈ sourceLines cs, ∀ c, a.head? = some c → isIndent c = true := by
    intro a ha c hc
    rw [← Text.joinLines_splitLines cs] at ha
    obtain ⟨line, hmem, ha⟩ := mem_sourceLines_joinLines (Text.splitLines_ne_nil cs) hclean ha
    obtain ⟨a', hlines, hstart⟩ := sourceLines_of_noReturn (hclean line hmem) (hreturn line hmem)
    rw [hlines, List.mem_singleton] at ha
    subst ha
    obtain ⟨d, rfl⟩ : ∃ d, a = c :: d := by
      cases a with
      | nil => cases hc
      | cons e d => exact ⟨d, by rw [Option.some.inj hc]⟩
    obtain ⟨rest, rfl⟩ := hstart
    by_cases hblank : (c :: d ++ rest).all isIndent = true
    · exact List.all_eq_true.1 hblank c List.mem_cons_self
    · have hle := Text.margin_le hmem (by simpa using hblank)
      by_contra hc
      rw [List.cons_append, List.takeWhile_cons_of_neg (by simpa using hc)] at hle
      exact absurd (hmargin.trans_le hle) (Nat.lt_irrefl 0)
  obtain ⟨hbegins, hahead⟩ :=
    beginsInset_unlines hline fun a => newline_notMem_of_mem_sourceLines
  rw [unlines_sourceLines] at hbegins hahead
  exact ⟨fun _ => hbegins, hahead⟩

end Graft.Syntax
