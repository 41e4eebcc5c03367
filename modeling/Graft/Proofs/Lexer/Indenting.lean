import Graft.Proofs.Lexer.SourceLines
import Graft.Splice.Fragment
import Mathlib.Data.List.Forall2

set_option autoImplicit false

/-! # A text beside itself indented

The lines of a text stand beside those of the same text with blanks in front of its lines, which are
read as a block under a header line of their own.  Every line that begins a logical line has the
blanks; lines within strings have none; for other lines they make no difference. -/

namespace Graft.Syntax

open Text (isIndent)
open Scanner (Margin Begins)

/-! ## Logical lines -/

/-- The lines in which a token that is no layout stands behind layout, or comes first. -/
def logicalStarts : Bool → List Token → List Nat
  | _, [] => []
  | fresh, t :: ts =>
    (if fresh && !t.isLayout then [t.line] else []) ++ logicalStarts t.isLayout ts

/-- The numbers of the lines of a text that begin logical lines. -/
def logicalLines (cs : List Char) : List Nat :=
  logicalStarts true (Tokens.ofText cs).tokens.toList

theorem begins_of_logicalStarts {P : Nat → Prop} {ts : List Token} {fresh : Bool}
    (h : ∀ l ∈ logicalStarts fresh ts, P l) : Begins P fresh ts := by
  induction ts generalizing fresh with
  | nil => trivial
  | cons t ts ih =>
    rw [logicalStarts, List.forall_mem_append] at h
    refine ⟨fun hfresh hsolid => h.1 t.line ?_, ih h.2⟩
    simp [hfresh, hsolid]

/-! ## The margin of an indented line -/

namespace Scanner.Margin

variable {m : Margin} {w : List Char}

theorem foldl_read_continued (w : List Char) (m : Margin) :
    (w.foldl Margin.read m).continued = m.continued := by
  induction w generalizing m with
  | nil => rfl
  | cons c w ih =>
    rw [List.foldl_cons, ih]
    unfold Margin.read
    split_ifs <;> rfl

/-- Blanks have some depth by either measure. -/
theorem foldl_read_pos (hne : w ≠ []) (hw : w.all isIndent = true) :
    0 < (w.foldl Margin.read m).wide ∧ 0 < (w.foldl Margin.read m).narrow := by
  obtain ⟨front, c, rfl⟩ := (List.eq_nil_or_concat w).resolve_left hne
  rw [List.concat_eq_append] at hw ⊢
  rw [List.foldl_append, List.foldl_cons, List.foldl_nil]
  have hc : isIndent c = true := List.all_eq_true.1 hw c (by simp)
  simp only [isIndent, Bool.or_eq_true, beq_iff_eq] at hc
  rcases hc with rfl | rfl
  · exact ⟨Nat.succ_pos _, Nat.succ_pos _⟩
  · exact ⟨by simp [Margin.read], Nat.succ_pos _⟩

theorem foldl_read_spaces (n : Nat) (m : Margin) :
    (List.replicate n ' ').foldl Margin.read m =
      { m with wide := m.wide + n, narrow := m.narrow + n } := by
  induction n generalizing m with
  | zero => rfl
  | succ n ih =>
    rw [List.replicate_succ, List.foldl_cons, ih]
    simp only [Margin.read, beq_self_eq_true, if_true]
    congr 1 <;> omega

end Scanner.Margin

/-- Texts of which the second is indented by some blanks more, below a level of its own. -/
def Nesting.indented (w : List Char) (hne : w ≠ []) (hw : w.all isIndent = true) : Nesting where
  deeper := ((w.foldl Margin.read {}).wide, (w.foldl Margin.read {}).narrow)
  base := [(0, 0)]
  valid := .inr ⟨rfl, (Margin.foldl_read_pos hne hw).1, (Margin.foldl_read_pos hne hw).2⟩

/-! ## Lines side by side -/

/-- Two texts that are seen line by line, where the second one has a line before those of the
    first. -/
def Vantage.indented : Vantage where
  left := ⟨fun p => (p.1, 0), rfl⟩
  right := ⟨fun p => (p.1 - 1, 0), rfl⟩
  same p p' := p'.1 = p.1 + 1
  place h := by simp [h]
  further h n column := by simp only [h]; omega

/-- Lines of a text, given by number, beside the same lines with or without blanks in front. -/
def Facing.indented {w : List Char} (hw : w.all isIndent = true) (text text' : List (List Char)) :
    Facing where
  vantage := .indented
  shift := 1
  row l a b := 0 < l ∧ text[l - 1]? = some a ∧ text'[l - 1]? = some b ∧ (b = a ∨ b = w ++ a)
  content := by
    rintro l a b ⟨-, -, -, rfl | rfl⟩
    · rfl
    · rw [List.dropWhile_append_of_pos (List.all_eq_true.1 hw)]
  place _ _ := rfl

/-- Blanks `w` are put in front of lines of a text: of those that begin logical lines, but not of
    those within strings. -/
structure Indents (w cs cs' : List Char) : Prop where
  lines : List.Forall₂ (fun a b => b = a ∨ b = w ++ a) (sourceLines cs) (sourceLines cs')
  logical : ∀ l ∈ logicalLines cs, ∀ a, (sourceLines cs)[l - 1]? = some a →
    (sourceLines cs')[l - 1]? = some (w ++ a)
  strings : ∀ t ∈ (Tokens.ofText cs).tokens.toList, t.kind = .string →
    ∀ l, t.line < l → l ≤ t.endLine → (sourceLines cs')[l - 1]? = (sourceLines cs)[l - 1]?

/-- The logical lines of a text are indented with spaces alone, each in the line in which its first
    token stands. -/
structure SpaceIndented (cs : List Char) : Prop where
  feeds : '\x0c' ∉ cs
  spaces : ∀ l ∈ logicalLines cs, ∀ a, (sourceLines cs)[l - 1]? = some a →
    ∀ c ∈ a.takeWhile isIndent, c = ' '
  whole : ∀ l ∈ logicalLines cs, 1 < l → ∀ a, (sourceLines cs)[l - 2]? = some a →
    a.dropWhile isIndent ≠ ['\\']

theorem mem_of_mem_normalizeLineEnds {c : Char} {cs : List Char} (h : c ∈ normalizeLineEnds cs) :
    c ∈ cs ∨ c = '\n' := by
  fun_induction normalizeLineEnds cs <;> simp_all <;> grind

theorem mem_of_mem_sourceLines {c : Char} {cs a : List Char} (ha : a ∈ sourceLines cs) (hc : c ∈ a) :
    c ∈ cs := by
  have hmem : c ∈ normalizeLineEnds cs := by
    rw [← unlines_sourceLines, unlines, List.mem_flatMap]
    exact ⟨a, ha, List.mem_append_left _ hc⟩
  refine (mem_of_mem_normalizeLineEnds hmem).resolve_right ?_
  rintro rfl
  exact newline_notMem_of_mem_sourceLines ha hc

namespace Facing

variable {w cs cs' : List Char} {hne : w ≠ []} {hw : w.all isIndent = true}

/-- A line of blanks and a backslash, behind which the margin of a line may go on. -/
def BehindBackslash (text : List (List Char)) (l : Nat) : Prop :=
  1 < l ∧ ∃ a, text[l - 2]? = some a ∧ a.dropWhile isIndent = ['\\']

theorem depth_of_blanks {x : List Char} (hx : ∀ c ∈ x, c = ' ') :
    ((w ++ x).foldl Margin.read {}).depth =
      (Nesting.indented w hne hw).deepen (x.foldl Margin.read {}).depth := by
  obtain ⟨n, rfl⟩ : ∃ n, x = List.replicate n ' ' := ⟨x.length, List.eq_replicate_iff.2 ⟨rfl, hx⟩⟩
  have hcontinued := Margin.foldl_read_continued w {}
  rw [List.foldl_append, Margin.foldl_read_spaces, Margin.foldl_read_spaces]
  simp only [Margin.depth, hcontinued, Nesting.deepen, Nesting.indented, Nat.zero_add]
  rw [Nat.add_comm n, Nat.add_comm n]

/-- The margins of lines of which those that begin logical lines have blanks in front. -/
def Margins.indented (h : Indents w cs cs') (hspace : SpaceIndented cs) :
    (indented hw (sourceLines cs) (sourceLines cs')).Margins where
  before l m m' := (m = {} ∧ m' = {}) ∨ BehindBackslash (sourceLines cs) l
  after l m m' := l ∈ logicalLines cs → m'.depth = (Nesting.indented w hne hw).deepen m.depth
  first _ := .inl ⟨rfl, rfl⟩
  blanks := by
    rintro l x y c m m' ⟨-, ha, hb, -⟩ hx - - hbefore hl
    obtain ⟨rfl, rfl⟩ | ⟨hlt, a, ha, hback⟩ := hbefore
    swap
    · exact absurd hback (hspace.whole l hl hlt a ha)
    have hboth := h.logical l hl _ ha
    rw [hb, Option.some.injEq, ← List.append_assoc] at hboth
    obtain rfl := List.append_cancel_right hboth
    refine depth_of_blanks fun d hd => hspace.spaces l hl _ ha d ?_
    rw [List.takeWhile_append_of_pos (List.all_eq_true.1 hx)]
    exact List.mem_append_left _ hd
  feed := by
    rintro l a b m m' ⟨-, ha, -⟩ hfeed
    exact absurd (mem_of_mem_sourceLines (List.mem_of_getElem? ha) hfeed) hspace.feeds
  back := by
    rintro l x y m m' ⟨hpos, ha, -⟩ hx -
    have hmem : x ++ ['\\'] ∈ sourceLines cs := List.mem_of_getElem? ha
    have hblank : ∀ c ∈ x, isIndent c = true := by
      intro c hc
      have hmargin := List.all_eq_true.1 hx c hc
      rw [Scanner.isMargin, Bool.or_eq_true, beq_iff_eq] at hmargin
      refine hmargin.resolve_right ?_
      rintro rfl
      exact hspace.feeds (mem_of_mem_sourceLines hmem (List.mem_append_left _ hc))
    refine .inr ⟨Nat.succ_lt_succ hpos, _, ha, ?_⟩
    rw [List.dropWhile_append_of_pos hblank]
    rfl

theorem deepens_indented (h : Indents w cs cs') (hspace : SpaceIndented cs) :
    Deepens (@Margins.indented _ _ _ hne hw h hspace) (.indented w hne hw)
      (· ∈ logicalLines cs) :=
  fun _ _ _ hl hafter => hafter hl

theorem exact_indented (h : Indents w cs cs') {t : Token}
    (ht : t ∈ (Tokens.ofText cs).tokens.toList) :
    (indented hw (sourceLines cs) (sourceLines cs')).Exact t := by
  rintro hstring l a b hlt hle ⟨-, ha, hb, -⟩
  rw [h.strings t ht hstring l hlt hle, ha] at hb
  exact Option.some.inj hb

/-- Lines in pairs. -/
theorem rows_of_forall₂ {F : Facing} {R : List Char → List Char → Prop} {A B : List (List Char)}
    (h : List.Forall₂ R A B) {l : Nat}
    (hrow : ∀ i a b, A[i]? = some a → B[i]? = some b → R a b → F.row (l + i) a b)
    (hclean : ∀ a ∈ A, '\n' ∉ a) (hclean' : ∀ b ∈ B, '\n' ∉ b) :
    F.Rows l (unlines A) (unlines B) := by
  induction h generalizing l with
  | nil => exact .nil l
  | @cons a b A B hab hmore ih =>
    rw [List.forall_mem_cons] at hclean hclean'
    rw [unlines_cons, unlines_cons]
    refine .cons (hrow 0 a b rfl rfl hab) hclean.1 hclean'.1
      (ih (fun i c d hc hd hcd => ?_) hclean.2 hclean'.2) fun _ hnil => ?_
    · rw [Nat.add_assoc, Nat.add_comm 1]
      exact hrow (i + 1) c d hc hd hcd
    · rw [unlines_eq_nil] at hnil ⊢
      subst hnil
      exact List.forall₂_nil_right_iff.1 hmore

theorem rows_indented (h : Indents w cs cs') :
    (indented hw (sourceLines cs) (sourceLines cs')).Rows 1 (normalizeLineEnds cs)
      (normalizeLineEnds cs') := by
  rw [← unlines_sourceLines, ← unlines_sourceLines]
  refine rows_of_forall₂ h.lines (fun i a b ha hb hab => ⟨by omega, ?_, ?_, hab⟩)
    (fun a => newline_notMem_of_mem_sourceLines) fun b => newline_notMem_of_mem_sourceLines
  · rwa [Nat.add_sub_cancel_left]
  · rwa [Nat.add_sub_cancel_left]

end Facing

/-! ## The header line -/

namespace Scanner

/-- The reader within the header line. -/
def withinHeader (rest : List Char) (column : Nat) : Scanner :=
  { rest, column, line := 1, spent := false, heldFrom := 1, lineStart := false }

/-- The reader behind the header line. -/
def behindHeader (rest : List Char) : Scanner :=
  { rest, column := 6, line := 1, heldFrom := 1 }

/-- The kinds and texts of the tokens of the header line. -/
def headerLooks : List (TokenKind × String) :=
  [(.keyword, "if"), (.number, "1"), (.operator, ":"), (.newline, "")]

/-- The tokens of the header line come before those of the text behind it. -/
theorem run_header {lines : Array (List Char)} {cs : List Char} (hne : cs ≠ []) {ts : List Token}
    {b : Option Break} (h : (behindHeader (normalizeLineEnds cs)).Run lines ts b) :
    ∃ front : List Token, (atStart (Splice.blockHeader ++ cs)).Run lines (front ++ ts) b
      ∧ front.map (fun t => (t.kind, t.text)) = headerLooks := by
  generalize hR : normalizeLineEnds cs = R at h
  have hstart : atStart (Splice.blockHeader ++ cs) =
      { rest := 'i' :: 'f' :: ' ' :: '1' :: ':' :: '\n' :: R } := by
    have hchars := @normalizeLineEnds_feed ['i', 'f', ' ', '1', ':'] (by decide) cs
    rw [if_neg hne, hR] at hchars
    exact congrArg (fun rest => ({ rest } : Scanner)) hchars
  have hif : Found lines { rest := 'i' :: 'f' :: ' ' :: '1' :: ':' :: '\n' :: R }
      (.token ⟨.keyword, "if", 1, some 0, 1, some 2, 0, ⟨1, 2, 1⟩⟩)
      (withinHeader (' ' :: '1' :: ':' :: '\n' :: R) 2) :=
    .piece (t := withinHeader ('i' :: 'f' :: ' ' :: '1' :: ':' :: '\n' :: R) 0) rfl rfl rfl nofun
  have hone : Found lines (withinHeader (' ' :: '1' :: ':' :: '\n' :: R) 2)
      (.token ⟨.number, "1", 1, some 3, 1, some 4, 0, ⟨1, 4, 1⟩⟩)
      (withinHeader (':' :: '\n' :: R) 4) := .piece rfl rfl rfl nofun
  have hcolon : Found lines (withinHeader (':' :: '\n' :: R) 4)
      (.token ⟨.operator, ":", 1, some 4, 1, some 5, 0, ⟨1, 5, 1⟩⟩)
      (withinHeader ('\n' :: R) 5) := .piece rfl rfl rfl nofun
  have hend : Found lines (withinHeader ('\n' :: R) 5)
      (.token ⟨.newline, "", 1, some 5, 1, some 5, 0, ⟨1, 6, 1⟩⟩) (behindHeader R) :=
    .piece rfl rfl rfl nofun
  rw [hstart]
  exact ⟨[_, _, _, _], .more hif (by decide) (.more hone (by decide) (.more hcolon (by decide)
    (.more hend (by decide) h))), rfl⟩

end Scanner

section Tokens

variable {w cs cs' : List Char} {tok : Token} {ts : List Token}

/-- Before the first text, and behind the header line of the second. -/
theorem opening_indented (hw : w.all isIndent = true) (h : Indents w cs cs') :
    (Facing.indented hw (sourceLines cs) (sourceLines cs')).Opening (.atStart cs)
      (.behindHeader (normalizeLineEnds cs')) where
  even := ⟨rfl, rfl, rfl⟩
  ends := ⟨rfl, rfl, rfl, Facing.rows_indented h⟩
  lineStart := rfl
  pending := rfl
  brackets := rfl
  indents := rfl
  indents' := rfl
  ended := Scanner.atStart_ended cs
  ended' := Scanner.atStart_ended cs'

/-- **The tokens of an indented text** behind the header line are those of the text in step, in a
    block of their own. -/
theorem tokens_indented (hne : w ≠ []) (hw : w.all isIndent = true) (h : Indents w cs cs')
    (hspace : SpaceIndented cs) (hne' : cs' ≠ []) (hwhole : (Tokens.ofText cs).broken = none)
    (htokens : (Tokens.ofText cs).tokens.toList = tok :: ts) (hsolid : tok.isLayout = false)
    (hroom : ∀ k, (((tok :: ts).take k).map Reading.opening).sum + 1 < (maxIndents : Int)) :
    (Tokens.ofText (Splice.blockHeader ++ cs')).broken = none ∧ ∃ front d ts',
      (Tokens.ofText (Splice.blockHeader ++ cs')).tokens.toList = front ++ d :: ts'
        ∧ front.map (fun t => (t.kind, t.text)) = Scanner.headerLooks ∧ d.kind = .indent
        ∧ InStep .indented (.indented w hne hw) 0 (tok :: ts) ts' := by
  have hrun := Tokens.run_ofText cs
  rw [hwhole, htokens] at hrun
  have hbegins : Begins (· ∈ logicalLines cs) true (tok :: ts) := by
    rw [← htokens]
    exact begins_of_logicalStarts fun _ hl => hl
  have hexact : ∀ t ∈ tok :: ts, (Facing.indented hw (sourceLines cs) (sourceLines cs')).Exact t :=
    fun t ht => Facing.exact_indented h (by rwa [htokens])
  obtain ⟨u, hfound⟩ : ∃ u, Scanner.Found (Tokens.ofText cs).lines (.atStart cs) (.token tok) u := by
    cases hrun with
    | ends found _ | more found _ _ => exact ⟨_, found⟩
  obtain ⟨d, ts', hrun', hd, hin⟩ := Facing.run_opening
    (Tokens.ofText (Splice.blockHeader ++ cs')).lines (Facing.deepens_indented h hspace) rfl hfound rfl
    hsolid hrun (opening_indented hw h) hbegins hexact hroom
  obtain ⟨front, hrun', hfront⟩ := Scanner.run_header hne' hrun'
  obtain ⟨htokens', hbroken⟩ := (Tokens.run_ofText _).unique hrun'
  exact ⟨hbroken, front, d, ts', htokens', hfront, hd, hin⟩

end Tokens

end Graft.Syntax
