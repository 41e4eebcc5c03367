import Graft.Proofs.Grammar.Parallel
import Graft.Proofs.Lexer.Runs
import Graft.Text.Dedent

set_option autoImplicit false

/-! # Two texts line by line

Two texts whose lines differ in the blanks that they begin with are read side by side.  Behind the
blanks of a line both readers have the same text before them up to the line's end. -/

namespace Graft.Syntax

open Text (isIndent)

/-- Two readers that know the same of the line, of the levels and of the brackets. -/
structure Scanner.Even (s s' : Scanner) : Prop where
  lineStart : s'.lineStart = s.lineStart
  pending : s'.pending = s.pending
  brackets : s'.brackets.map (·.bracket) = s.brackets.map (·.bracket)

/-- How two texts face each other: where they are seen from, and which lines may stand side by
    side. -/
structure Facing where
  vantage : Vantage
  /-- How many lines the second text has before those that it shares with the first. -/
  shift : Nat
  /-- The lines that may stand side by side where the first text has the line of this number. -/
  row : Nat → List Char → List Char → Prop
  content : ∀ {l a b}, row l a b → a.dropWhile isIndent = b.dropWhile isIndent
  place : ∀ {l pa pb c}, row l (pa ++ c) (pb ++ c) → pb ++ c ≠ [] →
    vantage.same (l, byteLength pa) (l + shift, byteLength pb)

namespace Facing

variable (F : Facing)

/-- The lines of two texts from a line on.  The first text may have one line more, of blanks alone,
    unless the line before that is continued. -/
inductive Rows : Nat → List Char → List Char → Prop
  | nil (l : Nat) : Rows l [] []
  | cons {l : Nat} {a b cs cs' : List Char} (row : F.row l a b) (clean : '\n' ∉ a)
      (clean' : '\n' ∉ b) (more : Rows (l + 1) cs cs')
      (last : a.getLast? = some '\\' → cs' = [] → cs = []) :
    Rows l (a ++ '\n' :: cs) (b ++ '\n' :: cs')
  | extra {l : Nat} {a : List Char} (row : F.row l a []) (ne : a ≠ [])
      (blank : a.all isIndent = true) : Rows l (a ++ ['\n']) []

/-- Both readers are in a line, behind `pa` and `pb`, with the same text `c` before them. -/
structure InLine (pa pb c cs cs' : List Char) (s s' : Scanner) : Prop where
  row : F.row s.line (pa ++ c) (pb ++ c)
  line : s'.line = s.line + F.shift
  spent : s.spent = false
  spent' : s'.spent = false
  rest : s.rest = c ++ '\n' :: cs
  rest' : s'.rest = c ++ '\n' :: cs'
  column : s.column = byteLength pa
  column' : s'.column = byteLength pb
  clean : '\n' ∉ c
  more : F.Rows (s.line + 1) cs cs'
  last : (pa ++ c).getLast? = some '\\' → cs' = [] → cs = []

/-- Both readers are at the beginning of a line, before blanks `x` and `y`. -/
structure AtMargin (x y c cs cs' : List Char) (s s' : Scanner) : Prop where
  row : F.row s.line (x ++ c) (y ++ c)
  line : s'.line = s.line + F.shift
  spent : s.spent = false
  spent' : s'.spent = false
  rest : s.rest = x ++ c ++ '\n' :: cs
  rest' : s'.rest = y ++ c ++ '\n' :: cs'
  column : s.column = 0
  column' : s'.column = 0
  blank : x.all isIndent = true
  blank' : y.all isIndent = true
  head : ∀ d, c.head? = some d → isIndent d = false
  clean : '\n' ∉ c
  more : F.Rows (s.line + 1) cs cs'
  last : (x ++ c).getLast? = some '\\' → cs' = [] → cs = []

/-- Both readers have read a line to its end. -/
structure AtEnd (s s' : Scanner) : Prop where
  line : s'.line = s.line + F.shift
  spent : s.spent = true
  spent' : s'.spent = true
  more : F.Rows (s.line + 1) s.rest s'.rest

end Facing

/-! ## Reading within a line -/

theorem byteLength_append (a b : List Char) : byteLength (a ++ b) = byteLength a + byteLength b := by
  have hfold : ∀ (cs : List Char) (n : Nat),
      cs.foldl (fun n c => n + c.utf8Size) n = n + byteLength cs := by
    intro cs
    induction cs with
    | nil => exact fun n => rfl
    | cons c cs ih =>
      intro n
      have hcons : byteLength (c :: cs) = cs.foldl (fun n c => n + c.utf8Size) (0 + c.utf8Size) :=
        rfl
      rw [List.foldl_cons, hcons, ih, ih]
      omega
  rw [byteLength, List.foldl_append, hfold]
  rfl

theorem byteLength_cons (c : Char) (cs : List Char) :
    byteLength (c :: cs) = c.utf8Size + byteLength cs := by
  have := byteLength_append [c] cs
  simpa [byteLength] using this

namespace Scanner

variable {s : Scanner}

theorem take_eq {c : Char} {rest : List Char} (h : s.rest = c :: rest) :
    s.take = { s with rest, column := s.column + c.utf8Size, spent := c == '\n' } := by
  simp only [take, h]

/-- Reading characters of a line. -/
theorem takeMany_eq {p rest : List Char} (hspent : s.spent = false) (h : s.rest = p ++ rest)
    (hclean : '\n' ∉ p) :
    s.takeMany p.length = { s with rest, column := s.column + byteLength p } := by
  induction p generalizing s with
  | nil =>
    obtain ⟨r, line, column, spent, heldFrom, lineStart, indents, pending, brackets⟩ := s
    obtain rfl : r = rest := h
    rfl
  | cons c p ih =>
    rw [List.mem_cons, not_or] at hclean
    have htake := @take_eq s c (p ++ rest) h
    have hne : (c == '\n') = false := by simpa using Ne.symm hclean.1
    rw [List.length_cons, takeMany, htake, hne, ih rfl rfl hclean.2, byteLength_cons,
      ← Nat.add_assoc, hspent]

theorem enter_enter (s : Scanner) (inToken : Bool) :
    (s.enter inToken).enter inToken = s.enter inToken := by
  unfold enter
  split <;> rfl

theorem enter_of_not_spent (h : s.spent = false) (inToken : Bool) : s.enter inToken = s := by
  simp [enter, h]

end Scanner

namespace Facing

variable {F : Facing} {pa pb p x y c cs cs' : List Char} {s s' : Scanner}

theorem InLine.takeMany (h : F.InLine pa pb (p ++ c) cs cs' s s') :
    F.InLine (pa ++ p) (pb ++ p) c cs cs' (s.takeMany p.length) (s'.takeMany p.length) := by
  have hclean := h.clean
  rw [List.mem_append, not_or] at hclean
  rw [Scanner.takeMany_eq h.spent (by rw [h.rest, List.append_assoc]) hclean.1,
    Scanner.takeMany_eq h.spent' (by rw [h.rest', List.append_assoc]) hclean.1]
  exact { row := by simpa using h.row
          line := h.line
          spent := h.spent
          spent' := h.spent'
          rest := rfl
          rest' := rfl
          column := by rw [byteLength_append, h.column]
          column' := by rw [byteLength_append, h.column']
          clean := hclean.2
          more := h.more
          last := by simpa using h.last }

theorem InLine.take {d : Char} (h : F.InLine pa pb (d :: c) cs cs' s s') :
    F.InLine (pa ++ [d]) (pb ++ [d]) c cs cs' s.take s'.take :=
  InLine.takeMany (p := [d]) h

/-- At the end of a line its end is read. -/
theorem InLine.takeEnd (h : F.InLine pa pb [] cs cs' s s') : F.AtEnd s.take s'.take := by
  rw [Scanner.take_eq h.rest, Scanner.take_eq h.rest']
  exact ⟨h.line, rfl, rfl, h.more⟩

theorem AtMargin.skip (h : F.AtMargin x y c cs cs' s s') :
    F.InLine x y c cs cs' (s.takeMany x.length) (s'.takeMany y.length) := by
  have hclean : ∀ z : List Char, z.all isIndent = true → '\n' ∉ z := fun z hz hmem =>
    absurd (List.all_eq_true.1 hz _ hmem) (by decide)
  rw [Scanner.takeMany_eq h.spent (by rw [h.rest, List.append_assoc]) (hclean x h.blank),
    Scanner.takeMany_eq h.spent' (by rw [h.rest', List.append_assoc]) (hclean y h.blank')]
  exact { row := h.row
          line := h.line
          spent := h.spent
          spent' := h.spent'
          rest := rfl
          rest' := rfl
          column := by rw [h.column, Nat.zero_add]
          column' := by rw [h.column', Nat.zero_add]
          clean := h.clean
          more := h.more
          last := h.last }

/-- Both readers enter the next line, if the second text has one. -/
theorem AtEnd.enter (h : F.AtEnd s s') (hne : s'.rest ≠ []) (inToken : Bool) :
    ∃ x y c cs cs', F.AtMargin x y c cs cs' (s.enter inToken) (s'.enter inToken) := by
  obtain ⟨hline, hspent, hspent', hmore⟩ := h
  generalize hl : s.line + 1 = l at hmore
  generalize hr : s.rest = r at hmore
  generalize hr' : s'.rest = r' at hmore hne
  cases hmore with
  | nil => exact absurd rfl hne
  | extra => exact absurd rfl hne
  | @cons _ a b cs cs' row clean clean' more last =>
    -- The rows differ in their margins only.
    have hcontent := F.content row
    have henter : s.enter inToken = { s with
        line := s.line + 1, column := 0, spent := false,
        heldFrom := if inToken then s.heldFrom else s.line + 1 } := by
      simp [Scanner.enter, hspent, hr]
    have henter' : s'.enter inToken = { s' with
        line := s'.line + 1, column := 0, spent := false,
        heldFrom := if inToken then s'.heldFrom else s'.line + 1 } := by
      simp [Scanner.enter, hspent', hr']
    refine ⟨a.takeWhile isIndent, b.takeWhile isIndent, a.dropWhile isIndent, cs, cs', ?_⟩
    have ha := List.takeWhile_append_dropWhile (p := isIndent) (l := a)
    have hb := List.takeWhile_append_dropWhile (p := isIndent) (l := b)
    rw [← hcontent] at hb
    rw [henter, henter']
    exact { row := by rw [ha, hb]; exact hl ▸ row
            line := by simp only [hline]; omega
            spent := rfl
            spent' := rfl
            rest := by rw [ha]; exact hr
            rest' := by rw [hb]; exact hr'
            column := rfl
            column' := rfl
            blank := List.all_takeWhile
            blank' := List.all_takeWhile
            head := fun d hd => by
              have := List.head?_dropWhile_not isIndent a
              rw [hd] at this
              simpa using this
            clean := fun hmem => clean (List.dropWhile_subset _ hmem)
            more := by rw [hl]; exact more
            last := by rw [ha]; exact last }

end Facing

end Graft.Syntax
