import Graft.Proofs.Grammar.TwoTexts
import Graft.Proofs.Lexer.Dedenting
import Graft.Splice.Fragment

set_option autoImplicit false

/-! # Snippets and the text as it stands

A snippet loses the indentation that its lines have in common before it is read.  If its statements
begin in the first column, nothing is taken from a line but the blanks of lines that hold nothing
else.  That matters in two places: within a string over several lines, whose text it changes, and at
the end of a text behind a line continuation, which then has nothing left to continue with. -/

namespace Graft.Text

theorem mem_of_mem_joinLines_strip {n : Nat} {c : Char} {lines : List (List Char)}
    (h : c ∈ joinLines (lines.map (strip n))) : c ∈ joinLines lines := by
  have hstrip : ∀ {line : List Char}, c ∈ strip n line → c ∈ line := by
    intro line hc
    unfold strip at hc
    split at hc
    · cases hc
    · exact List.mem_of_mem_drop hc
  induction lines with
  | nil => exact h
  | cons line rest ih =>
    by_cases hrest : rest = []
    · subst hrest
      exact hstrip h
    · rw [List.map_cons, joinLines_cons _ (by simpa using hrest), List.mem_append, List.mem_cons] at h
      rw [joinLines_cons _ hrest, List.mem_append, List.mem_cons]
      exact h.imp hstrip (Or.imp_right ih)

/-- Dedenting adds no characters. -/
theorem mem_of_mem_dedent {c : Char} {cs : List Char} (h : c ∈ dedent cs) : c ∈ cs := by
  rw [dedent_eq] at h
  simpa [joinLines_splitLines] using mem_of_mem_joinLines_strip h

end Graft.Text

namespace Graft.Syntax

open Text (isIndent dedent margin)

/-- A string literal of a text goes on in a line of blanks. -/
def SpansBlanks (cs : List Char) : Prop :=
  ∃ t ∈ (Tokens.ofText cs).tokens.toList, t.kind = .string
    ∧ ∃ a ∈ ((sourceLines cs).drop t.line).take (t.endLine - t.line), a ≠ [] ∧ a.all isIndent = true

instance (cs : List Char) : Decidable (SpansBlanks cs) :=
  inferInstanceAs (Decidable (∃ t ∈ (Tokens.ofText cs).tokens.toList, t.kind = .string
    ∧ ∃ a ∈ ((sourceLines cs).drop t.line).take (t.endLine - t.line), a ≠ [] ∧ a.all isIndent = true))

instance (cs : List Char) : Decidable (NoLoneReturn cs) :=
  inferInstanceAs (Decidable (∀ line ∈ Text.splitLines cs, '\r' ∉ line.dropLast))

theorem not_endsContinued {cs : List Char} (h : cs.getLast? = some '\n') : ¬EndsContinued cs := by
  rintro ⟨before, blanks, rfl, hne, hblank, -⟩
  rw [List.getLast?_append_of_ne_nil _ hne] at h
  exact absurd (List.all_eq_true.1 hblank _ (List.mem_of_getLast? h)) (by decide)

/-- Two texts that begin in the same column. -/
def Nesting.flat : Nesting := ⟨(0, 0), [], .inl ⟨rfl, rfl⟩⟩

theorem begins_of_forall {P : Nat → Prop} {ts : List Token} (h : ∀ t ∈ ts, t.isLayout = false → P t.line)
    (fresh : Bool) : Scanner.Begins P fresh ts := by
  induction ts generalizing fresh with
  | nil => trivial
  | cons t ts ih =>
    rw [List.forall_mem_cons] at h
    exact ⟨fun _ => h.1, ih h.2 _⟩

variable {cs : List Char} {ss : List Stmt}

/-- A statement that begins in the first column begins with a token there. -/
theorem exists_token_of_column (h : parseModule cs = .ok ss) {s : Stmt} (hs : s ∈ ss)
    (hcolumn : s.span.column = 0) :
    ∃ t ∈ (Tokens.ofText cs).tokens.toList, t.isLayout = false ∧ t.column.getD 0 = 0 := by
  obtain ⟨b, rows, hlies, -, rfl⟩ := parseModule_lies h
  obtain ⟨r, hr, rfl⟩ := List.mem_map.1 hs
  obtain ⟨-, ⟨-, -, k, -, ⟨t, ht, hsolid⟩, hspan, -⟩, -⟩ := hlies.within r hr
  refine ⟨t, ?_, hsolid, ?_⟩
  · rw [Array.mem_toList_iff]
    exact Array.mem_of_getElem? ht
  · rw [hspan, Reading.spanFrom, ht] at hcolumn
    exact hcolumn

/-- If all lines with content are indented, but statements begin in the first column, then there are
    none, and no tokens but the end. -/
theorem nothing_of_margin (h : parseModule cs = .ok ss) (hcolumn : ∀ s ∈ ss, s.span.column = 0)
    (hreturn : NoLoneReturn cs) (hmargin : 0 < margin cs) :
    ss = [] ∧ ∀ t ∈ (Tokens.ofText cs).tokens.toList, t.isLayout = true := by
  have hwhole := parseModule_whole h
  have hss : ss = [] := by
    refine List.eq_nil_iff_forall_not_mem.2 fun s hs => ?_
    obtain ⟨t, ht, hsolid, hzero⟩ := exists_token_of_column h hs (hcolumn s hs)
    have hbroken := Tokens.kind_ne_broken_of_whole hwhole (Array.mem_toList_iff.1 ht)
    have hpos := (Tokens.run_ofText cs).inside (Scanner.atStart_ended cs) (Scanner.atStart_steady cs)
      (inset_of_margin hreturn hmargin) t ht hbroken hsolid
    omega
  subst hss
  obtain ⟨t, htokens, hkind⟩ := parseModule_nil h
  rw [htokens]
  refine ⟨rfl, List.forall_mem_singleton.2 ?_⟩
  rw [Token.isLayout, hkind]

end Graft.Syntax

namespace Graft.Splice

open Syntax Text

/-- **Snippets keep their strings**: a snippet whose statements begin in the first column is read as
    its text stands, so that its statements and all their strings are those that the text has.  This
    is so unless a string goes on in a line of blanks, the text ends continued in blanks, or carriage
    returns make lines of which dedenting knows nothing while it takes indentation from others. -/
theorem snippets_keep_strings {code : List Char} {ss : List Stmt} (h : parseModule code = .ok ss)
    (hcolumn : ∀ s ∈ ss, s.span.column = 0) (hstrings : ¬SpansBlanks code)
    (hends : ¬EndsContinued code) (hreturn : margin code = 0 ∨ NoLoneReturn code) :
    parseSnippet code = .ok ss := by
  have hnone : 0 < margin code →
      ss = [] ∧ ∀ t ∈ (Tokens.ofText code).tokens.toList, t.isLayout = true := fun hmargin =>
    nothing_of_margin h hcolumn (hreturn.resolve_left hmargin.ne') hmargin
  have hdeepens : Facing.Deepens (Facing.Margins.dedented (sourceLines code) (margin code)) .flat
      (fun _ => margin code = 0) := by
    rintro l m m' hzero hafter
    obtain rfl := hafter hzero
    rfl
  have hsolid : ∀ t ∈ (Tokens.ofText code).tokens.toList, t.isLayout = false → margin code = 0 := by
    intro t ht hsolid
    by_contra hne
    exact absurd (((hnone (Nat.pos_of_ne_zero hne)).2 t ht).symm.trans hsolid) (by decide)
  have hexact : ∀ t ∈ (Tokens.ofText code).tokens,
      (Facing.dedented (sourceLines code) (margin code)).Exact t := by
    rintro t ht hstring l a b hl hl' ⟨hline, -, hrow⟩
    have ht := Array.mem_toList_iff.2 ht
    have hzero := hsolid t ht (by rw [Token.isLayout, hstring])
    obtain heq | ⟨hblank, rfl⟩ := hrow hzero
    · exact heq
    · have hmem : a ∈ ((sourceLines code).drop t.line).take (t.endLine - t.line) := by
        refine List.mem_of_getElem? (i := l - 1 - t.line) ?_
        rw [List.getElem?_take_of_lt (by omega), List.getElem?_drop, ← hline]
        congr 1
        omega
      by_contra hne
      exact hstrings ⟨t, ht, hstring, a, hmem, hne, hblank⟩
  obtain ⟨hwhole, hin⟩ := Facing.tokens_inStep hdeepens rfl rfl rfl (Facing.rows_dedent hends)
    (parseModule_whole h) (begins_of_forall hsolid true) hexact
  obtain ⟨ss', hparse, hsame⟩ := parseModule_inStep rfl hin hwhole
    (fun c hc => (parseModule_eq_ok_iff.1 h).1 c (mem_of_mem_dedent hc)) h
  have hss : ss' = ss := by
    by_cases hzero : margin code = 0
    · have hleft : (Vantage.dedented (margin code)).left.span = id := by
        funext sp
        simp only [Vantage.dedented, View.span, hzero, if_true, id]
      have hid : Stmt.mapSpan id = id := funext Stmt.mapSpan_id
      change ss.map (Stmt.mapSpan (Vantage.dedented (margin code)).left.span) =
        ss'.map (Stmt.mapSpan (Vantage.dedented (margin code)).left.span) at hsame
      rw [hleft, hid, List.map_id, List.map_id] at hsame
      exact hsame.symm
    · obtain ⟨rfl, -⟩ := hnone (Nat.pos_of_ne_zero hzero)
      exact List.map_eq_nil_iff.1 hsame.symm
  rw [parseSnippet, hparse, hss]

/-- A snippet with a string whose lines are indented oddly, and a line of blanks behind it. -/
def quotedSnippet : List Char := "x = \"\"\"a\n   b\n\n c\"\"\"\n   \ny = x\n".toList

/-- Whether a text is read as so many statements that all begin in the first column. -/
def beginsFlush (code : List Char) (n : Nat) : Bool :=
  match parseModule code with
  | .ok ss => ss.length == n && ss.all (·.span.column == 0)
  | .error _ => false

theorem beginsFlush_iff {code : List Char} {n : Nat} : beginsFlush code n = true ↔
    ∃ ss, parseModule code = .ok ss ∧ ss.length = n ∧ ∀ s ∈ ss, s.span.column = 0 := by
  unfold beginsFlush
  cases parseModule code <;> simp

theorem quotedSnippet_flush : beginsFlush quotedSnippet 2 = true := by decide +kernel

theorem quotedSnippet_keeps_string : ∃ ss, parseModule quotedSnippet = .ok ss ∧ ss.length = 2
    ∧ (∀ s ∈ ss, s.span.column = 0) ∧ ¬SpansBlanks quotedSnippet ∧ ¬EndsContinued quotedSnippet
    ∧ NoLoneReturn quotedSnippet ∧ dedent quotedSnippet ≠ quotedSnippet
    ∧ parseSnippet quotedSnippet = .ok ss := by
  obtain ⟨ss, hparse, hlength, hcolumn⟩ := beginsFlush_iff.1 quotedSnippet_flush
  have hstrings : ¬SpansBlanks quotedSnippet := by decide +kernel
  have hends : ¬EndsContinued quotedSnippet := not_endsContinued (by decide +kernel)
  have hreturn : NoLoneReturn quotedSnippet := by decide +kernel
  exact ⟨ss, hparse, hlength, hcolumn, hstrings, hends, hreturn, by decide +kernel,
    snippets_keep_strings hparse hcolumn hstrings hends (.inr hreturn)⟩

end Graft.Splice
