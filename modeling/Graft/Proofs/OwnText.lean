import Graft.Proofs.Grammar.Parsed
import Graft.Proofs.PlacementRules
import Graft.Proofs.Splicing

set_option autoImplicit false

/-! # Lines and the text of statements

The text of a statement begins with its first token, which is that of its first decorator if it has
decorators, and it ends with its last token.  New statements for a line go by the spans of the
statements, and a span leaves the decorators out.  So a line of a statement's text is matched with
the statement exactly from its `def` or `class` on; before that it counts as a gap. -/

namespace Graft.Syntax

namespace Reading

variable {rd : Reading}

/-- Going back from an index comes to a token that is no layout. -/
theorem back_spec {a : Nat} (ha : rd.SolidAt a) (line column : Nat) : ∀ c, a < c →
    c ≤ rd.source.tokens.size → ∀ n, c - a ≤ n → ∃ e t, a ≤ e ∧ e < c ∧
      rd.source.tokens[e]? = some t ∧ t.isLayout = false
      ∧ spanFrom.back rd line column n c = (t.endLine, t.endColumn.getD 0) := by
  intro c
  induction c with
  | zero => exact fun hac => absurd hac (Nat.not_lt_zero a)
  | succ c ih =>
    intro hac hsize n hn
    obtain ⟨n, rfl⟩ : ∃ m, n = m + 1 := ⟨n - 1, by omega⟩
    obtain ⟨u, hu, hsolid⟩ := ha
    obtain ⟨t, hget⟩ : ∃ t, rd.source.tokens[c]? = some t := ⟨_, Array.getElem?_eq_getElem hsize⟩
    simp only [spanFrom.back, Nat.add_sub_cancel, hget, beq_iff_eq, Nat.succ_ne_zero, if_false]
    by_cases hlayout : t.isLayout = true
    · have hne : c ≠ a := by
        rintro rfl
        obtain rfl := Option.some.inj (hget.symm.trans hu)
        exact absurd (hlayout.symm.trans hsolid) (by decide)
      rw [if_pos hlayout]
      obtain ⟨e, v, hae, hec, hv⟩ := ih (by omega) (by omega) n (by omega)
      exact ⟨e, v, hae, by omega, hv⟩
    · rw [if_neg hlayout]
      exact ⟨c, t, by omega, Nat.lt_succ_self c, hget, by simpa using hlayout, rfl⟩

/-- The span of some tokens begins with the first one and ends with one of them. -/
theorem spanFrom_spec {a b : Nat} (ha : rd.SolidAt a) (hab : a < b)
    (hb : b ≤ rd.source.tokens.size) :
    ∃ t e u, rd.source.tokens[a]? = some t ∧ t.isLayout = false ∧ rd.source.tokens[e]? = some u
      ∧ u.isLayout = false ∧ a ≤ e ∧ e < b ∧ (rd.spanFrom a b).line = t.line ∧ (rd.spanFrom a b).endLine = u.endLine := by
  obtain ⟨t, ht, hsolid⟩ := ha
  obtain ⟨e, u, hae, heb, hu, husolid, hback⟩ := back_spec ⟨t, ht, hsolid⟩ t.line (t.column.getD 0) b hab hb b (by omega)
  refine ⟨t, e, u, ht, hsolid, hu, husolid, hae, heb, by simp [spanFrom, ht], ?_⟩
  simp only [spanFrom, ht, Option.map_some, Option.getD_some, Option.bind_some, hback]

end Reading

/-! ## The lines of a row -/

/-- The line of the first token of a row. -/
def Row.firstLine (cs : List Char) (r : Row) : Nat :=
  ((Tokens.ofText cs).tokens[r.start]?.map Token.line).getD 0

/-- The lines of a row's text: they begin before the span if and only if the text begins with a
    decorator. -/
structure Row.Lines (cs : List Char) (r : Row) : Prop where
  pos : 1 ≤ r.firstLine cs
  span : r.stmt.span.line ≤ r.stmt.span.endLine
  first : r.firstLine cs = r.stmt.span.line ∨ r.firstLine cs < r.stmt.span.line ∧
    ∃ t, (Tokens.ofText cs).tokens[r.start]? = some t ∧ t.isLit "@" = true

variable {cs : List Char}

namespace Tokens

/-- Tokens before the last one are no breaks. -/
theorem kind_ne_broken {i : Nat} {t : Token} (h : (ofText cs).tokens[i]? = some t)
    (hi : i + 1 < (ofText cs).tokens.size) : t.kind ≠ .broken := by
  obtain ⟨_, -, -, hfront, -⟩ := exists_last cs
  exact (hfront i t hi h).2

theorem line_le {i : Nat} {t : Token} (h : (ofText cs).tokens[i]? = some t)
    (hi : i + 1 < (ofText cs).tokens.size) : t.line ≤ t.endLine := by
  have hrun := run_ofText cs
  have hmem : t ∈ (ofText cs).tokens.toList := by
    rw [Array.mem_toList_iff]
    exact Array.mem_of_getElem? h
  exact (hrun.line_le (Scanner.atStart_ended cs) (Scanner.atStart_steady cs) t hmem (kind_ne_broken h hi)).2.1

/-- What has been found out about all tokens of a text. -/
theorem of_all {p : Token → Bool} (hall : (ofText cs).tokens.toList.all p = true) {i : Nat} {t : Token}
    (h : (ofText cs).tokens[i]? = some t) : p t = true := by
  rw [← Array.getElem?_toList] at h
  exact List.all_eq_true.1 hall t (List.mem_of_getElem? h)

theorem endLine_le {i j : Nat} {t u : Token} (ht : (ofText cs).tokens[i]? = some t)
    (hu : (ofText cs).tokens[j]? = some u) (hij : i < j) (hj : j + 1 < (ofText cs).tokens.size) :
    t.endLine ≤ u.line :=
  (precedes ht hu hij (kind_ne_broken hu hj)).1

end Tokens

open Reading in
theorem Row.lines_of_writes {r : Row} (h : (textReading cs).Writes r.stmt r.start r.stop)
    (hstop : r.stop < (Tokens.ofText cs).tokens.size) : r.Lines cs := by
  obtain ⟨hlt, ⟨t, ht, hsolid⟩, k, hk, hksolid, hspan, hwhich⟩ := h
  obtain ⟨u, e, v, hu, husolid, hv, hvsolid, hke, he, hline, hend⟩ := spanFrom_spec hksolid hk hstop.le
  rw [← hspan] at hline hend
  have hfirst : r.firstLine cs = t.line := by
    have hget : (Tokens.ofText cs).tokens[r.start]? = some t := ht
    simp [Row.firstLine, hget]
  have hu' := Tokens.line_le hu (by omega)
  -- It begins at or above the line of its span, and not below the line where it ends.
  refine ⟨?_, ?_, ?_⟩
  · rw [hfirst]
    exact (Tokens.one_le_line ht hsolid (Tokens.kind_ne_broken ht (by omega))).1
  · rw [hline, hend]
    rcases hke.lt_or_eq with hlt | rfl
    · exact hu'.trans ((Tokens.endLine_le hu hv hlt (by omega)).trans (Tokens.line_le hv (by omega)))
    · obtain rfl := Option.some.inj (hu.symm.trans hv)
      exact hu'
  · rw [hfirst, hline]
    rcases hwhich with rfl | hdecorates
    · left
      rw [Option.some.inj (ht.symm.trans hu)]
    · -- The decorators' last line ends before the token that the span begins with.
      obtain ⟨hak, ⟨t', ht', hsign⟩, w, hw, hnewline⟩ := hdecorates
      obtain rfl := Option.some.inj (ht.symm.trans ht')
      have hne : r.start ≠ k - 1 := by
        intro heq
        rw [heq] at ht
        obtain rfl := Option.some.inj (ht.symm.trans hw)
        simp [Token.isLayout, hnewline] at hsolid
      have hbefore := Tokens.endLine_le ht hw (by omega) (by omega)
      have hends := (Tokens.precedes hw hu (by omega) (Tokens.kind_ne_broken hu (by omega))).2 hnewline husolid
      have hline := Tokens.line_le ht (by omega)
      have hline' := Tokens.line_le hw (by omega)
      exact .inr ⟨by omega, t, ht, hsign⟩

namespace Reading.Lies

variable {rd : Reading} {a b : Nat} {rows : List Row}

/-- A block lies among the tokens of the statement that begins with it. -/
theorem block (h : rd.Lies a b rows) : ∀ r ∈ rows, rd.HasBlock r.stmt r.start r.stop := by
  induction h with
  | nil => simp
  | cons _ _ _ block within stmts colon _ _ ih =>
    exact List.forall_mem_cons.2 ⟨⟨_, _, _, block, within, stmts, colon⟩, ih⟩

/-- The text of each statement begins where that of the one before it ends, or behind that. -/
theorem ordered (h : (textReading cs).Lies a b rows) (hb : b < (Tokens.ofText cs).tokens.size) :
    rows.Pairwise fun r r' => r.stmt.span.endLine ≤ r'.firstLine cs := by
  induction h with
  | nil => exact .nil
  | cons _ _ writes _ _ _ _ others _ ih =>
    refine .cons (fun r' hr' => ?_) (ih hb)
    obtain ⟨hstart, hwrites, hstop⟩ := others.within r' hr'
    obtain ⟨-, -, k, hk, hksolid, hspan, -⟩ := writes
    obtain ⟨t, ht, -⟩ := hwrites.solid
    obtain ⟨-, e, v, -, -, hv, -, -, he, -, hend⟩ := spanFrom_spec hksolid hk (others.le.trans hb.le)
    have hget : (Tokens.ofText cs).tokens[r'.start]? = some t := ht
    rw [hspan, hend, Row.firstLine, hget]
    exact Tokens.endLine_le hv hget (by omega) (by have := hwrites.lt; omega)

end Reading.Lies

end Graft.Syntax

namespace Graft.Splice

open Graft.Syntax

/-! ## The body of a definition -/

/-- The text that a definition is read in: an indented one stands under a header line there. -/
def readIn (source : List Char) : List Char :=
  if isIndented source then blockHeader ++ source else source

/-- How many lines the text that a definition is read in has above it. -/
def linesAbove (source : List Char) : Nat := if isIndented source then 1 else 0

/-- A statement with the lines that it has in the source. -/
def seenIn (source : List Char) (s : Stmt) : Stmt :=
  if isIndented source then s.mapSpan (Span.shiftLines 1) else s

/-- The lines of a row's text in the source. -/
def ownLines (source : List Char) (r : Row) : LineRange where
  first := (r.firstLine (readIn source) : Int) - linesAbove source
  last := (r.stmt.span.endLine : Int) - linesAbove source

/-- The rows that the body of a definition is written with: its statements lie behind a colon, with
    nothing between them but layout and semicolons. -/
structure IsBody (source : List Char) (d : Definition) (rows : List Row) : Prop where
  lies : ∃ a b, (textReading (readIn source)).Lies a b rows ∧ b < (Tokens.ofText (readIn source)).tokens.size
    ∧ (rows ≠ [] → ∃ t, (Tokens.ofText (readIn source)).tokens[a - 1]? = some t ∧ t.isLit ":" = true)
  body : d.body = rows.map fun r => seenIn source r.stmt

theorem body_of_ofStmt? {s : Stmt} {d : Definition} (h : Definition.ofStmt? s = some d) :
    d.body = s.inner := by
  cases s with
  | functionDef => obtain rfl := Option.some.inj h; rfl
  | _ => cases h

theorem inner_mapSpan {s : Stmt} {f : Span → Span} {d : Definition}
    (h : Definition.ofStmt? (s.mapSpan f) = some d) : (s.mapSpan f).inner = s.inner.map (Stmt.mapSpan f) := by
  cases s with
  | functionDef => simp [Stmt.mapSpan, Stmt.inner, mapStmtSpans_eq_map]
  | _ => cases h

/-- The block of the first of some rows. -/
theorem block_of_first {cs : List Char} {a b : Nat} {rows : List Row} {s : Stmt} {ss : List Stmt}
    (h : (textReading cs).Lies a b rows) (hrows : rows.map Row.stmt = s :: ss) :
    ∃ c e inner, (textReading cs).Lies c e inner ∧ e ≤ b ∧ inner.map Row.stmt = s.inner
      ∧ (s.inner ≠ [] → ∃ t, (Tokens.ofText cs).tokens[c - 1]? = some t ∧ t.isLit ":" = true) := by
  cases rows with
  | nil => cases hrows
  | cons r rows =>
    obtain ⟨rfl, -⟩ := List.cons.inj hrows
    obtain ⟨c, e, inner, hlies, ⟨-, hwithin⟩, hinner, hcolon⟩ := h.block r List.mem_cons_self
    exact ⟨c, e, inner, hlies, hwithin.trans (h.within r List.mem_cons_self).2.2, hinner, hcolon⟩

theorem parseDefinition_ok {source : List Char} {d : Definition} (h : parseDefinition source = .ok d) :
    ∃ s ss, parseBlock source = .ok (s :: ss) ∧ Definition.ofStmt? s = some d := by
  unfold parseDefinition at h
  split at h
  · cases h
  · cases h
  · rename_i s ss hparse
    split at h
    · rename_i d' hd
      cases h
      exact ⟨s, ss, hparse, hd⟩
    · cases h

theorem parseBlock_plain {source : List Char} (h : isIndented source = false) :
    parseBlock source = parseModule source := by
  unfold parseBlock
  rw [h, if_neg Bool.false_ne_true]

/-- Statements that are read under a header line are those of the header's block. -/
theorem parseBlock_indented {source : List Char} {s : Stmt} {ss : List Stmt}
    (hindented : isIndented source = true) (h : parseBlock source = .ok (s :: ss)) :
    ∃ sp test s₀ ss₀ orelse more,
      parseModule (blockHeader ++ source) = .ok (.cond sp test (s₀ :: ss₀) orelse :: more)
        ∧ s = s₀.mapSpan (Span.shiftLines 1) := by
  unfold parseBlock at h
  rw [if_pos hindented] at h
  split at h
  · cases h
  · cases h
  · rename_i sp test body orelse more hparse
    cases body with
    | nil => cases h
    | cons s₀ ss₀ =>
      obtain ⟨rfl, -⟩ := List.cons.inj (Except.ok.inj h)
      exact ⟨sp, test, s₀, ss₀, orelse, more, hparse, rfl⟩
  · cases h

/-- **The body of a definition that is read lies in the text that it is read in.** -/
theorem parseDefinition_isBody {source : List Char} {d : Definition}
    (h : parseDefinition source = .ok d) : ∃ rows, IsBody source d rows := by
  obtain ⟨s, ss, hparse, hd⟩ := parseDefinition_ok h
  cases hindented : isIndented source with
  | false =>
    have hread : readIn source = source := by simp [readIn, hindented]
    rw [parseBlock_plain hindented] at hparse
    obtain ⟨b, rows, hlies, hb, hrows⟩ := parseModule_lies hparse
    obtain ⟨c, e, inner, hinner, he, hstmts, hcolon⟩ := block_of_first hlies hrows
    refine ⟨inner, ?_, ?_⟩
    · rw [hread]
      refine ⟨c, e, hinner, by omega, fun hne => hcolon ?_⟩
      rw [← hstmts]
      simpa using hne
    · rw [body_of_ofStmt? hd, ← hstmts]
      simp [seenIn, hindented]
  | true =>
    have hread : readIn source = blockHeader ++ source := by simp [readIn, hindented]
    obtain ⟨sp, test, s₀, ss₀, orelse, more, hmodule, rfl⟩ := parseBlock_indented hindented hparse
    obtain ⟨b, rows, hlies, hb, hrows⟩ := parseModule_lies hmodule
    -- The definition is the first statement in the block of the header.
    obtain ⟨c, e, inner, hinner, he, hstmts, -⟩ := block_of_first hlies hrows
    have hfirst : inner.map Row.stmt = s₀ :: ss₀ := hstmts
    obtain ⟨c', e', inner', hinner', he', hstmts', hcolon⟩ := block_of_first hinner hfirst
    refine ⟨inner', ?_, ?_⟩
    · rw [hread]
      refine ⟨c', e', hinner', by omega, fun hne => hcolon ?_⟩
      rw [← hstmts']
      simpa using hne
    · rw [body_of_ofStmt? hd, inner_mapSpan hd, ← hstmts']
      simp [seenIn, hindented]

/-! ## Lines of the body -/

/-- Whether a line is one of some lines. -/
def LineRange.Covers (r : LineRange) (line : Int) : Prop := r.first ≤ line ∧ line ≤ r.last

/-- Two texts that have no line in common. -/
def LineRange.Apart (r r' : LineRange) : Prop := r.last < r'.first ∨ r'.last < r.first

/-- The lines that new statements go by. -/
def spanLines (source : List Char) (r : Row) : LineRange := Injection.rangeOf (seenIn source r.stmt)

theorem spanLines_eq {source : List Char} {r : Row} (h : r.Lines (readIn source)) :
    spanLines source r = ⟨(r.stmt.span.line : Int) - linesAbove source,
      (r.stmt.span.endLine : Int) - linesAbove source⟩ := by
  have hpos := h.pos
  have hspan := h.span
  have hfirst : r.firstLine (readIn source) ≤ r.stmt.span.line := by
    rcases h.first with heq | ⟨hlt, -⟩ <;> omega
  unfold spanLines Injection.rangeOf seenIn linesAbove
  cases isIndented source with
  | false => simp
  | true =>
    simp only [if_true, Stmt.span_mapSpan, Span.shiftLines, LineRange.mk.injEq]
    omega

/-- The text of a statement ends with its span, and begins with it unless it is decorated. -/
theorem ownLines_spanLines {source : List Char} {r : Row} (h : r.Lines (readIn source)) :
    (ownLines source r).first ≤ (spanLines source r).first ∧
      (spanLines source r).first ≤ (spanLines source r).last ∧
      (spanLines source r).last = (ownLines source r).last ∧
      ((ownLines source r).first = (spanLines source r).first ∨
        ∃ t, (Tokens.ofText (readIn source)).tokens[r.start]? = some t ∧ t.isLit "@" = true) := by
  have hspan := h.span
  rw [spanLines_eq h]
  refine ⟨?_, ?_, rfl, ?_⟩
  · unfold ownLines
    rcases h.first with heq | ⟨hlt, -⟩ <;> dsimp only <;> omega
  · dsimp only
    omega
  · rcases h.first with heq | ⟨-, hsign⟩
    · exact .inl (by simp [ownLines, heq])
    · exact .inr hsign

namespace IsBody

variable {source : List Char} {d : Definition} {rows : List Row}

theorem lines (h : IsBody source d rows) : ∀ r ∈ rows, r.Lines (readIn source) := by
  obtain ⟨⟨a, b, hlies, hb, -⟩, -⟩ := h
  intro r hr
  obtain ⟨-, hwrites, hstop⟩ := hlies.within r hr
  exact Row.lines_of_writes hwrites (by omega)

theorem ordered (h : IsBody source d rows) :
    rows.Pairwise fun r r' => (ownLines source r).last ≤ (ownLines source r').first := by
  obtain ⟨⟨a, b, hlies, hb, -⟩, -⟩ := h
  refine (hlies.ordered hb).imp fun hle => ?_
  unfold ownLines
  dsimp only
  omega

theorem ranges (h : IsBody source d rows) :
    d.body.map Injection.rangeOf = rows.map (spanLines source) := by
  rw [h.body, List.map_map]
  rfl

/-- The statements of a body that is read stand one behind the other. -/
theorem inSourceOrder (h : IsBody source d rows) : InSourceOrder (rows.map (spanLines source)) where
  valid := by
    intro range hrange
    obtain ⟨r, hr, rfl⟩ := List.mem_map.1 hrange
    exact (ownLines_spanLines (h.lines r hr)).2.1
  ordered := by
    rw [List.pairwise_map]
    refine h.ordered.imp_of_mem fun {r r'} hr hr' hle => ?_
    have hfirst := ownLines_spanLines (h.lines r hr)
    have hsecond := ownLines_spanLines (h.lines r' hr')
    rw [hfirst.2.2.1]
    exact hle.trans hsecond.1

/-- For a line in the text of a statement that has its lines for itself, the statements that end
    before the line are the ones before it. -/
theorem endedBefore_eq (h : IsBody source d rows) {i : Nat} {r : Row} {line : Int}
    (hr : rows[i]? = some r) (hline : (ownLines source r).Covers line)
    (halone : ∀ j r', rows[j]? = some r' → j ≠ i → (ownLines source r).Apart (ownLines source r')) :
    endedBefore line (rows.map (spanLines source)) = i := by
  have horder := h.inSourceOrder
  -- The ranges are in order, so that those which end before the line come first.
  have hlast {j : Nat} {r' : Row} (hr' : rows[j]? = some r') :
      (ownLines source r').last < line ↔ j < endedBefore line (rows.map (spanLines source)) := by
    rw [← (ownLines_spanLines (h.lines r' (List.mem_of_getElem? hr'))).2.2.1]
    exact horder.last_lt_iff (by rw [List.getElem?_map, hr', Option.map_some])
  have hle : ¬i < endedBefore line (rows.map (spanLines source)) := by
    rw [← hlast hr]
    exact not_lt.2 hline.2
  have hge : ∀ j < i, j < endedBefore line (rows.map (spanLines source)) := by
    intro j hj
    obtain ⟨hi, rfl⟩ := List.getElem?_eq_some_iff.1 hr
    have hr' : rows[j]? = some rows[j] := List.getElem?_eq_getElem (hj.trans hi)
    rw [← hlast hr']
    have hordered := List.pairwise_iff_getElem.1 h.ordered j i (hj.trans hi) hi hj
    have hvalid := ownLines_spanLines (h.lines rows[i] (List.getElem_mem hi))
    have hvalid' := ownLines_spanLines (h.lines rows[j] (List.getElem_mem (hj.trans hi)))
    rcases halone j _ hr' hj.ne with hapart | hapart
    · omega
    · exact hapart.trans_le hline.1
  rcases Nat.lt_or_ge 0 i with hpos | hzero
  · have := hge (i - 1) (by omega)
    omega
  · omega

end IsBody

end Graft.Splice

namespace Graft.Injection

open Graft.Syntax Graft.Splice

/-- **New statements go by the text of the statements, but for decorators.**  A line in the text of a
    statement that shares no line with another one puts them directly before or behind the
    statement, as it is asked for, if the span of the statement has begun by then.  Lines of
    decorators come before the span, and for them new statements go before the statement in either
    case; so do lines that belong to no statement. -/
theorem placement_follows_text (source : List Char) (d : Definition)
    (h : parseDefinition source = .ok d) :
    (∃ rows, IsBody source d rows ∧
      (∀ i r, rows[i]? = some r →
        (∀ j r', rows[j]? = some r' → j ≠ i → (ownLines source r).Apart (ownLines source r')) →
        ∀ line, (ownLines source r).Covers line → ∀ loc, insertionIndex (d.body.map rangeOf) line loc =
          if loc = .after ∧ (spanLines source r).first ≤ line then i + 1 else i) ∧
      (∀ r ∈ rows, (ownLines source r).first = (spanLines source r).first ∨
        ∃ t, (Tokens.ofText (readIn source)).tokens[r.start]? = some t ∧ t.isLit "@" = true) ∧
      ∀ line, (∀ r ∈ rows, ¬(ownLines source r).Covers line) →
        insertionIndex (d.body.map rangeOf) line .after =
          insertionIndex (d.body.map rangeOf) line .before) ∧
    ∀ call target member spec w id w', Attempt.Gives (apply call target member spec) w id w' →
      ∃ s text, Succeeds call target member spec w s w' ∧ s.id = id ∧
        sourceOf s.reading s.plan.function = .ok text ∧
        parseDefinition text.toList = .ok s.plan.old ∧ (text.toList = source → s.plan.old = d) ∧
        s.plan.definition.body = insertAt s.plan.old.body
          (insertionIndex (s.plan.old.body.map rangeOf) s.plan.line s.plan.loc) s.plan.new := by
  refine ⟨?_, fun call target member spec w id w' happly => ?_⟩
  · obtain ⟨rows, hbody⟩ := parseDefinition_isBody h
    refine ⟨rows, hbody, fun i r hr halone line hline loc => ?_,
      fun r hr => (ownLines_spanLines (hbody.lines r hr)).2.2.2, fun line hnone => ?_⟩
    · rw [hbody.ranges, hbody.inSourceOrder.insertionIndex_eq, hbody.endedBefore_eq hr hline halone]
      have hbegun : HasBegun line (rows.map (spanLines source)) ↔ (spanLines source r).first ≤ line := by
        unfold HasBegun
        rw [hbody.endedBefore_eq hr hline halone, List.getElem?_map, hr]
        simp
      simp only [hbegun]
      split_ifs <;> rfl
    · rw [hbody.ranges, hbody.inSourceOrder.insertionIndex_eq, hbody.inSourceOrder.insertionIndex_eq]
      have hbegun : ¬HasBegun line (rows.map (spanLines source)) := by
        rw [hbody.inSourceOrder.hasBegun_iff]
        rintro ⟨range, hrange, hfirst, hlast⟩
        obtain ⟨r, hr, rfl⟩ := List.mem_map.1 hrange
        have hlines := ownLines_spanLines (hbody.lines r hr)
        exact hnone r hr ⟨hlines.1.trans hfirst, hlines.2.2.1 ▸ hlast⟩
      simp [hbegun]
  · obtain ⟨s, hs, hid⟩ := apply_gives happly
    obtain ⟨text, htext, hparse⟩ := hs.planned.old_eq
    refine ⟨s, text, hs, hid, htext, hparse, fun hsame => ?_, rfl⟩
    rw [hsame, h] at hparse
    exact (Except.ok.inj hparse).symm

/-! ## A sample -/

/-- A function with a decorated function in it. -/
def decoratedText : List Char :=
  "def f():\n    x = 1\n    @deco\n    def g():\n        return 1\n    return x\n".toList

/-- The sample is read, with the lines that its statements have. -/
theorem decorated_fits :
    okThat (fun d : Definition => d.body.map rangeOf == [⟨2, 2⟩, ⟨4, 5⟩, ⟨6, 6⟩])
      (parseDefinition decoratedText) = true := by decide +kernel

/-- The only decorator of the sample stands on its third line. -/
theorem decorated_signs :
    ((Tokens.ofText (readIn decoratedText)).tokens.toList.all fun t =>
      !t.isLit "@" || t.line == 3) = true := by decide +kernel

/-- Behind the line of its `def` new statements go behind the decorated function, but behind the line
    of its decorator they go before it. -/
theorem decorator_line_is_a_gap :
    ∃ d, parseDefinition decoratedText = .ok d ∧ insertionIndex (d.body.map rangeOf) 4 .after = 2 ∧
      insertionIndex (d.body.map rangeOf) 3 .after = 1 := by
  obtain ⟨d, hparse, hfits⟩ := okThat_iff.1 decorated_fits
  have hranges : d.body.map rangeOf = [⟨2, 2⟩, ⟨4, 5⟩, ⟨6, 6⟩] := beq_iff_eq.1 hfits
  obtain ⟨rows, hbody, hplace, hfirst, -⟩ := (placement_follows_text _ d hparse).1
  have hspans := hbody.ranges.symm.trans hranges
  obtain ⟨r₀, rest, rfl, h₀, hspans⟩ := List.map_eq_cons_iff.1 hspans
  obtain ⟨r₁, rest, rfl, h₁, hspans⟩ := List.map_eq_cons_iff.1 hspans
  obtain ⟨r₂, rest, rfl, h₂, hspans⟩ := List.map_eq_cons_iff.1 hspans
  obtain rfl := List.map_eq_nil_iff.1 hspans
  have hlines (r : Row) (hr : r ∈ [r₀, r₁, r₂]) := ownLines_spanLines (hbody.lines r hr)
  have hlines₀ := hlines r₀ (by simp)
  have hlines₁ := hlines r₁ (by simp)
  have hlines₂ := hlines r₂ (by simp)
  rw [h₀] at hlines₀
  rw [h₁] at hlines₁
  rw [h₂] at hlines₂
  have hsecond := List.pairwise_cons.1 (List.pairwise_cons.1 hbody.ordered).2 |>.1 r₂ (by simp)
  -- Only the line of the decorator has a sign on it, so that no other statement begins above its
  -- span.
  have hbegins {r : Row} (hr : r ∈ [r₀, r₁, r₂]) : (ownLines decoratedText r).first = 3 ∨
      (ownLines decoratedText r).first = (spanLines decoratedText r).first := by
    rcases (hlines r hr).2.2.2 with hsame | ⟨t, hget, hsign⟩
    · exact .inr hsame
    · left
      have hthird := Tokens.of_all decorated_signs hget
      simp only [hsign, Bool.not_true, Bool.false_or, beq_iff_eq] at hthird
      simp [ownLines, Row.firstLine, hget, hthird, show linesAbove decoratedText = 0 from rfl]
  have hbegins₁ := hbegins (r := r₁) (by simp)
  have hbegins₂ := hbegins (r := r₂) (by simp)
  rw [h₁] at hbegins₁
  rw [h₂] at hbegins₂
  dsimp only at hlines₀ hlines₁ hlines₂ hbegins₁ hbegins₂
  have hafter := hplace 1 r₁ rfl (by
    rintro (_ | _ | _ | j) r' hr' hne
    · obtain rfl := Option.some.inj hr'
      right
      omega
    · exact absurd rfl hne
    · obtain rfl := Option.some.inj hr'
      left
      omega
    · cases hr') 4 ⟨by omega, by omega⟩ .after
  refine ⟨d, hparse, ?_, ?_⟩
  · rw [hafter, h₁]
    rfl
  · rw [hranges]
    rfl

end Graft.Injection
