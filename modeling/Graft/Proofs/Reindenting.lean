import Graft.Proofs.Grammar.Blocks
import Graft.Proofs.OwnText

set_option autoImplicit false

/-! # Definitions that are indented

A definition that is indented as a whole is read as the block of a header line.  It is the definition
that is read without the indentation: the same tree, with the same lines, and with its strings. -/

namespace Graft.Syntax

/-! ## Parsing with room to spare -/

/-- A text is parsed by rules that call each other to some depth at most. -/
def ParsedWithin (depth : Nat) (cs : List Char) : Prop :=
  ∃ n, Reading.run (matchRules depth) (textReading cs) .file = .ok n

/-- A reading beside itself, up to the end of its text. -/
theorem Reading.parallel_self {rd : Reading} {hi : Nat} {t : Token} (hplain : rd.diagnosing = false)
    (ht : rd.source.tokens[hi]? = some t) (hkind : t.kind = .endMarker) :
    rd.Parallel rd .self 0 hi where
  plain := hplain
  plain' := hplain
  whole := id
  tokens i hlt := by
    have hi := (Array.getElem?_eq_some_iff.1 ht).1
    have hget := Array.getElem?_eq_getElem (hlt.trans hi)
    exact ⟨_, _, hget, hget, rfl, rfl, fun _ => rfl, fun _ => rfl⟩
  frontier := .inr (.inr ⟨t, t, ht, ht, hkind, .inl hkind⟩)

theorem View.span_self : View.self.span = id := rfl

/-- What is matched as a whole text is so too by rules that may call each other more deeply. -/
theorem FileMatch.deeper {cs : List Char} {m : Nat} {n : Node} {st₁ : ReadState} (j : Nat)
    (h : FileMatch m (textReading cs) {} n st₁) :
    ∃ n' st₁', FileMatch (m + j) (textReading cs) {} n' st₁' ∧ n'.stmts = n.stmts := by
  obtain ⟨t, ht, hkind⟩ := h.ends
  have honce : ∀ i t, (textReading cs).source.tokens[i]? = some t → t.kind = .endMarker →
      i = st₁.mark := by
    intro i u hu hend
    have := (Tokens.endMarker_last hu hend).1
    have := (Tokens.endMarker_last ht hkind).1
    omega
  obtain ⟨n', st₁', hfile, hlooks⟩ :=
    h.beside j (Reading.parallel_self rfl ht hkind) honce ⟨t, ht, hkind⟩
  refine ⟨n', st₁', hfile, ?_⟩
  have hstmts := congrArg Node.stmts hlooks
  have hid : Stmt.mapSpan id = id := funext Stmt.mapSpan_id
  rw [Node.stmts_view, Node.stmts_view] at hstmts
  change n.stmts.map (Stmt.mapSpan View.self.span) = n'.stmts.map (Stmt.mapSpan View.self.span)
    at hstmts
  rw [View.span_self, hid, List.map_id, List.map_id] at hstmts
  exact hstmts.symm

/-- What a text is parsed to is matched with less depth if there is room. -/
theorem exists_fileMatch_within {m j : Nat} {cs : List Char} {ss : List Stmt}
    (hm : m + 1 + j = maxRuleDepth) (h : parseModule cs = .ok ss) (hwithin : ParsedWithin (m + 1) cs) :
    ∃ n st₁, FileMatch m (textReading cs) {} n st₁ ∧ n.stmts = ss := by
  obtain ⟨n, hrun⟩ := hwithin
  obtain ⟨st, hcall, -⟩ := Reading.run_ok hrun
  obtain ⟨st₁, hfile⟩ := file_match hcall
  obtain ⟨n', st₁', hfile', hsame⟩ := hfile.deeper j
  obtain ⟨st', hcall', hclean'⟩ := hfile'.file
  have hrun' := Reading.run_of_call hcall' hclean'
  obtain ⟨-, n₀, hrun₀, rfl⟩ := parseModule_eq_ok_iff.1 h
  rw [← hm, Nat.add_right_comm] at hrun₀
  obtain rfl := Except.ok.inj (hrun₀.symm.trans hrun')
  exact ⟨n, st₁, hfile, hsame.symm⟩

/-! ## An indented text -/

variable {V : Vantage} {N : Nesting} {w cs cs' : List Char} {ss : List Stmt}

/-- The end of a block is a token of its own. -/
theorem InStep.length_of_base {n : Int} {ts ts' : List Token} (h : InStep V N n ts ts')
    (hbase : N.base ≠ []) : ts'.length = ts.length + 1 := by
  induction h with
  | ends base => exact absurd base hbase
  | closes => rfl
  | more _ _ _ _ ih => rw [List.length_cons, ih, List.length_cons]

/-- A text is headed if its tokens are those of a header line, a level that begins, and others that
    are in step with the tokens of some text. -/
theorem headed_of_inStep {front ts ts' : List Token} {d : Token} {hi : Nat} (hbase : N.base ≠ [])
    (hwhole : (Tokens.ofText cs).broken = none)
    (htokens : (Tokens.ofText cs).tokens.toList = front ++ d :: ts')
    (hfront : front.map (fun t => (t.kind, t.text)) = Scanner.headerLooks) (hd : d.kind = .indent)
    (hin : InStep V N 0 ts ts') (hupTo : InStepUpTo V N 0 ts ts' hi) :
    Headed (textReading cs) (hi + 5) := by
  have hlength : front.length = 4 := by
    rw [← List.length_map (f := fun t : Token => (t.kind, t.text)), hfront]
    rfl
  have hget : ∀ i : Nat, (Tokens.ofText cs).tokens[i]? = (front ++ d :: ts')[i]? := fun i => by
    rw [← htokens, Array.getElem?_toList]
  have hbehind : ∀ i : Nat, (Tokens.ofText cs).tokens[i + 5]? = ts'[i]? := fun i => by
    rw [hget, List.getElem?_append_right (by omega), hlength]
    rfl
  -- The level below the first text is closed where the first text ends.
  obtain ⟨t, t', -, ht', -, ⟨hnil, -⟩ | ⟨-, hdedent⟩⟩ := hupTo.ends
  · exact absurd hnil hbase
  refine ⟨rfl, hwhole, fun i look hlook => ?_, ⟨d, ?_, hd⟩, ⟨t', (hbehind hi).trans ht', hdedent⟩, ?_⟩
  · have hlt : i < front.length := by
      rw [hlength]
      exact (List.getElem?_eq_some_iff.1 hlook).1
    rw [← hfront, List.getElem?_map, List.getElem?_eq_getElem hlt] at hlook
    exact ⟨front[i], (hget i).trans (by rw [List.getElem?_append_left hlt, List.getElem?_eq_getElem hlt]),
      Option.some.inj hlook⟩
  · exact (hget 4).trans (by rw [List.getElem?_append_right (by omega), hlength]; rfl)
  · -- The last token of all is the end.
    obtain ⟨last, hlast, -, -, hend, -⟩ := Tokens.exists_last cs
    have hsize : (Tokens.ofText cs).tokens.size - 1 = hi + 5 + 1 := by
      rw [← Array.length_toList, htokens, List.length_append, hlength, List.length_cons,
        hin.length_of_base hbase, hupTo.size]
      omega
    rw [hsize] at hlast
    exact ⟨last, hlast, hend hwhole⟩

/-- Statements under a header line are those of a condition, if there is so much room that the rules
    of the header can be called too. -/
theorem parseModule_headed {front ts' : List Token} {d : Token} (hbase : N.base ≠ [])
    (hchars : ∀ c ∈ cs', Text.isSurrogate c = false ∧ c ≠ '\x00') (hne : ss ≠ [])
    (hparse : parseModule cs = .ok ss) (hwithin : ParsedWithin (maxRuleDepth - 5) cs)
    (hwhole : (Tokens.ofText cs').broken = none)
    (htokens : (Tokens.ofText cs').tokens.toList = front ++ d :: ts')
    (hfront : front.map (fun t => (t.kind, t.text)) = Scanner.headerLooks) (hd : d.kind = .indent)
    (hin : InStep V N 0 (Tokens.ofText cs).tokens.toList ts') :
    ∃ sp test body, parseModule cs' = .ok [.cond sp test body []]
      ∧ ss.map (Stmt.mapSpan V.left.span) = body.map (Stmt.mapSpan V.right.span) := by
  obtain ⟨hi, hupTo⟩ := hin.upTo
  have hheaded := headed_of_inStep hbase hwhole htokens hfront hd hin hupTo
  have hlength : (front ++ [d]).length = 5 := by
    rw [List.length_append, ← List.length_map (f := fun t : Token => (t.kind, t.text)), hfront]
    rfl
  have hparallel : (textReading cs).Parallel (textReading cs') V 5 hi := by
    rw [← hlength]
    refine (show InStepUpTo V N 0 (textReading cs).source.tokens.toList ts' hi from hupTo).parallel ?_
      rfl rfl hwhole
    rw [List.append_assoc]
    exact htokens
  obtain ⟨n, st₁, ⟨hstmts, -, t, ht, hkind⟩, rfl⟩ :=
    exists_fileMatch_within (m := 4134) (j := 5) rfl hparse hwithin
  -- The statements of the first text end where its end stands, and so does the block.
  have hmark : st₁.mark = hi := by
    have hsize : (Tokens.ofText cs).tokens.size = hi + 1 := hupTo.size
    have := (Tokens.endMarker_last ht hkind).1
    omega
  obtain hstmts | ⟨rfl, -⟩ := hstmts
  swap
  · exact absurd rfl hne
  obtain ⟨sp, test, b, st, hfile, hlooks⟩ := exists_fileMatch (m := 4133) hheaded (by omega)
    (by omega) (finds_contents hparallel hstmts hmark)
  obtain ⟨st', hcall, hclean⟩ := hfile.file
  refine ⟨sp, test, b.stmts,
    parseModule_eq_ok_iff.2 ⟨hchars, _, Reading.run_of_call hcall hclean, rfl⟩, ?_⟩
  have hsame := congrArg Node.stmts hlooks
  rwa [Node.stmts_view, Node.stmts_view] at hsame

end Graft.Syntax

namespace Graft.Splice

open Syntax Text

/-! ## The text of a definition -/

variable {w cs cs' : List Char}

theorem isIndented_cons (c : Char) (cs : List Char) : isIndented (c :: cs) = isIndent c := by
  by_cases hspace : c = ' '
  · subst hspace
    rfl
  by_cases htab : c = '\t'
  · subst htab
    rfl
  simp [isIndented, isIndent, hspace, htab]

theorem isIndented_normalizeLineEnds (cs : List Char) :
    isIndented (normalizeLineEnds cs) = isIndented cs := by
  fun_cases normalizeLineEnds cs <;> first | rfl | simp only [isIndented_cons]

theorem mem_normalizeLineEnds {c : Char} (h : c ∈ cs) : c = '\r' ∨ c ∈ normalizeLineEnds cs := by
  fun_induction normalizeLineEnds cs <;> simp_all <;> grind

/-- An indented text has no characters but those of the text and blanks. -/
theorem mem_of_indents {c : Char} (h : Indents w cs cs') (hc : c ∈ cs') :
    c ∈ cs ∨ c ∈ w ∨ c = '\r' ∨ c = '\n' := by
  obtain rfl | hc := mem_normalizeLineEnds hc
  · exact .inr (.inr (.inl rfl))
  rw [← unlines_sourceLines, unlines, List.mem_flatMap] at hc
  obtain ⟨b, hb, hc⟩ := hc
  obtain hc | hc := List.mem_append.1 hc
  swap
  · exact .inr (.inr (.inr (List.mem_singleton.1 hc)))
  obtain ⟨i, hi, rfl⟩ := List.getElem_of_mem hb
  have hi' : i < (sourceLines cs).length := h.lines.length_eq ▸ hi
  have hmem := List.getElem_mem hi'
  have hline : (sourceLines cs')[i] = (sourceLines cs)[i] ∨
      (sourceLines cs')[i] = w ++ (sourceLines cs)[i] := h.lines.get hi' hi
  obtain heq | heq := hline <;> rw [heq] at hc
  · exact .inl (mem_of_mem_sourceLines hmem hc)
  · obtain hc | hc := List.mem_append.1 hc
    · exact .inr (.inl hc)
    · exact .inl (mem_of_mem_sourceLines hmem hc)

/-- If the first line begins a logical line, then an indented text begins with a blank. -/
theorem isIndented_of_indents (hne : w ≠ []) (hw : w.all isIndent = true) (h : Indents w cs cs')
    (hfirst : 1 ∈ logicalLines cs) : isIndented cs' = true := by
  obtain ⟨a, more, hlines⟩ := List.exists_cons_of_ne_nil (sourceLines_ne_nil cs)
  have hline := h.logical 1 hfirst a (by rw [hlines]; rfl)
  obtain ⟨b, more', hlines'⟩ := List.exists_cons_of_ne_nil (sourceLines_ne_nil cs')
  rw [hlines', List.getElem?_cons_zero, Option.some.injEq] at hline
  obtain ⟨c, w, rfl⟩ := List.exists_cons_of_ne_nil hne
  rw [← isIndented_normalizeLineEnds, ← unlines_sourceLines, hlines', hline, unlines_cons,
    List.cons_append, List.cons_append, isIndented_cons]
  exact List.all_eq_true.1 hw c List.mem_cons_self

/-! ## The same definition -/

/-- A span of which only the lines are known. -/
def lineSpan (sp : Span) : Span := ⟨sp.line, 0, sp.endLine, 0⟩

/-- A text that begins in the first column, with a token of its own. -/
structure Flush (cs : List Char) : Prop where
  first : isIndented cs = false
  token : ∃ tok ts, (Tokens.ofText cs).tokens.toList = tok :: ts ∧ tok.isLayout = false

/-- There is room for one more level of indentation around a text, and for the rules that read a
    header line. -/
structure Fits (cs : List Char) : Prop where
  levels : ∀ k, (((Tokens.ofText cs).tokens.toList.take k).map Reading.opening).sum + 1 <
    (maxIndents : Int)
  rules : ParsedWithin (maxRuleDepth - 5) cs

theorem toStmt_of_ofStmt? {s : Stmt} {d : Definition} (h : Definition.ofStmt? s = some d) :
    d.toStmt = s := by
  cases s with
  | functionDef => obtain rfl := Option.some.inj h; rfl
  | _ => cases h

/-- What differs from a definition in its spans alone is one too. -/
theorem ofStmt?_of_mapSpan {f g : Span → Span} {s : Stmt} {d : Definition}
    (h : d.toStmt.mapSpan f = s.mapSpan g) (k : Span → Span) :
    ∃ d', Definition.ofStmt? (s.mapSpan k) = some d' := by
  cases s with
  | functionDef => exact ⟨_, rfl⟩
  | _ => simp only [Definition.toStmt, Stmt.mapSpan, reduceCtorEq] at h

/-- **A definition is the same if its text is indented.**  Blanks are put in front of the lines that
    begin logical lines, and may be put in front of others, but not within strings.  Then the same
    definition is read, with the same lines throughout and with all its strings.  This is so if the
    logical lines of the text are indented with spaces in the lines in which they begin, the indented
    text does begin with a blank, and there is room for one more level. -/
theorem definitions_are_same_indented {d : Definition} (hne : w ≠ []) (hw : w.all isIndent = true)
    (h : Indents w cs cs') (hspace : SpaceIndented cs) (hflush : Flush cs) (hfits : Fits cs)
    (hfirst : 1 ∈ logicalLines cs ∨ isIndented cs' = true) (hparse : parseDefinition cs = .ok d) :
    ∃ d', parseDefinition cs' = .ok d' ∧ d'.toStmt.mapSpan lineSpan = d.toStmt.mapSpan lineSpan := by
  obtain ⟨s, ss, hblock, hd⟩ := parseDefinition_ok hparse
  rw [parseBlock_plain hflush.first] at hblock
  -- An indented text is read below a header, so that what is read is the body of that header.
  have hindented : isIndented cs' = true := hfirst.elim (isIndented_of_indents hne hw h) id
  have hchars : ∀ c ∈ blockHeader ++ cs', isSurrogate c = false ∧ c ≠ '\x00' := by
    intro c hc
    have hheader : blockHeader.all (fun c => !isSurrogate c && c != '\x00') = true := by decide
    obtain hc | hc := List.mem_append.1 hc
    · simpa using List.all_eq_true.1 hheader c hc
    obtain hc | hc | rfl | rfl := mem_of_indents h hc
    · exact (parseModule_eq_ok_iff.1 hblock).1 c hc
    · have hblank := List.all_eq_true.1 hw c hc
      simp only [isIndent, Bool.or_eq_true, beq_iff_eq] at hblank
      obtain rfl | rfl := hblank <;> decide
    · decide
    · decide
  obtain ⟨tok, ts, htokens, hsolid⟩ := hflush.token
  have hroom := hfits.levels
  rw [htokens] at hroom
  obtain ⟨hwhole', front, i, ts', htokens', hfront, hi, hin⟩ := tokens_indented hne hw h hspace
    (fun hnil => by rw [hnil] at hindented; cases hindented) (parseModule_whole hblock) htokens hsolid hroom
  rw [← htokens] at hin
  obtain ⟨sp, test, body, hmodule, hsame⟩ := parseModule_headed (List.cons_ne_nil _ _) hchars
    (List.cons_ne_nil s ss) hblock hfits.rules hwhole' htokens' hfront hi hin
  obtain ⟨s', more, rfl, hs', -⟩ := List.map_eq_cons_iff.1 hsame.symm
  rw [← toStmt_of_ofStmt? hd] at hs'
  obtain ⟨d', hd'⟩ := ofStmt?_of_mapSpan hs'.symm (Span.shiftLines 1)
  refine ⟨d', ?_, ?_⟩
  · unfold parseDefinition parseBlock
    rw [if_pos hindented, hmodule]
    simp only [mapStmtSpans, hd']
  · rw [toStmt_of_ofStmt? hd', Stmt.mapSpan_mapSpan]
    exact hs'

/-! ### A definition that is indented -/

/-- Whether blanks stand in front of lines of a text as they should. -/
def indents (w cs cs' : List Char) : Bool :=
  decide (List.Forall₂ (fun a b => b = a ∨ b = w ++ a) (sourceLines cs) (sourceLines cs')) &&
  (logicalLines cs).all (fun l => ((sourceLines cs)[l - 1]?).all fun a =>
    (sourceLines cs')[l - 1]? == some (w ++ a)) &&
  (Tokens.ofText cs).tokens.toList.all fun t => t.kind != .string ||
    (List.range (t.endLine + 1)).all fun l => l ≤ t.line ||
      (sourceLines cs')[l - 1]? == (sourceLines cs)[l - 1]?

theorem indents_iff : indents w cs cs' = true ↔ Indents w cs cs' := by
  simp only [indents, Bool.and_eq_true, decide_eq_true_eq, List.all_eq_true, Option.all_eq_true,
    beq_iff_eq, Bool.or_eq_true, bne_iff_ne, List.mem_range, ← imp_iff_not_or, ne_eq]
  constructor
  · rintro ⟨⟨hlines, hlogical⟩, hstrings⟩
    refine ⟨hlines, hlogical, fun t ht hkind l hlt hle => ?_⟩
    exact (hstrings t ht hkind l (Nat.lt_succ_of_le hle)).resolve_left (Nat.not_le.2 hlt)
  · rintro ⟨hlines, hlogical, hstrings⟩
    refine ⟨⟨hlines, hlogical⟩, fun t ht hkind l hl => or_iff_not_imp_left.2 fun hlt => ?_⟩
    exact hstrings t ht hkind l (Nat.not_le.1 hlt) (Nat.le_of_lt_succ hl)

instance : Decidable (Indents w cs cs') := decidable_of_iff _ indents_iff

/-- Whether the logical lines of a text are indented with spaces alone. -/
def spaceIndented (cs : List Char) : Bool :=
  !cs.contains '\x0c' &&
  (logicalLines cs).all (fun l => ((sourceLines cs)[l - 1]?).all fun a =>
    (a.takeWhile isIndent).all (· == ' ')) &&
  (logicalLines cs).all fun l => l ≤ 1 || ((sourceLines cs)[l - 2]?).all fun a =>
    a.dropWhile isIndent != ['\\']

theorem spaceIndented_iff : spaceIndented cs = true ↔ SpaceIndented cs := by
  simp only [spaceIndented, Bool.and_eq_true, Bool.not_eq_true', List.contains_eq_mem,
    decide_eq_false_iff_not, List.all_eq_true, Option.all_eq_true, beq_iff_eq, Bool.or_eq_true,
    bne_iff_ne, ne_eq, decide_eq_true_eq]
  constructor
  · rintro ⟨⟨hfeeds, hspaces⟩, hwhole⟩
    exact ⟨hfeeds, hspaces, fun l hl hlt => (hwhole l hl).resolve_left (Nat.not_le.2 hlt)⟩
  · rintro ⟨hfeeds, hspaces, hwhole⟩
    refine ⟨⟨hfeeds, hspaces⟩, fun l hl => or_iff_not_imp_left.2 fun hle => ?_⟩
    exact hwhole l hl (Nat.not_le.1 hle)

instance : Decidable (SpaceIndented cs) := decidable_of_iff _ spaceIndented_iff

/-- Whether a text begins in the first column. -/
def flush (cs : List Char) : Bool :=
  !isIndented cs && match (Tokens.ofText cs).tokens.toList with
    | [] => false
    | tok :: _ => !tok.isLayout

theorem flush_iff : flush cs = true ↔ Flush cs := by
  unfold flush
  constructor
  · intro h
    split at h
    · simp at h
    · rename_i tok ts htokens
      simp only [Bool.and_eq_true, Bool.not_eq_true'] at h
      exact ⟨h.1, tok, ts, htokens, h.2⟩
  · rintro ⟨hfirst, tok, ts, htokens, hsolid⟩
    simp [hfirst, htokens, hsolid]

instance : Decidable (Flush cs) := decidable_of_iff _ flush_iff

/-- Whether a text is matched by rules that call each other to some depth at most. -/
def isMatched (depth : Nat) (cs : List Char) : Bool :=
  match matchRules depth (textReading cs) .file {} with
  | (some _, st) => st.fault.isNone
  | _ => false

theorem isMatched_iff {depth : Nat} : isMatched depth cs = true ↔ ParsedWithin depth cs := by
  unfold isMatched
  constructor
  · intro h
    split at h
    · rename_i n st hcall
      exact ⟨n, Reading.run_of_call hcall (Option.isNone_iff_eq_none.1 h)⟩
    · cases h
  · rintro ⟨n, hrun⟩
    obtain ⟨st, hcall, hclean⟩ := Reading.run_ok hrun
    rw [hcall]
    exact Option.isNone_iff_eq_none.2 hclean

instance {depth : Nat} : Decidable (ParsedWithin depth cs) := decidable_of_iff _ isMatched_iff

/-- How many statements the body has of the definition that is read from a text. -/
def bodySize? (cs : List Char) : Option Nat :=
  match parseDefinition cs with
  | .ok d => some d.body.length
  | .error _ => none

theorem exists_of_bodySize? {n : Nat} (h : bodySize? cs = some n) : ∃ d, parseDefinition cs = .ok d := by
  unfold bodySize? at h
  split at h
  · exact ⟨_, ‹_›⟩
  · cases h

/-- A short text has few levels. -/
theorem levels_of_size (h : (Tokens.ofText cs).tokens.size + 1 < maxIndents) (k : Nat) :
    (((Tokens.ofText cs).tokens.toList.take k).map Reading.opening).sum + 1 < (maxIndents : Int) := by
  have hle : ∀ ts : List Token, (ts.map Reading.opening).sum ≤ ts.length := by
    intro ts
    induction ts with
    | nil => exact le_rfl
    | cons t ts ih =>
      have hone : Reading.opening t ≤ 1 := by
        unfold Reading.opening
        split <;> decide
      rw [List.map_cons, List.sum_cons, List.length_cons]
      push_cast
      omega
  have hlength : ((Tokens.ofText cs).tokens.toList.take k).length ≤ (Tokens.ofText cs).tokens.size := by
    rw [List.length_take, Array.length_toList]
    exact min_le_right _ _
  have := hle ((Tokens.ofText cs).tokens.toList.take k)
  omega

/-- A definition with a decorator and a string that goes on in the first column. -/
def flushText : List Char := "@d\ndef f(): '''a\nb'''\n".toList

/-- The definition behind a tab. -/
def tabbedText : List Char := "\t@d\n\tdef f(): '''a\nb'''\n".toList

theorem tabbedText_indents : Indents ['\t'] flushText tabbedText ∧ SpaceIndented flushText ∧
    Flush flushText ∧ 1 ∈ logicalLines flushText ∧
    (Tokens.ofText flushText).tokens.size + 1 < maxIndents := by decide +kernel

theorem flushText_parsed : ParsedWithin (maxRuleDepth - 5) flushText ∧ bodySize? flushText = some 1 := by
  decide +kernel

/-- The definition is the same behind a tab. -/
theorem tabbedText_is_same : ∃ d d', parseDefinition flushText = .ok d ∧
    parseDefinition tabbedText = .ok d' ∧ d'.toStmt.mapSpan lineSpan = d.toStmt.mapSpan lineSpan := by
  obtain ⟨hindents, hspace, hflush, hfirst, hsize⟩ := tabbedText_indents
  obtain ⟨d, hd⟩ := exists_of_bodySize? flushText_parsed.2
  obtain ⟨d', hd', hsame⟩ := definitions_are_same_indented (List.cons_ne_nil _ _) rfl hindents hspace hflush
    ⟨levels_of_size hsize, flushText_parsed.1⟩ (.inl hfirst) hd
  exact ⟨d, d', hd, hd', hsame⟩

/-! ### Definitions that are not the same indented -/

/-- A definition with a line that is but a backslash. -/
def continuedText : List Char := "def f():\n x\n\\\n y\n".toList

/-- The definition with a space in front of all lines. -/
def continuedIndented : List Char := " def f():\n  x\n \\\n  y\n".toList

/-- A definition under a comment. -/
def remarkedText : List Char := "#\ndef f(): x\n".toList

/-- The definition with a space in front of it, but not of the comment. -/
def remarkedIndented : List Char := "#\n def f(): x\n".toList

theorem continuedText_indents : Indents [' '] continuedText continuedIndented ∧
    '\x0c' ∉ continuedText ∧ (∀ a ∈ sourceLines continuedText, ∀ c ∈ a.takeWhile isIndent, c = ' ') ∧
    Flush continuedText := by
  have hspaces : (sourceLines continuedText).all (fun a => (a.takeWhile isIndent).all (· == ' ')) =
      true := by decide +kernel
  refine ⟨by decide +kernel, by decide +kernel, fun a ha c hc => ?_, by decide +kernel⟩
  exact beq_iff_eq.1 (List.all_eq_true.1 (List.all_eq_true.1 hspaces a ha) c hc)

theorem remarkedText_indents : Indents [' '] remarkedText remarkedIndented ∧
    SpaceIndented remarkedText ∧ Flush remarkedText := by decide +kernel

theorem remarkedIndented_rejected : isIndented remarkedIndented = false ∧
    isMatched maxRuleDepth remarkedIndented = false := by decide +kernel

/-- Behind a line of a space and a backslash a line is indented by that space alone, so that a
    statement is left out of the definition; and behind a comment in the first column the indented
    definition is not read at all. -/
theorem indentation_can_matter :
    (Indents [' '] continuedText continuedIndented ∧ '\x0c' ∉ continuedText ∧
      (∀ a ∈ sourceLines continuedText, ∀ c ∈ a.takeWhile isIndent, c = ' ') ∧ Flush continuedText ∧
      bodySize? continuedText = some 2 ∧ bodySize? continuedIndented = some 1) ∧
    (Indents [' '] remarkedText remarkedIndented ∧ SpaceIndented remarkedText ∧ Flush remarkedText ∧
      bodySize? remarkedText = some 1 ∧ bodySize? remarkedIndented = none) := by
  obtain ⟨hindents, hfeeds, hspaces, hflush⟩ := continuedText_indents
  obtain ⟨hindents', hspace', hflush'⟩ := remarkedText_indents
  refine ⟨⟨hindents, hfeeds, hspaces, hflush, by decide +kernel, by decide +kernel⟩,
    hindents', hspace', hflush', by decide +kernel, ?_⟩
  obtain ⟨hplain, hunmatched⟩ := remarkedIndented_rejected
  rw [Option.eq_none_iff_forall_ne_some]
  intro n hsize
  obtain ⟨d, hd⟩ := exists_of_bodySize? hsize
  obtain ⟨s, ss, hblock, -⟩ := parseDefinition_ok hd
  rw [parseBlock_plain hplain] at hblock
  obtain ⟨-, n, hrun, -⟩ := parseModule_eq_ok_iff.1 hblock
  exact absurd (hunmatched.symm.trans (isMatched_iff.2 ⟨n, hrun⟩)) (by decide)

end Graft.Splice
