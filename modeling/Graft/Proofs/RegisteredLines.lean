import Graft.Proofs.Closures
import Graft.Proofs.RegisteredTexts

set_option autoImplicit false

/-! # Registered lines and lines of program text

A text that is registered is cut into lines at every separator that Unicode knows.  The compiler
counts fewer lines: of those separators only line feeds and carriage returns end a line of program
text.  So every line of the program is cut again at the separators within it, and the lines that are
registered are those that the compiler counts exactly if the text has no such separators. -/

namespace Graft

open Machine Data

namespace Text

/-! ## Cutting at separators -/

/-- Whether text is cut behind a character although it ends no line of program text. -/
def isSeparator (c : Char) : Bool := endsLine c && !endsProgramLine c

theorem endsLine_of_endsProgramLine {c : Char} (h : endsProgramLine c = true) :
    endsLine c = true := by
  obtain rfl | rfl : c = '\n' ∨ c = '\r' := by simpa [endsProgramLine] using h
  · decide
  · decide

theorem endsLine_eq {c : Char} (h : isSeparator c = false) : endsLine c = endsProgramLine c := by
  cases hends : endsProgramLine c with
  | true => exact endsLine_of_endsProgramLine hends
  | false => simpa [isSeparator, hends] using h

variable {ends : Char → Bool} {c : Char} {cs line : List Char}

theorem cutLines_go_cons (hc : c = '\r' → cs.head? ≠ some '\n') :
    cutLines.go ends (c :: cs) line =
      if ends c then (c :: line).reverse :: cutLines.go ends cs []
      else cutLines.go ends cs (c :: line) := by
  rw [cutLines.go]
  rintro rest rfl rfl
  exact hc rfl rfl

/-- Text that is cut behind `cut` is cut there too if a part of a line comes before that. -/
theorem linesWithEnds_append {cut : List Char} (hline : ∀ c ∈ line, endsProgramLine c = false)
    (hcut : ∀ before, cutLines.go endsLine (cut ++ cs) before =
      cutLines.go endsLine cut before ++ linesWithEnds cs) :
    linesWithEnds (line ++ (cut ++ cs)) = linesWithEnds (line ++ cut) ++ linesWithEnds cs := by
  suffices h : ∀ before, cutLines.go endsLine (line ++ (cut ++ cs)) before =
      cutLines.go endsLine (line ++ cut) before ++ linesWithEnds cs from h []
  induction line with
  | nil => exact hcut
  | cons d line ih =>
    intro before
    have hd : d ≠ '\r' := by
      rintro rfl
      exact absurd (hline _ List.mem_cons_self) (by decide)
    have hrest := ih fun c hc => hline c (List.mem_cons_of_mem _ hc)
    rw [List.cons_append, List.cons_append, cutLines_go_cons (absurd · hd),
      cutLines_go_cons (absurd · hd)]
    split
    · rw [hrest, List.cons_append]
    · exact hrest _

/-- Text is cut behind what ends a line of the program, whatever comes then. -/
theorem cutLines_go_end (hc : endsProgramLine c = true) (hcs : c = '\r' → cs.head? ≠ some '\n')
    (before : List Char) : cutLines.go endsLine ([c] ++ cs) before =
      cutLines.go endsLine [c] before ++ linesWithEnds cs := by
  have hends := endsLine_of_endsProgramLine hc
  have hnil : c = '\r' → ([] : List Char).head? ≠ some '\n' := fun _ h => nomatch h
  rw [List.singleton_append, cutLines_go_cons hcs, cutLines_go_cons hnil, if_pos hends,
    if_pos hends]
  rfl

/-- The lines of a text are those of the program, each of them cut again. -/
theorem linesWithEnds_eq_flatMap (cs : List Char) :
    linesWithEnds cs = (programLines cs).flatMap linesWithEnds := by
  suffices h : ∀ cs line, (∀ c ∈ line, endsProgramLine c = false) →
      linesWithEnds (line.reverse ++ cs) =
        (cutLines.go endsProgramLine cs line).flatMap linesWithEnds from h cs [] nofun
  intro cs line hline
  have hreverse : ∀ {line : List Char}, (∀ c ∈ line, endsProgramLine c = false) →
      ∀ c ∈ line.reverse, endsProgramLine c = false := fun h c hc => h c (List.mem_reverse.1 hc)
  -- Whatever ends a line of the program ends a line; other characters may end lines within it.
  induction cs, line using cutLines.go.induct endsProgramLine with
  | case1 => rfl
  | case2 line hne => simp [cutLines.go]
  | case3 rest line ih =>
    have hcut : ∀ before, cutLines.go endsLine (['\r', '\n'] ++ rest) before =
        cutLines.go endsLine ['\r', '\n'] before ++ linesWithEnds rest := fun before => rfl
    have happend := linesWithEnds_append (hreverse hline) hcut
    rw [cutLines.go, List.flatMap_cons, ← ih nofun]
    simpa using happend
  | case4 c rest line hboth hends ih =>
    have hc : c = '\r' → rest.head? ≠ some '\n' := by
      rintro rfl hhead
      obtain ⟨tail, rfl⟩ := List.head?_eq_some_iff.1 hhead
      exact hboth tail rfl rfl
    have happend := linesWithEnds_append (hreverse hline) (cutLines_go_end hends hc)
    rw [cutLines_go_cons hc, if_pos hends, List.flatMap_cons, ← ih nofun]
    simpa using happend
  | case5 c rest line hboth hends ih =>
    have hc : c = '\r' → rest.head? ≠ some '\n' := by
      rintro rfl
      exact absurd rfl hends
    have hcons : ∀ d ∈ c :: line, endsProgramLine d = false := by
      intro d hd
      obtain rfl | hd := List.mem_cons.1 hd
      · simpa using hends
      · exact hline d hd
    rw [cutLines_go_cons hc, if_neg hends, ← ih hcons]
    simp

/-- Without separators text has the lines of the program. -/
theorem linesWithEnds_eq_programLines (h : ∀ c ∈ cs, isSeparator c = false) :
    linesWithEnds cs = programLines cs := by
  suffices hgo : ∀ cs line, (∀ c ∈ cs, isSeparator c = false) →
      cutLines.go endsLine cs line = cutLines.go endsProgramLine cs line from hgo cs [] h
  intro cs line h
  induction cs, line using cutLines.go.induct endsProgramLine <;>
    simp_all [cutLines.go, endsLine_eq]

/-- A text whose last line is ended has a line more for each separator. -/
theorem length_linesWithEnds (h : cs = [] ∨ cs.getLast? = some '\n') :
    (linesWithEnds cs).length = (programLines cs).length + cs.countP isSeparator := by
  suffices hgo : ∀ cs line line', cs = [] ∨ cs.getLast? = some '\n' →
      (cs = [] → line = [] ∧ line' = []) → (cutLines.go endsLine cs line').length =
        (cutLines.go endsProgramLine cs line).length + cs.countP isSeparator from
    hgo cs [] [] h fun _ => ⟨rfl, rfl⟩
  intro cs line line' hlast hnil
  have hrest : ∀ {c : Char} {rest : List Char}, c :: rest = [] ∨ (c :: rest).getLast? = some '\n' →
      rest = [] ∨ rest.getLast? = some '\n' := by
    intro c rest h
    cases rest with
    | nil => exact .inl rfl
    | cons d rest => simpa using h
  induction cs, line using cutLines.go.induct endsProgramLine generalizing line' with
  | case1 =>
    obtain ⟨-, rfl⟩ := hnil rfl
    rfl
  | case2 line hne => exact absurd (hnil rfl).1 (by simpa using hne)
  | case3 rest line ih =>
    have hzero : isSeparator '\r' = false ∧ isSeparator '\n' = false := by decide
    simp [cutLines.go, ih [] (hrest (hrest hlast)) fun _ => ⟨rfl, rfl⟩, hzero]
    omega
  | case4 c rest line hboth hends ih =>
    have hc : c = '\r' → rest.head? ≠ some '\n' := by
      rintro rfl hhead
      obtain ⟨tail, rfl⟩ := List.head?_eq_some_iff.1 hhead
      exact hboth tail rfl rfl
    rw [cutLines_go_cons hc, cutLines_go_cons hc, if_pos hends,
      if_pos (endsLine_of_endsProgramLine hends)]
    simp [ih [] (hrest hlast) fun _ => ⟨rfl, rfl⟩, isSeparator, hends]
    omega
  | case5 c rest line hboth hends ih =>
    have hc : c = '\r' → rest.head? ≠ some '\n' := by
      rintro rfl
      exact absurd rfl hends
    have hne : rest ≠ [] := by
      rintro rfl
      obtain rfl : c = '\n' := by simpa using hlast
      exact absurd rfl hends
    rw [cutLines_go_cons hc, cutLines_go_cons hc, if_neg hends]
    -- Here a line ends within a line of the program, which is what a separator does.
    by_cases hline : endsLine c = true
    · rw [if_pos hline, List.length_cons, ih [] (hrest hlast) (absurd · hne)]
      simp [isSeparator, hline, hends]
      omega
    · rw [if_neg hline, ih _ (hrest hlast) (absurd · hne)]
      simp [isSeparator, hline]

/-! ## The lines that the compiler counts -/

/-- Text whose last line is ended. -/
def endLast (cs : List Char) : List Char :=
  if cs.getLast? = some '\n' then cs else cs ++ ['\n']

theorem getLast?_endLast (cs : List Char) : (endLast cs).getLast? = some '\n' := by
  unfold endLast
  split
  · assumption
  · simp

theorem endLast_cons (h : c = '\n' → cs ≠ []) : endLast (c :: cs) = c :: endLast cs := by
  unfold endLast
  cases cs with
  | nil => simpa [endLast] using h
  | cons d rest =>
    rw [List.getLast?_cons_cons]
    split <;> rfl

theorem mem_endLast (h : c ∈ endLast cs) : c ∈ cs ∨ c = '\n' := by
  unfold endLast at h
  split at h
  · exact .inl h
  · simpa using h

theorem head?_endLast (h : cs ≠ []) : (endLast cs).head? = cs.head? := by
  obtain ⟨d, rest, rfl⟩ := List.exists_cons_of_ne_nil h
  unfold endLast
  split <;> rfl

theorem withoutEnd_both (line : List Char) :
    withoutEnd ('\n' :: '\r' :: line).reverse = line.reverse := by
  rw [withoutEnd, List.reverse_reverse]
  rfl

theorem withoutEnd_return (line : List Char) :
    withoutEnd ('\r' :: line).reverse = line.reverse := by
  rw [withoutEnd, List.reverse_reverse]
  rfl

theorem withoutEnd_newline (h : '\r' ∉ line) :
    withoutEnd ('\n' :: line).reverse = line.reverse := by
  unfold withoutEnd
  rw [List.reverse_reverse]
  cases line with
  | nil => rfl
  | cons d line =>
    have hd : d ≠ '\r' := fun hd => h (hd ▸ List.mem_cons_self)
    split <;> simp_all

/-- The lines that program text is cut into are its lines without their ends. -/
theorem textLines_normalizeLineEnds (cs : List Char) :
    Syntax.textLines (Syntax.normalizeLineEnds cs) =
      (programLines (endLast cs)).map withoutEnd := by
  -- The induction has to go through what has been read of a line that has not ended yet.
  suffices h : ∀ cs line, '\r' ∉ line →
      Syntax.textLines.go (Syntax.normalizeLineEnds cs) line =
        (cutLines.go endsProgramLine (endLast cs) line).map withoutEnd from h cs [] nofun
  intro cs line hline
  induction cs using Syntax.normalizeLineEnds.induct generalizing line with
  | case1 | case2 => exact congrArg (· :: []) (withoutEnd_newline hline).symm
  | case3 | case4 => exact congrArg (· :: []) (withoutEnd_both line).symm
  | case5 rest hne ih =>
    rw [Syntax.normalizeLineEnds, Syntax.textLines.go, ih [] nofun,
      endLast_cons fun _ => List.cons_ne_nil _ _, endLast_cons fun _ => hne, cutLines.go,
      List.map_cons, withoutEnd_both]
    exact hne
  | case6 rest hlast hne hboth ih =>
    have hhead : '\r' = '\r' → (endLast rest).head? ≠ some '\n' := by
      intro _ hhead
      rw [head?_endLast hne] at hhead
      obtain ⟨tail, rfl⟩ := List.head?_eq_some_iff.1 hhead
      exact hboth tail rfl
    rw [Syntax.normalizeLineEnds, Syntax.textLines.go, ih [] nofun, endLast_cons fun _ => hne,
      cutLines_go_cons hhead, if_pos (by rfl), List.map_cons, withoutEnd_return]
    all_goals assumption
  | case7 c rest hnewline _ hreturn _ hne ih =>
    have hc : c ≠ '\r' := hne
    rw [Syntax.normalizeLineEnds]
    case x_1 | x_2 | x_3 | x_4 | x_5 => assumption
    by_cases hend : c = '\n'
    · subst hend
      rw [Syntax.textLines.go, ih [] nofun, endLast_cons fun _ => hnewline rfl,
        cutLines_go_cons (absurd · hc), if_pos (by rfl), List.map_cons, withoutEnd_newline hline]
    · have hends : endsProgramLine c = false := by simp [endsProgramLine, hc, hend]
      have hcons : '\r' ∉ c :: line := by simpa using ⟨Ne.symm hc, hline⟩
      rw [Syntax.textLines.go, ih (c :: line) hcons, endLast_cons (absurd · hend),
        cutLines_go_cons (absurd · hc), if_neg (by simp [hends])]
      exact hend

end Text

/-! ## Registered lines -/

theorem ended_toList (source : String) : (ended source).toList = Text.endLast source.toList := by
  unfold ended Text.endLast
  split
  · rfl
  · exact String.toList_append

/-- The lines of an entry without their ends. -/
def SourceEntry.bareLines (e : SourceEntry) : List (List Char) :=
  e.lines.map fun line => Text.withoutEnd line.toList

/-- The lines of a text as the compiler numbers them, the first being number 1. -/
def compilerLines (source : String) : List (List Char) :=
  (Syntax.Tokens.ofText source.toList).lines.toList

theorem SourceEntry.ofText_lines (source : String) :
    (ofText source).lines = (Text.linesWithEnds (ended source).toList).map String.ofList := by
  rw [ended_toList, ofText, Text.endLast]
  simp only [beq_iff_eq]

theorem SourceEntry.ofText_size (source : String) :
    (ofText source).size = (ended source).length := by
  rw [← String.length_toList, ended_toList, ofText, Text.endLast]
  simp only [beq_iff_eq]

theorem SourceEntry.ofText_bareLines (source : String) : (ofText source).bareLines =
    (Text.linesWithEnds (ended source).toList).map Text.withoutEnd := by
  rw [bareLines, ofText_lines, List.map_map]
  exact List.map_congr_left fun line _ => congrArg Text.withoutEnd String.toList_ofList

theorem Syntax.Tokens.ofText_lines (cs : List Char) :
    (Tokens.ofText cs).lines.toList =
      (Text.programLines (Text.endLast cs)).map Text.withoutEnd := by
  have hgo : ∀ n lines s ts, (ofNormalized.go lines n s ts).lines = lines := by
    intro n lines s ts
    fun_induction ofNormalized.go lines n s ts <;> simp_all
  rw [ofText, ofNormalized, hgo, List.toList_toArray]
  exact Text.textLines_normalizeLineEnds cs

/-- Below a header line a text has its own lines, each one line further down. -/
theorem compilerLines_below_header {source : List Char} (h : Splice.isIndented source = true) :
    (Syntax.Tokens.ofText (Splice.blockHeader ++ source)).lines.toList =
      Splice.blockHeader.dropLast :: (Syntax.Tokens.ofText source).lines.toList := by
  obtain ⟨c, rest, rfl⟩ : ∃ c rest, source = c :: rest :=
    List.exists_cons_of_ne_nil fun hnil => by simp [hnil, Splice.isIndented] at h
  rw [Syntax.Tokens.ofText_lines, Syntax.Tokens.ofText_lines, Splice.blockHeader]
  simp only [List.cons_append, List.nil_append]
  iterate 6 rw [Text.endLast_cons fun _ => by simp]
  rfl

namespace SourceEntry

variable {source : String}

/-- An entry has the compiler's lines exactly if its text has no separators, and a line more for
    each separator that it has. -/
theorem ofText_bareLines_eq_iff :
    ((ofText source).bareLines = compilerLines source ↔
      ∀ c ∈ source.toList, Text.isSeparator c = false) ∧
    (ofText source).bareLines.length =
      (compilerLines source).length + source.toList.countP Text.isSeparator := by
  have hended : (Text.endLast source.toList).countP Text.isSeparator =
      source.toList.countP Text.isSeparator := by
    unfold Text.endLast
    split
    · rfl
    · exact List.countP_append.trans (by rfl)
  have hlength : (ofText source).bareLines.length =
      (compilerLines source).length + source.toList.countP Text.isSeparator := by
    rw [ofText_bareLines, compilerLines, Syntax.Tokens.ofText_lines, List.length_map,
      List.length_map, ended_toList, Text.length_linesWithEnds (.inr (Text.getLast?_endLast _)),
      hended]
  -- Each separator adds a line, so that the lines can be the same only if there is none.
  refine ⟨⟨fun heq => ?_, fun hnone => ?_⟩, hlength⟩
  · rw [heq, Nat.left_eq_add, List.countP_eq_zero] at hlength
    exact fun c hc => eq_false_of_ne_true (hlength c hc)
  · rw [ofText_bareLines, compilerLines, Syntax.Tokens.ofText_lines, ended_toList,
      Text.linesWithEnds_eq_programLines]
    intro c hc
    obtain hc | rfl := Text.mem_endLast hc
    · exact hnone c hc
    · decide

end SourceEntry

/-- What has been registered belongs to no file, so that it is never out of date. -/
theorem SourceCache.get?_check_register (cache : SourceCache) (name source : String)
    (status : String → Option FileStatus) :
    ((cache.register name source).check status).get? name = some (.ofText source) := by
  have hcurrent : (SourceEntry.ofText source).isCurrent (status name) = true := rfl
  simp [get?, check, register, hcurrent]

namespace Injection

variable {call : Caller} {source file : String} {register : Bool} {old v : Value} {r : Ref}
  {f : Function} {w w' : World}

/-- Making a function registers its text, if that is wanted, and no other. -/
theorem materialize_sources (hcall : call.Confined)
    (h : Attempt.Gives (materialize call source old r f file register) w v w') :
    w'.sources = if register then w.sources.register file source else w.sources := by
  unfold materialize at h
  simp only [Attempt.gives_bind, Attempt.gives_mk, Attempt.gives_lift, Attempt.gives_pure] at h
  obtain ⟨code, _, ⟨-, rfl⟩, closure, _, ⟨-, rfl⟩, v, w₁, hv, _, w₂, hregister, _, w₃, hlog, rfl,
    rfl⟩ := h
  have hreplica : w.SameBooks w₁ :=
    ((Attempt.Confined.lift (replica_confined hcall old r f code closure)).sameBooks w).of_gives
      (Attempt.gives_lift.2 hv)
  rw [Run.gives_log] at hlog
  rw [← hlog, ← hreplica.sources]
  unfold registerText at hregister
  cases register with
  | true =>
    rw [if_pos rfl, Run.gives_modify] at hregister
    rw [← hregister]
    rfl
  | false =>
    rw [if_neg Bool.false_ne_true, Run.gives_pure] at hregister
    rw [← hregister.2]
    rfl

/-- Where a text compiles and no cell lacks, a function is made of it. -/
theorem materialize_gives_of_cells {code : Code} (call : Caller) (r : Ref) (register : Bool)
    (hold : w.body? old = some (.function f))
    (hcode : compile source.toList f.frees (ownerName? f.qualname) f.codeName file = .ok code)
    (hnone : lacking f code = []) :
    ∃ v w', Attempt.Gives (materialize call source old r f file register) w v w' := by
  have hends : Attempt.Ends (materialize call source old r f file register) w (fun _ _ => True)
      fun _ => False := materialize_ends hold hcode (by rw [bindCells_eq, if_pos hnone])
  obtain ⟨v, w', hgives, -⟩ := hends.gives
  exact ⟨v, w', hgives⟩

/-- **Registered lines and the compiler's lines.**  A text that a function is made of is registered
    with its last line ended, under its file name and no other, and stays however the files change.
    Its lines are those of the program, each of them cut again at the separators within it.  So each
    line is registered under the number that the compiler has for it exactly if there are no
    separators in the text; for each of them there is a line too many.  An indented text is compiled
    below a header, where all of its lines come one later. -/
theorem registered_lines_are_compiler_lines_iff
    (h : Attempt.Gives (materialize Machine.call source old r f file true) w v w') :
    ∃ e, w'.sources = w.sources.register file source ∧ w'.sources.get? file = some e ∧
      (∀ other, other ≠ file → w'.sources.get? other = w.sources.get? other) ∧
      (∀ status, (w'.sources.check status).get? file = some e) ∧
      e.text = ended source ∧ e.size = (ended source).length ∧
      e.lines = ((Text.programLines (ended source).toList).flatMap Text.linesWithEnds).map
        String.ofList ∧
      compilerLines source = (Text.programLines (ended source).toList).map Text.withoutEnd ∧
      ((∀ n : Nat, e.bareLines[n]? = (compilerLines source)[n]?) ↔
        ∀ c ∈ source.toList, Text.isSeparator c = false) ∧
      e.bareLines.length = (compilerLines source).length + source.toList.countP Text.isSeparator ∧
      (Splice.isIndented source.toList = true →
        (Syntax.Tokens.ofText (Splice.blockHeader ++ source.toList)).lines.toList =
          Splice.blockHeader.dropLast :: compilerLines source) := by
  have hsources := materialize_sources call_confined h
  rw [if_pos rfl] at hsources
  obtain ⟨hlines, hlength⟩ := @SourceEntry.ofText_bareLines_eq_iff source
  refine ⟨.ofText source, hsources, ?_, ?_, ?_, SourceEntry.text_ofText source,
    SourceEntry.ofText_size source, ?_, ?_, List.ext_getElem?_iff.symm.trans hlines, hlength,
    compilerLines_below_header⟩
  · rw [hsources, SourceCache.get?_register]
  · intro other hother
    rw [hsources, SourceCache.get?_register_of_ne _ _ hother]
  · intro status
    rw [hsources, SourceCache.get?_check_register]
  · rw [SourceEntry.ofText_lines, Text.linesWithEnds_eq_flatMap]
  · rw [compilerLines, Syntax.Tokens.ofText_lines, ended_toList]

/-! ### A comment with a separator -/

/-- A text with a form feed in a comment. -/
def pagedText : String := "def idle():\n    # one\x0cmore\n    return b"

/-- What comes of compiling the text. -/
def pagedCode : Except Refusal Code :=
  compile pagedText.toList ["a", "b"] none "idle" "<paged>"

/-- The text compiles and takes one variable. -/
theorem paged_compiles : okThat (fun code => code.info.frees == ["b"]) pagedCode = true := by
  decide +kernel

theorem paged_has_separator : '\x0c' ∈ pagedText.toList ∧
    pagedText.toList.countP Text.isSeparator = 1 := by decide +kernel

/-- The comment has a line of the cache too many, so that the line behind it has another number. -/
theorem registered_lines_are_shifted_on_page : ∃ v w' e,
    Attempt.Gives (materialize Machine.call pagedText (.thing ⟨3⟩) ⟨3⟩ sampleTaker "<paged>" true)
      takerWorld v w' ∧
    w'.sources.get? "<paged>" = some e ∧
    ¬(∀ n : Nat, e.bareLines[n]? = (compilerLines pagedText)[n]?) ∧
    e.bareLines.length = (compilerLines pagedText).length + 1 := by
  obtain ⟨code, hcode, hcompiles⟩ := okThat_iff.1 paged_compiles
  have hfrees : code.info.frees = ["b"] := beq_iff_eq.1 hcompiles
  have hf : takerWorld.body? (.thing ⟨3⟩) = some (.function sampleTaker) := rfl
  have howner : ownerName? sampleTaker.qualname = none := by decide +kernel
  have hcode' : compile pagedText.toList sampleTaker.frees (ownerName? sampleTaker.qualname)
      sampleTaker.codeName "<paged>" = .ok code := by
    rw [howner]
    exact hcode
  have hnone : lacking sampleTaker code = [] := by
    rw [lacking, hfrees]
    rfl
  obtain ⟨v, w', hgives⟩ := materialize_gives_of_cells Machine.call ⟨3⟩ true hf hcode' hnone
  obtain ⟨e, -, hget, -, -, -, -, -, -, hsame, hlength, -⟩ :=
    registered_lines_are_compiler_lines_iff hgives
  obtain ⟨hpaged, hone⟩ := paged_has_separator
  refine ⟨v, w', e, hgives, hget, fun hlines => ?_, by rw [hlength, hone]⟩
  exact absurd (hsame.1 hlines '\x0c' hpaged) (by decide)

end Injection

end Graft
