import Graft.Proofs.Lexer.Rows

set_option autoImplicit false

/-! # Pieces side by side

Where two readers have the same text before them on a line, they find the same piece.  A string
that reaches over several lines is the same in both if its further lines are. -/

namespace Graft.Syntax

open Text (isIndent)

open Scanner (Piece)

/-! ## What a line decides -/

namespace Scanner

theorem longOperator_newline (d : Char) : longOperator d '\n' = false := by
  unfold longOperator
  split <;> simp_all

/-- The operators of three characters. -/
def threefold : List (List Char) :=
  [['.', '.', '.'], ['*', '*', '='], ['/', '/', '='], ['<', '<', '='], ['>', '>', '=']]

/-- The length of an operator at the front that has at most two characters. -/
def shortLength : List Char → Nat
  | c :: d :: _ => if longOperator c d then 2 else 1
  | _ => 1

theorem not_threefold {cs : List Char} (hdots : ∀ t, cs ≠ '.' :: '.' :: '.' :: t)
    (hstars : ∀ t, cs ≠ '*' :: '*' :: '=' :: t) (hslashes : ∀ t, cs ≠ '/' :: '/' :: '=' :: t)
    (hleft : ∀ t, cs ≠ '<' :: '<' :: '=' :: t) (hright : ∀ t, cs ≠ '>' :: '>' :: '=' :: t) :
    threefold.any (·.isPrefixOf cs) = false := by
  rw [List.any_eq_false]
  intro w hw hleads
  obtain ⟨t, ht⟩ := List.isPrefixOf_iff_prefix.1 hleads
  simp only [threefold, List.mem_cons, List.not_mem_nil, or_false] at hw
  obtain rfl | rfl | rfl | rfl | rfl := hw
  · exact hdots t ht.symm
  · exact hstars t ht.symm
  · exact hslashes t ht.symm
  · exact hleft t ht.symm
  · exact hright t ht.symm

theorem operatorLength_eq (cs : List Char) : operatorLength cs =
    if threefold.any (·.isPrefixOf cs) then 3 else shortLength cs := by
  fun_cases operatorLength cs with
  | case6 d e f hdots hstars hslashes hleft hright hlong
  | case7 d e f hdots hstars hslashes hleft hright hlong =>
    rw [not_threefold (fun t ht => ?_) (fun t ht => ?_) (fun t ht => ?_) (fun t ht => ?_)
      fun t ht => ?_]
    · simp [shortLength, hlong]
    · cases ht; exact hdots t rfl rfl rfl
    · cases ht; exact hstars t rfl rfl rfl
    · cases ht; exact hslashes t rfl rfl rfl
    · cases ht; exact hleft t rfl rfl rfl
    · cases ht; exact hright t rfl rfl rfl
  | case8 cs hdots hstars hslashes hleft hright hshort =>
    rw [not_threefold hdots hstars hslashes hleft hright]
    rcases cs with _ | ⟨c, _ | ⟨d, cs⟩⟩
    · rfl
    · rfl
    · exact absurd rfl (hshort c d cs)
  | _ => simp [threefold, List.isPrefixOf]

theorem operatorLength_line (d : Char) (c cs : List Char) :
    operatorLength (d :: c ++ '\n' :: cs) = operatorLength (d :: c)
      ∧ 0 < operatorLength (d :: c) ∧ operatorLength (d :: c) ≤ (d :: c).length := by
  have hclean : ∀ w ∈ threefold, '\n' ∉ w := by decide
  have hthree : threefold.any (·.isPrefixOf (d :: c ++ '\n' :: cs)) =
      threefold.any (·.isPrefixOf (d :: c)) := by
    rw [Bool.eq_iff_iff, List.any_eq_true, List.any_eq_true]
    constructor
    · rintro ⟨w, hw, h⟩
      exact ⟨w, hw, by rwa [NumberScan.isPrefixOf_line (hclean w hw)] at h⟩
    · rintro ⟨w, hw, h⟩
      exact ⟨w, hw, by rwa [NumberScan.isPrefixOf_line (hclean w hw)]⟩
  rw [operatorLength_eq (d :: c), operatorLength_eq (d :: c ++ '\n' :: cs), hthree]
  by_cases h : threefold.any (·.isPrefixOf (d :: c)) = true
  · rw [if_pos h, if_pos h]
    refine ⟨rfl, by decide, ?_⟩
    obtain ⟨w, hw, hleads⟩ := List.any_eq_true.1 h
    have hlength : ∀ w ∈ threefold, w.length = 3 := by decide
    rw [← hlength w hw]
    exact (List.isPrefixOf_iff_prefix.1 hleads).length_le
  · rw [if_neg h, if_neg h]
    rcases c with _ | ⟨e, c⟩
    · simp [shortLength, longOperator_newline]
    · simp only [List.cons_append, shortLength]
      split_ifs <;> simp

theorem stringPrefix_line (c cs : List Char) :
    stringPrefix (c ++ '\n' :: cs) = stringPrefix c := by
  have hgo : ∀ (c : List Char) (b r u f : Bool) (n : Nat),
      stringPrefix.go (c ++ '\n' :: cs) b r u f n = stringPrefix.go c b r u f n := by
    intro c
    induction c with
    | nil => intro b r u f n; simp [stringPrefix.go]
    | cons d c ih => intro b r u f n; simp only [List.cons_append, stringPrefix.go, ih]
  exact hgo c _ _ _ _ _

theorem stringPrefix_some {c : List Char} {k : Nat} (h : stringPrefix c = some k) :
    ∃ q rest, c.drop k = q :: rest ∧ (q = '"' ∨ q = '\'') := by
  have hgo : ∀ (c : List Char) (b r u f : Bool) (n : Nat), stringPrefix.go c b r u f n = some k →
      n ≤ k ∧ ∃ q rest, c.drop (k - n) = q :: rest ∧ (q = '"' ∨ q = '\'') := by
    intro c
    induction c with
    | nil => exact fun _ _ _ _ _ h => nomatch h
    | cons d c ih =>
      intro b r u f n h
      have hnext : ∀ {b r u f : Bool}, stringPrefix.go c b r u f (n + 1) = some k →
          n ≤ k ∧ ∃ q rest, (d :: c).drop (k - n) = q :: rest ∧ (q = '"' ∨ q = '\'') := by
        intro b r u f h
        obtain ⟨hle, q, rest, hdrop, hq⟩ := ih _ _ _ _ _ h
        refine ⟨by omega, q, rest, ?_, hq⟩
        rw [show k - n = k - (n + 1) + 1 by omega, List.drop_succ_cons, hdrop]
      rw [stringPrefix.go] at h
      by_cases hquote : (d == '"' || d == '\'') = true
      · rw [if_pos hquote] at h
        obtain rfl := Option.some.inj h
        exact ⟨le_rfl, d, c, by simp, by simpa using hquote⟩
      rw [if_neg hquote] at h
      split_ifs at h
      · exact hnext h
      · exact hnext h
      · exact hnext h
      · exact hnext h
  obtain ⟨-, q, rest, hdrop, hq⟩ := hgo c _ _ _ _ _ h
  exact ⟨q, rest, hdrop, hq⟩

/-- Whether a string has three quotes at its beginning. -/
def isLong (rest : List Char) : Bool :=
  match rest with
  | a :: b :: c :: _ => a == b && b == c
  | _ => false

theorem isLong_line {a : Char} {c : List Char} (hclean : '\n' ∉ a :: c) (cs : List Char) :
    isLong (a :: c ++ '\n' :: cs) = isLong (a :: c) := by
  have hne : ∀ d ∈ a :: c, (d == '\n') = false := fun d hd => by
    rw [beq_eq_false_iff_ne]
    rintro rfl
    exact hclean hd
  rcases c with _ | ⟨b, _ | ⟨d, c⟩⟩
  · rcases cs with _ | ⟨x, cs⟩
    · rfl
    · simp [isLong, hne a]
  · simp [isLong, hne b]
  · rfl

/-! ## Strings -/

/-- One step within a string, in the line that the reader has entered. -/
def stringStep (quote : Char) (long : Bool) (again : Scanner → Nat → Scanner × StringEnd)
    (s : Scanner) (run : Nat) : Scanner × StringEnd :=
  match s.rest with
  | [] => (s, .unterminated)
  | c :: _ =>
    if c == '\n' && !long then (s, .unterminated)
    else if c == quote then
      if run + 1 == (if long then 3 else 1) then (s.take, .closed) else again s.take (run + 1)
    else if c == '\\' then again (s.take.enter true).take 0
    else again s.take 0

theorem readString_succ (quote : Char) (long : Bool) (n : Nat) (s : Scanner) (run : Nat) :
    readString quote long (n + 1) s run =
      stringStep quote long (readString quote long n) (s.enter true) run := rfl

/-- The piece that a string amounts to. -/
def stringPiece (lines : Array (List Char)) (s : Scanner) (long : Bool)
    (x : Scanner × StringEnd) : Piece × Scanner :=
  match x.2 with
  | .closed =>
    (.token { token .string s x.1 (s.rest.take (s.rest.length - x.1.rest.length)) with
      line := s.line }, x.1)
  | .unterminated =>
    (.broken (faultAt lines s.line (s.column + 1)
      ((if long then "unterminated triple-quoted string literal" else "unterminated string literal")
        ++ " (detected at line " ++ toString x.1.line ++ ")")), x.1)

theorem readQuoted_eq (lines : Array (List Char)) (s : Scanner) (before : Nat) {q : Char}
    {long : Bool} (hquote : (s.takeMany before).rest.headD '"' = q)
    (hlong : isLong (s.takeMany before).rest = long) :
    s.readQuoted lines before = stringPiece lines s long
      (readString q long
        (((s.takeMany before).takeMany (if long then 3 else 1)).rest.length + 1)
        ((s.takeMany before).takeMany (if long then 3 else 1)) 0) := by
  subst hquote hlong
  rfl

/-! ## Readers that know the same -/

namespace Even

variable {s s' u u' : Scanner}

theorem of_moves (h : Even s s') (hmoves : Moves s u) (hmoves' : Moves s' u') : Even u u' where
  lineStart := by rw [hmoves.lineStart, hmoves'.lineStart, h.lineStart]
  pending := by rw [hmoves.pending, hmoves'.pending, h.pending]
  brackets := by rw [hmoves.brackets, hmoves'.brackets, h.brackets]

theorem takeMany (h : Even s s') (n n' : Nat) :
    (s'.takeMany n').brackets.map (·.bracket) = (s.takeMany n).brackets.map (·.bracket) :=
  (h.of_moves (Moves.takeMany s n) (Moves.takeMany s' n')).brackets

theorem isEmpty_brackets (h : Even s s') : s'.brackets.isEmpty = s.brackets.isEmpty := by
  have := congrArg List.isEmpty h.brackets
  simpa using this

end Even

end Scanner

namespace Facing

variable {F : Facing} {pa pb p x y c cs cs' : List Char} {s s' u u' : Scanner}
  {lines lines' : Array (List Char)}

/-! ## Blanks and comments -/

theorem takeWhile_line {q : Char → Bool} (hq : q '\n' = false) (c cs : List Char) :
    (c ++ '\n' :: cs).takeWhile q = c.takeWhile q := by
  induction c with
  | nil => simp [hq]
  | cons d c ih => by_cases hd : q d = true <;> simp [hd, ih]

theorem InLine.takeWhile (h : F.InLine pa pb c cs cs' s s') {q : Char → Bool}
    (hq : q '\n' = false) :
    F.InLine (pa ++ c.takeWhile q) (pb ++ c.takeWhile q) (c.dropWhile q) cs cs'
      (s.takeMany (s.rest.takeWhile q).length) (s'.takeMany (s'.rest.takeWhile q).length) := by
  rw [h.rest, h.rest', takeWhile_line hq, takeWhile_line hq]
  rw [← List.takeWhile_append_dropWhile (p := q) (l := c)] at h
  exact h.takeMany

theorem InLine.head?_rest (h : F.InLine pa pb c cs cs' s s') : s'.rest.head? = s.rest.head? := by
  rw [h.rest, h.rest']
  cases c <;> rfl

theorem InLine.behindBlanks (h : F.InLine pa pb c cs cs' s s') :
    ∃ pa pb c cs cs', F.InLine pa pb c cs cs' s.behindBlanks s'.behindBlanks := by
  have hskip := h.takeWhile (q := fun c => c == ' ' || c == '\t' || c == '\x0c') rfl
  unfold Scanner.behindBlanks
  rw [Scanner.enter_of_not_spent h.spent, Scanner.enter_of_not_spent h.spent']
  change F.InLine _ _ _ cs cs' s.skipBlanks s'.skipBlanks at hskip
  rw [hskip.head?_rest]
  by_cases hcomment : (s.skipBlanks.rest.head? == some '#') = true
  · rw [if_pos hcomment, if_pos hcomment]
    exact ⟨_, _, _, _, _, hskip.takeWhile rfl⟩
  · rw [if_neg hcomment, if_neg hcomment]
    exact ⟨_, _, _, _, _, hskip⟩

theorem skipBlanks_takeMany {x r : List Char} (h : s.rest = x ++ r)
    (hx : x.all isIndent = true) : (s.takeMany x.length).skipBlanks = s.skipBlanks := by
  have hblank : ∀ d ∈ x, (d == ' ' || d == '\t' || d == '\x0c') = true := fun d hd => by
    have := List.all_eq_true.1 hx d hd
    simp only [isIndent] at this
    simp only [this, Bool.true_or]
  unfold Scanner.skipBlanks
  rw [Scanner.takeMany_rest, h, List.drop_left, List.takeWhile_append_of_pos hblank,
    List.length_append, Scanner.takeMany_add]

theorem AtMargin.behindBlanks (h : F.AtMargin x y c cs cs' s s') :
    ∃ pa pb c cs cs', F.InLine pa pb c cs cs' s.behindBlanks s'.behindBlanks := by
  have hskip := h.skip.behindBlanks
  unfold Scanner.behindBlanks at hskip ⊢
  rw [Scanner.enter_of_not_spent h.spent, Scanner.enter_of_not_spent h.spent']
  rw [Scanner.enter_of_not_spent h.skip.spent, Scanner.enter_of_not_spent h.skip.spent',
    skipBlanks_takeMany (by rw [h.rest, List.append_assoc]) h.blank,
    skipBlanks_takeMany (by rw [h.rest', List.append_assoc]) h.blank'] at hskip
  exact hskip

/-! ## Pieces that are alike -/

/-- A string token all of whose further lines are the same in both texts. -/
def Exact (F : Facing) (t : Token) : Prop :=
  t.kind = .string → ∀ l a b, t.line < l → l ≤ t.endLine → F.row l a b → a = b

/-- What becomes of two readers: the first one is stuck, or they find the same. -/
inductive Alongside (F : Facing) : Piece × Scanner → Piece × Scanner → Prop
  | broken (b : Break) (u : Scanner) (x' : Piece × Scanner) : Alongside F (.broken b, u) x'
  | nothing {u u' : Scanner} (ends : F.AtEnd u u') (even : Scanner.Even u u') :
    Alongside F (.nothing, u) (.nothing, u')
  | newline {t t' : Token} {u u' : Scanner} (kind : t.kind = .newline)
      (alike : t.Alike F.vantage t') (ends : F.AtEnd u u') (even : Scanner.Even u u') :
    Alongside F (.token t, u) (.token t', u')
  | solid {t t' : Token} {pa pb c cs cs' : List Char} {u u' : Scanner} (solid : t.isLayout = false)
      (alike : t.Alike F.vantage t') (inLine : F.InLine pa pb c cs cs' u u') (even : Scanner.Even u u') :
    Alongside F (.token t, u) (.token t', u')

/-- A token that both readers take from the line. -/
theorem InLine.token {kind : TokenKind} {text : List Char} {b b' : List OpenBracket}
    (h : F.InLine pa pb (p ++ c) cs cs' s s') (heven : Scanner.Even s s') (hp : p ≠ [])
    (hkind : kind ≠ .newline ∧ kind ≠ .indent ∧ kind ≠ .dedent ∧ kind ≠ .endMarker)
    (hb : b'.map (·.bracket) = b.map (·.bracket)) :
    F.Alongside
      (.token (Scanner.token kind s { s.takeMany p.length with brackets := b } text),
        { s.takeMany p.length with brackets := b })
      (.token (Scanner.token kind s' { s'.takeMany p.length with brackets := b' } text),
        { s'.takeMany p.length with brackets := b' }) := by
  have htake := h.takeMany
  have hmoves := Scanner.Moves.takeMany s p.length
  have hmoves' := Scanner.Moves.takeMany s' p.length
  have hline := Scanner.takeMany_line s p.length
  have hline' := Scanner.takeMany_line s' p.length
  have hne : p ++ c ≠ [] := by simp [hp]
  refine .solid (c := c) ?_ ⟨rfl, rfl, fun _ => ?_, fun _ => ?_⟩
    { htake with } ?_
  · simp only [Scanner.token, Token.isLayout]
    split <;> simp_all
  · have hplace := F.place h.row (by simp [hp])
    rw [← h.column, ← h.column', ← h.line, ← hline, ← hline'] at hplace
    exact hplace
  · have hplace := F.place htake.row (by simp [hp])
    rw [← htake.column, ← htake.column', ← htake.line] at hplace
    exact hplace
  · exact { lineStart := by rw [hmoves.lineStart, hmoves'.lineStart, heven.lineStart]
            pending := by rw [hmoves.pending, hmoves'.pending, heven.pending]
            brackets := hb }

theorem InLine.token_of_take {kind : TokenKind} {n : Nat} {text : List Char}
    {b b' : List OpenBracket} (h : F.InLine pa pb c cs cs' s s') (heven : Scanner.Even s s')
    (hpos : 0 < n) (hn : n ≤ c.length)
    (hkind : kind ≠ .newline ∧ kind ≠ .indent ∧ kind ≠ .dedent ∧ kind ≠ .endMarker)
    (hb : b'.map (·.bracket) = b.map (·.bracket)) :
    F.Alongside
      (.token (Scanner.token kind s { s.takeMany n with brackets := b } text),
        { s.takeMany n with brackets := b })
      (.token (Scanner.token kind s' { s'.takeMany n with brackets := b' } text),
        { s'.takeMany n with brackets := b' }) := by
  have hlength : (c.take n).length = n := by rw [List.length_take]; omega
  rw [← List.take_append_drop n c] at h
  have := @InLine.token F pa pb (c.take n) (c.drop n) cs cs' s s' kind text b b' h heven
    (List.length_pos_iff.1 (by omega)) hkind hb
  rwa [hlength] at this

theorem InLine.readName {d : Char} (h : F.InLine pa pb (d :: c) cs cs' s s') (heven : Scanner.Even s s')
    (hd : NumberScan.nameLike d = true) :
    F.Alongside (s.readName lines) (s'.readName lines') := by
  have htext : s.rest.takeWhile NumberScan.nameLike = (d :: c).takeWhile NumberScan.nameLike := by
    rw [h.rest, takeWhile_line rfl]
  have htext' : s'.rest.takeWhile NumberScan.nameLike = (d :: c).takeWhile NumberScan.nameLike := by
    rw [h.rest', takeWhile_line rfl]
  unfold Scanner.readName
  rw [htext, htext']
  generalize hp : (d :: c).takeWhile NumberScan.nameLike = p
  dsimp only
  rcases Scanner.badNameChar p with _ | ⟨n, e⟩
  · have hkind : ∀ b : Bool, (if b then TokenKind.keyword else .name) ≠ .newline
        ∧ (if b then TokenKind.keyword else .name) ≠ .indent
        ∧ (if b then TokenKind.keyword else .name) ≠ .dedent
        ∧ (if b then TokenKind.keyword else .name) ≠ .endMarker := by decide
    have hlength : p.length ≤ (d :: c).length := hp ▸ (List.takeWhile_sublist _).length_le
    have hpos : 0 < p.length := by rw [← hp, List.takeWhile_cons_of_pos hd]; exact Nat.succ_pos _
    exact h.token_of_take heven hpos hlength (hkind _) (heven.takeMany _ _)
  · exact .broken _ _ _

theorem InLine.readNumber {d : Char} (h : F.InLine pa pb (d :: c) cs cs' s s')
    (heven : Scanner.Even s s') (hd : d.isDigit = true ∨ d = '.') :
    F.Alongside (s.readNumber lines) (s'.readNumber lines') := by
  obtain ⟨r, hr, hbounds⟩ := scanNumber_settled c hd
  have hscan : scanNumber s.rest = r := by rw [h.rest]; exact hr cs
  have hscan' : scanNumber s'.rest = r := by rw [h.rest']; exact hr cs'
  unfold Scanner.readNumber
  rw [hscan, hscan']
  cases r with
  | literal n =>
    obtain ⟨hpos, hn⟩ := hbounds n rfl
    have htext : s'.rest.take n = s.rest.take n := by
      rw [h.rest, h.rest', List.take_append_of_le_length (by simpa using hn),
        List.take_append_of_le_length (by simpa using hn)]
    dsimp only
    rw [htext]
    exact h.token_of_take heven hpos hn (by decide) (heven.takeMany _ _)
  | bad message n => exact .broken _ _ _
  | leadingZeros => exact .broken _ _ _

/-! ## Operators -/

theorem InLine.readOperator {d e : Char} (h : F.InLine pa pb (d :: c) cs cs' s s')
    (heven : Scanner.Even s s') :
    F.Alongside (s.readOperator lines e) (s'.readOperator lines' e) := by
  obtain ⟨hlength, hpos, hn⟩ := Scanner.operatorLength_line d c cs
  have hlength' := (Scanner.operatorLength_line d c cs').1
  rw [← h.rest] at hlength
  rw [← h.rest'] at hlength'
  generalize Scanner.operatorLength (d :: c) = n at hlength hlength' hpos hn
  have htext : s'.rest.take n = s.rest.take n := by
    rw [h.rest, h.rest', List.take_append_of_le_length hn, List.take_append_of_le_length hn]
  have htoken : ∀ b b' : List OpenBracket, b'.map (·.bracket) = b.map (·.bracket) → _ :=
    fun b b' hb => @InLine.token_of_take F pa pb (d :: c) cs cs' s s' .operator n (s.rest.take n)
      b b' h heven hpos hn (by decide) hb
  have hsame := htoken _ _ (heven.takeMany n n)
  unfold Scanner.readOperator
  rw [hlength, hlength']
  dsimp only
  rw [htext]
  -- A single character may be a bracket, and brackets are kept track of.
  by_cases hlong : n > 1
  · rw [if_pos hlong, if_pos hlong]
    exact hsame
  rw [if_neg hlong, if_neg hlong]
  by_cases hopen : (e == '(' || e == '[' || e == '{') = true
  · rw [if_pos hopen, if_pos hopen]
    have hbrackets : s'.brackets.length = s.brackets.length := by
      simpa using congrArg List.length heven.brackets
    rw [hbrackets]
    split_ifs
    · exact .broken _ _ _
    · exact htoken _ _ (by simp [heven.brackets])
  rw [if_neg hopen, if_neg hopen]
  by_cases hclose : (e == ')' || e == ']' || e == '}') = true
  · rw [if_pos hclose, if_pos hclose]
    have hbrackets := heven.brackets
    rcases hs : s.brackets with _ | ⟨b, outer⟩
    · exact .broken _ _ _
    · rcases hs' : s'.brackets with _ | ⟨b', outer'⟩
      · simp [hs, hs'] at hbrackets
      · simp only [hs, hs', List.map_cons, List.cons.injEq] at hbrackets
        dsimp only
        rw [hbrackets.1]
        by_cases hmatch : (Scanner.closing b.bracket == e) = true
        · rw [if_pos hmatch, if_pos hmatch]
          exact htoken outer outer' hbrackets.2
        · rw [if_neg hmatch]
          rcases Bool.eq_false_or_eq_true (b.line == s.line) with hline | hline <;> rw [hline] <;>
            exact .broken _ _ _
  rw [if_neg hclose, if_neg hclose]
  split_ifs
  · exact .broken _ _ _
  · exact hsame

/-! ## Strings -/

/-- If the blanks before a line are the same then all of the line is. -/
theorem AtMargin.inLine (h : F.AtMargin x y c cs cs' s s') (heq : x ++ c = y ++ c) :
    F.InLine [] [] (x ++ c) cs cs' s s' where
  row := by
    have := h.row
    rwa [← heq] at this
  line := h.line
  spent := h.spent
  spent' := h.spent'
  rest := h.rest
  rest' := by rw [heq]; exact h.rest'
  column := h.column
  column' := h.column'
  clean hmem := by
    rcases List.mem_append.1 hmem with hmem | hmem
    · exact absurd (List.all_eq_true.1 h.blank _ hmem) (by decide)
    · exact h.clean hmem
  more := h.more
  last := h.last

/-- Where the readers are within a string: in a line or at its end. -/
inductive Within (F : Facing) (s s' : Scanner) : Prop
  | inLine {pa pb c cs cs' : List Char} (h : F.InLine pa pb c cs cs' s s')
  | atEnd (h : F.AtEnd s s')

/-- Both readers have read the same text and stand behind it. -/
structure Behind (F : Facing) (s s' u u' : Scanner) (text pa pb c cs cs' : List Char) : Prop where
  inLine : F.InLine pa pb c cs cs' u u'
  ne : pb ≠ []
  rest : s.rest = text ++ u.rest
  rest' : s'.rest = text ++ u'.rest

theorem Behind.cons {text q : List Char} {t t' : Scanner} (h : F.Behind t t' u u' text pa pb c cs cs')
    (hrest : s.rest = q ++ t.rest) (hrest' : s'.rest = q ++ t'.rest) :
    F.Behind s s' u u' (q ++ text) pa pb c cs cs' where
  inLine := h.inLine
  ne := h.ne
  rest := by rw [hrest, h.rest, List.append_assoc]
  rest' := by rw [hrest', h.rest', List.append_assoc]

/-- What goes on within a string goes on in both, if its next line is the same. -/
theorem Within.enter (h : F.Within s s')
    (hexact : ∀ a b, s.spent = true → F.row (s.line + 1) a b → a = b) (hne : s.rest ≠ []) :
    ∃ pa pb c cs cs', F.InLine pa pb c cs cs' (s.enter true) (s'.enter true) := by
  cases h with
  | @inLine pa pb c cs cs' h =>
    rw [Scanner.enter_of_not_spent h.spent, Scanner.enter_of_not_spent h.spent']
    exact ⟨pa, pb, c, cs, cs', h⟩
  | atEnd h =>
    have hline : (s.enter true).line = s.line + 1 := by simp [Scanner.enter, h.spent, hne]
    by_cases hne' : s'.rest = []
    · -- The first text has a line more, which is not the same.
      have hmore := h.more
      generalize s.rest = r at hmore hne
      generalize s'.rest = r' at hmore hne'
      cases hmore with
      | nil => exact absurd rfl hne
      | cons => simp at hne'
      | @extra _ a row ne blank => exact absurd (hexact a [] h.spent row) ne
    · obtain ⟨x, y, c, cs, cs', hmargin⟩ := h.enter hne' true
      exact ⟨[], [], x ++ c, cs, cs', hmargin.inLine (hexact _ _ h.spent (hline ▸ hmargin.row))⟩

/-- The second reader closes the string that the first one has closed behind the same text. -/
def Closes (F : Facing) (s s' u : Scanner) (x' : Scanner × Scanner.StringEnd) : Prop :=
  ∃ u' text pa pb c cs cs', x' = (u', .closed) ∧ F.Behind s s' u u' text pa pb c cs cs'

theorem Closes.cons {q : List Char} {t t' : Scanner} {x' : Scanner × Scanner.StringEnd}
    (h : F.Closes t t' u x') (hrest : s.rest = q ++ t.rest) (hrest' : s'.rest = q ++ t'.rest) :
    F.Closes s s' u x' := by
  obtain ⟨u', text, pa, pb, c, cs, cs', hread', hbehind⟩ := h
  exact ⟨u', q ++ text, pa, pb, c, cs, cs', hread', hbehind.cons hrest hrest'⟩

/-- Behind some text that both have read, the readers go on until the string is closed. -/
def GoOn (F : Facing) (s s' u : Scanner) (again again' : Scanner → Nat → Scanner × Scanner.StringEnd) :
    Prop :=
  ∀ {t t' : Scanner} {run : Nat} {q : List Char}, F.Within t t' → Scanner.Moves s t →
    s.rest = q ++ t.rest → s'.rest = q ++ t'.rest → q ≠ [] → again t run = (u, .closed) →
    F.Closes s s' u (again' t' run)

section StringStep

variable {quote : Char} {long : Bool} {run : Nat}
  {again again' : Scanner → Nat → Scanner × Scanner.StringEnd}

/-- At the end of a line a string goes on if it is a long one. -/
theorem InLine.stringStep_nil (hin : F.InLine pa pb [] cs cs' s s') (hquote : quote ≠ '\n')
    (hagain : F.GoOn s s' u again again')
    (hread : Scanner.stringStep quote long again s run = (u, .closed)) :
    F.Closes s s' u (Scanner.stringStep quote long again' s' run) := by
  have hrest := hin.rest
  have hrest' := hin.rest'
  rw [List.nil_append] at hrest hrest'
  have hback : ('\n' == '\\') = false := rfl
  have hne : ('\n' == quote) = false := by simpa using Ne.symm hquote
  unfold Scanner.stringStep at hread ⊢
  simp only [hrest, hrest', hne, hback, Bool.false_eq_true, if_false] at hread ⊢
  by_cases hlong : ('\n' == '\n' && !long) = true
  · rw [if_pos hlong] at hread
    exact nomatch (Prod.mk.inj hread).2
  rw [if_neg hlong] at hread ⊢
  exact hagain (q := ['\n']) (.atEnd hin.takeEnd) (Scanner.Moves.take s)
    (by rw [Scanner.take_eq hrest, hrest]; rfl) (by rw [Scanner.take_eq hrest', hrest']; rfl)
    (by simp) hread

/-- Behind a backslash a string goes on with the second character after it, which may be the end
    of the line. -/
theorem InLine.stringStep_escape {d : Char} (hin : F.InLine pa pb (d :: c) cs cs' s s')
    (hagain : F.GoOn s s' u again again')
    (hread : again (s.take.enter true).take 0 = (u, .closed)) :
    F.Closes s s' u (again' (s'.take.enter true).take 0) := by
  have hrest := hin.rest
  have hrest' := hin.rest'
  have htake := hin.take
  have hnext := htake.rest
  have hnext' := htake.rest'
  rw [List.cons_append] at hrest hrest'
  have hone : s.rest = [d] ++ s.take.rest := by rw [Scanner.take_eq hrest, hrest]; rfl
  have hone' : s'.rest = [d] ++ s'.take.rest := by rw [Scanner.take_eq hrest', hrest']; rfl
  have hmoves := (Scanner.Moves.take s).trans (Scanner.Moves.take s.take)
  rw [Scanner.enter_of_not_spent htake.spent] at hread
  rw [Scanner.enter_of_not_spent htake.spent']
  rcases c with _ | ⟨e, c⟩
  · rw [List.nil_append] at hnext hnext'
    refine hagain (q := [d, '\n']) (.atEnd htake.takeEnd) hmoves ?_ ?_ (by simp) hread
    · rw [hone, hnext, Scanner.take_eq hnext]; rfl
    · rw [hone', hnext', Scanner.take_eq hnext']; rfl
  · rw [List.cons_append] at hnext hnext'
    refine hagain (q := [d, e]) (.inLine htake.take) hmoves ?_ ?_ (by simp) hread
    · rw [hone, hnext, Scanner.take_eq hnext]; rfl
    · rw [hone', hnext', Scanner.take_eq hnext']; rfl

/-- Any other character of a line closes the string, or it goes on behind that. -/
theorem InLine.stringStep_cons {d : Char} (hin : F.InLine pa pb (d :: c) cs cs' s s')
    (hagain : F.GoOn s s' u again again')
    (hread : Scanner.stringStep quote long again s run = (u, .closed)) :
    F.Closes s s' u (Scanner.stringStep quote long again' s' run) := by
  have hrest := hin.rest
  have hrest' := hin.rest'
  have hd : (d == '\n') = false := by
    have := hin.clean
    simp only [List.mem_cons, not_or] at this
    simpa using Ne.symm this.1
  rw [List.cons_append] at hrest hrest'
  have hone : s.rest = [d] ++ s.take.rest := by rw [Scanner.take_eq hrest, hrest]; rfl
  have hone' : s'.rest = [d] ++ s'.take.rest := by rw [Scanner.take_eq hrest', hrest']; rfl
  unfold Scanner.stringStep at hread ⊢
  simp only [hrest, hrest', hd, Bool.false_and, Bool.false_eq_true, if_false] at hread ⊢
  by_cases hclosing : (d == quote) = true
  · rw [if_pos hclosing] at hread ⊢
    by_cases hrun : (run + 1 == if long then 3 else 1) = true
    · rw [if_pos hrun] at hread ⊢
      obtain rfl := (Prod.mk.inj hread).1
      exact ⟨_, [d], _, _, _, _, _, rfl, hin.take, by simp, hone, hone'⟩
    · rw [if_neg hrun] at hread ⊢
      exact hagain (.inLine hin.take) (Scanner.Moves.take s) hone hone' (by simp) hread
  rw [if_neg hclosing] at hread ⊢
  by_cases hback : (d == '\\') = true
  · rw [if_pos hback] at hread ⊢
    exact hin.stringStep_escape hagain hread
  · rw [if_neg hback] at hread ⊢
    exact hagain (.inLine hin.take) (Scanner.Moves.take s) hone hone' (by simp) hread

end StringStep

theorem Within.readString {quote : Char} {long : Bool} (hquote : quote ≠ '\n') (n : Nat) :
    ∀ {n' run : Nat} {s s' u : Scanner}, F.Within s s' → s'.rest.length < n' →
    Scanner.readString quote long n s run = (u, .closed) →
    (∀ l a b, s.line < l → l ≤ u.line → F.row l a b → a = b) →
    F.Closes s s' u (Scanner.readString quote long n' s' run) := by
  induction n with
  | zero => exact fun _ _ h => nomatch (Prod.mk.inj h).2
  | succ n ih =>
    intro n' run s s' u hwithin hn' hread hexact
    obtain ⟨n', rfl⟩ : ∃ m, n' = m + 1 := ⟨n' - 1, by omega⟩
    have hmoves := Scanner.Moves.enter s true
    -- A reader that enters a further line closes the string in that line at the earliest.
    have hline : s.spent = true → s.rest ≠ [] → s.line + 1 ≤ u.line := by
      intro hspent hne
      have hmove := (Scanner.Moves.readString quote long (n + 1) (s.enter true) run).line
      rw [Scanner.readString_succ, Scanner.enter_enter, ← Scanner.readString_succ, hread] at hmove
      simpa [Scanner.enter, hspent, hne] using hmove
    rw [Scanner.readString_succ] at hread ⊢
    have hne : s.rest ≠ [] := by
      intro hnil
      rw [Scanner.stringStep, Scanner.enter_rest, hnil] at hread
      exact nomatch (Prod.mk.inj hread).2
    obtain ⟨pa, pb, c, cs, cs', hin⟩ := hwithin.enter
      (fun a b hspent => hexact _ a b (Nat.lt_succ_self _) (hline hspent hne)) hne
    -- What both have read is left out, so the induction goes on with the rest of the second text.
    have hagain : F.GoOn (s.enter true) (s'.enter true) u (Scanner.readString quote long n)
        (Scanner.readString quote long n') := by
      intro t t' run q hwithin hgone hrest hrest' hq hread
      have hlength : t'.rest.length < n' := by
        rw [← Scanner.enter_rest s' true, hrest', List.length_append] at hn'
        have := List.length_pos_iff.2 hq
        omega
      exact (ih hwithin hlength hread fun l a b hl =>
        hexact l a b ((hmoves.trans hgone).line.trans_lt hl)).cons hrest hrest'
    have hstep : F.Closes (s.enter true) (s'.enter true) u
        (Scanner.stringStep quote long (Scanner.readString quote long n') (s'.enter true) run) := by
      rcases c with _ | ⟨d, c⟩
      · exact hin.stringStep_nil hquote hagain hread
      · exact hin.stringStep_cons hagain hread
    exact hstep.cons (q := []) (by simp [Scanner.enter_rest]) (by simp [Scanner.enter_rest])

theorem InLine.readQuoted {k : Nat} {q : Char} {rest : List Char}
    (h : F.InLine pa pb c cs cs' s s') (heven : Scanner.Even s s') (hdrop : c.drop k = q :: rest)
    (hexact : ∀ t, (s.readQuoted lines k).1 = .token t → F.Exact t) :
    F.Alongside (s.readQuoted lines k) (s'.readQuoted lines' k) := by
  have hk : (c.take k).length = k := by
    have := congrArg List.length hdrop
    rw [List.length_drop, List.length_cons] at this
    rw [List.length_take]
    omega
  have hopen : F.InLine (pa ++ c.take k) (pb ++ c.take k) (q :: rest) cs cs' (s.takeMany k)
      (s'.takeMany k) := by
    have := h
    rw [← List.take_append_drop k c, hdrop] at this
    simpa only [hk] using this.takeMany
  have hlong : Scanner.isLong (s.takeMany k).rest = Scanner.isLong (q :: rest) := by
    rw [hopen.rest, Scanner.isLong_line hopen.clean]
  have hlong' : Scanner.isLong (s'.takeMany k).rest = Scanner.isLong (q :: rest) := by
    rw [hopen.rest', Scanner.isLong_line hopen.clean]
  have hquote : (s.takeMany k).rest.headD '"' = q := by rw [hopen.rest]; rfl
  have hquote' : (s'.takeMany k).rest.headD '"' = q := by rw [hopen.rest']; rfl
  have hne : q ≠ '\n' := fun heq => hopen.clean (heq ▸ List.mem_cons_self)
  -- Behind the quotes that open the string.
  obtain ⟨quotes, more, hquotes, hmore⟩ : ∃ quotes more, q :: rest = quotes ++ more
      ∧ quotes.length = if Scanner.isLong (q :: rest) then 3 else 1 := by
    by_cases hthree : Scanner.isLong (q :: rest) = true
    · rw [if_pos hthree]
      rcases rest with _ | ⟨b, _ | ⟨d, rest⟩⟩
      · exact nomatch hthree
      · exact nomatch hthree
      · exact ⟨[q, b, d], rest, rfl, rfl⟩
    · rw [if_neg hthree]
      exact ⟨[q], rest, rfl, rfl⟩
  rw [hquotes] at hopen
  have hinner := hopen.takeMany
  rw [hmore] at hinner
  rw [Scanner.readQuoted_eq lines s k hquote hlong, Scanner.readQuoted_eq lines' s' k hquote' hlong']
  rw [Scanner.readQuoted_eq lines s k hquote hlong] at hexact
  generalize (if Scanner.isLong (q :: rest) then 3 else 1) = m at hinner hexact hmore
  generalize hread : Scanner.readString q (Scanner.isLong (q :: rest)) _
    ((s.takeMany k).takeMany m) 0 = x at hexact
  obtain ⟨stop, how⟩ := x
  cases how with
  | unterminated => exact .broken _ _ _
  | closed =>
    have hexact := hexact _ rfl rfl
    obtain ⟨stop', text, pa', pb', c', ds, ds', hread', hbehind⟩ :=
      (Within.inLine hinner).readString hne _ (Nat.lt_succ_self _) hread
      (fun l a b hl hle => hexact l a b
        (by rwa [Scanner.takeMany_line, Scanner.takeMany_line] at hl) hle)
    rw [hread']
    -- The text of the token is what both readers have come past.
    have hc : c = c.take k ++ quotes ++ more := by
      rw [List.append_assoc, ← hquotes, ← hdrop, List.take_append_drop]
    have hinnerRest := hinner.rest.symm.trans hbehind.rest
    have hinnerRest' := hinner.rest'.symm.trans hbehind.rest'
    have hrest : s.rest = c.take k ++ quotes ++ text ++ stop.rest := by
      rw [List.append_assoc _ text, ← hinnerRest, h.rest, ← List.append_assoc, ← hc]
    have hrest' : s'.rest = c.take k ++ quotes ++ text ++ stop'.rest := by
      rw [List.append_assoc _ text, ← hinnerRest', h.rest', ← List.append_assoc, ← hc]
    have htaken : ∀ front back : List Char,
        (front ++ back).take ((front ++ back).length - back.length) = front := fun front back => by
      rw [List.length_append, Nat.add_sub_cancel, List.take_left]
    have hmoves : ∀ (t u : Scanner) (j : Nat) {run n : Nat},
        (Scanner.readString q (Scanner.isLong (q :: rest)) n ((t.takeMany k).takeMany j) run).1 = u →
        Scanner.Moves t u := fun t u j run n heq => heq ▸ (Scanner.Moves.takeMany t k).trans
      ((Scanner.Moves.takeMany _ j).trans (Scanner.Moves.readString _ _ _ _ _))
    have hne' : pb ++ c ≠ [] := fun heq => by
      rw [(List.append_eq_nil_iff.1 heq).2] at hdrop
      simp at hdrop
    refine .solid rfl ⟨rfl, ?_, fun _ => ?_, fun _ => ?_⟩ hbehind.inLine
      (heven.of_moves (hmoves s stop m (by rw [hread])) (hmoves s' stop' m (by rw [hread'])))
    · simp only [Scanner.token]
      rw [hrest, hrest', htaken, htaken]
    · have := F.place h.row hne'
      rw [← h.line, ← h.column, ← h.column'] at this
      exact this
    · have := F.place hbehind.inLine.row (by simp [hbehind.ne])
      rw [← hbehind.inLine.line, ← hbehind.inLine.column, ← hbehind.inLine.column'] at this
      exact this

/-! ## Any piece -/

theorem InLine.lineEnd (h : F.InLine pa pb [] cs cs' s s') (heven : Scanner.Even s s') (blank : Bool) :
    F.Alongside (s.lineEnd blank) (s'.lineEnd blank) := by
  have hends := h.takeEnd
  have heven' := heven.of_moves (Scanner.Moves.take s) (Scanner.Moves.take s')
  have hends : F.AtEnd { s.take with lineStart := true } { s'.take with lineStart := true } :=
    ⟨hends.line, hends.spent, hends.spent', hends.more⟩
  have heven' : Scanner.Even { s.take with lineStart := true } { s'.take with lineStart := true } :=
    ⟨rfl, heven'.pending, heven'.brackets⟩
  unfold Scanner.lineEnd
  rw [heven.isEmpty_brackets]
  by_cases hblank : (blank || !s.brackets.isEmpty) = true
  · rw [if_pos hblank, if_pos hblank]
    exact .nothing hends heven'
  · rw [if_neg hblank, if_neg hblank]
    exact .newline rfl ⟨rfl, rfl, nofun, nofun⟩ hends heven'

/-- Behind a backslash at the end of a line both readers are at the beginning of the next one, or
    the first one is stuck. -/
theorem InLine.continueLine (h : F.InLine pa pb ('\\' :: c) cs cs' s s') (inToken : Bool) :
    (∃ b u, s.take.continueLine inToken = .error (b, u))
    ∨ ∃ x y d ds ds' t t', c = [] ∧ s.take.continueLine inToken = .ok t
      ∧ s'.take.continueLine inToken = .ok t' ∧ t.line = s.line + 1
      ∧ F.AtMargin x y d ds ds' t t' := by
  have htake := h.take
  have hrest := htake.rest
  have hrest' := htake.rest'
  rcases c with _ | ⟨d, c⟩
  · have hends := htake.takeEnd
    rw [List.nil_append] at hrest hrest'
    have hmore : s.take.take.rest = cs := by rw [Scanner.take_eq hrest]
    have hmore' : s'.take.take.rest = cs' := by rw [Scanner.take_eq hrest']
    unfold Scanner.continueLine
    simp only [hrest, hrest', hmore, hmore', List.isEmpty_iff]
    by_cases hcs : cs = []
    · exact .inl ⟨_, _, if_pos hcs⟩
    · -- A line that is continued in the first text is continued in the second.
      have hcs' : cs' ≠ [] := fun heq => hcs (h.last (by simp) heq)
      have hline : (s.take.take.enter inToken).line = s.line + 1 := by
        have := (Scanner.takeMany_line s 2)
        simp only [Scanner.takeMany] at this
        simp [Scanner.enter, hends.spent, hmore, hcs, this]
      obtain ⟨x, y, d, ds, ds', hmargin⟩ := hends.enter (hmore' ▸ hcs') inToken
      exact .inr ⟨x, y, d, ds, ds', _, _, trivial, if_neg hcs, if_neg hcs', hline, hmargin⟩
  · have hne : d ≠ '\n' := fun heq => htake.clean (heq ▸ List.mem_cons_self)
    refine .inl ⟨.continuation, s.take, ?_⟩
    unfold Scanner.continueLine
    rw [hrest]
    split
    · simp_all
    · rfl

theorem InLine.pieceAt {again again' : Scanner → Piece × Scanner}
    (h : F.InLine pa pb c cs cs' s s') (heven : Scanner.Even s s') (blank : Bool)
    (hagain : ∀ {x y d ds ds' t t'}, F.AtMargin x y d ds ds' t t' → Scanner.Even t t' →
      t.rest.length < s.rest.length → t'.rest.length < s'.rest.length →
      (∀ tok, (again t).1 = .token tok → F.Exact tok) → F.Alongside (again t) (again' t'))
    (hexact : ∀ t, (s.pieceAt lines blank again).1 = .token t → F.Exact t) :
    F.Alongside (s.pieceAt lines blank again) (s'.pieceAt lines' blank again') := by
  have hrest := h.rest
  have hrest' := h.rest'
  unfold Scanner.pieceAt at hexact ⊢
  rcases c with _ | ⟨d, c⟩
  · rw [List.nil_append] at hrest hrest'
    have hname : (NumberScan.nameLike '\n' && !Char.isDigit '\n') = false := by decide
    simp only [hrest, hrest', hname, beq_self_eq_true, Bool.false_eq_true, if_false, if_true]
    exact h.lineEnd heven blank
  rw [List.cons_append] at hrest hrest'
  have hleads : Scanner.stringPrefix s.rest = Scanner.stringPrefix (d :: c) := by
    rw [hrest, ← List.cons_append, Scanner.stringPrefix_line]
  have hleads' : Scanner.stringPrefix s'.rest = Scanner.stringPrefix (d :: c) := by
    rw [hrest', ← List.cons_append, Scanner.stringPrefix_line]
  have hne : (d == '\n') = false := by
    have := h.clean
    simp only [List.mem_cons, not_or] at this
    simpa using Ne.symm this.1
  have hdot : ∀ ds : List Char, (c ++ '\n' :: ds).head?.map Char.isDigit =
      (c ++ ['\n']).head?.map Char.isDigit := fun ds => by cases c <;> rfl
  rw [hleads] at hexact
  rw [hleads, hleads']
  simp only [hrest] at hexact
  simp only [hrest, hrest', hne, Bool.false_eq_true, if_false] at hexact ⊢
  rw [hdot cs] at hexact
  rw [hdot cs, hdot cs']
  -- Which kind of token begins is seen from what stands in the line, which is the same in both.
  by_cases hname : (NumberScan.nameLike d && !d.isDigit) = true
  · rw [if_pos hname] at hexact
    rw [if_pos hname, if_pos hname]
    rcases hquoted : Scanner.stringPrefix (d :: c) with _ | k
    · exact h.readName heven (Bool.and_eq_true _ _ ▸ hname).1
    · obtain ⟨q, rest, hdrop, -⟩ := Scanner.stringPrefix_some hquoted
      rw [hquoted] at hexact
      exact h.readQuoted heven hdrop hexact
  rw [if_neg hname] at hexact
  rw [if_neg hname, if_neg hname]
  generalize hdigit : (d.isDigit || (d == '.' && ((c ++ ['\n']).head?.map Char.isDigit).getD false)) =
    digit at hexact
  cases digit with
  | true =>
    refine h.readNumber heven ?_
    simp only [Bool.or_eq_true, Bool.and_eq_true, beq_iff_eq] at hdigit
    exact hdigit.imp_right And.left
  | false =>
    simp only [Bool.false_eq_true, if_false] at hexact ⊢
    by_cases hquote : (d == '"' || d == '\'') = true
    · rw [if_pos hquote] at hexact
      rw [if_pos hquote, if_pos hquote]
      exact h.readQuoted heven rfl hexact
    rw [if_neg hquote] at hexact
    rw [if_neg hquote, if_neg hquote]
    by_cases hback : (d == '\\') = true
    · rw [if_pos hback] at hexact
      rw [if_pos hback, if_pos hback]
      obtain rfl := eq_of_beq hback
      have htake : s.take.rest.length < s.rest.length := by
        rw [Scanner.take_eq hrest, hrest]
        exact Nat.lt_succ_self _
      have htake' : s'.take.rest.length < s'.rest.length := by
        rw [Scanner.take_eq hrest', hrest']
        exact Nat.lt_succ_self _
      obtain ⟨b, u, herror⟩ | ⟨x, y, e, ds, ds', t, t', -, hok, hok', -, hmargin⟩ :=
        h.continueLine true
      · rw [herror]
        exact .broken _ _ _
      · have hmoves := Scanner.Moves.continueLine hok
        have hmoves' := Scanner.Moves.continueLine hok'
        rw [hok] at hexact
        rw [hok, hok']
        exact hagain hmargin
          (heven.of_moves ((Scanner.Moves.take s).trans hmoves) ((Scanner.Moves.take s').trans hmoves'))
          (hmoves.rest.length_le.trans_lt htake) (hmoves'.rest.length_le.trans_lt htake') hexact
    · rw [if_neg hback, if_neg hback]
      exact h.readOperator heven

/-- The readers find the same piece if they have the same text before them behind blanks. -/
theorem readPiece_alongside (lines lines' : Array (List Char)) (blank : Bool) (n : Nat) {n' : Nat} (heven : Scanner.Even s s')
    (h : ∃ pa pb c cs cs', F.InLine pa pb c cs cs' s.behindBlanks s'.behindBlanks)
    (hn : s.rest.length < n) (hn' : s'.rest.length < n')
    (hexact : ∀ t, (s.readPiece lines blank n).1 = .token t → F.Exact t) :
    F.Alongside (s.readPiece lines blank n) (s'.readPiece lines' blank n') := by
  induction n generalizing n' s s' with
  | zero => exact absurd hn (Nat.not_lt_zero _)
  | succ n ih =>
    obtain ⟨n', rfl⟩ : ∃ m, n' = m + 1 := ⟨n' - 1, by omega⟩
    obtain ⟨pa, pb, c, cs, cs', h⟩ := h
    have hmoves := (Scanner.Moves.enter s false).trans (Scanner.moves_behindBlanks s)
    have hmoves' := (Scanner.Moves.enter s' false).trans (Scanner.moves_behindBlanks s')
    have hle := hmoves.rest.length_le
    have hle' := hmoves'.rest.length_le
    rw [Scanner.readPiece_succ] at hexact ⊢
    rw [Scanner.readPiece_succ]
    -- Only a backslash at the end of a line leads to a further step, and past the line's end.
    exact h.pieceAt (heven.of_moves hmoves hmoves') blank
      (fun hmargin heven hlt hlt' => ih heven hmargin.behindBlanks (by omega) (by omega)) hexact

end Facing

end Graft.Syntax
