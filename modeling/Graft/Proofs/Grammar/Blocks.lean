import Graft.Proofs.Grammar.Steps
import Graft.Proofs.Grammar.TwoTexts
import Graft.Proofs.Lexer.Indenting

set_option autoImplicit false

/-! # Statements as the block of a condition

Tokens are read as the block of a condition: behind the tokens of a header line and that of a level
that begins, and before that of its end.  If their statements are matched when they are read alone,
then the condition is matched, and has those statements.  A condition is tried in two forms, so its
block is matched once and remembered. -/

namespace Graft.Syntax

/-! ## A reading with a header -/

/-- A reading of a header line and a block under it up to the token with the index `stop`, behind
    which the text ends. -/
structure Headed (rd : Reading) (stop : Nat) : Prop where
  plain : rd.diagnosing = false
  whole : rd.source.broken = none
  header : ∀ (i : Nat) (look : TokenKind × String), Scanner.headerLooks[i]? = some look →
    ∃ t : Token, rd.source.tokens[i]? = some t ∧ (t.kind, t.text) = look
  opens : ∃ t : Token, rd.source.tokens[4]? = some t ∧ t.kind = .indent
  closes : ∃ t : Token, rd.source.tokens[stop]? = some t ∧ t.kind = .dedent
  ends : ∃ t : Token, rd.source.tokens[stop + 1]? = some t ∧ t.kind = .endMarker

/-- Texts of which only the kinds and texts of tokens count. -/
def Vantage.blind : Vantage where
  left := ⟨fun _ => (0, 0), rfl⟩
  right := ⟨fun _ => (0, 0), rfl⟩
  same _ _ := True
  place _ := rfl
  further _ _ _ := trivial

/-- A token of a kind and text, wherever it stands. -/
def Token.somewhere (look : TokenKind × String) : Token :=
  ⟨look.1, look.2, 1, none, 1, none, 0, ⟨1, 0, 1⟩⟩

theorem Token.alike_somewhere {t : Token} {look : TokenKind × String} (h : (t.kind, t.text) = look) :
    (Token.somewhere look).Alike .blind t := by
  subst h
  exact ⟨rfl, rfl, fun _ => trivial, fun _ => trivial⟩

/-- The tokens of a header up to its colon, where the text breaks off. -/
def headerReading : Reading where
  source := {
    lines := #[]
    tokens := ((Scanner.headerLooks.take 3).map Token.somewhere ++ [Token.somewhere (.broken, "")]).toArray
    broken := some .endOfText }

/-- The end of a text. -/
def endReading : Reading where
  source := { lines := #[], tokens := #[Token.somewhere (.endMarker, "")] }

/-- Whether the number of a header is matched as an expression and remembered, and nothing behind the
    colon is. -/
def headerMatches : Bool :=
  match matchRules 40 headerReading .expression { mark := 1 } with
  | (some _, st) => st.mark == 2 && st.fault.isNone
      && (match st.memo.get? (Rule.expression.key 1) with | some (some _, 2) => true | _ => false)
      && (List.range 512).all fun i => (st.memo.get? (3 * 512 + i)).isNone
  | _ => false

theorem headerMatches_eq : headerMatches = true := by decide +kernel

/-- Whether no statement is matched at the end of a text. -/
def endMisses : Bool :=
  match matchRules 60 endReading .statement {} with
  | (none, st) => st.fault.isNone
  | _ => false

theorem endMisses_eq : endMisses = true := by decide +kernel

namespace Headed

variable {rd : Reading} {stop m : Nat} {P : Remembered → Prop} {call : RuleMatcher}
  {join : StringJoiner}

theorem parallel_header (h : Headed rd stop) : headerReading.Parallel rd .blind 0 3 where
  plain := rfl
  plain' := h.plain
  whole := nofun
  tokens i hi := by
    have hlook : ∃ look, Scanner.headerLooks[i]? = some look ∧
        headerReading.source.tokens[i]? = some (Token.somewhere look) := by
      rcases i with _ | _ | _ | i
      · exact ⟨_, rfl, rfl⟩
      · exact ⟨_, rfl, rfl⟩
      · exact ⟨_, rfl, rfl⟩
      · omega
    obtain ⟨look, hlook, hleft⟩ := hlook
    obtain ⟨t, ht, heq⟩ := h.header i look hlook
    exact ⟨_, t, hleft, ht, Token.alike_somewhere heq⟩
  frontier := .inr (.inl ⟨_, rfl, rfl, nofun⟩)

theorem parallel_end (h : Headed rd stop) : endReading.Parallel rd .blind (stop + 1) 0 where
  plain := rfl
  plain' := h.plain
  whole _ := h.whole
  tokens := nofun
  frontier := by
    obtain ⟨t, ht, hkind⟩ := h.ends
    exact .inr (.inr ⟨_, t, rfl, by rwa [Nat.zero_add], rfl, .inl hkind⟩)

/-! ## Tokens of the header -/

theorem finds_word (h : Headed rd stop) :
    Finds ((Item.lit "if").run call join rd) 0 P 1 (fun _ => P) := by
  obtain ⟨t, ht, hlook⟩ := h.header 0 _ rfl
  obtain ⟨hkind, htext⟩ := Prod.mk.inj hlook
  exact finds_lit ht (by simp [Token.isLit, hkind, htext])

theorem misses_word (h : Headed rd stop) {text : String} (hne : text ≠ "if") :
    Misses ((Item.lit text).run call join rd) 0 P P := by
  obtain ⟨t, ht, hlook⟩ := h.header 0 _ rfl
  obtain ⟨hkind, htext⟩ := Prod.mk.inj hlook
  exact misses_lit ht (by simp [hkind]) (by simp [Token.isLit, htext, Ne.symm hne])

theorem finds_colon (h : Headed rd stop) :
    Finds ((Item.lit ":").run call join rd) 2 P 3 (fun _ => P) := by
  obtain ⟨t, ht, hlook⟩ := h.header 2 _ rfl
  obtain ⟨hkind, htext⟩ := Prod.mk.inj hlook
  exact finds_lit ht (by simp [Token.isLit, hkind, htext])

/-- There is no keyword at the end. -/
theorem misses_end (h : Headed rd stop) (text : String) :
    Misses ((Item.lit text).run call join rd) (stop + 1) P P := by
  obtain ⟨t, ht, hkind⟩ := h.ends
  exact misses_lit ht (by simp [hkind]) (by simp [Token.isLit, hkind])

end Headed

/-! ## What is remembered -/

/-- The number of the header is remembered, and nothing behind the colon. -/
structure Numbered (M : Remembered) : Prop where
  number : ∃ x, M.get? (Rule.expression.key 1) = some (some x, 2)
  fresh : ∀ (r : Rule) (i : Nat), 3 ≤ i → M.get? (r.key i) = none

/-- The number of the header is remembered, and a block up to its end, but nothing there. -/
structure Blocked (stop : Nat) (p : Node → Prop) (M : Remembered) : Prop where
  number : ∃ x, M.get? (Rule.expression.key 1) = some (some x, 2)
  block : ∃ n, M.get? (Rule.block.key 3) = some (some n, stop + 1) ∧ p n
  fresh : ∀ r : Rule, M.get? (r.key (stop + 1)) = none

section Statement

variable {rd : Reading} {stop m : Nat} {p : Node → Prop}

theorem finds_number (h : Headed rd stop) (hm : 40 ≤ m) :
    Finds (matchRules m rd .expression) 1 (· = .leaf) 2 (fun _ => Numbered) := by
  obtain ⟨j, rfl⟩ := Nat.exists_eq_add_of_le hm
  intro st hst
  have hsync : (Lockstep.ofParallel h.parallel_header .leaf).Synced { mark := 1 } st :=
    { clean := rfl
      clean' := hst.clean
      entry := fun r a _ => by
        rw [hst.memo, Memo.get?_leaf, Memo.get?_leaf]
        exact .absent
      frame := fun r a _ => by rw [hst.memo]; rfl
      le := Nat.succ_le_succ (Nat.zero_le 2)
      mark := hst.mark }
  have hagree := Lockstep.matches_matchRules j 40 _ .expression _ _ rfl hsync
  -- That the header is read this way is computed once, and carried over to the text in step with
  -- it.
  have hcheck := headerMatches_eq
  change Lockstep.Agree _ _ (matchRules 40 headerReading .expression { mark := 1 })
    (matchRules (40 + j) rd .expression st) at hagree
  unfold headerMatches at hcheck
  split at hcheck
  swap
  · cases hcheck
  rename_i x st₁ hleft
  simp only [Bool.and_eq_true, beq_iff_eq, Option.isNone_iff_eq_none, List.all_eq_true,
    List.mem_range] at hcheck
  obtain ⟨⟨⟨hmark, hclean⟩, hnumber⟩, hfresh⟩ := hcheck
  rw [hleft] at hagree
  generalize matchRules (40 + j) rd .expression st = right at hagree
  cases hagree with
  | @done _ st' _ n' hsync hq =>
    refine ⟨n', st', rfl, hsync.mark.trans hmark, ⟨?_, fun r i hi => ?_⟩, hsync.clean'⟩
    · have hentry := hsync.entry .expression 1 (Nat.succ_le_succ (Nat.zero_le 2))
      split at hnumber
      · rename_i y hget
        rw [hget] at hentry
        change Lockstep.SameEntry _ _ _ (st'.memo.get? (Rule.expression.key 1)) at hentry
        generalize st'.memo.get? (Rule.expression.key 1) = e at hentry
        cases hentry with
        | matched => exact ⟨_, rfl⟩
      · cases hnumber
    · rcases hi.eq_or_lt with rfl | hlt
      · have hentry := hsync.entry r 3 le_rfl
        have hnone : st₁.memo.get? (r.key 3) = none := hfresh _ r.index_lt
        rw [hnone] at hentry
        change Lockstep.SameEntry _ _ _ (st'.memo.get? (r.key 3)) at hentry
        generalize st'.memo.get? (r.key 3) = e at hentry
        cases hentry
        rfl
      · exact (hsync.frame r i (.inr hlt)).trans (Memo.get?_leaf _)

/-- The statements of the block are matched as they are when their tokens are read alone. -/
theorem finds_contents {rd₀ : Reading} {V : Vantage} {hi : Nat} {n₀ : Node} {st₀ : ReadState}
    (hparallel : rd₀.Parallel rd V 5 hi) (hleft : matchRules m rd₀ .statements {} = (some n₀, st₀))
    (hmark : st₀.mark = hi) :
    Finds (matchRules m rd .statements) 5 Numbered (hi + 5) fun n M =>
      n₀.view V.left = n.view V.right ∧ (∃ x, M.get? (Rule.expression.key 1) = some (some x, 2))
        ∧ ∀ r : Rule, M.get? (r.key (hi + 5 + 1)) = none := by
  intro st hst
  -- Nothing has been remembered of the places behind the header, so the readings agree on them.
  have hsync : (Lockstep.ofParallel hparallel st.memo).Synced {} st :=
    { clean := rfl
      clean' := hst.clean
      entry := fun r a _ => by
        have hnone : st.memo.get? (r.key (a + 5)) = none := hst.memo.fresh r _ (by omega)
        change Lockstep.SameEntry _ _ _ (st.memo.get? (r.key (a + 5)))
        rw [Memo.get?_leaf, hnone]
        exact .absent
      frame := fun r a _ => rfl
      le := Nat.zero_le _
      mark := hst.mark }
  have hagree := Lockstep.matches_matchRules 0 m _ .statements _ _ rfl hsync
  change Lockstep.Agree _ _ (matchRules m rd₀ .statements {}) (matchRules m rd .statements st) at hagree
  rw [hleft] at hagree
  generalize matchRules m rd .statements st = right at hagree
  cases hagree with
  | @done _ st' _ n hsync hq =>
    obtain ⟨x, hx⟩ := hst.memo.number
    refine ⟨n, st', rfl, hsync.mark.trans (by rw [hmark]; rfl), ⟨hq.2, ⟨x, ?_⟩, fun r => ?_⟩, hsync.clean'⟩
    · exact (hsync.frame .expression 1 (.inl (by change 1 < 5; decide))).trans hx
    · refine (hsync.frame r (hi + 5 + 1) (.inr (Nat.lt_succ_self _))).trans ?_
      exact hst.memo.fresh r _ (by omega)

/-- At the end no statement is matched. -/
theorem misses_statement (h : Headed rd stop) (hm : 60 ≤ m) {P : Remembered → Prop}
    (hP : ∀ M, P M → ∀ r : Rule, M.get? (r.key (stop + 1)) = none) :
    Misses (matchRules m rd .statement) (stop + 1) P (fun _ => True) := by
  obtain ⟨j, rfl⟩ := Nat.exists_eq_add_of_le hm
  intro st hst
  -- From the end of the block the reading is in step with one of nothing but an end, which is small
  -- enough to be evaluated.
  have hsync : (Lockstep.ofParallel h.parallel_end st.memo).Synced {} st :=
    { clean := rfl
      clean' := hst.clean
      entry := fun r a ha => by
        obtain rfl : a = 0 := Nat.le_zero.1 ha
        have hnone : st.memo.get? (r.key (0 + (stop + 1))) = none := by
          rw [Nat.zero_add]
          exact hP _ hst.memo r
        change Lockstep.SameEntry _ _ _ (st.memo.get? (r.key (0 + (stop + 1))))
        rw [Memo.get?_leaf, hnone]
        exact .absent
      frame := fun r a _ => rfl
      le := Nat.zero_le _
      mark := hst.mark.trans (Nat.zero_add _).symm }
  have hagree := Lockstep.matches_matchRules j 60 _ .statement _ _ rfl hsync
  have hcheck := endMisses_eq
  change Lockstep.Agree _ _ (matchRules 60 endReading .statement {})
    (matchRules (60 + j) rd .statement st) at hagree
  unfold endMisses at hcheck
  split at hcheck
  swap
  · cases hcheck
  rename_i st₁ hleft
  rw [hleft] at hagree
  generalize matchRules (60 + j) rd .statement st = right at hagree
  cases hagree with
  | fault hfault => exact absurd (Option.isNone_iff_eq_none.1 hcheck) hfault
  | @fail _ st' hkept => exact ⟨st'.mark, st', rfl, rfl, trivial, hkept.clean'⟩

/-! ## Rules -/

/-- The condition of the header. -/
theorem finds_condition (h : Headed rd stop) {P P₁ : Remembered → Prop}
    (hnumber : Finds (matchRules (m + 1) rd .expression) 1 P 2 (fun _ => P₁)) :
    Finds (matchRules (m + 2) rd .namedExpression) 1 P 2 (fun _ => P₁) := by
  obtain ⟨t, ht, hlook⟩ := h.header 1 _ rfl
  obtain ⟨hkind, -⟩ := Prod.mk.inj hlook
  obtain ⟨u, hu, hlook'⟩ := h.header 2 _ rfl
  obtain ⟨hkind', htext'⟩ := Prod.mk.inj hlook'
  have hassignment : Misses (matchRules (m + 1) rd .assignmentExpression) 1 P P := by
    obtain ⟨action, hbody⟩ : ∃ action, Rule.assignmentExpression.body =
      .choice [.mk [.kind .name, .lit ":=", .cut, .rule .expression] action] := ⟨_, rfl⟩
    rw [matchRules_choice _ hbody rfl]
    exact .behind (.here (misses_kind ht (by simp [hkind]) (by simp [hkind]))) misses_choose_nil
  rw [matchRules_choice ([.mk [.rule .assignmentExpression] (pick 0),
    .mk [.mistake .invalidNamedExpression] (pick 0),
    .mk [.rule .expression, .notAhead (.lit ":=")] (pick 0)]) rfl rfl]
  refine .behind (.here (misses_rule hassignment)) (.behind (.here (misses_mistake h.plain)) ?_)
  refine finds_choose (fun _ => P₁) (.cons (finds_rule hnumber) rfl fun _ => .silent
    (finds_notAhead (misses_lit hu (by simp [hkind']) (by simp [Token.isLit, htext']))) rfl
    (.nil fun _ hM => hM)) ?_
  exact fun ns M st hM _ => ⟨_, rfl, hM⟩

/-- The block is matched and remembered. -/
theorem finds_block (h : Headed rd stop) (hstop : 5 ≤ stop)
    (hcontents : Finds (matchRules m rd .statements) 5 Numbered stop fun n M =>
      p n ∧ (∃ x, M.get? (Rule.expression.key 1) = some (some x, 2))
        ∧ ∀ r : Rule, M.get? (r.key (stop + 1)) = none) :
    Finds (matchRules (m + 1) rd .block) 3 Numbered (stop + 1) (fun _ => Blocked stop p) := by
  obtain ⟨t, ht, hlook⟩ := h.header 3 _ rfl
  obtain ⟨hkind, -⟩ := Prod.mk.inj hlook
  obtain ⟨u, hu, hopens⟩ := h.opens
  obtain ⟨d, hd, hcloses⟩ := h.closes
  have hnewline : ∀ {P}, Finds ((Item.kind .newline).run (matchRules m) (joinStrings (matchRules m)) rd)
      3 P 4 (fun _ => P) := hkind ▸ finds_kind ht (by simp [hkind])
  have hindent : ∀ {P}, Finds ((Item.kind .indent).run (matchRules m) (joinStrings (matchRules m)) rd)
      4 P 5 (fun _ => P) := hopens ▸ finds_kind hu (by simp [hopens])
  have hdedent : ∀ {P}, Finds ((Item.kind .dedent).run (matchRules m) (joinStrings (matchRules m)) rd)
      stop P (stop + 1) (fun _ => P) := hcloses ▸ finds_kind hd (by simp [hcloses])
  refine finds_remembered ([
    .mk [.kind .newline, .kind .indent, .rule .statements, .kind .dedent] (pick 2),
    .mk [.rule .simpleStmts] (pick 0), .mk [.mistake .invalidBlock] (pick 0)]) rfl rfl
    (fun M hM => hM.fresh _ 3 le_rfl) ?_
  refine finds_choose (fun (ns : List Node) M => p ((ns[2]?).getD .absent)
      ∧ (∃ x, M.get? (Rule.expression.key 1) = some (some x, 2))
      ∧ ∀ r : Rule, M.get? (r.key (stop + 1)) = none)
    (.cons hnewline rfl fun _ => .cons hindent rfl fun _ => .cons (finds_rule hcontents) rfl fun _ =>
      .cons hdedent rfl fun _ => .nil fun _ hM => by simpa using hM) ?_
  rintro ns M st ⟨hp, ⟨x, hx⟩, hfresh⟩ -
  refine ⟨_, rfl, ⟨x, ?_⟩, ⟨_, ?_, hp⟩, fun r => ?_⟩
  · rw [Memo.get?_insert, if_neg fun heq => by simpa using (Rule.key_inj heq).2]
    exact hx
  · rw [Memo.get?_insert, if_pos rfl]
    rfl
  · rw [Memo.get?_insert, if_neg fun heq => by have := (Rule.key_inj heq).2; omega]
    exact hfresh r

/-- The forms of a condition. -/
theorem finds_cond (h : Headed rd stop) (hm : 40 ≤ m) (hstop : 5 ≤ stop)
    (hcontents : Finds (matchRules (m + 1) rd .statements) 5 Numbered stop fun n M =>
      p n ∧ (∃ x, M.get? (Rule.expression.key 1) = some (some x, 2))
        ∧ ∀ r : Rule, M.get? (r.key (stop + 1)) = none) :
    Finds (matchRules (m + 3) rd .ifStmt) 0 (· = .leaf) (stop + 1) fun n M =>
      (∃ sp e b, n = .stmt (.cond sp e b.stmts []) ∧ p b)
        ∧ ∀ r : Rule, M.get? (r.key (stop + 1)) = none := by
  have hbranches : ∀ keyword, statementRule?.branches keyword = [
      .mk [.lit keyword, .rule .namedExpression, .lit ":", .rule .block, .rule .elifStmt]
        (stmt fun m => .cond m.span (m.expr 1) (m.stmts 3) (m.stmts 4)),
      .mk [.lit keyword, .rule .namedExpression, .lit ":", .rule .block, .opt (.rule .elseBlock)]
        (stmt fun m => .cond m.span (m.expr 1) (m.stmts 3) (m.orelse 4))] := fun _ => rfl
  -- The first form fails behind the block, as there is no further condition.
  have hnumber := finds_condition h (finds_number h (show 40 ≤ m + 1 by omega))
  have hblock := finds_block h hstop hcontents
  have helif : Misses (matchRules (m + 2) rd .elifStmt) (stop + 1) (Blocked stop p) (Blocked stop p) := by
    rw [matchRules_choice (.mk [.mistake .invalidElifStmt] (pick 0) ::
      statementRule?.branches "elif") rfl rfl, hbranches]
    exact .behind (.here (misses_mistake h.plain)) (.behind (.here (h.misses_end _))
      (.behind (.here (h.misses_end _)) misses_choose_nil))
  -- In the second form the number and the block are those that have been matched before.
  have hnumber' : Finds (matchRules (m + 2) rd .namedExpression) 1 (Blocked stop p) 2
      (fun _ => Blocked stop p) :=
    finds_condition h (finds_again rfl fun M hM => hM.number.imp fun x hx => ⟨hx, hM⟩)
  have hblock' : Finds (matchRules (m + 2) rd .block) 3 (Blocked stop p) (stop + 1)
      (fun n M => p n ∧ Blocked stop p M) :=
    finds_again rfl fun M hM => hM.block.imp fun n hn => ⟨hn.1, hn.2, hM⟩
  have helse : ∀ {P}, Misses (matchRules (m + 2) rd .elseBlock) (stop + 1) P P := by
    intro P
    obtain ⟨action, hbody⟩ : ∃ action, Rule.elseBlock.body = .choice [
      .mk [.mistake .invalidElseStmt] (pick 0),
      .mk [.lit "else", .force ":", .rule .block] action] := ⟨_, rfl⟩
    rw [matchRules_choice _ hbody rfl]
    exact .behind (.here (misses_mistake h.plain)) (.behind (.here (h.misses_end _)) misses_choose_nil)
  rw [matchRules_choice (.mk [.mistake .invalidIfStmt] (pick 0) ::
    statementRule?.branches "if") rfl rfl, hbranches]
  refine .behind (.here (misses_mistake h.plain)) (.behind (.later h.finds_word rfl fun _ =>
    .later (finds_rule hnumber) rfl fun _ => .later h.finds_colon rfl fun _ =>
    .later (finds_rule hblock) rfl fun _ => .here (misses_rule helif)) ?_)
  refine finds_choose (fun (ns : List Node) M => p ((ns[3]?).getD .absent) ∧ (ns[4]?).getD .absent = .absent
      ∧ Blocked stop p M)
    (.cons h.finds_word rfl fun _ => .cons (finds_rule hnumber') rfl fun _ =>
      .cons h.finds_colon rfl fun _ => .cons (finds_rule hblock') rfl fun _ =>
      .cons (finds_absent (misses_rule helse)) rfl fun _ => .nil ?_) ?_
  · rintro M ⟨habsent, hp, hM⟩
    exact ⟨by simpa using hp, by simpa using habsent, hM⟩
  · rintro ns M st ⟨hp, habsent, hM⟩ -
    refine ⟨_, rfl, ⟨rd.spanFrom 0 st.mark, ((ns[1]?).getD Node.absent).toExpr, (ns[3]?).getD .absent, ?_, hp⟩,
      hM.fresh⟩
    change Node.stmt (.cond _ _ _ ((ns[4]?).getD Node.absent).stmts) = _
    rw [habsent]
    rfl

/-- The condition as a statement. -/
theorem finds_statement (h : Headed rd stop) (hm : 40 ≤ m) (hstop : 5 ≤ stop)
    (hcontents : Finds (matchRules (m + 1) rd .statements) 5 Numbered stop fun n M =>
      p n ∧ (∃ x, M.get? (Rule.expression.key 1) = some (some x, 2))
        ∧ ∀ r : Rule, M.get? (r.key (stop + 1)) = none) :
    Finds (matchRules (m + 5) rd .statement) 0 (· = .leaf) (stop + 1) fun n M =>
      (∃ sp e b, n = .stmt (.cond sp e b.stmts []) ∧ p b)
        ∧ ∀ r : Rule, M.get? (r.key (stop + 1)) = none := by
  have hcond := finds_cond h hm hstop hcontents
  have hcompound : Finds (matchRules (m + 4) rd .compoundStmt) 0 (· = .leaf) (stop + 1) fun n M =>
      (∃ sp e b, n = .stmt (.cond sp e b.stmts []) ∧ p b)
        ∧ ∀ r : Rule, M.get? (r.key (stop + 1)) = none := by
    obtain ⟨rest, hbody⟩ : ∃ rest, Rule.compoundStmt.body = .choice (
      .mk [.ahead (.group [.mk [.lit "def"] matched, .mk [.lit "@"] matched, .mk [.lit "async"] matched]),
        .rule .functionDef] (pick 0) ::
      .mk [.ahead (.lit "if"), .rule .ifStmt] (pick 0) :: rest) := ⟨_, rfl⟩
    rw [matchRules_choice _ hbody rfl]
    refine .behind (.here (misses_ahead (misses_group (.behind (.here (h.misses_word (by decide)))
      (.behind (.here (h.misses_word (by decide))) (.behind (.here (h.misses_word (by decide)))
      misses_choose_nil)))))) ?_
    refine finds_choose (fun (ns : List Node) M => (∃ sp e b, (ns[0]?).getD .absent = .stmt (.cond sp e b.stmts [])
      ∧ p b) ∧ ∀ r : Rule, M.get? (r.key (stop + 1)) = none)
      (.silent (finds_ahead h.finds_word) rfl (.cons (finds_rule hcond) rfl fun _ => .nil fun _ hM => hM)) ?_
    exact fun ns M st hM _ => ⟨_, rfl, hM⟩
  rw [matchRules_choice ([.mk [.rule .compoundStmt] (pick 0), .mk [.rule .simpleStmts] (pick 0)])
    rfl rfl]
  refine finds_choose (fun (ns : List Node) M => (∃ sp e b, (ns[0]?).getD .absent = .stmt (.cond sp e b.stmts [])
    ∧ p b) ∧ ∀ r : Rule, M.get? (r.key (stop + 1)) = none)
    (.cons (finds_rule hcompound) rfl fun _ => .nil fun _ hM => hM) ?_
  exact fun ns M st hM _ => ⟨_, rfl, hM⟩

/-- A condition with its block is a whole text. -/
theorem exists_fileMatch (h : Headed rd stop) (hm : 60 ≤ m) (hstop : 5 ≤ stop)
    (hcontents : Finds (matchRules (m + 1) rd .statements) 5 Numbered stop fun n M =>
      p n ∧ (∃ x, M.get? (Rule.expression.key 1) = some (some x, 2))
        ∧ ∀ r : Rule, M.get? (r.key (stop + 1)) = none) :
    ∃ sp e b st, FileMatch (m + 6) rd {} (.seq [.stmt (.cond sp e b.stmts [])]) st ∧ p b := by
  obtain ⟨t, ht, hkind⟩ := h.ends
  have hsize : rd.source.tokens.size ≠ 0 := by
    have := (Array.getElem?_eq_some_iff.1 ht).1
    omega
  have hmany := finds_many1 (@finds_rule (matchRules (m + 5)) (joinStrings (matchRules (m + 5))) rd
    _ _ _ _ _ (finds_statement h (by omega) hstop hcontents)) (Nat.succ_pos stop)
    (misses_rule (misses_statement h (by omega) fun _ hM => hM)) hsize
  have hstatements : Finds (matchRules (m + 6) rd .statements) 0 (· = .leaf) (stop + 1) fun n _ =>
      ∃ x, n = .seq [x] ∧ ∃ sp e b, x = .stmt (.cond sp e b.stmts []) ∧ p b := by
    rw [matchRules_choice [.mk [.many1 (.rule .statement)] (pick 0)] rfl rfl]
    refine finds_choose (fun (ns : List Node) _ => ∃ x, (ns[0]?).getD .absent = .seq [x]
      ∧ ∃ sp e b, x = .stmt (.cond sp e b.stmts []) ∧ p b)
      (.cons hmany rfl fun _ => .nil fun _ hM => hM) ?_
    exact fun ns M st hM _ => ⟨_, rfl, hM⟩
  obtain ⟨n, st, hrun, hmark, ⟨_, rfl, sp, e, b, rfl, hp⟩, hclean⟩ := hstatements {} ⟨rfl, rfl, rfl⟩
  exact ⟨sp, e, b, st, ⟨.inl hrun, hclean, t, by rw [hmark, ht], hkind⟩, hp⟩

end Statement

end Graft.Syntax
