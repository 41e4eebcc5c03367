import Graft.Proofs.Grammar.Parsed
import Graft.Proofs.Grammar.Spans
import Graft.Proofs.Lexer.SourceLines

set_option autoImplicit false

/-! # Parsing two texts

Tokens in step are read side by side.  So if two texts give tokens in step and one of them is
parsed, then the other is parsed too, and its statements are the same up to their places. -/

namespace Graft.Syntax

open Reading (opening)

variable {V : Vantage} {N : Nesting}

/-! ## Tokens in step by their indices -/

/-- Rows of tokens in step, up to the index `hi` of the end of the first one. -/
structure InStepUpTo (V : Vantage) (N : Nesting) (n : Int) (ts ts' : List Token) (hi : Nat) :
    Prop where
  size : ts.length = hi + 1
  alike : ∀ i < hi, ∃ t t', ts[i]? = some t ∧ ts'[i]? = some t' ∧ t.Alike V t'
  ends : ∃ t t', ts[hi]? = some t ∧ ts'[hi]? = some t' ∧ t.kind = .endMarker
    ∧ ((N.base = [] ∧ t'.kind = .endMarker) ∨ (N.base ≠ [] ∧ t'.kind = .dedent))
  outermost : n + ((ts.take hi).map opening).sum = 0
  level : ∀ i ≤ hi, 0 ≤ n + ((ts.take i).map opening).sum

theorem InStep.upTo {n : Int} {ts ts' : List Token} (h : InStep V N n ts ts') :
    ∃ hi, InStepUpTo V N n ts ts' hi := by
  induction h with
  | @ends e e' base kind alike =>
    exact ⟨0, rfl, nofun, ⟨e, e', rfl, rfl, kind, .inl ⟨base, alike.kind.trans kind⟩⟩, rfl,
      fun i hi => by obtain rfl := Nat.le_zero.1 hi; exact le_rfl⟩
  | @closes e d e' base kind kind' =>
    exact ⟨0, rfl, nofun, ⟨e, d, rfl, rfl, kind, .inr ⟨base, kind'⟩⟩, rfl,
      fun i hi => by obtain rfl := Nat.le_zero.1 hi; exact le_rfl⟩
  | @more n t t' ts ts' level kind alike others ih =>
    obtain ⟨hi, hsize, halike, hends, houtermost, hlevel⟩ := ih
    refine ⟨hi + 1, by rw [List.length_cons, hsize], fun i hlt => ?_, hends, ?_, fun i hle => ?_⟩
    · rcases i with _ | i
      · exact ⟨t, t', rfl, rfl, alike⟩
      · exact halike i (Nat.lt_of_succ_lt_succ hlt)
    · rw [List.take_succ_cons, List.map_cons, List.sum_cons, ← Int.add_assoc]
      exact houtermost
    · rcases i with _ | i
      · simpa using level
      · rw [List.take_succ_cons, List.map_cons, List.sum_cons, ← Int.add_assoc]
        exact hlevel i (Nat.le_of_succ_le_succ hle)

/-! ## Side by side -/

/-- Readings of tokens in step, if the second has others before them, run side by side. -/
theorem InStepUpTo.parallel {rd rd' : Reading} {front ts' : List Token} {hi : Nat}
    (h : InStepUpTo V N 0 rd.source.tokens.toList ts' hi)
    (hfront : rd'.source.tokens.toList = front ++ ts') (hplain : rd.diagnosing = false)
    (hplain' : rd'.diagnosing = false) (hwhole' : rd'.source.broken = none) :
    rd.Parallel rd' V front.length hi := by
  have hget : ∀ i : Nat, rd.source.tokens[i]? = rd.source.tokens.toList[i]? := fun i => by simp
  have hget' : ∀ i : Nat, rd'.source.tokens[i + front.length]? = ts'[i]? := fun i => by
    rw [← Array.getElem?_toList, hfront, Nat.add_comm, List.getElem?_append_right (by omega),
      Nat.add_sub_cancel_left]
  refine ⟨hplain, hplain', fun _ => hwhole', fun i hi => ?_, .inr (.inr ?_)⟩
  · rw [hget, hget']
    exact h.alike i hi
  · obtain ⟨t, t', ht, ht', hkind, hends⟩ := h.ends
    refine ⟨t, t', by rw [hget, ht], by rw [hget', ht'], hkind, hends.imp And.right fun hdedent => ?_⟩
    have hlevel : ∀ a, rd.level a = 0 + ((rd.source.tokens.toList.take a).map opening).sum :=
      fun a => (Int.zero_add _).symm
    refine ⟨hdedent.2, ?_, fun a ha => ?_⟩
    · rw [hlevel, h.outermost]
    · rw [hlevel]
      exact h.level a ha

/-- Two readings that run side by side, in step. -/
def Lockstep.ofParallel {rd rd' : Reading} {k hi : Nat} (h : rd.Parallel rd' V k hi)
    (elsewhere : Memo (Option Node × Nat)) : Lockstep where
  left := rd
  right := rd'
  vantage := V
  shift := k
  top := hi
  taken := rd.TakesStmts
  elsewhere := elsewhere
  parallel := h
  stretch h := h.1
  closed hr h := Rule.takesStmts_of_takes hr h

/-! ## Whole texts -/

section Whole

variable {rd rd' : Reading} {hi m : Nat} {n : Node} {st₁ : ReadState}

/-- What is matched as a whole text in the first reading is matched so in the second, also if the
    rules of the second may call each other more deeply. -/
theorem FileMatch.beside (j : Nat) (h : FileMatch m rd {} n st₁) (hparallel : rd.Parallel rd' V 0 hi)
    (hhi : ∀ i t, rd.source.tokens[i]? = some t → t.kind = .endMarker → i = hi)
    (hends : ∃ t, rd'.source.tokens[hi]? = some t ∧ t.kind = .endMarker) :
    ∃ n' st₁', FileMatch (m + j) rd' {} n' st₁' ∧ n.view V.left = n'.view V.right := by
  obtain ⟨hstmts, hclean, t, ht, hkind⟩ := h
  have hmark := hhi _ t ht hkind
  have hagree := Lockstep.matches_matchRules j m (.ofParallel hparallel .leaf) .statements {} {} rfl
    (Lockstep.synced_start rfl rfl)
  change Lockstep.Agree _ _ (matchRules m rd .statements {}) (matchRules (m + j) rd' .statements {})
    at hagree
  generalize hright : matchRules (m + j) rd' .statements {} = x' at hagree
  obtain hmatch | ⟨rfl, st₂, hmatch, rfl⟩ := hstmts <;> rw [hmatch] at hagree
  · cases hagree with
    | @done _ st' _ n' hsync hq =>
      refine ⟨n', st', ⟨.inl hright, hsync.clean', ?_⟩, hq.2⟩
      have hmark' : st'.mark = hi := hsync.mark.trans hmark
      rwa [hmark']
  · have hclean : st₂.fault = none := hclean
    cases hagree with
    | fault hfault => exact absurd hclean hfault
    | @fail _ st' hkept =>
      have hzero : 0 = hi := hmark
      exact ⟨.absent, _, ⟨.inr ⟨rfl, st', hright, rfl⟩, hkept.clean', by
        change ∃ t, rd'.source.tokens[0]? = some t ∧ _
        rwa [hzero]⟩, rfl⟩

end Whole

/-- **Texts with tokens in step are parsed alike**: if the first of them is parsed, the second is
    parsed too, and the statements are the same up to where they stand. -/
theorem parseModule_inStep {cs cs' : List Char} {ss : List Stmt} (hbase : N.base = [])
    (hin : InStep V N 0 (Tokens.ofText cs).tokens.toList (Tokens.ofText cs').tokens.toList)
    (hwhole' : (Tokens.ofText cs').broken = none)
    (hplain : ∀ c ∈ cs', Text.isSurrogate c = false ∧ c ≠ '\x00')
    (h : parseModule cs = .ok ss) : ∃ ss', parseModule cs' = .ok ss'
      ∧ ss.map (Stmt.mapSpan V.left.span) = ss'.map (Stmt.mapSpan V.right.span) := by
  obtain ⟨-, n, hrun, rfl⟩ := parseModule_eq_ok_iff.1 h
  obtain ⟨hi, hupTo⟩ := hin.upTo
  have hparallel : (textReading cs).Parallel (textReading cs') V 0 hi :=
    hupTo.parallel (List.nil_append _).symm rfl rfl hwhole'
  obtain ⟨t, t', -, ht', -, ⟨-, hkind'⟩ | ⟨hne, -⟩⟩ := hupTo.ends
  swap
  · exact absurd hbase hne
  rw [maxRuleDepth_eq] at hrun
  have honce : ∀ i t, (textReading cs).source.tokens[i]? = some t → t.kind = .endMarker → i = hi := by
    intro i t ht hkind
    have hsize : (Tokens.ofText cs).tokens.size = hi + 1 := hupTo.size
    have := (Tokens.endMarker_last ht hkind).1
    omega
  obtain ⟨st, hcall, -⟩ := Reading.run_ok hrun
  obtain ⟨st₁, hfile⟩ := file_match hcall
  obtain ⟨n', st₁', hfile', hlooks⟩ := hfile.beside 0 hparallel honce
    ⟨t', by rw [← ht']; simp [textReading], hkind'⟩
  obtain ⟨st', hcall', hclean'⟩ := hfile'.file
  have hrun' := Reading.run_of_call hcall' hclean'
  refine ⟨n'.stmts, parseModule_eq_ok_iff.2 ⟨hplain, n', hrun', rfl⟩, ?_⟩
  rw [← Node.stmts_view, hlooks, Node.stmts_view]

end Graft.Syntax
