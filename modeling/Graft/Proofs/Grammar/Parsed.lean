import Graft.Proofs.Grammar.Statements
import Mathlib.Data.List.TakeWhile

set_option autoImplicit false

/-! # What is parsed

A text that is parsed is read by the ordinary rules alone, by the rule for statements from its first
token on.  So whatever is kept by all ordinary rules is so of the statements of a text. -/

namespace Graft.Syntax

/-! ## The rule of a whole text -/

/-- What has been matched before comes first among the nodes of items in a row. -/
theorem runAll_gives {call : RuleMatcher} {join : StringJoiner} {rd : Reading} {items : List Item}
    {acc nodes : List Node} {past past' : Bool} {st st' : ReadState}
    (h : Item.runAll call join rd items acc past st = (some nodes, past', st')) :
    ∃ ns, nodes = acc.reverse ++ ns := by
  induction items generalizing acc past st with
  | nil =>
    rw [Item.runAll] at h
    obtain ⟨hnodes, -⟩ := Prod.mk.inj h
    exact ⟨[], by rw [List.append_nil, Option.some.inj hnodes]⟩
  | cons i rest ih =>
    rw [Lockstep.runAll_cons] at h
    split at h
    · cases h
    · split_ifs at h
      · cases h
      · exact ih h
      · obtain ⟨ns, rfl⟩ := ih h
        exact ⟨_ :: ns, by rw [List.reverse_cons, List.append_assoc]; rfl⟩

/-- If there is one alternative, then it is the one that has matched. -/
theorem runAny_single {call : RuleMatcher} {join : StringJoiner} {rd : Reading} {items : List Item}
    {action : Action} {start : Nat} {st st' : ReadState} {n : Node}
    (h : Alt.runAny call join rd start [] [.mk items action] st = (some n, st')) :
    ∃ nodes past st₁, Item.runAll call join rd items [] false st = (some nodes, past, st₁)
      ∧ rd.act start nodes action st₁ = (some n, st') := by
  rw [Alt.runAny] at h
  split at h
  · exact ⟨_, _, _, ‹_›, h⟩
  · simp only [Alt.runAny] at h
    split_ifs at h <;> cases h

theorem expect_gives {rd : Reading} {p : Token → Bool} {st st' : ReadState} {n : Node}
    (h : rd.expect p st = (some n, st')) :
    ∃ t, rd.source.tokens[st.mark]? = some t ∧ p t = true := by
  unfold Reading.expect at h
  rcases hget : rd.source.tokens[st.mark]? with _ | t
  · rw [Lockstep.peek_of_none hget] at h
    cases h
  by_cases hbroken : t.kind = .broken
  · -- A break is not given as a token.
    have hpeek := Lockstep.peek_of_broken hget hbroken
    by_cases hnone : rd.source.broken = none
    · rw [hpeek.1 hnone] at h
      cases h
    · obtain ⟨f, hf⟩ := hpeek.2 hnone
      rw [hf] at h
      cases h
  · rw [Lockstep.peek_of_getElem? hget hbroken] at h
    dsimp only at h
    split_ifs at h with hp
    · exact ⟨t, rfl, hp⟩
    · cases h

/-- A whole text is its statements, if there are any, up to the end. -/
structure FileMatch (m : Nat) (rd : Reading) (st : ReadState) (n : Node) (st₁ : ReadState) : Prop where
  stmts : matchRules m rd .statements st = (some n, st₁)
    ∨ (n = .absent ∧ ∃ st₂, matchRules m rd .statements st = (none, st₂)
      ∧ st₁ = { st₂ with mark := st.mark })
  clean : st₁.fault = none
  ends : ∃ t, rd.source.tokens[st₁.mark]? = some t ∧ t.kind = .endMarker

theorem matchRules_file (m : Nat) (rd : Reading) (st : ReadState) :
    matchRules (m + 1) rd .file st =
      Alt.runAny (matchRules m) (joinStrings (matchRules m)) rd st.mark []
        [.mk [.opt (.rule .statements), .kind .endMarker] (pick 0)] st := rfl

theorem file_match {m : Nat} {rd : Reading} {st st' : ReadState} {n : Node}
    (h : matchRules (m + 1) rd .file st = (some n, st')) : ∃ st₁, FileMatch m rd st n st₁ := by
  rw [matchRules_file] at h
  obtain ⟨nodes, past, st₂, hall, hact⟩ := runAny_single h
  rw [Lockstep.runAll_cons] at hall
  split at hall
  · cases hall
  rename_i n₁ st₁ hrun
  simp only [Item.isSilent, Bool.false_eq_true, if_false] at hall
  split_ifs at hall with hfault
  · cases hall
  obtain ⟨ns, rfl⟩ := runAll_gives hall
  obtain rfl : n₁ = n := Option.some.inj (Prod.mk.inj hact).1
  refine ⟨st₁, ?_, by simpa using hfault, ?_⟩
  · rw [Item.run, Item.run] at hrun
    split at hrun
    · rename_i n₂ st₃ hmatch
      obtain ⟨rfl, rfl⟩ : n₂ = n₁ ∧ st₃ = st₁ := by simpa using hrun
      exact .inl hmatch
    · rename_i st₃ hmatch
      split_ifs at hrun
      · cases hrun
      · obtain ⟨hn, rfl⟩ := Prod.mk.inj hrun
        exact .inr ⟨(Option.some.inj hn).symm, st₃, hmatch, rfl⟩
  · rw [Lockstep.runAll_cons] at hall
    split at hall
    · cases hall
    rename_i x st₄ hend
    rw [Item.run] at hend
    obtain ⟨t, hget, hkind⟩ := expect_gives hend
    exact ⟨t, hget, by simpa using hkind⟩

/-- Statements up to the end are a whole text. -/
theorem FileMatch.file {m : Nat} {rd : Reading} {st st₁ : ReadState} {n : Node}
    (h : FileMatch m rd st n st₁) :
    ∃ st', matchRules (m + 1) rd .file st = (some n, st') ∧ st'.fault = none := by
  obtain ⟨hstmts, hclean, t, hget, hkind⟩ := h
  have hopt : (Item.opt (.rule .statements)).run (matchRules m) (joinStrings (matchRules m)) rd st =
      (some n, st₁) := by
    rw [Item.run, Item.run]
    obtain hmatch | ⟨rfl, st₂, hmatch, rfl⟩ := hstmts
    · rw [hmatch]
    · have hclean : st₂.fault = none := hclean
      simp only [hmatch, hclean, Option.isSome_none, Bool.false_eq_true, if_false]
  have hend : (Item.kind .endMarker).run (matchRules m) (joinStrings (matchRules m)) rd st₁ =
      (some (.token t), { Lockstep.looked st₁ with mark := (Lockstep.looked st₁).mark + 1 }) := by
    simp only [Item.run, Reading.expect,
      Lockstep.peek_of_getElem? hget (by rw [hkind]; decide), hkind, beq_self_eq_true, if_true]
  refine ⟨{ Lockstep.looked st₁ with mark := (Lockstep.looked st₁).mark + 1 }, ?_, by simpa using hclean⟩
  rw [matchRules_file, Alt.runAny, Lockstep.runAll_cons, hopt]
  simp only [Item.isSilent, hclean, Option.isSome_none, Bool.false_eq_true, if_false]
  rw [Lockstep.runAll_cons, hend]
  simp only [Item.isSilent, Lockstep.looked_fault, hclean, Option.isSome_none, Bool.false_eq_true,
    if_false]
  rfl

/-! ## One text -/

/-- The view from where a text stands. -/
def View.self : View := ⟨id, rfl⟩

/-- A text that is compared with itself. -/
def Vantage.self : Vantage where
  left := .self
  right := .self
  same := Eq
  place h := congrArg id h
  further h n column := by rw [h]

/-- The reading of a text. -/
def textReading (cs : List Char) : Reading := { source := Tokens.ofText cs }

/-- The reading of a text beside itself. -/
def Lockstep.self (cs : List Char) : Lockstep where
  left := textReading cs
  right := textReading cs
  vantage := .self
  shift := 0
  top := (Tokens.ofText cs).tokens.size
  taken := (textReading cs).TakesStmts
  elsewhere := .leaf
  parallel := {
    plain := rfl
    plain' := rfl
    whole := id
    tokens := fun _ hi =>
      ⟨_, _, Array.getElem?_eq_getElem hi, Array.getElem?_eq_getElem hi, rfl, rfl, fun _ => rfl, fun _ => rfl⟩
    frontier := .inl ⟨Array.getElem?_size, Array.getElem?_size⟩ }
  stretch h := h.1
  closed hr h := Rule.takesStmts_of_takes hr h

/-- What is known of the statements of a text: they lie in its tokens, before the end. -/
def TextLies (cs : List Char) (ss : List Stmt) : Prop :=
  ∃ b rows, (textReading cs).Lies 0 b rows ∧ b < (Tokens.ofText cs).tokens.size
    ∧ rows.map Row.stmt = ss

theorem run_lies {m : Nat} {cs : List Char} {n : Node}
    (h : Reading.run (matchRules (m + 1)) (textReading cs) .file = .ok n) : TextLies cs n.stmts := by
  obtain ⟨st, hcall, -⟩ := Reading.run_ok h
  obtain ⟨st₁, hmatch | ⟨rfl, -⟩, -, t, hend, -⟩ := file_match hcall
  swap
  · obtain ⟨_, -, hpos, -⟩ := Tokens.exists_last cs
    exact ⟨0, [], .nil le_rfl (by omega), hpos, rfl⟩
  · have hagree := Lockstep.matches_matchRules 0 m (Lockstep.self cs) .statements {} {} rfl
      (Lockstep.synced_start rfl rfl)
    have hleft : matchRules m (Lockstep.self cs).left .statements {} = (some n, st₁) := hmatch
    rw [hleft] at hagree
    generalize matchRules (m + 0) (Lockstep.self cs).right .statements {} = right at hagree
    cases hagree with
    | done hsync hq =>
      obtain ⟨⟨rows, hlies, hrows⟩, -⟩ := hq.1.2
      exact ⟨_, rows, hlies, (Array.getElem?_eq_some_iff.1 hend).1, hrows⟩

theorem maxRuleDepth_eq : maxRuleDepth = 4139 + 1 := rfl

theorem firstSurrogates_eq_none_iff {cs : List Char} :
    firstSurrogates cs = none ↔ ∀ c ∈ cs, Text.isSurrogate c = false := by
  unfold firstSurrogates
  dsimp only
  rw [drop_length_takeWhile]
  cases hrest : cs.dropWhile (!Text.isSurrogate ·) with
  | nil => simpa using List.dropWhile_eq_nil_iff.1 hrest
  | cons c rest =>
    refine iff_of_false nofun fun hnone => ?_
    have hc := List.head_dropWhile_not (p := (!Text.isSurrogate ·)) (l := cs) (by simp [hrest])
    simp only [hrest, List.head_cons, Bool.not_eq_false'] at hc
    have hmem : c ∈ cs := (List.dropWhile_sublist _).mem (hrest ▸ List.mem_cons_self)
    rw [hnone c hmem] at hc
    cases hc

/-- A text is parsed if its characters are those of program text and the rule of a whole text matches
    its tokens. -/
theorem parseModule_eq_ok_iff {cs : List Char} {ss : List Stmt} :
    parseModule cs = .ok ss ↔ (∀ c ∈ cs, Text.isSurrogate c = false ∧ c ≠ '\x00')
      ∧ ∃ n, Reading.run (matchRules maxRuleDepth) (textReading cs) .file = .ok n ∧ n.stmts = ss := by
  have hchars : (∀ c ∈ cs, Text.isSurrogate c = false ∧ c ≠ '\x00') ↔
      firstSurrogates cs = none ∧ cs.contains '\x00' = false := by
    rw [firstSurrogates_eq_none_iff]
    simp only [List.contains_eq_mem, decide_eq_false_iff_not]
    exact ⟨fun h => ⟨fun c hc => (h c hc).1, fun hmem => (h _ hmem).2 rfl⟩,
      fun h c hc => ⟨h.1 c hc, fun heq => h.2 (heq ▸ hc)⟩⟩
  rw [hchars]
  unfold parseModule
  constructor
  · intro h
    split at h
    · cases h
    rename_i hnone
    split_ifs at h with hzero
    split at h
    · rename_i n hn
      exact ⟨⟨hnone, by simpa using hzero⟩, n, hn, Except.ok.inj h⟩
    · cases h
  · rintro ⟨⟨hnone, hzero⟩, n, hn, rfl⟩
    have hn : Reading.run (matchRules maxRuleDepth) { source := Tokens.ofText cs } .file = .ok n := hn
    simp only [hnone, hzero, hn, Bool.false_eq_true, if_false]

/-- A text that is parsed is cut into tokens to its end. -/
theorem parseModule_whole {cs : List Char} {ss : List Stmt} (h : parseModule cs = .ok ss) :
    (Tokens.ofText cs).broken = none := by
  obtain ⟨-, n, hrun, -⟩ := parseModule_eq_ok_iff.1 h
  rw [maxRuleDepth_eq] at hrun
  obtain ⟨st, hcall, -⟩ := Reading.run_ok hrun
  obtain ⟨st₁, -, -, t, hend, hkind⟩ := file_match hcall
  exact (Tokens.endMarker_last hend hkind).2

/-- A text without statements has no token but its end. -/
theorem parseModule_nil {cs : List Char} (h : parseModule cs = .ok []) :
    ∃ t, (Tokens.ofText cs).tokens.toList = [t] ∧ t.kind = .endMarker := by
  obtain ⟨-, n, hrun, hnil⟩ := parseModule_eq_ok_iff.1 h
  rw [maxRuleDepth_eq] at hrun
  obtain ⟨st, hcall, -⟩ := Reading.run_ok hrun
  obtain ⟨st₁, hmatch | ⟨rfl, st₂, -, rfl⟩, -, t, hend, hkind⟩ := file_match hcall
  · have hagree := Lockstep.matches_matchRules 0 4139 (Lockstep.self cs) .statements {} {} rfl
      (Lockstep.synced_start rfl rfl)
    have hleft : matchRules 4139 (Lockstep.self cs).left .statements {} = (some n, st₁) := hmatch
    rw [hleft] at hagree
    generalize matchRules (4139 + 0) (Lockstep.self cs).right .statements {} = right at hagree
    cases hagree with
    | done hsync hq => exact absurd hnil hq.1.2.2
  · have hend : (Tokens.ofText cs).tokens[0]? = some t := hend
    have hsize : (Tokens.ofText cs).tokens.toList.length = 1 := (Tokens.endMarker_last hend hkind).1.symm
    obtain ⟨t', ht'⟩ := List.length_eq_one_iff.1 hsize
    rw [← Array.getElem?_toList, ht'] at hend
    obtain rfl : t' = t := by simpa using hend
    exact ⟨t', ht', hkind⟩

/-- **The statements of a text lie in its tokens**, from the first one on. -/
theorem parseModule_lies {cs : List Char} {ss : List Stmt} (h : parseModule cs = .ok ss) :
    TextLies cs ss := by
  obtain ⟨-, n, hrun, rfl⟩ := parseModule_eq_ok_iff.1 h
  rw [maxRuleDepth_eq] at hrun
  exact run_lies hrun

end Graft.Syntax
