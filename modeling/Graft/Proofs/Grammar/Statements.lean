import Graft.Proofs.Grammar.Strings

set_option autoImplicit false

/-! # Where statements lie

The statements that a rule gives lie one behind the other in the row of tokens that it takes, with
nothing between them but layout and semicolons.  The span of a statement reaches from its first
token to its last one that is no layout; only decorators stand before the span. -/

namespace Graft.Syntax

/-- The statements of the block that a statement begins with, if it is a function or a condition. -/
def Stmt.inner : Stmt → List Stmt
  | .functionDef _ _ _ _ body _ _ => body
  | .cond _ _ body _ => body
  | _ => []

/-- A statement with the tokens that it is written with, from an index up to another. -/
structure Row where
  stmt : Stmt
  start : Nat
  stop : Nat

/-- The rules that give a statement whose span is that of the tokens. -/
def Rule.isPlain (r : Rule) : Bool :=
  match r with
  | .simpleStmt | .assignment | .returnStmt | .raiseStmt | .globalStmt | .nonlocalStmt | .delStmt
  | .yieldStmt | .assertStmt | .importStmt | .importName | .importFrom | .functionDefRaw
  | .classDefRaw | .ifStmt | .elifStmt | .whileStmt | .forStmt | .withStmt | .tryStmt
  | .matchStmt => true
  | _ => false

namespace Reading

variable (rd : Reading)

/-- The index of a token that stands between statements. -/
def IsGap (i : Nat) : Prop :=
  ∃ t, rd.source.tokens[i]? = some t ∧ (t.isLayout = true ∨ t.isLit ";" = true)

/-- Decorators from an index up to another: they begin with their sign and end with their line. -/
structure Decorates (a k : Nat) : Prop where
  lt : a < k
  sign : ∃ t, rd.source.tokens[a]? = some t ∧ t.isLit "@" = true
  newline : ∃ t, rd.source.tokens[k - 1]? = some t ∧ t.kind = .newline

/-- A statement is written with the tokens from an index up to another: its span is that of the
    tokens from the index `k` on, and what stands before them is decorators. -/
structure Writes (s : Stmt) (a b : Nat) : Prop where
  lt : a < b
  solid : rd.SolidAt a
  span : ∃ k, k < b ∧ rd.SolidAt k ∧ s.span = rd.spanFrom k b ∧ (k = a ∨ rd.Decorates a k)

/-- Statements lie one behind the other in a row of tokens, and so do the statements of the blocks
    that they begin with, behind a colon. -/
inductive Lies : Nat → Nat → List Row → Prop
  | nil {a b : Nat} (le : a ≤ b) (gap : ∀ i, a ≤ i → i < b → rd.IsGap i) : Lies a b []
  | cons {a b c d : Nat} {r : Row} {inner rows : List Row} (le : a ≤ r.start)
      (gap : ∀ i, a ≤ i → i < r.start → rd.IsGap i) (writes : rd.Writes r.stmt r.start r.stop)
      (block : Lies c d inner) (within : r.start < c ∧ d ≤ r.stop) (stmts : inner.map Row.stmt = r.stmt.inner)
      (colon : r.stmt.inner ≠ [] → ∃ t, rd.source.tokens[c - 1]? = some t ∧ t.isLit ":" = true)
      (others : Lies r.stop b rows) : Lies a b (r :: rows)

namespace Lies

variable {rd : Reading} {a b c : Nat} {rows rows' : List Row}

theorem le (h : rd.Lies a b rows) : a ≤ b := by
  induction h with
  | nil le _ => exact le
  | cons le _ writes _ _ _ _ _ _ ih =>
    have := writes.lt
    omega

/-- What stands between statements may be added in front. -/
theorem behind_gap (hle : a ≤ b) (hgap : ∀ i, a ≤ i → i < b → rd.IsGap i) (h : rd.Lies b c rows) :
    rd.Lies a c rows := by
  have hall : ∀ {m : Nat}, (∀ i, b ≤ i → i < m → rd.IsGap i) → ∀ i, a ≤ i → i < m → rd.IsGap i := by
    intro m hmore i hai him
    rcases Nat.lt_or_ge i b with hi | hi
    · exact hgap i hai hi
    · exact hmore i hi him
  cases h with
  | nil le gap => exact .nil (hle.trans le) (hall gap)
  | cons le gap writes block within stmts colon others =>
    exact .cons (hle.trans le) (hall gap) writes block within stmts colon others

theorem append (h : rd.Lies a b rows) (h' : rd.Lies b c rows') : rd.Lies a c (rows ++ rows') := by
  induction h with
  | nil le gap => exact h'.behind_gap le gap
  | cons le gap writes block within stmts colon _ _ ih =>
    exact .cons le gap writes block within stmts colon (ih h')

/-- The tokens of a row are among those that the statements lie in. -/
theorem within (h : rd.Lies a b rows) :
    ∀ r ∈ rows, a ≤ r.start ∧ rd.Writes r.stmt r.start r.stop ∧ r.stop ≤ b := by
  induction h with
  | nil => simp
  | cons le _ writes _ _ _ _ others _ ih =>
    refine List.forall_mem_cons.2 ⟨⟨le, writes, others.le⟩, fun r hr => ?_⟩
    obtain ⟨hstart, hwrites, hstop⟩ := ih r hr
    have := writes.lt
    exact ⟨by omega, hwrites, hstop⟩

/-- What stands between statements may be added at the end. -/
theorem before_gap (h : rd.Lies a b rows) (hle : b ≤ c) (hgap : ∀ i, b ≤ i → i < c → rd.IsGap i) :
    rd.Lies a c rows := by
  have hmore := h.append (.nil hle hgap)
  rwa [List.append_nil] at hmore

end Lies

/-- What lies in the block that a statement begins with, if it begins with one. -/
def HasBlock (s : Stmt) (a b : Nat) : Prop :=
  ∃ c d inner, rd.Lies c d inner ∧ (a < c ∧ d ≤ b) ∧ inner.map Row.stmt = s.inner
    ∧ (s.inner ≠ [] → ∃ t, rd.source.tokens[c - 1]? = some t ∧ t.isLit ":" = true)

/-- A node that is a statement whose span is that of the tokens. -/
def Plain (a b : Nat) (n : Node) : Prop :=
  ∃ s, n = .stmt s ∧ s.span = rd.spanFrom a b ∧ rd.HasBlock s a b

/-- A node that is a statement, which may be decorated. -/
def Single (a b : Nat) (n : Node) : Prop :=
  ∃ s, n = .stmt s ∧ rd.Writes s a b ∧ rd.HasBlock s a b

/-- A node whose statements lie in the tokens. -/
def Listed (a b : Nat) (n : Node) : Prop :=
  ∃ rows, rd.Lies a b rows ∧ rows.map Row.stmt = n.stmts

/-- A node with statements that lie in the tokens. -/
def Filled (a b : Nat) (n : Node) : Prop := rd.Listed a b n ∧ n.stmts ≠ []

/-- What is known of the rules for statements. -/
def Shape : Rule → Nat → Nat → Node → Prop
  | .statements | .statement | .simpleStmts | .block => rd.Filled
  | .functionDef | .classDef | .compoundStmt => rd.Single
  | .decorators => fun a b _ => rd.Decorates a b
  | r => fun a b n => r.isPlain = true → rd.Plain a b n

/-- A rule takes a stretch of tokens, and its statements lie in it. -/
def TakesStmts (r : Rule) (a b : Nat) (n : Node) : Prop := rd.Stretch r a b ∧ rd.Shape r a b n

variable {rd} {a b c : Nat} {n : Node} {nodes : List Node}

theorem TakesStmts.plain {r : Rule} (h : rd.TakesStmts r a b n) (hplain : r.isPlain = true) :
    rd.Plain a b n := by
  have hshape := h.2
  unfold Shape at hshape
  split at hshape <;> first | cases hplain | exact hshape hplain

theorem hasBlock_of_nil {s : Stmt} (h : s.inner = []) (hlt : a < b) : rd.HasBlock s a b :=
  ⟨b, b, [], .nil le_rfl (by omega), ⟨hlt, le_rfl⟩, h.symm, fun hne => absurd h hne⟩

/-- What stands before a statement does not matter for its block. -/
theorem HasBlock.behind {s s' : Stmt} (h : rd.HasBlock s b c) (hle : a ≤ b) (hinner : s'.inner = s.inner) :
    rd.HasBlock s' a c := by
  obtain ⟨d, e, rows, hlies, ⟨hd, he⟩, hrows, hcolon⟩ := h
  exact ⟨d, e, rows, hlies, ⟨by omega, he⟩, by rw [hrows, hinner], by rwa [hinner]⟩

theorem Decorates.trans (h : rd.Decorates a b) (h' : rd.Decorates b c) : rd.Decorates a c where
  lt := h.lt.trans h'.lt
  sign := h.sign
  newline := h'.newline

theorem Decorates.solid (h : rd.Decorates a b) : rd.SolidAt a := by
  obtain ⟨t, hget, hlit⟩ := h.sign
  exact ⟨t, hget, Token.isLayout_eq_false_of_isLit hlit⟩

theorem Plain.single (h : rd.Plain a b n) (hlt : a < b) (hsolid : rd.SolidAt a) : rd.Single a b n := by
  obtain ⟨s, rfl, hspan, hblock⟩ := h
  exact ⟨s, rfl, ⟨hlt, hsolid, a, hlt, hsolid, hspan, .inl rfl⟩, hblock⟩

theorem Single.listed (h : rd.Single a b n) : rd.Listed a b n := by
  obtain ⟨s, rfl, hwrites, c, d, inner, hlies, hwithin, hstmts, hcolon⟩ := h
  have hnone (m : Nat) : ∀ i, m ≤ i → i < m → rd.IsGap i := by omega
  exact ⟨[⟨s, a, b⟩], .cons le_rfl (hnone a) hwrites hlies hwithin hstmts hcolon (.nil le_rfl (hnone b)), rfl⟩

theorem Single.filled (h : rd.Single a b n) : rd.Filled a b n := by
  refine ⟨h.listed, ?_⟩
  obtain ⟨s, rfl, -⟩ := h
  exact List.cons_ne_nil s []

theorem stmts_seq_ne_nil {ns : List Node} (h : n.stmts ≠ []) : (Node.seq (n :: ns)).stmts ≠ [] :=
  List.append_ne_nil_of_left_ne_nil h _

end Reading

/-! ## Rules that give one statement -/

/-- How an alternative gives a statement whose span is that of the tokens. -/
inductive Alt.IsPlain : Alt → Prop
  /-- A statement that begins with no block. -/
  | stmt {items : List Item} {action : Action}
      (gives : ∀ m n, action m = .node n → ∃ s, n = .stmt s ∧ s.span = m.span ∧ s.inner = []) :
      IsPlain (.mk items action)
  /-- A statement with a block behind a colon. -/
  | block {items : List Item} (before : List Item) {rest : List Item} {colon : Item} {f : Matched → Stmt}
      (items_eq : items = before ++ colon :: .rule .block :: rest)
      (isColon : colon = .lit ":" ∨ colon = .force ":") (loud : before.all (!·.isSilent) = true)
      (sound : Item.allSound 0 before = true) (sound' : Item.allSound 0 rest = true)
      (span : ∀ m, (f m).span = m.span) (inner : ∀ m, (f m).inner = m.stmts (before.length + 1)) :
      IsPlain (.mk items (stmt f))
  /-- What a rule gives. -/
  | rule {items : List Item} {q : Rule} (only : items.filter (!·.isSilent) = [.rule q])
      (plain : q.isPlain = true) : IsPlain (.mk items (pick 0))
  | mistake {q : Rule} {rest : List Item} {action : Action} : IsPlain (.mk (.mistake q :: rest) action)

theorem Alt.isPlain_of_isPlain {r : Rule} (h : r.isPlain = true) : ∀ alt ∈ r.body.alts, alt.IsPlain := by
  have hstmt {items : List Item} {f : Matched → Stmt} (hspan : ∀ m, (f m).span = m.span)
      (hinner : ∀ m, (f m).inner = []) : Alt.IsPlain (.mk items (stmt f)) := by
    refine .stmt fun m n hn => ?_
    obtain rfl := Outcome.node.inj hn
    exact ⟨_, rfl, hspan m, hinner m⟩
  have hbranches (keyword : String) : ∀ alt ∈ statementRule?.branches keyword, alt.IsPlain := by
    refine List.forall_mem_cons.2 ⟨?_, List.forall_mem_singleton.2 ?_⟩
    · exact .block [.lit keyword, .rule .namedExpression] rfl (.inl rfl) rfl rfl rfl (fun _ => rfl)
        fun _ => rfl
    · exact .block [.lit keyword, .rule .namedExpression] rfl (.inl rfl) rfl rfl rfl (fun _ => rfl)
        fun _ => rfl
  -- Most alternatives give what a rule gives, or a statement without a block.
  cases r with
  | ifStmt => exact List.forall_mem_cons.2 ⟨.mistake, hbranches "if"⟩
  | elifStmt => exact List.forall_mem_cons.2 ⟨.mistake, hbranches "elif"⟩
  | functionDefRaw =>
    refine List.forall_mem_cons.2 ⟨.mistake, List.forall_mem_cons.2 ⟨?_, List.forall_mem_singleton.2 ?_⟩⟩
    · exact .block (functionItems.take 6) rfl (.inr rfl) rfl rfl rfl (fun _ => rfl) fun _ => rfl
    · exact .block (.lit "async" :: functionItems.take 6) rfl (.inr rfl) rfl rfl rfl (fun _ => rfl)
        fun _ => rfl
  | classDefRaw =>
    refine List.forall_mem_cons.2 ⟨.mistake, List.forall_mem_singleton.2 (hstmt (fun m => ?_) fun m => ?_)⟩ <;>
      split <;> rfl
  | assignment =>
    refine List.forall_mem_cons.2 ⟨hstmt (fun _ => rfl) fun _ => rfl, List.forall_mem_cons.2
      ⟨hstmt (fun _ => rfl) fun _ => rfl, List.forall_mem_cons.2 ⟨hstmt (fun _ => rfl) fun _ => rfl,
        List.forall_mem_cons.2 ⟨.stmt fun m n hn => ?_, List.forall_mem_singleton.2 .mistake⟩⟩⟩⟩
    split at hn
    · obtain rfl := Outcome.node.inj hn
      exact ⟨_, rfl, rfl, rfl⟩
    · cases hn
  | _ =>
    first
    | exact absurd h (by decide)
    | repeat' first
      | exact List.forall_mem_nil _
      | refine List.forall_mem_cons.2 ⟨?_, ?_⟩
      | exact .mistake
      | exact .rule rfl rfl
      | exact hstmt (fun _ => rfl) fun _ => rfl

section Takes

variable {rd : Reading} {P : Rule → Nat → Nat → Node → Prop} {a b : Nat} {n : Node}
  {nodes : List Node}

/-- Items that take nothing do not matter. -/
theorem Item.allTake_filter {items : List Item} :
    Item.AllTake rd P items a b nodes ↔
      Item.AllTake rd P (items.filter (!·.isSilent)) a b nodes := by
  induction items generalizing a nodes with
  | nil => rfl
  | cons i rest ih =>
    cases hsilent : i.isSilent with
    | true =>
      rw [Item.allTake_cons, if_pos hsilent, List.filter_cons_of_neg (by simp [hsilent]), ih]
    | false =>
      rw [Item.allTake_cons, if_neg (by simp [hsilent]), List.filter_cons_of_pos (by simp [hsilent]),
        Item.allTake_cons, if_neg (by simp [hsilent])]
      simp only [ih]

theorem Item.takes_of_only {items : List Item} {i : Item}
    (honly : items.filter (!·.isSilent) = [i]) (h : Item.AllTake rd P items a b nodes) :
    ∃ n, nodes = [n] ∧ i.Takes rd P a b n := by
  have hloud : i.isSilent = false := by
    have hmem : i ∈ items.filter (!·.isSilent) := honly ▸ List.mem_singleton_self i
    simpa using (List.mem_filter.1 hmem).2
  rw [Item.allTake_filter, honly, Item.allTake_cons, if_neg (by simp [hloud])] at h
  obtain ⟨m, n, ns, htake, ⟨rfl, rfl⟩, rfl⟩ := h
  exact ⟨n, rfl, htake⟩

theorem Item.allTake_append {before rest : List Item} (hloud : before.all (!·.isSilent) = true)
    (h : Item.AllTake rd P (before ++ rest) a b nodes) :
    ∃ m ns ns', Item.AllTake rd P before a m ns ∧ ns.length = before.length
      ∧ Item.AllTake rd P rest m b ns' ∧ nodes = ns ++ ns' := by
  induction before generalizing a nodes with
  | nil => exact ⟨a, [], nodes, ⟨rfl, rfl⟩, rfl, h, rfl⟩
  | cons i before ih =>
    simp only [List.all_cons, Bool.and_eq_true, Bool.not_eq_true'] at hloud
    rw [List.cons_append, Item.allTake_cons, if_neg (by simp [hloud.1])] at h
    obtain ⟨m, n, ns, htake, hrest, rfl⟩ := h
    obtain ⟨m', ns₁, ns₂, hbefore, hlength, hbehind, rfl⟩ := ih hloud.2 hrest
    refine ⟨m', n :: ns₁, ns₂, ?_, by simp [hlength], hbehind, rfl⟩
    rw [Item.allTake_cons, if_neg (by simp [hloud.1])]
    exact ⟨m, n, ns₁, htake, hbefore, rfl⟩

/-- A colon with a block behind it. -/
theorem Item.allTake_colon {colon : Item} {rest : List Item}
    (hcolon : colon = .lit ":" ∨ colon = .force ":")
    (h : Item.AllTake rd P (colon :: .rule .block :: rest) a b nodes) :
    ∃ t d nb ns, rd.source.tokens[a]? = some t ∧ t.isLit ":" = true ∧ P .block (a + 1) d nb
      ∧ Item.AllTake rd P rest d b ns ∧ nodes = .token t :: nb :: ns := by
  have htoken : colon.isSilent = false ∧ colon.Takes rd P = rd.TakesToken (·.isLit ":") := by
    rcases hcolon with rfl | rfl <;> exact ⟨rfl, by rw [Item.Takes]⟩
  rw [Item.allTake_cons, if_neg (by simp [htoken.1]), htoken.2] at h
  obtain ⟨m, n, ns, ⟨t, hget, hlit, rfl, rfl⟩, hbehind, rfl⟩ := h
  rw [Item.allTake_cons, if_neg (by simp [Item.isSilent])] at hbehind
  obtain ⟨d, nb, ns', hblock, hrest, rfl⟩ := hbehind
  rw [Item.Takes] at hblock
  exact ⟨t, d, nb, ns', hget, hlit, hblock, hrest, rfl⟩

variable (hP : ∀ {r a b n}, P r a b n → rd.TakesStmts r a b n)

include hP

theorem Item.le_of_allTake {items : List Item} (hsound : Item.allSound 0 items = true)
    (h : Item.AllTake rd P items a b nodes) : a ≤ b :=
  (Item.spans_of_allTake (fun h => (hP h).1) items hsound h).le

/-- What an alternative of the kind gives is a statement whose span is that of the tokens. -/
theorem Alt.IsPlain.plain {items : List Item} {action : Action} (h : Alt.IsPlain (.mk items action))
    (htake : Item.AllTake rd P items a b nodes) (hlt : a < b)
    (hact : action (rd.matchedAt a b nodes) = .node n) : rd.Plain a b n := by
  cases h with
  | stmt gives =>
    obtain ⟨s, rfl, hspan, hinner⟩ := gives _ _ hact
    exact ⟨s, rfl, hspan, Reading.hasBlock_of_nil hinner hlt⟩
  | mistake =>
    rw [Item.allTake_cons, if_neg (by simp [Item.isSilent])] at htake
    obtain ⟨m, n, ns, hnone, -⟩ := htake
    exact hnone.elim
  | @rule _ q only plain =>
    obtain ⟨n', rfl, hrule⟩ := Item.takes_of_only only htake
    obtain rfl := Outcome.node.inj hact
    exact (hP hrule).plain plain
  | @block _ before rest colon f items_eq isColon loud sound sound' span inner =>
    subst items_eq
    obtain ⟨m, ns, ns', hbefore, hlength, hbehind, rfl⟩ := Item.allTake_append loud htake
    obtain ⟨t, d, nb, ns₂, hget, hcolon, hblock, hrest, rfl⟩ := Item.allTake_colon isColon hbehind
    obtain ⟨⟨rows, hlies, hrows⟩, -⟩ := (hP hblock).2
    have hle := Item.le_of_allTake hP sound hbefore
    have hle' := Item.le_of_allTake hP sound' hrest
    obtain rfl := Outcome.node.inj hact
    have hinner : (f (rd.matchedAt a b (ns ++ .token t :: nb :: ns₂))).inner = nb.stmts := by
      rw [inner, ← hlength]
      simp [Matched.stmts, Matched.get, Reading.matchedAt]
    exact ⟨_, rfl, span _, m + 1, d, rows, hlies, ⟨by omega, hle'⟩, hrows.trans hinner.symm,
      fun _ => ⟨t, hget, hcolon⟩⟩

theorem Rule.plain_of_takes {r : Rule} (hplain : r.isPlain = true) (hlt : a < b)
    (h : r.body.Takes rd P a b n) : rd.Plain a b n := by
  have halts : ∃ alts, r.body = .choice alts := by
    cases r <;> first | exact absurd hplain (by decide) | exact ⟨_, rfl⟩
  obtain ⟨alts, hbody⟩ := halts
  have hall := Alt.isPlain_of_isPlain hplain
  rw [hbody] at h hall
  obtain ⟨items, action, nodes, hmem, htake, hact⟩ := Alt.anyTakes_iff.1 h
  exact (hall _ hmem).plain hP htake hlt hact

theorem Rule.single_of_takesStmts {r : Rule} (hr : r.isPlain = true ∨ r = .functionDef ∨ r = .classDef)
    (h : P r a b n) : rd.Single a b n := by
  obtain ⟨hstretch, hshape⟩ := hP h
  rcases hr with hplain | rfl | rfl
  · have hblock : r ≠ .block := by
      rintro rfl
      cases hplain
    exact ((hP h).plain hplain).single hstretch.lt (hstretch.solid hblock)
  · exact hshape
  · exact hshape

/-- A compound statement is what one of the rules for compound statements gives. -/
theorem Rule.single_of_compoundStmt (h : (Rule.body .compoundStmt).Takes rd P a b n) :
    rd.Single a b n := by
  have hall : ∀ alt ∈ (Rule.body .compoundStmt).alts, ∃ items q, alt = .mk items (pick 0)
      ∧ items.filter (!·.isSilent) = [.rule q]
      ∧ (q.isPlain = true ∨ q = .functionDef ∨ q = .classDef) := by
    repeat' first
      | exact List.forall_mem_nil _
      | refine List.forall_mem_cons.2 ⟨?_, ?_⟩
      | exact ⟨_, _, rfl, rfl, by decide⟩
  obtain ⟨items, action, nodes, hmem, htake, hact⟩ := Alt.anyTakes_iff.1 h
  obtain ⟨items', q, heq, honly, hq⟩ := hall _ hmem
  obtain ⟨rfl, rfl⟩ := Alt.mk.inj heq
  obtain ⟨n', rfl, hrule⟩ := Item.takes_of_only honly htake
  obtain rfl := Outcome.node.inj hact
  exact Rule.single_of_takesStmts hP hq hrule

/-! ## Decorated definitions -/

/-- One decorator with its line. -/
theorem Alt.decorates_of_takes {action : Action}
    (h : Alt.AnyTakes rd P a [] [.mk [.lit "@", .rule .namedExpression, .kind .newline] action] a b n) :
    rd.Decorates a b := by
  rcases h with ⟨nodes, htake, -⟩ | h
  · simp only [Item.allTake_cons, Item.isSilent, Bool.false_eq_true, if_false, Item.Takes] at htake
    obtain ⟨_, _, _, ⟨t, hsign, hlit, rfl, -⟩, ⟨m, _, _, hname, ⟨_, _, _, ⟨u, hnewline, hkind, rfl, -⟩,
      ⟨rfl, -⟩, -⟩, -⟩, -⟩ := htake
    have hlt := (hP hname).1.lt
    exact ⟨by omega, ⟨t, hsign, hlit⟩, u, by simpa using hnewline, by simpa using hkind⟩
  · exact h.elim

theorem Rule.decorates_of_takes (h : (Rule.body .decorators).Takes rd P a b n) :
    rd.Decorates a b := by
  rcases h with ⟨nodes, htake, -⟩ | h
  · obtain ⟨n', -, ns, hchain, hne, -⟩ := Item.takes_of_only (i := .many1 _) rfl htake
    clear htake
    induction hchain with
    | nil a => exact absurd rfl hne
    | cons first others ih =>
      have hfirst := Alt.decorates_of_takes hP first
      cases others with
      | nil => exact hfirst
      | cons second more => exact hfirst.trans (ih (List.cons_ne_nil _ _))
  · exact h.elim

omit hP in
theorem decorate_stmt (ds : List Expr) (s : Stmt) :
    ∃ s', decorate ds (.stmt s) = .stmt s' ∧ s'.span = s.span ∧ s'.inner = s.inner := by
  cases s <;> exact ⟨_, rfl, rfl, rfl⟩

/-- A definition behind decorators, or one alone. -/
theorem Alt.single_of_decorated {r : Rule} (hr : r.isPlain = true)
    (h : Alt.AnyTakes rd P a [] [.mk [.rule .decorators, .rule r]
      (fun m => .node (decorate (m.exprs 0) (m.get 1))), .mk [.rule r] (pick 0)] a b n) :
    rd.Single a b n := by
  rcases h with ⟨nodes, htake, hact⟩ | ⟨nodes, htake, hact⟩ | h
  · simp only [Item.allTake_cons, Item.isSilent, Bool.false_eq_true, if_false, Item.Takes] at htake
    obtain ⟨k, n₀, _, hdecorators, ⟨m, n₁, _, hdefinition, ⟨rfl, rfl⟩, rfl⟩, rfl⟩ := htake
    have hdecorates : rd.Decorates a k := (hP hdecorators).2
    have hstretch := (hP hdefinition).1
    have hne : r ≠ .block := by
      rintro rfl
      cases hr
    obtain ⟨s, rfl, hspan, hblock⟩ := (hP hdefinition).plain hr
    obtain ⟨s', hs', hspan', hinner⟩ := decorate_stmt n₀.exprs s
    obtain rfl : n = .stmt s' := (Outcome.node.inj hact).symm.trans hs'
    have hlt := hdecorates.lt
    refine ⟨s', rfl, ⟨hlt.trans hstretch.lt, hdecorates.solid, k, hstretch.lt, hstretch.solid hne,
      hspan'.trans hspan, .inr hdecorates⟩, hblock.behind hlt.le hinner⟩
  · obtain ⟨n', rfl, hrule⟩ := Item.takes_of_only (i := .rule r) rfl htake
    obtain rfl := Outcome.node.inj hact
    exact Rule.single_of_takesStmts hP (.inl hr) hrule
  · exact h.elim

/-! ## Statements in a row -/

omit hP in
theorem Reading.Listed.cons {m : Nat} {ns : List Node} (h : rd.Listed a m n)
    (h' : rd.Listed m b (.seq ns)) : rd.Listed a b (.seq (n :: ns)) := by
  obtain ⟨rows, hlies, hrows⟩ := h
  obtain ⟨rows', hlies', hrows'⟩ := h'
  refine ⟨rows ++ rows', hlies.append hlies', ?_⟩
  rw [List.map_append, hrows, hrows']
  rfl

omit hP in
/-- Nodes whose statements lie in what is taken, one behind the other. -/
theorem Chain.listed {R : Nat → Nat → Node → Prop} (hR : ∀ {a b n}, R a b n → rd.Listed a b n)
    {ns : List Node} (h : Chain R a b ns) : rd.Listed a b (.seq ns) := by
  induction h with
  | nil a => exact ⟨[], .nil le_rfl (by omega), rfl⟩
  | cons first _ ih => exact (hR first).cons ih

theorem Rule.filled_of_statements (h : (Rule.body .statements).Takes rd P a b n) :
    rd.Filled a b n := by
  rcases h with ⟨nodes, htake, hact⟩ | h
  · obtain ⟨n', rfl, ns, hchain, hne, rfl⟩ := Item.takes_of_only (i := .many1 _) rfl htake
    obtain rfl := Outcome.node.inj hact
    refine ⟨hchain.listed fun {_ _ _} (hstatement : P .statement _ _ _) => (hP hstatement).2.1, ?_⟩
    cases hchain with
    | nil => exact absurd rfl hne
    | cons first _ =>
      have hfirst : P .statement _ _ _ := first
      exact Reading.stmts_seq_ne_nil (hP hfirst).2.2
  · exact h.elim

theorem Rule.filled_of_statement (h : (Rule.body .statement).Takes rd P a b n) :
    rd.Filled a b n := by
  rcases h with ⟨nodes, htake, hact⟩ | ⟨nodes, htake, hact⟩ | h
  · obtain ⟨n', rfl, hrule⟩ := Item.takes_of_only (i := .rule _) rfl htake
    obtain rfl := Outcome.node.inj hact
    have hsingle : rd.Single a b n' := (hP hrule).2
    exact hsingle.filled
  · obtain ⟨n', rfl, hrule⟩ := Item.takes_of_only (i := .rule _) rfl htake
    obtain rfl := Outcome.node.inj hact
    exact (hP hrule).2
  · exact h.elim

omit hP in
theorem Reading.Listed.behind {m : Nat} (h : rd.Listed m b n) (hle : a ≤ m)
    (hgap : ∀ i, a ≤ i → i < m → rd.IsGap i) : rd.Listed a b n := by
  obtain ⟨rows, hlies, hrows⟩ := h
  exact ⟨rows, hlies.behind_gap hle hgap, hrows⟩

omit hP in
theorem Reading.Listed.before {m : Nat} (h : rd.Listed a m n) (hle : m ≤ b)
    (hgap : ∀ i, m ≤ i → i < b → rd.IsGap i) : rd.Listed a b n := by
  obtain ⟨rows, hlies, hrows⟩ := h
  exact ⟨rows, hlies.before_gap hle hgap, hrows⟩

omit hP in
theorem Reading.isGap_of_layout {k : TokenKind} (hk : k = .newline ∨ k = .indent ∨ k = .dedent)
    (h : rd.TakesToken (·.kind == k) a b n) : b = a + 1 ∧ rd.IsGap a := by
  obtain ⟨t, hget, hkind, rfl, -⟩ := h
  have hkind : t.kind = k := by simpa using hkind
  refine ⟨rfl, t, hget, .inl ?_⟩
  rcases hk with rfl | rfl | rfl <;> simp [Token.isLayout, hkind]

omit hP in
theorem Reading.isGap_of_semicolon (h : rd.TakesToken (·.isLit ";") a b n) :
    b = a + 1 ∧ rd.IsGap a := by
  obtain ⟨t, hget, hlit, rfl, -⟩ := h
  exact ⟨rfl, t, hget, .inr hlit⟩

/-- A simple statement behind a semicolon. -/
theorem Rule.listed_behind_semicolon
    (h : ∃ m x, rd.TakesToken (·.isLit ";") a m x ∧ P .simpleStmt m b n) : rd.Listed a b n := by
  obtain ⟨m, x, hsemicolon, hsimple⟩ := h
  obtain ⟨rfl, hgap⟩ := Reading.isGap_of_semicolon hsemicolon
  have hlisted := (Rule.single_of_takesStmts hP (.inl rfl) hsimple).listed
  refine hlisted.behind (Nat.le_succ a) fun i hi hi' => ?_
  obtain rfl : i = a := by omega
  exact hgap

theorem Rule.filled_of_simpleStmts (h : (Rule.body .simpleStmts).Takes rd P a b n) :
    rd.Filled a b n := by
  rcases h with ⟨nodes, htake, hact⟩ | ⟨nodes, htake, hact⟩ | h
  · simp only [Item.allTake_cons, Item.isSilent, Bool.false_eq_true, if_false, if_true, Item.Takes] at htake
    obtain ⟨m, n₀, _, hsimple, ⟨_, _, _, hnewline, ⟨rfl, -⟩, -⟩, rfl⟩ := htake
    obtain rfl := Outcome.node.inj hact
    obtain ⟨rfl, hgap⟩ := Reading.isGap_of_layout (.inl rfl) hnewline
    obtain ⟨hlisted, hne⟩ := (Rule.single_of_takesStmts hP (.inl rfl) hsimple).filled
    refine ⟨hlisted.before (Nat.le_succ m) fun i hi hi' => ?_, hne⟩
    obtain rfl : i = m := by omega
    exact hgap
  · simp only [Item.allTake_cons, Item.isSilent, Bool.false_eq_true, if_false, Item.Takes] at htake
    obtain ⟨c, n₀, _, ⟨m, first, ns, hfirst, hchain, rfl⟩,
      ⟨d, _, _, hlast, ⟨_, _, _, hnewline, ⟨rfl, -⟩, -⟩, rfl⟩, rfl⟩ := htake
    obtain rfl := Outcome.node.inj hact
    obtain ⟨rfl, hgap⟩ := Reading.isGap_of_layout (.inl rfl) hnewline
    obtain ⟨hlisted, hne⟩ := (Rule.single_of_takesStmts hP (.inl rfl) hfirst).filled
    have hall := hlisted.cons (hchain.listed fun hmore => Rule.listed_behind_semicolon hP hmore)
    -- The last statement may be followed by a semicolon as well.
    have hopt : d = c ∨ d = c + 1 ∧ rd.IsGap c := by
      rcases hlast with hsemicolon | ⟨rfl, -⟩
      · exact .inr (Reading.isGap_of_semicolon hsemicolon)
      · exact .inl rfl
    refine ⟨hall.before (by omega) fun i hi hi' => ?_, Reading.stmts_seq_ne_nil hne⟩
    rcases hopt with rfl | ⟨rfl, hgap'⟩
    · obtain rfl : i = d := by omega
      exact hgap
    · obtain rfl | rfl : i = c ∨ i = c + 1 := by omega
      · exact hgap'
      · exact hgap
  · exact h.elim

theorem Rule.filled_of_block (h : (Rule.body .block).Takes rd P a b n) : rd.Filled a b n := by
  rcases h with ⟨nodes, htake, hact⟩ | ⟨nodes, htake, hact⟩ | ⟨nodes, htake, -⟩ | h
  · simp only [Item.allTake_cons, Item.isSilent, Bool.false_eq_true, if_false, Item.Takes] at htake
    obtain ⟨_, _, _, hnewline, ⟨_, _, _, hindent, ⟨m, n₀, _, hstatements, ⟨_, _, _, hdedent, ⟨rfl, -⟩, -⟩, rfl⟩,
      rfl⟩, rfl⟩ := htake
    obtain rfl := Outcome.node.inj hact
    obtain ⟨rfl, hgap⟩ := Reading.isGap_of_layout (.inl rfl) hnewline
    obtain ⟨rfl, hgap'⟩ := Reading.isGap_of_layout (.inr (.inl rfl)) hindent
    obtain ⟨rfl, hgap''⟩ := Reading.isGap_of_layout (.inr (.inr rfl)) hdedent
    obtain ⟨hlisted, hne⟩ : rd.Filled (a + 1 + 1) m n₀ := (hP hstatements).2
    refine ⟨(hlisted.behind (by omega) fun i hi hi' => ?_).before (Nat.le_succ m) fun i hi hi' => ?_,
      hne⟩
    · obtain rfl | rfl : i = a ∨ i = a + 1 := by omega
      · exact hgap
      · exact hgap'
    · obtain rfl : i = m := by omega
      exact hgap''
  · obtain ⟨n', rfl, hrule⟩ := Item.takes_of_only (i := .rule _) rfl htake
    obtain rfl := Outcome.node.inj hact
    exact (hP hrule).2
  · obtain ⟨n', -, hnone⟩ := Item.takes_of_only (i := .mistake _) rfl htake
    exact hnone.elim
  · exact h.elim

end Takes

/-- What an ordinary rule takes is a stretch in which its statements lie, if that is so of what the
    rules within it take. -/
theorem Rule.takesStmts_of_takes {rd : Reading} {r : Rule} {a b : Nat} {n : Node}
    (hr : r.isOrdinary = true) (h : r.body.Takes rd rd.TakesStmts a b n) : rd.TakesStmts r a b n := by
  have hstretch := Rule.stretch_of_takes (fun h => h.1) hr h
  refine ⟨hstretch, ?_⟩
  cases r with
  | statements => exact Rule.filled_of_statements id h
  | statement => exact Rule.filled_of_statement id h
  | simpleStmts => exact Rule.filled_of_simpleStmts id h
  | block => exact Rule.filled_of_block id h
  | functionDef => exact Alt.single_of_decorated id rfl h
  | classDef => exact Alt.single_of_decorated id rfl h
  | compoundStmt => exact Rule.single_of_compoundStmt id h
  | decorators => exact Rule.decorates_of_takes id h
  | _ => exact fun hplain => Rule.plain_of_takes id hplain hstretch.lt h

end Graft.Syntax
