import Mathlib.Algebra.Ring.Int.Defs
import Graft.Proofs.Grammar.Table

set_option autoImplicit false

/-! # What matches are made of

The match of a rule is a row of tokens with a node.  What such a row looks like is told here without
the state of a reading: an item takes the tokens from one index up to another and gives a node,
where the rules within it take what some predicate allows.  A property that holds of what a rule
takes whenever it holds of what the rules within it take then holds of every match.

Three things are so of every rule that is not about mistakes: it takes a token, the first one is no
layout unless the rule is that of a block, and it closes the blocks that it opens. -/

namespace Graft.Syntax

/-! ## Rows of tokens -/

/-- Nodes that are taken one behind the other. -/
inductive Chain (R : Nat → Nat → Node → Prop) : Nat → Nat → List Node → Prop
  | nil (a : Nat) : Chain R a a []
  | cons {a m b : Nat} {n : Node} {ns : List Node} (first : R a m n) (others : Chain R m b ns) :
    Chain R a b (n :: ns)

namespace Reading

variable (rd : Reading)

/-- One token that passes a test. -/
def TakesToken (p : Token → Bool) (a b : Nat) (n : Node) : Prop :=
  ∃ t, rd.source.tokens[a]? = some t ∧ p t = true ∧ b = a + 1 ∧ n = .token t

/-- String literals in a row, which give an expression that reaches from the first to the last. -/
def TakesStrings (a b : Nat) (n : Node) : Prop :=
  ∃ first last e, rd.source.tokens[a]? = some first ∧ rd.source.tokens[b - 1]? = some last
    ∧ a < b ∧ first.kind = .string ∧ last.kind = .string
    ∧ (∀ i, a ≤ i → i < b → ∃ t, rd.source.tokens[i]? = some t ∧ t.kind = .string)
    ∧ n = .expr e ∧ e.span = first.span.to last.span

theorem getElem?_of_chain {p : Token → Bool} {ts : List Token} {a b : Nat}
    (h : Chain (rd.TakesToken p) a b (ts.map .token)) :
    b = a + ts.length ∧ ∀ i t, ts[i]? = some t →
      rd.source.tokens[a + i]? = some t ∧ p t = true := by
  induction ts generalizing a with
  | nil => cases h; simp
  | cons t ts ih =>
    cases h with
    | cons first others =>
      obtain ⟨u, hget, hp, rfl, heq⟩ := first
      obtain rfl := Node.token.inj heq
      obtain ⟨hb, hall⟩ := ih others
      refine ⟨by rw [hb, List.length_cons]; omega, fun i u hu => ?_⟩
      rcases i with _ | i
      · obtain rfl := Option.some.inj hu
        exact ⟨hget, hp⟩
      · have := hall i u hu
        rwa [Nat.add_right_comm] at this

theorem takesStrings_of_chain {a b : Nat} {ts : List Token} {n : Node} {e : Expr}
    (hchain : Chain (rd.TakesToken (·.kind == .string)) a b (ts.map .token)) (hne : ts ≠ [])
    (h : ∃ first last, ts.head? = some first ∧ ts.getLast? = some last ∧ n = .expr e
      ∧ e.span = first.span.to last.span) : rd.TakesStrings a b n := by
  obtain ⟨first, last, hfirst, hlast, hn, hspan⟩ := h
  obtain ⟨hb, hall⟩ := rd.getElem?_of_chain hchain
  have hpos : 0 < ts.length := List.length_pos_iff.2 hne
  have hfirst := hall 0 first (by rwa [← List.head?_eq_getElem?])
  have hlast := hall (ts.length - 1) last (by rwa [← List.getLast?_eq_getElem?])
  refine ⟨first, last, e, hfirst.1, ?_, by omega, eq_of_beq hfirst.2, eq_of_beq hlast.2,
    fun i hai hib => ?_, hn, hspan⟩
  · rw [hb, Nat.add_sub_assoc hpos]
    exact hlast.1
  · have hi : i - a < ts.length := by omega
    have := hall (i - a) ts[i - a] (List.getElem?_eq_getElem hi)
    rw [Nat.add_sub_cancel' hai] at this
    exact ⟨_, this.1, eq_of_beq this.2⟩

/-- What an action sees of the tokens from one index up to another. -/
def matchedAt (start stop : Nat) (nodes : List Node) : Matched where
  span := rd.spanFrom start stop
  bracketed := ((rd.source.tokens[stop - 1]?).map (·.depth != 0)).getD false
  nodes := nodes

theorem act_eq (start : Nat) (nodes : List Node) (action : Action) (st : ReadState) :
    rd.act start nodes action st =
      match action (rd.matchedAt start st.mark nodes) with
      | .node n => (some n, st)
      | .reject => (none, st)
      | .fault cls site message =>
        (none, { st with fault := some (rd.faultOf st cls site message) }) := rfl

end Reading

/-- Whether an item takes nothing and gives no node. -/
def Item.isSilent : Item → Bool
  | .ahead _ | .notAhead _ | .cut => true
  | _ => false

section Takes

variable (rd : Reading) (P : Rule → Nat → Nat → Node → Prop)

mutual

/-- What an item takes. -/
def Item.Takes : Item → Nat → Nat → Node → Prop
  | .kind k => rd.TakesToken (·.kind == k)
  | .lit text => rd.TakesToken (·.isLit text)
  | .soft text => rd.TakesToken (fun t => t.kind == .name && t.text == text)
  | .softKeyword => rd.TakesToken (fun t => t.kind == .name && softKeywords.contains t.text)
  | .rule r => P r
  | .plainly _ => fun _ _ _ => False
  | .mistake _ => fun _ _ _ => False
  | .opt i => fun a b n => i.Takes a b n ∨ (b = a ∧ n = .absent)
  | .many i => fun a b n => ∃ ns, Chain (i.Takes) a b ns ∧ n = .seq ns
  | .many1 i => fun a b n => ∃ ns, Chain (i.Takes) a b ns ∧ ns ≠ [] ∧ n = .seq ns
  | .sepBy s e => fun a b n => ∃ m first ns, e.Takes a m first
      ∧ Chain (fun a b n => ∃ m x, s.Takes a m x ∧ e.Takes m b n) m b ns ∧ n = .seq (first :: ns)
  | .ahead _ => fun a b n => b = a ∧ n = .absent
  | .notAhead _ => fun a b n => b = a ∧ n = .absent
  | .cut => fun a b n => b = a ∧ n = .absent
  | .force text => rd.TakesToken (·.isLit text)
  | .group alts => fun a b n => Alt.AnyTakes a [] alts a b n
  | .strings => rd.TakesStrings

/-- What items in a row take. -/
def Item.AllTake : List Item → Nat → Nat → List Node → Prop
  | [] => fun a b ns => b = a ∧ ns = []
  | i :: rest => fun a b ns =>
    if i.isSilent then Item.AllTake rest a b ns
    else ∃ m n ns', i.Takes a m n ∧ Item.AllTake rest m b ns' ∧ ns = n :: ns'

/-- What one of several alternatives takes, where the match began at `start` with `before`. -/
def Alt.AnyTakes (start : Nat) (before : List Node) : List Alt → Nat → Nat → Node → Prop
  | [] => fun _ _ _ => False
  | .mk items action :: rest => fun a b n =>
    (∃ nodes, Item.AllTake items a b nodes
      ∧ action (rd.matchedAt start b (before ++ nodes)) = .node n)
    ∨ Alt.AnyTakes start before rest a b n

end

theorem Item.allTake_cons {i : Item} {rest : List Item} {a b : Nat} {ns : List Node} :
    Item.AllTake rd P (i :: rest) a b ns ↔
      if i.isSilent then Item.AllTake rd P rest a b ns
      else ∃ m n ns', i.Takes rd P a m n ∧ Item.AllTake rd P rest m b ns' ∧ ns = n :: ns' := by
  rw [AllTake]

theorem Item.eq_of_takes_of_isSilent {i : Item} {a b : Nat} {n : Node} (h : i.isSilent = true)
    (htake : i.Takes rd P a b n) : b = a := by
  cases i <;> first | exact htake.1 | simp [isSilent] at h

/-- A match that has been extended to the right some number of times. -/
inductive Grown (starts steps : List Alt) (a : Nat) : Nat → Node → Prop
  | start {b : Nat} {n : Node} (h : Alt.AnyTakes rd P a [] starts a b n) : Grown starts steps a b n
  | step {b c : Nat} {n n' : Node} (before : Grown starts steps a b n)
      (h : Alt.AnyTakes rd P a [n] steps b c n') : Grown starts steps a c n'

/-- What a rule's body takes. -/
def RuleBody.Takes : RuleBody → Nat → Nat → Node → Prop
  | .choice alts => fun a b n => Alt.AnyTakes rd P a [] alts a b n
  | .leftRec starts steps => fun a b n => Grown rd P starts steps a b n

end Takes

theorem Alt.anyTakes_iff {rd : Reading} {P : Rule → Nat → Nat → Node → Prop} {start a b : Nat}
    {before : List Node} {alts : List Alt} {n : Node} :
    Alt.AnyTakes rd P start before alts a b n ↔
      ∃ items action nodes, Alt.mk items action ∈ alts ∧ Item.AllTake rd P items a b nodes
        ∧ action (rd.matchedAt start b (before ++ nodes)) = .node n := by
  induction alts with
  | nil => simp [Alt.AnyTakes]
  | cons alt rest ih =>
    obtain ⟨items, action⟩ := alt
    simp only [Alt.AnyTakes, ih]
    constructor
    · rintro (⟨nodes, htake, hact⟩ | ⟨items', action', nodes, hmem, htake, hact⟩)
      · exact ⟨items, action, nodes, List.mem_cons_self, htake, hact⟩
      · exact ⟨items', action', nodes, List.mem_cons_of_mem _ hmem, htake, hact⟩
    · rintro ⟨items', action', nodes, hmem, htake, hact⟩
      rcases List.mem_cons.1 hmem with heq | hmem
      · obtain ⟨rfl, rfl⟩ := Alt.mk.inj heq
        exact .inl ⟨nodes, htake, hact⟩
      · exact .inr ⟨items', action', nodes, hmem, htake, hact⟩

/-! ## The shape of the grammar -/

/-- Whether a rule is about mistakes. -/
def Rule.isMistake (r : Rule) : Bool := (mistakeRule? r).isSome

/-- Whether a rule may be used within others when mistakes are not described. -/
def Rule.isOrdinary (r : Rule) : Bool := !r.isMistake && r != .file

mutual

/-- Whether an item takes a token each time it matches. -/
def Item.isTaking : Item → Bool
  | .kind _ | .lit _ | .soft _ | .softKeyword | .rule _ | .mistake _ | .plainly _ | .force _
  | .strings => true
  | .many1 i => i.isTaking
  | .sepBy _ e => e.isTaking
  | .group alts => Alt.allTaking alts
  | .opt _ | .many _ | .ahead _ | .notAhead _ | .cut => false

/-- Whether one of several items takes a token each time. -/
def Item.someTaking : List Item → Bool
  | [] => false
  | i :: rest => i.isTaking || Item.someTaking rest

/-- Whether all alternatives take a token each time. -/
def Alt.allTaking : List Alt → Bool
  | [] => true
  | .mk items _ :: rest => Item.someTaking items && Alt.allTaking rest

end

mutual

/-- Whether the first token that an item takes is never layout. -/
def Item.isSolid : Item → Bool
  | .kind k => k != .newline && k != .indent && k != .dedent && k != .endMarker
  | .rule r | .plainly r => r != .block
  | .opt i | .many i | .many1 i => i.isSolid
  | .sepBy _ e => e.isSolid
  | .group alts => Alt.allSolid alts
  | _ => true

/-- Whether items in a row take a token each time and first one that is no layout. -/
def Item.beginSolid : List Item → Bool
  | [] => false
  | i :: rest =>
    if i.isSilent then Item.beginSolid rest
    else i.isSolid && (i.isTaking || Item.beginSolid rest)

/-- Whether all alternatives begin with a token that is no layout. -/
def Alt.allSolid : List Alt → Bool
  | [] => true
  | .mk items _ :: rest => Item.beginSolid items && Alt.allSolid rest

end

/-- Whether an item's node is never a layout token of its own. -/
def Item.isStrict : Item → Bool
  | .kind k => k != .newline && k != .indent && k != .dedent && k != .endMarker
  | .opt i | .many i | .many1 i => i.isStrict
  | .sepBy _ e => e.isStrict
  | _ => true

mutual

/-- Whether an item is of use when mistakes are not described: it leaves the blocks that are open
    alone, what it repeats takes a token, and it names ordinary rules. -/
def Item.isSound : Item → Bool
  | .kind k => k != .indent && k != .dedent && k != .endMarker
  | .rule r => r.isOrdinary
  | .plainly _ => false
  | .opt i | .ahead i | .notAhead i => i.isSound
  | .many i | .many1 i => i.isSound && i.isTaking
  | .sepBy s e => s.isSound && e.isSound && e.isTaking
  | .group alts => Alt.allSound alts
  | _ => true

/-- Whether items in a row are of use and close the blocks that they open and `d` others. -/
def Item.allSound (d : Nat) : List Item → Bool
  | [] => d == 0
  | i :: rest =>
    match i with
    | .kind .indent => Item.allSound (d + 1) rest
    | .kind .dedent => d != 0 && Item.allSound (d - 1) rest
    | i => i.isSound && Item.allSound d rest

/-- Whether alternatives are of use and take a token each time. -/
def Alt.allSound : List Alt → Bool
  | [] => true
  | .mk items _ :: rest => Item.allSound 0 items && Item.someTaking items && Alt.allSound rest

end

theorem Item.allSound_cons {d : Nat} {i : Item} {rest : List Item}
    (h : Item.allSound d (i :: rest) = true) :
    (i = .kind .indent ∧ Item.allSound (d + 1) rest = true)
    ∨ (i = .kind .dedent ∧ d ≠ 0 ∧ Item.allSound (d - 1) rest = true)
    ∨ (i.isSound = true ∧ Item.allSound d rest = true) := by
  unfold Item.allSound at h
  split at h
  · exact .inl ⟨rfl, h⟩
  · simp only [Bool.and_eq_true, bne_iff_ne] at h
    exact .inr (.inl ⟨rfl, h⟩)
  · rw [Bool.and_eq_true] at h
    exact .inr (.inr h)

theorem Item.isTaking_of_isSilent {i : Item} (h : i.isSilent = true) : i.isTaking = false := by
  cases i <;> first | rfl | simp [isSilent] at h

theorem Alt.allTaking_of_allSound {alts : List Alt} (h : Alt.allSound alts = true) :
    Alt.allTaking alts = true := by
  induction alts with
  | nil => rfl
  | cons alt rest ih =>
    obtain ⟨items, action⟩ := alt
    simp only [Alt.allSound, Bool.and_eq_true] at h
    rw [Alt.allTaking, h.1.2, ih h.2, Bool.and_self]

theorem Alt.allSound_append (alts alts' : List Alt) :
    Alt.allSound (alts ++ alts') = (Alt.allSound alts && Alt.allSound alts') := by
  induction alts with
  | nil => rfl
  | cons alt rest ih =>
    obtain ⟨items, action⟩ := alt
    simp only [List.cons_append, Alt.allSound, ih, Bool.and_assoc]

theorem Alt.allSolid_append (alts alts' : List Alt) :
    Alt.allSolid (alts ++ alts') = (Alt.allSolid alts && Alt.allSolid alts') := by
  induction alts with
  | nil => rfl
  | cons alt rest ih =>
    obtain ⟨items, action⟩ := alt
    simp only [List.cons_append, Alt.allSolid, ih, Bool.and_assoc]

/-- The alternatives of a rule. -/
def RuleBody.alts : RuleBody → List Alt
  | .choice alts => alts
  | .leftRec starts steps => starts ++ steps

/-- Whether the ways to go on with a match have no layout among their items. -/
def RuleBody.stepsStrict : RuleBody → Bool
  | .choice _ => true
  | .leftRec _ steps => steps.all fun | .mk items _ => items.all Item.isStrict

/-- Ordinary rules are of use; but for that of a block they begin with a token that is no layout. -/
theorem Rule.sound_of_isOrdinary {r : Rule} (h : r.isOrdinary = true) :
    Alt.allSound r.body.alts = true ∧ (r ≠ .block → Alt.allSolid r.body.alts = true)
      ∧ r.body.stepsStrict = true := by
  cases r <;> first
    | exact ⟨by decide, fun _ => by decide, by decide⟩
    | exact ⟨by decide, fun hblock => absurd rfl hblock, by decide⟩
    | exact absurd h (by decide)

/-! ## Stretches of tokens -/

namespace Reading

variable (rd : Reading)

/-- The index of a token that is no layout. -/
def SolidAt (i : Nat) : Prop := ∃ t, rd.source.tokens[i]? = some t ∧ t.isLayout = false

/-- By how much a token changes the number of open blocks. -/
def opening (t : Token) : Int :=
  match t.kind with
  | .indent => 1
  | .dedent => -1
  | _ => 0

/-- How many blocks are open before a token. -/
def level (i : Nat) : Int := ((rd.source.tokens.toList.take i).map opening).sum

theorem level_succ {i : Nat} {t : Token} (h : rd.source.tokens[i]? = some t) :
    rd.level (i + 1) = rd.level i + opening t := by
  have hget : rd.source.tokens.toList[i]? = some t := by simpa using h
  unfold level
  rw [List.take_add_one, hget]
  simp

theorem level_of_takesToken_indent {a b : Nat} {n : Node}
    (h : rd.TakesToken (·.kind == .indent) a b n) : rd.level b = rd.level a + 1 := by
  obtain ⟨t, hget, hkind, rfl, -⟩ := h
  rw [rd.level_succ hget, opening, eq_of_beq hkind]

theorem level_of_takesToken_dedent {a b : Nat} {n : Node}
    (h : rd.TakesToken (·.kind == .dedent) a b n) : rd.level b = rd.level a - 1 := by
  obtain ⟨t, hget, hkind, rfl, -⟩ := h
  rw [rd.level_succ hget, opening, eq_of_beq hkind]
  rfl

theorem level_succ_of_kind {i : Nat} {t : Token} (h : rd.source.tokens[i]? = some t)
    (hindent : t.kind ≠ .indent) (hdedent : t.kind ≠ .dedent) : rd.level (i + 1) = rd.level i := by
  rw [rd.level_succ h, opening]
  split <;> simp_all

theorem level_eq_of_forall {a b : Nat} (hab : a ≤ b) (h : ∀ i, a ≤ i → i < b →
    ∃ t, rd.source.tokens[i]? = some t ∧ t.kind ≠ .indent ∧ t.kind ≠ .dedent) :
    rd.level b = rd.level a := by
  induction b, hab using Nat.le_induction with
  | base => rfl
  | succ b hab ih =>
    obtain ⟨t, ht, hindent, hdedent⟩ := h b hab (Nat.lt_succ_self b)
    rw [rd.level_succ_of_kind ht hindent hdedent]
    exact ih fun i hai hib => h i hai (hib.trans (Nat.lt_succ_self b))

/-- A row of tokens that a rule takes: there is a token, the first one is no layout unless the rule
    is that of a block, and blocks are closed if and only if they are opened in it. -/
structure Stretch (r : Rule) (a b : Nat) : Prop where
  lt : a < b
  solid : r ≠ .block → rd.SolidAt a
  level : rd.level b = rd.level a

end Reading

theorem Token.isLayout_eq_false_of_isLit {t : Token} {text : String} (h : t.isLit text = true) :
    t.isLayout = false := by
  unfold Token.isLit at h
  unfold Token.isLayout
  split <;> simp_all

theorem Token.isLayout_eq_false_of_name {t : Token} (h : t.kind = .name) : t.isLayout = false := by
  simp [Token.isLayout, h]

/-- What items in a row that begin with a token that is no layout take, and that close `d` blocks. -/
structure Item.Spans (rd : Reading) (taking solid : Bool) (d : Nat) (a b : Nat) : Prop where
  le : a ≤ b
  lt : taking = true → a < b
  solid : solid = true → a < b → rd.SolidAt a
  level : rd.level b = rd.level a - d

namespace Item.Spans

variable {rd : Reading} {a b c : Nat}

theorem refl (taking solid : Bool) (h : taking = false) (a : Nat) :
    Item.Spans rd taking solid 0 a a :=
  ⟨le_rfl, fun ht => absurd (h.symm.trans ht) (by decide), fun _ hlt => absurd hlt (lt_irrefl _),
    by simp⟩

theorem ofToken {p : Token → Bool} {n : Node} {solid : Bool}
    (hp : ∀ t, p t = true → t.kind ≠ .indent ∧ t.kind ≠ .dedent
      ∧ (solid = true → t.isLayout = false))
    (h : rd.TakesToken p a b n) : Item.Spans rd true solid 0 a b := by
  obtain ⟨t, hget, ht, rfl, -⟩ := h
  obtain ⟨hindent, hdedent, hsolid⟩ := hp t ht
  exact ⟨Nat.le_succ a, fun _ => Nat.lt_succ_self a, fun hs _ => ⟨t, hget, hsolid hs⟩,
    by rw [rd.level_succ_of_kind hget hindent hdedent]; simp⟩

theorem ofLit {text : String} {n : Node}
    (h : rd.TakesToken (·.isLit text) a b n) : Item.Spans rd true true 0 a b := by
  refine ofToken (fun t ht => ?_) h
  have hlayout := Token.isLayout_eq_false_of_isLit ht
  refine ⟨?_, ?_, fun _ => hlayout⟩ <;> intro hkind <;> simp [Token.isLayout, hkind] at hlayout

theorem weaken {taking solid taking' solid' : Bool} {d : Nat}
    (h : Item.Spans rd taking solid d a b) (ht : taking' = true → taking = true)
    (hs : solid' = true → solid = true) : Item.Spans rd taking' solid' d a b :=
  ⟨h.le, fun h' => h.lt (ht h'), fun h' => h.solid (hs h'), h.level⟩

theorem ofStretch {r : Rule} (h : rd.Stretch r a b) : Item.Spans rd true (r != .block) 0 a b :=
  ⟨h.lt.le, fun _ => h.lt, fun hs _ => h.solid (by simpa using hs), by rw [h.level]; simp⟩

theorem trans {taking solid taking' solid' : Bool} {d : Nat}
    (h : Item.Spans rd taking solid 0 a b) (h' : Item.Spans rd taking' solid' d b c) :
    Item.Spans rd (taking || taking') (solid && (taking || solid')) d a c := by
  refine ⟨h.le.trans h'.le, fun ht => ?_, fun hs hlt => ?_, ?_⟩
  · rcases Bool.or_eq_true _ _ ▸ ht with ht | ht
    · exact (h.lt ht).trans_le h'.le
    · exact h.le.trans_lt (h'.lt ht)
  · simp only [Bool.and_eq_true, Bool.or_eq_true] at hs
    rcases h.le.eq_or_lt with rfl | hlt'
    · -- Nothing was taken before, so what comes behind has to begin well.
      exact h'.solid (hs.2.resolve_left fun ht => lt_irrefl _ (h.lt ht)) hlt
    · exact h.solid hs.1 hlt'
  · rw [h'.level, h.level]
    simp

theorem chain {R : Nat → Nat → Node → Prop} (taking solid : Bool)
    (hR : ∀ {a b n}, R a b n → Item.Spans rd taking solid 0 a b) {ns : List Node}
    (h : Chain R a b ns) :
    Item.Spans rd false solid 0 a b ∧ (ns ≠ [] → taking = true → a < b) := by
  induction h with
  | nil a => exact ⟨refl false solid rfl a, fun h => absurd rfl h⟩
  | cons first _ ih =>
    have hfirst := hR first
    have hlevel := ih.1.level
    refine ⟨⟨hfirst.le.trans ih.1.le, fun h => absurd h (by decide), fun hs hlt => ?_, ?_⟩,
      fun _ ht => (hfirst.lt ht).trans_le ih.1.le⟩
    · rcases hfirst.le.eq_or_lt with rfl | hlt'
      · exact ih.1.solid hs hlt
      · exact hfirst.solid hs hlt'
    · rw [hlevel, hfirst.level]
      simp

end Item.Spans

section Stretch

set_option linter.unusedSectionVars false

variable {rd : Reading} {P : Rule → Nat → Nat → Node → Prop}
  (hP : ∀ {r a b n}, P r a b n → rd.Stretch r a b)

include hP

mutual

theorem Item.spans_of_takes {a b : Nat} {n : Node} : (i : Item) → i.isSound = true →
    i.Takes rd P a b n → Item.Spans rd i.isTaking i.isSolid 0 a b
  | .kind k, hsound, h => by
    refine .ofToken (fun t ht => ?_) h
    have hkind : t.kind = k := by simpa using ht
    simp only [Item.isSound, Bool.and_eq_true, bne_iff_ne] at hsound
    refine ⟨hkind ▸ hsound.1.1, hkind ▸ hsound.1.2, fun hsolid => ?_⟩
    simp only [Item.isSolid, Bool.and_eq_true, bne_iff_ne] at hsolid
    unfold Token.isLayout
    split <;> simp_all
  | .lit _, _, h => .ofLit h
  | .force _, _, h => .ofLit h
  | .soft _, _, h => by
    refine .ofToken (fun t ht => ?_) h
    have hkind : t.kind = .name := by simp_all
    simp [hkind, Token.isLayout]
  | .softKeyword, _, h => by
    refine .ofToken (fun t ht => ?_) h
    have hkind : t.kind = .name := by simp_all
    simp [hkind, Token.isLayout]
  | .rule r, _, h => .ofStretch (hP h)
  | .plainly _, _, h => h.elim
  | .mistake _, _, h => h.elim
  | .opt i, hsound, h => by
    rcases h with h | ⟨rfl, -⟩
    · exact (Item.spans_of_takes i hsound h).weaken (fun h => by simp [Item.isTaking] at h) id
    · exact .refl _ _ rfl _
  | .many i, hsound, h => by
    obtain ⟨ns, hchain, -⟩ := h
    rw [Item.isSound, Bool.and_eq_true] at hsound
    exact (Item.Spans.chain _ _ (fun h => Item.spans_of_takes i hsound.1 h) hchain).1
  | .many1 i, hsound, h => by
    obtain ⟨ns, hchain, hne, -⟩ := h
    rw [Item.isSound, Bool.and_eq_true] at hsound
    obtain ⟨hspans, hlt⟩ :=
      Item.Spans.chain _ _ (fun h => Item.spans_of_takes i hsound.1 h) hchain
    exact ⟨hspans.le, hlt hne, hspans.solid, hspans.level⟩
  | .sepBy s e, hsound, h => by
    obtain ⟨m, first, ns, hfirst, hchain, -⟩ := h
    simp only [Item.isSound, Bool.and_eq_true] at hsound
    have hfirst := Item.spans_of_takes e hsound.1.2 hfirst
    -- A separator and what is behind it may take nothing by themselves: the first element does.
    have hrest := (@Item.Spans.chain rd _ _ _ false false ?_ _ hchain).1
    · have hlt := hfirst.lt hsound.2
      refine ⟨hfirst.le.trans hrest.le, fun _ => hlt.trans_le hrest.le,
        fun hs _ => hfirst.solid hs hlt, ?_⟩
      rw [hrest.level, hfirst.level]
      simp
    · rintro a b n ⟨m, x, hs, he⟩
      have hs := Item.spans_of_takes s hsound.1.1 hs
      have he := Item.spans_of_takes e hsound.1.2 he
      refine ⟨hs.le.trans he.le, fun h => absurd h (by decide), fun h => absurd h (by decide), ?_⟩
      rw [he.level, hs.level]
      simp
  | .ahead _, _, h => by obtain ⟨rfl, -⟩ := h; exact .refl _ _ rfl _
  | .notAhead _, _, h => by obtain ⟨rfl, -⟩ := h; exact .refl _ _ rfl _
  | .cut, _, h => by obtain ⟨rfl, -⟩ := h; exact .refl _ _ rfl _
  | .group alts, hsound, h => Alt.spans_of_anyTakes alts hsound h
  | .strings, _, h => by
    obtain ⟨first, last, e, hfirst, -, hlt, hkind, -, hall, -⟩ := h
    refine ⟨hlt.le, fun _ => hlt, fun _ _ => ⟨first, hfirst, by simp [Token.isLayout, hkind]⟩, ?_⟩
    have hlevel : rd.level b = rd.level a := rd.level_eq_of_forall hlt.le fun i hai hib => by
      obtain ⟨t, ht, hkind⟩ := hall i hai hib
      exact ⟨t, ht, by simp [hkind], by simp [hkind]⟩
    rw [hlevel]
    simp

theorem Item.spans_of_allTake {a b d : Nat} {ns : List Node} : (items : List Item) →
    Item.allSound d items = true → Item.AllTake rd P items a b ns →
    Item.Spans rd (Item.someTaking items) (Item.beginSolid items) d a b
  | [], hsound, h => by
    obtain ⟨rfl, -⟩ := h
    obtain rfl : d = 0 := by simpa [Item.allSound] using hsound
    exact .refl _ _ rfl _
  | i :: rest, hsound, h => by
    rw [Item.allTake_cons] at h
    by_cases hsilent : i.isSilent = true
    · rw [if_pos hsilent] at h
      obtain ⟨rfl, -⟩ | ⟨rfl, -⟩ | ⟨-, hrest⟩ := Item.allSound_cons hsound
      · exact absurd hsilent (by decide)
      · exact absurd hsilent (by decide)
      · refine (Item.spans_of_allTake rest hrest h).weaken (fun ht => ?_) fun hs => ?_
        · simpa [Item.someTaking, Item.isTaking_of_isSilent hsilent] using ht
        · simpa [Item.beginSolid, hsilent] using hs
    · rw [if_neg hsilent] at h
      obtain ⟨m, n, ns', hi, hrest, rfl⟩ := h
      obtain ⟨rfl, hsound⟩ | ⟨rfl, hd, hsound⟩ | ⟨hisound, hsound⟩ := Item.allSound_cons hsound
      · have hrest := Item.spans_of_allTake rest hsound hrest
        have hlevel := rd.level_of_takesToken_indent hi
        obtain ⟨t, -, -, rfl, -⟩ := hi
        refine ⟨(Nat.le_succ a).trans hrest.le, fun _ => hrest.le, fun hs => ?_, ?_⟩
        · simp [Item.beginSolid, Item.isSilent, Item.isSolid] at hs
        · rw [hrest.level, hlevel]
          omega
      · have hrest := Item.spans_of_allTake rest hsound hrest
        have hlevel := rd.level_of_takesToken_dedent hi
        obtain ⟨t, -, -, rfl, -⟩ := hi
        refine ⟨(Nat.le_succ a).trans hrest.le, fun _ => hrest.le, fun hs => ?_, ?_⟩
        · simp [Item.beginSolid, Item.isSilent, Item.isSolid] at hs
        · rw [hrest.level, hlevel]
          omega
      · have hi := Item.spans_of_takes i hisound hi
        refine (hi.trans (Item.spans_of_allTake rest hsound hrest)).weaken id fun hs => ?_
        simpa [Item.beginSolid, hsilent] using hs

theorem Alt.spans_of_anyTakes {start a b : Nat} {before : List Node} {n : Node} :
    (alts : List Alt) → Alt.allSound alts = true →
    Alt.AnyTakes rd P start before alts a b n →
    Item.Spans rd (Alt.allTaking alts) (Alt.allSolid alts) 0 a b
  | [], _, h => h.elim
  | .mk items action :: rest, hsound, h => by
    simp only [Alt.allSound, Bool.and_eq_true] at hsound
    rcases h with ⟨nodes, htake, -⟩ | h
    · have hspans := Item.spans_of_allTake items hsound.1.1 htake
      refine hspans.weaken (fun _ => hsound.1.2) fun hs => ?_
      rw [Alt.allSolid, Bool.and_eq_true] at hs
      exact hs.1
    · refine (Alt.spans_of_anyTakes rest hsound.2 h).weaken (fun ht => ?_) fun hs => ?_
      · rw [Alt.allTaking, Bool.and_eq_true] at ht
        exact ht.2
      · rw [Alt.allSolid, Bool.and_eq_true] at hs
        exact hs.2

end

/-- What a sound rule takes is a stretch if what the rules within it take is one. -/
theorem Rule.stretch_of_takes {r : Rule} {a b : Nat} {n : Node} (hr : r.isOrdinary = true)
    (h : r.body.Takes rd P a b n) : rd.Stretch r a b := by
  obtain ⟨hsound, hsolid, -⟩ := Rule.sound_of_isOrdinary hr
  rcases hbody : r.body with alts | ⟨starts, steps⟩ <;> rw [hbody] at h hsound hsolid
  · have hspans := Alt.spans_of_anyTakes hP alts hsound h
    have hlt := hspans.lt (Alt.allTaking_of_allSound hsound)
    exact ⟨hlt, fun hne => hspans.solid (hsolid hne) hlt, by simpa using hspans.level⟩
  · rw [RuleBody.alts, Alt.allSound_append, Bool.and_eq_true] at hsound
    have htaking := Alt.allTaking_of_allSound hsound.1
    rw [RuleBody.alts, Alt.allSolid_append, Bool.and_eq_true] at hsolid
    suffices hspans : Item.Spans rd true (Alt.allSolid starts) 0 a b from
      ⟨hspans.lt rfl, fun hne => hspans.solid (hsolid hne).1 (hspans.lt rfl),
        by simpa using hspans.level⟩
    change Grown rd P starts steps a b n at h
    induction h with
    | start h =>
      exact (Alt.spans_of_anyTakes hP starts hsound.1 h).weaken (fun _ => htaking) id
    | step _ h ih =>
      exact (ih.trans (Alt.spans_of_anyTakes hP steps hsound.2 h)).weaken (fun _ => rfl)
        fun hs => by simp [hs]

end Stretch

end Graft.Syntax
