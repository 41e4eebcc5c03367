import Mathlib.Data.List.Nodup
import Graft.Proofs.Outline

set_option autoImplicit false

/-! # Where names are kept

Where the names of a block are kept depends on its outline and on which of the names that it takes
from around are bound there.  So two blocks with the same outline keep their names alike exactly if
the same of these names are bound around them. -/

namespace Graft.Scope

open Graft.Syntax

/-! ## Placing the names of a block -/

/-- Where a name of a block is kept, given the names that are bound around. -/
def Symbol.placeIn (s : Symbol) (around : List String) : Place :=
  if s.isGlobal then .declaredGlobal
  else if s.isNonlocal then .captured
  else if s.isBound || s.isImported || s.isParam then .own
  else if around.contains s.name then .captured
  else .assumedGlobal

theorem Symbol.placeIn_eq_own {s : Symbol} {around : List String} :
    s.placeIn around = .own ↔ s.isOwn = true := by
  unfold placeIn isOwn
  cases s.isGlobal <;> cases s.isNonlocal <;> cases s.isBound || s.isImported || s.isParam <;> simp
  split <;> simp

theorem Symbol.placeIn_eq_captured {s : Symbol} {around : List String}
    (h : s.isGlobal = false → s.isNonlocal = true → s.name ∈ around) :
    s.placeIn around = .captured ↔ s.isOpen = true ∧ s.name ∈ around := by
  unfold placeIn isOpen
  cases hglobal : s.isGlobal <;> cases hnonlocal : s.isNonlocal <;>
    cases s.isBound || s.isImported || s.isParam <;> simp_all

/-- The ways in which a symbol is placed. -/
theorem Placing.place_cases {p q : Placing} {declarations : List (String × Span)} {s : Symbol}
    (h : p.place declarations s = .ok q) :
    q.places = p.places ++ [(s.name, s.placeIn p.around.names)] ∧
      (s.isGlobal = true ∧ q.bound = p.bound ∧ q.free = p.free ∧
          q.around.names = p.around.names.filter (· != s.name) ∨
        s.isOwn = true ∧ q.bound = s.name :: p.bound ∧ q.free = p.free ∧
          q.around.names = p.around.names ∨
        s.isOpen = true ∧ s.name ∈ p.around.names ∧ q.bound = p.bound ∧
          q.free = s.name :: p.free ∧ q.around.names = p.around.names ∨
        s.isOpen = true ∧ s.name ∉ p.around.names ∧ s.isNonlocal = false ∧ q.bound = p.bound ∧
          q.free = p.free ∧ q.around.names = p.around.names) := by
  unfold Placing.place at h
  -- The cases follow the order in which the declarations of a symbol are looked at.
  cases hglobal : s.isGlobal with
  | true =>
    simp only [hglobal, if_true] at h
    split at h <;> cases h
    refine ⟨by simp [Symbol.placeIn, hglobal], .inl ⟨rfl, rfl, rfl, ?_⟩⟩
    unfold Around.names
    cases p.around.bound <;> rfl
  | false =>
    simp only [hglobal, Bool.false_eq_true, if_false] at h
    cases hnonlocal : s.isNonlocal with
    | true =>
      simp only [hnonlocal, if_true] at h
      cases hbound : p.around.bound with
      | none => simp [hbound] at h
      | some names =>
        have hnames : p.around.names = names := by rw [Around.names, hbound, Option.getD_some]
        simp only [hbound, Option.isNone_some, Bool.false_eq_true, if_false] at h
        split at h <;> cases h
        rename_i hmem
        refine ⟨by simp [Symbol.placeIn, hglobal, hnonlocal], .inr (.inr (.inl ?_))⟩
        refine ⟨by simp [Symbol.isOpen, hglobal, hnonlocal], ?_, rfl, rfl, rfl⟩
        rw [hnames]
        exact List.contains_iff_mem.1 hmem
    | false =>
      simp only [hnonlocal, Bool.false_eq_true, if_false] at h
      split at h
      · rename_i hown
        cases h
        refine ⟨by simp [Symbol.placeIn, hglobal, hnonlocal, hown], .inr (.inl ?_)⟩
        exact ⟨by simp [Symbol.isOwn, hglobal, hnonlocal, hown], rfl, rfl, rfl⟩
      · rename_i hown
        have hopen : s.isOpen = true := by simp [Symbol.isOpen, hglobal, hown]
        have hplace : s.placeIn p.around.names =
            if p.around.names.contains s.name then .captured else .assumedGlobal := by
          simp [Symbol.placeIn, hglobal, hnonlocal, hown]
        rw [hplace]
        cases hbound : p.around.bound with
        | none =>
          have hnames : p.around.names = [] := by rw [Around.names, hbound, Option.getD_none]
          simp only [hbound, Bool.false_eq_true, if_false] at h
          cases h
          exact ⟨by simp [hnames], .inr (.inr (.inr ⟨hopen, by simp [hnames], rfl, rfl, rfl, rfl⟩))⟩
        | some names =>
          have hnames : p.around.names = names := by rw [Around.names, hbound, Option.getD_some]
          simp only [hbound, ← hnames] at h
          split at h
          · rename_i hmem
            cases h
            rw [if_pos hmem]
            exact ⟨rfl, .inr (.inr (.inl ⟨hopen, List.contains_iff_mem.1 hmem, rfl, rfl, rfl⟩))⟩
          · rename_i hmem
            cases h
            rw [if_neg hmem]
            refine ⟨rfl, .inr (.inr (.inr ⟨hopen, ?_, rfl, rfl, rfl, rfl⟩))⟩
            exact fun h => hmem (List.contains_iff_mem.2 h)

theorem Symbol.placeIn_congr {s : Symbol} {around around' : List String}
    (h : s.name ∈ around ↔ s.name ∈ around') : s.placeIn around = s.placeIn around' := by
  have hcontains : around.contains s.name = around'.contains s.name := by
    rw [Bool.eq_iff_iff, List.contains_iff_mem, List.contains_iff_mem, h]
  rw [placeIn, placeIn, hcontains]

/-- What it is to have placed symbols one after the other. -/
structure Placed (p : Placing) (ss : List Symbol) (q : Placing) : Prop where
  places : q.places = p.places ++ ss.map fun s => (s.name, s.placeIn p.around.names)
  bound : ∀ n, n ∈ q.bound ↔ n ∈ p.bound ∨ ∃ s ∈ ss, s.name = n ∧ s.isOwn = true
  free : ∀ n, n ∈ q.free ↔
    n ∈ p.free ∨ ∃ s ∈ ss, s.name = n ∧ s.isOpen = true ∧ n ∈ p.around.names
  around : ∀ n, n ∈ q.around.names ↔
    n ∈ p.around.names ∧ ¬∃ s ∈ ss, s.name = n ∧ s.isGlobal = true
  /-- A name can be declared to be one of a block around only if it is one. -/
  declared : ∀ s ∈ ss, s.isGlobal = false → s.isNonlocal = true → s.name ∈ p.around.names

theorem Symbol.isOwn_eq_false {s : Symbol} (h : s.isOpen = true) : s.isOwn = false := by
  unfold isOpen at h
  unfold isOwn
  revert h
  cases s.isGlobal <;> cases s.isNonlocal <;> simp

theorem Symbol.isOpen_of {s : Symbol} (h : ¬(s.isGlobal = true ∨ s.isOwn = true)) :
    s.isOpen = true := by
  unfold isOwn at h
  unfold isOpen
  revert h
  cases s.isGlobal <;> cases s.isNonlocal <;> simp

theorem Symbol.isGlobal_eq_false {s : Symbol} (h : s.isOpen = true ∨ s.isOwn = true) :
    s.isGlobal = false := by
  unfold isOpen isOwn at h
  revert h
  cases s.isGlobal <;> simp

theorem Symbol.not_own_of_global {s : Symbol} (h : s.isGlobal = true) :
    s.isOwn = false ∧ s.isOpen = false := by
  simp [isOwn, isOpen, h]

theorem Placing.placeAll_ok {p q : Placing} {declarations : List (String × Span)}
    {ss : List Symbol} (hss : Tidy ss) (h : p.placeAll declarations ss = .ok q) :
    Placed p ss q := by
  induction ss generalizing p with
  | nil =>
    rw [placeAll] at h
    cases h
    exact ⟨by simp, by simp, by simp, by simp, by simp⟩
  | cons s ss ih =>
    rw [placeAll, bind_eq_ok] at h
    obtain ⟨p', hs, h⟩ := h
    obtain ⟨hfresh, htidy⟩ := List.nodup_cons.1 hss
    have hrest := ih htidy h
    obtain ⟨hplaces, hcases⟩ := place_cases hs
    -- The names of the other symbols are bound around as before.
    have hsame : ∀ t ∈ ss, t.name ∈ p'.around.names ↔ t.name ∈ p.around.names := by
      intro t ht
      have hne : t.name ≠ s.name := fun he => hfresh (he ▸ List.mem_map_of_mem ht)
      rcases hcases with ⟨-, -, -, h⟩ | ⟨-, -, -, h⟩ | ⟨-, -, -, -, h⟩ | ⟨-, -, -, -, -, h⟩
      · simp [h, hne]
      · rw [h]
      · rw [h]
      · rw [h]
    refine ⟨?_, ?_, ?_, ?_, ?_⟩
    · rw [hrest.places, hplaces, List.append_assoc, List.map_cons, List.singleton_append]
      congr 2
      exact List.map_congr_left fun t ht => by rw [t.placeIn_congr (hsame t ht)]
    · intro n
      rw [hrest.bound]
      simp only [List.mem_cons, exists_eq_or_imp]
      rcases hcases with ⟨h, hb, -⟩ | ⟨h, hb, -⟩ | ⟨h, -, hb, -⟩ | ⟨h, -, -, hb, -⟩
      · simp [hb, Symbol.not_own_of_global h]
      · rw [hb, List.mem_cons]
        grind
      · simp [hb, Symbol.isOwn_eq_false h]
      · simp [hb, Symbol.isOwn_eq_false h]
    · intro n
      rw [hrest.free]
      -- Of the symbols that follow it does not matter before which of the two they are placed.
      have hothers : (∃ t ∈ ss, t.name = n ∧ t.isOpen = true ∧ n ∈ p'.around.names) ↔
          ∃ t ∈ ss, t.name = n ∧ t.isOpen = true ∧ n ∈ p.around.names := by
        constructor
        · rintro ⟨t, ht, rfl, hopen, hmem⟩
          exact ⟨t, ht, rfl, hopen, (hsame t ht).1 hmem⟩
        · rintro ⟨t, ht, rfl, hopen, hmem⟩
          exact ⟨t, ht, rfl, hopen, (hsame t ht).2 hmem⟩
      rw [hothers]
      simp only [List.mem_cons, exists_eq_or_imp]
      rcases hcases with ⟨h, -, hf, -⟩ | ⟨h, -, hf, -⟩ | ⟨h, hmem, -, hf, -⟩ | ⟨h, hmem, -, -, hf, -⟩
      · simp [hf, Symbol.not_own_of_global h]
      · rw [hf]
        have hclosed : s.isOpen ≠ true := fun ho => by
          rw [Symbol.isOwn_eq_false ho] at h
          cases h
        simp [hclosed]
      · rw [hf, List.mem_cons]
        grind
      · rw [hf]
        grind
    · intro n
      rw [hrest.around]
      simp only [List.mem_cons, exists_eq_or_imp]
      rcases hcases with ⟨h, -, -, ha⟩ | ⟨h, -, -, ha⟩ | ⟨h, -, -, -, ha⟩ | ⟨h, -, -, -, -, ha⟩
      · rw [ha, List.mem_filter]
        grind
      · simp [ha, Symbol.isGlobal_eq_false (.inr h)]
      · simp [ha, Symbol.isGlobal_eq_false (.inl h)]
      · simp [ha, Symbol.isGlobal_eq_false (.inl h)]
    · intro t ht hglobal hnonlocal
      rcases List.mem_cons.1 ht with rfl | ht
      · rcases hcases with ⟨h, -⟩ | ⟨h, -⟩ | ⟨-, h, -⟩ | ⟨-, -, h, -⟩
        · simp [hglobal] at h
        · simp [Symbol.isOwn, hnonlocal] at h
        · exact h
        · simp [hnonlocal] at h
      · exact (hsame t ht).1 (hrest.declared t ht hglobal hnonlocal)

/-! ## Names that blocks inside take -/

theorem mem_leavesOpen {kind : BlockKind} {symbols : List Symbol} {n : String} :
    leavesOpen kind symbols n = true ↔ match kind with
      | .cls => n ≠ classCell
      | .module => ¬∃ s ∈ symbols, s.name = n ∧ s.isGlobal = true
      | _ => ¬∃ s ∈ symbols, s.name = n ∧ (s.isGlobal = true ∨ s.isOwn = true) := by
  cases kind <;> simp [leavesOpen]

theorem mem_aroundChildren {kind : BlockKind} {around : Around} {p : Placing} {n : String} :
    n ∈ (aroundChildren kind around p).names ↔ match kind with
      | .cls => n = classCell ∨ n ∈ around.names
      | .module => n ∈ p.around.names
      | _ => n ∈ p.bound ∨ n ∈ p.around.names := by
  cases kind <;> simp [aroundChildren, Around.names]

theorem mem_finish {head : BlockHead} {symbols : List Symbol} {around : Around} {p : Placing}
    {wanted : List String} {yields awaits : Bool} {children : List Scope} {n : String} :
    n ∈ (finish head symbols around p wanted yields awaits children).2 ↔
      n ∈ p.free ∨ n ∈ wanted ∧ match head.kind with
        | .cls => n ≠ classCell
        | .module => True
        | _ => (n, Place.own) ∉ p.places := by
  unfold finish
  cases head.kind <;> simp

/-- The names that a block takes, once its own names have been placed. -/
theorem Placed.mem_taken {head : BlockHead} {symbols : List Symbol} {around : Around} {q : Placing}
    (h : Placed { around } symbols q) {inner wanted : List String}
    (hwanted : ∀ n, n ∈ wanted ↔ n ∈ inner ∧ n ∈ (aroundChildren head.kind around q).names)
    {yields awaits : Bool} {children : List Scope} (n : String) :
    n ∈ (finish head symbols around q wanted yields awaits children).2 ↔
      n ∈ taken head.kind symbols inner ∧ n ∈ around.names := by
  have hown : (n, Place.own) ∈ q.places ↔ ∃ s ∈ symbols, s.name = n ∧ s.isOwn = true := by
    rw [h.places]
    simp [Symbol.placeIn_eq_own]
  have hbound := h.bound n
  have hfree := h.free n
  have haround := h.around n
  simp only [List.not_mem_nil, false_or] at hbound hfree
  rw [mem_finish, hfree, hwanted, mem_aroundChildren]
  unfold taken
  simp only [List.mem_append, List.mem_map, List.mem_filter, mem_leavesOpen]
  -- A class hands on to its children what is around it; a function adds the names that it binds.
  cases head.kind with
  | cls =>
    simp only
    grind
  | module =>
    simp only [haround]
    grind
  | function =>
    simp only [haround, hown, hbound]
    grind
  | comprehension kind =>
    simp only [haround, hown, hbound]
    grind

mutual

/-- **What a block takes.**  A block takes a name from around if it is one of those that its outline
    says and is bound there. -/
theorem ofBlock_free : ∀ {around : Around} {s : Scope} {free : List String} (b : Block), b.IsTidy →
    ofBlock around b = .ok (s, free) → ∀ n, n ∈ free ↔ n ∈ b.taken ∧ n ∈ around.names
  | around, s, free, .mk head symbols declarations yields awaits blocks, htidy, h, n => by
    rw [ofBlock] at h
    simp only [bind_eq_ok] at h
    obtain ⟨q, hplaced, ⟨children, wanted⟩, hblocks, h⟩ := h
    have hwanted := ofBlocks_free blocks htidy.2 hblocks
    have hfree : (finish head symbols around q wanted.eraseDups yields awaits children).2 = free :=
      congrArg Prod.snd (Except.ok.inj h)
    rw [Block.taken, ← hfree]
    exact (Placing.placeAll_ok htidy.1 hplaced).mem_taken
      (fun m => by rw [List.mem_eraseDups, hwanted m]) n

theorem ofBlocks_free : ∀ {around : Around} {ss : List Scope} {free : List String}
    (bs : List Block), AllTidy bs → ofBlocks around bs = .ok (ss, free) →
    ∀ n, n ∈ free ↔ n ∈ takenByAll bs ∧ n ∈ around.names
  | around, ss, free, [], _, h, n => by
    rw [ofBlocks] at h
    cases h
    simp [takenByAll]
  | around, ss, free, b :: bs, htidy, h, n => by
    rw [ofBlocks] at h
    simp only [bind_eq_ok] at h
    obtain ⟨⟨s, free₁⟩, hb, ⟨ss', free₂⟩, hbs, h⟩ := h
    have hone := ofBlock_free b htidy.1 hb n
    have hall := ofBlocks_free bs htidy.2 hbs n
    cases h
    rw [List.mem_append, hone, hall, takenByAll, List.mem_append, or_and_right]

end

/-! ## Functions -/

theorem mem_insertName {n m : String} {ns : List String} :
    n ∈ insertName m ns ↔ n = m ∨ n ∈ ns := by
  induction ns with
  | nil => simp [insertName]
  | cons k ns ih =>
    rw [insertName]
    split
    · rw [List.mem_cons]
    · split
      · rename_i heq
        rw [beq_iff_eq] at heq
        simp [heq]
      · rw [List.mem_cons, ih, List.mem_cons, or_left_comm]

theorem mem_frees {s : Scope} {n : String} :
    n ∈ s.frees ↔ (n, Place.captured) ∈ s.places ∨ n ∈ s.passed := by
  have hfold : ∀ ns : List String, n ∈ ns.foldr insertName [] ↔ n ∈ ns := by
    intro ns
    induction ns with
    | nil => simp
    | cons k ns ih => rw [List.foldr_cons, mem_insertName, ih, List.mem_cons]
  rw [frees, hfold, List.mem_append]
  simp

/-- Whether a name is among symbols. -/
def IsNamed (symbols : List Symbol) (n : String) : Prop := ∃ t ∈ symbols, t.name = n

/-- A name that is not among symbols is not among those of a kind either. -/
theorem not_exists_of_not_isNamed {symbols : List Symbol} {n : String} {p : Symbol → Prop}
    (hn : ¬IsNamed symbols n) : ¬∃ t ∈ symbols, t.name = n ∧ p t := by
  rintro ⟨t, ht, hname, -⟩
  exact hn ⟨t, ht, hname⟩

/-- Where a function keeps a name, given the names that are bound around. -/
def Outline.Keeps (o : Outline) (around : List String) (n : String) (place : Place) : Prop :=
  (∃ t ∈ o.symbols, t.name = n ∧
    place = if t.isOwn = true ∧ n ∈ o.inner then .shared else t.placeIn around) ∨
  ¬IsNamed o.symbols n ∧ n ∈ o.inner ∧ n ∈ around ∧ place = .captured

theorem Placed.mem_places {head : BlockHead} {symbols : List Symbol} {around : Around} {q : Placing}
    (h : Placed { around } symbols q) (hkind : head.kind = .function)
    (hbound : around.bound.isSome = true) {inner wanted : List String}
    (hwanted : ∀ n, n ∈ wanted ↔ n ∈ inner ∧ n ∈ (aroundChildren head.kind around q).names)
    {yields awaits : Bool} {children : List Scope} (n : String) (place : Place) :
    (n, place) ∈ (finish head symbols around q wanted yields awaits children).1.places ↔
      Outline.Keeps { kind := .function, symbols, inner } around.names n place := by
  obtain ⟨names, hnames⟩ := Option.isSome_iff_exists.1 hbound
  have haround : around.names = names := by rw [Around.names, hnames, Option.getD_some]
  have hcls : (BlockKind.function == BlockKind.cls) = false := rfl
  -- A name of the block's own is wanted inside whenever a block inside takes it.
  have hown : ∀ t ∈ symbols, t.isOwn = true → (t.name ∈ wanted ↔ t.name ∈ inner) := by
    intro t ht howns
    have hmem : t.name ∈ q.bound := (h.bound _).2 (.inr ⟨t, ht, rfl, howns⟩)
    rw [hwanted, mem_aroundChildren, hkind]
    exact and_iff_left (.inl hmem)
  -- A name that is not the block's is wanted if it is bound around.
  have hother : ¬IsNamed symbols n → (n ∈ wanted ↔ n ∈ inner ∧ n ∈ around.names) := by
    intro hn
    have hnotBound : n ∉ q.bound := fun hb => by
      obtain ⟨t, ht, hname, -⟩ := ((h.bound n).1 hb).resolve_left (by simp)
      exact hn ⟨t, ht, hname⟩
    have hnotGlobal : ¬∃ t ∈ symbols, t.name = n ∧ t.isGlobal = true :=
      not_exists_of_not_isNamed hn
    rw [hwanted, mem_aroundChildren, hkind]
    simp only [hnotBound, false_or, h.around, and_iff_left hnotGlobal]
  unfold finish Outline.Keeps
  simp only [hkind, hnames, Scope.places, h.places, hcls, if_true, Bool.false_eq_true, if_false,
    List.nil_append, List.mem_append, List.map_map, List.mem_map, List.mem_filter, Function.comp,
    Prod.mk.injEq, Bool.and_eq_true, beq_iff_eq, Symbol.placeIn_eq_own, List.contains_iff_mem,
    haround]
  refine or_congr ?_ ?_
  · refine exists_congr fun t => and_congr_right fun ht => and_congr_right fun hname => ?_
    subst hname
    by_cases howns : t.isOwn = true
    · simp only [howns, true_and, hown t ht howns, eq_comm]
    · simp [howns, eq_comm]
  · constructor
    · rintro ⟨m, ⟨⟨⟨hw, -⟩, hn⟩, hmem⟩, rfl, rfl⟩
      have hn : ¬IsNamed symbols m := by simpa [IsNamed] using hn
      exact ⟨hn, ((hother hn).1 hw).1, hmem, rfl⟩
    · rintro ⟨hn, hinner, hmem, rfl⟩
      refine ⟨n, ⟨⟨⟨(hother hn).2 ⟨hinner, haround ▸ hmem⟩, ?_⟩, by simpa [IsNamed] using hn⟩, hmem⟩,
        rfl, rfl⟩
      have hno : (n, Place.own) ∉ symbols.map fun s => (s.name, s.placeIn names) := fun h => by
        obtain ⟨t, ht, heq⟩ := List.mem_map.1 h
        exact hn ⟨t, ht, congrArg Prod.fst heq⟩
      simpa using hno

/-- The scope of a function block that is gathered from mentions, where names are bound around. -/
structure IsFunctionScope (d : Draft) (around : List String) (s : Scope) : Prop where
  tidy : d.block.IsTidy
  kind : d.head.kind = .function
  scope : ∃ a free, a.bound = some around ∧ ofBlock a d.block = .ok (s, free)

variable {d : Draft} {around : List String} {s : Scope}

theorem IsFunctionScope.finished (h : IsFunctionScope d around s) :
    ∃ (a : Around) (q : Placing) (wanted : List String) (children : List Scope),
      a.bound = some around ∧ a.names = around ∧ Placed { around := a } d.symbols q ∧
      (∀ n, n ∈ wanted ↔ n ∈ d.outline.inner ∧ n ∈ (aroundChildren d.head.kind a q).names) ∧
      s = (finish d.head d.symbols a q wanted d.yields d.awaits children).1 := by
  obtain ⟨a, free, hbound, hblock⟩ := h.scope
  rw [Draft.block, ofBlock] at hblock
  simp only [bind_eq_ok] at hblock
  obtain ⟨q, hplaced, ⟨children, wanted⟩, hblocks, hs⟩ := hblock
  have hwanted := ofBlocks_free _ h.tidy.2 hblocks
  refine ⟨a, q, wanted.eraseDups, children, hbound, ?_, Placing.placeAll_ok h.tidy.1 hplaced,
    fun n => by rw [List.mem_eraseDups]; exact hwanted n, (congrArg Prod.fst (Except.ok.inj hs)).symm⟩
  rw [Around.names, hbound, Option.getD_some]

/-- **Where a function keeps its names.**  It depends on the outline of the function and on the
    names that are bound around. -/
theorem IsFunctionScope.mem_places (h : IsFunctionScope d around s) (n : String) (place : Place) :
    (n, place) ∈ s.places ↔ d.outline.Keeps around n place := by
  obtain ⟨a, q, wanted, children, hbound, hnames, hplaced, hwanted, rfl⟩ := h.finished
  have hkind : d.outline.kind = .function := h.kind
  rw [hplaced.mem_places h.kind (by rw [hbound]; rfl) hwanted, hnames]
  rfl

/-- A function takes a name from around if it is one of those that its outline says and is bound
    there. -/
theorem IsFunctionScope.mem_frees (h : IsFunctionScope d around s) (n : String) :
    n ∈ s.frees ↔ n ∈ d.outline.taken ∧ n ∈ around := by
  have hplaces := h.mem_places n .captured
  obtain ⟨a, q, wanted, children, hbound, hnames, hplaced, hwanted, rfl⟩ := h.finished
  have hpassed : (finish d.head d.symbols a q wanted d.yields d.awaits children).1.passed = [] := by
    simp [finish, Scope.passed, h.kind]
  have hkind : d.outline.kind = .function := h.kind
  -- A name of the function's own is never captured; any other is if a scope around it binds it.
  have hcaptured : ∀ t ∈ d.symbols, (Place.captured =
      if t.isOwn = true ∧ t.name ∈ d.outline.inner then .shared else t.placeIn around) ↔
      t.isOpen = true ∧ t.name ∈ around := by
    intro t ht
    have hdeclared := hplaced.declared t ht
    rw [hnames] at hdeclared
    by_cases howns : t.isOwn = true
    · have hclosed : t.isOpen ≠ true := fun ho => by
        rw [Symbol.isOwn_eq_false ho] at howns
        cases howns
      rw [Symbol.placeIn_eq_own.2 howns]
      refine iff_of_false ?_ fun h => hclosed h.1
      split <;> simp
    · rw [if_neg fun h => howns h.1, eq_comm, Symbol.placeIn_eq_captured hdeclared]
  rw [Scope.mem_frees, hplaces, hpassed]
  unfold Outline.taken taken Outline.Keeps
  simp only [List.not_mem_nil, or_false, List.mem_append, List.mem_map, List.mem_filter,
    mem_leavesOpen, hkind]
  constructor
  · rintro (⟨t, ht, rfl, hplace⟩ | ⟨hn, hinner, hmem, -⟩)
    · obtain ⟨hopen, hmem⟩ := (hcaptured t ht).1 hplace
      exact ⟨.inl ⟨t, ⟨ht, hopen⟩, rfl⟩, hmem⟩
    · exact ⟨.inr ⟨hinner, not_exists_of_not_isNamed hn⟩, hmem⟩
  · rintro ⟨⟨t, ⟨ht, hopen⟩, rfl⟩ | ⟨hinner, hclosed⟩, hmem⟩
    · exact .inl ⟨t, ht, rfl, (hcaptured t ht).2 ⟨hopen, hmem⟩⟩
    · by_cases hn : IsNamed d.outline.symbols n
      · obtain ⟨t, ht, rfl⟩ := hn
        have hopen : t.isOpen = true := t.isOpen_of fun h => hclosed ⟨t, ht, rfl, h⟩
        exact .inl ⟨t, ht, rfl, (hcaptured t ht).2 ⟨hopen, hmem⟩⟩
      · exact .inr ⟨hn, hinner, hmem, trivial⟩

/-! ### Keeping names alike -/

namespace Outline

variable {o : Outline} {around around' : List String} {n : String} {place place' : Place}

theorem Keeps.unique (ho : Tidy o.symbols) (h : o.Keeps around n place)
    (h' : o.Keeps around n place') : place = place' := by
  rcases h with ⟨t, ht, hname, rfl⟩ | ⟨hn, -, -, rfl⟩
  · rcases h' with ⟨u, hu, hname', rfl⟩ | ⟨hn, -, -, rfl⟩
    · rw [List.inj_on_of_nodup_map ho ht hu (hname.trans hname'.symm)]
    · exact absurd ⟨t, ht, hname⟩ hn
  · rcases h' with ⟨u, hu, hname', rfl⟩ | ⟨-, -, -, rfl⟩
    · exact absurd ⟨u, hu, hname'⟩ hn
    · rfl

/-- Where a name is kept depends only on which of the names that are taken are bound around. -/
theorem Keeps.congr (hkind : o.kind = .function)
    (hsame : ∀ n ∈ o.taken, n ∈ around ↔ n ∈ around') (h : o.Keeps around n place) :
    o.Keeps around' n place := by
  unfold Outline.taken Scope.taken at hsame
  simp only [List.mem_append, List.mem_map, List.mem_filter, mem_leavesOpen, hkind] at hsame
  rcases h with ⟨t, ht, rfl, rfl⟩ | ⟨hn, hinner, hmem, rfl⟩
  · refine .inl ⟨t, ht, rfl, ?_⟩
    have hplace : t.placeIn around = t.placeIn around' := by
      by_cases hopen : t.isOpen = true
      · exact Symbol.placeIn_congr (hsame _ (.inl ⟨t, ⟨ht, hopen⟩, rfl⟩))
      · have hclosed : t.isGlobal = true ∨ t.isOwn = true := by
          by_contra hno
          exact hopen (t.isOpen_of hno)
        rcases hclosed with hglobal | hown
        · simp [Symbol.placeIn, hglobal]
        · rw [Symbol.placeIn_eq_own.2 hown, Symbol.placeIn_eq_own.2 hown]
    rw [hplace]
  · have hopen := hsame n (.inr ⟨hinner, not_exists_of_not_isNamed hn⟩)
    exact .inr ⟨hn, hinner, hopen.1 hmem, rfl⟩

end Outline

theorem IsFunctionScope.place?_eq_some (h : IsFunctionScope d around s) {n : String}
    {place : Place} : s.place? n = some place ↔ d.outline.Keeps around n place := by
  rw [← h.mem_places, Scope.place?, Option.map_eq_some_iff]
  constructor
  · rintro ⟨⟨m, p⟩, hfound, rfl⟩
    have hm : m = n := by simpa using List.find?_some hfound
    exact hm ▸ List.mem_of_find?_eq_some hfound
  · intro hmem
    cases hfound : s.places.find? (·.1 == n) with
    | none => simpa using List.find?_eq_none.1 hfound _ hmem
    | some entry =>
      obtain ⟨m, p⟩ := entry
      have hm : m = n := by simpa using List.find?_some hfound
      subst hm
      have hkept := (h.mem_places _ _).1 (List.mem_of_find?_eq_some hfound)
      exact ⟨_, rfl, hkept.unique h.tidy.1 ((h.mem_places _ _).1 hmem)⟩

/-- **Names are kept alike.**  Two functions with the same outline keep every name in the same place
    if the same of the names that they take are bound around them. -/
theorem IsFunctionScope.place?_congr {d' : Draft} {around' : List String} {s' : Scope}
    (h : IsFunctionScope d around s) (h' : IsFunctionScope d' around' s')
    (houtline : d'.outline = d.outline) (hsame : ∀ n ∈ d.outline.taken, n ∈ around ↔ n ∈ around')
    (n : String) : s.place? n = s'.place? n := by
  have hkind : d.outline.kind = .function := h.kind
  ext place
  rw [h.place?_eq_some, h'.place?_eq_some, houtline]
  exact ⟨.congr hkind hsame, .congr hkind fun n hn => (hsame n hn).symm⟩

end Graft.Scope
