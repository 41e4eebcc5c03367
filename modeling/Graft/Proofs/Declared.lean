import Graft.Proofs.Surroundings

set_option autoImplicit false

/-! # Names that are declared global

Whether a name of a function or a class is one of the module because it is declared so is said in
its own block, and neither what is around nor what is inside matters for that.  So it can be read off
what is mentioned, block by block, as long as the scope of each block is found by where it stands. -/

namespace Graft.Scope

open Graft.Syntax Graft.Code

/-! ## What mentions declare -/

/-- The name that a mention declares global, if it does. -/
def Mention.declared? : Mention → Option String
  | .declaredGlobal _ n => some n
  | _ => none

/-- The names that mentions declare global. -/
def declaredBy (ms : List Mention) : List String := ms.filterMap Mention.declared?

@[simp] theorem declaredBy_append (ms ms' : List Mention) :
    declaredBy (ms ++ ms') = declaredBy ms ++ declaredBy ms' := List.filterMap_append

theorem declaredBy_plain {ms : List Mention} (h : AllPlain ms) : declaredBy ms = [] := by
  refine List.filterMap_eq_nil_iff.2 fun m hm => ?_
  have hplain := h m hm
  cases m with
  | declaredGlobal sp n => cases hplain
  | _ => rfl

/-- A block in which definitions stand with their names. -/
def BlockKind.isNaming : BlockKind → Bool
  | .function | .cls => true
  | _ => false

namespace Outline

variable {o : Outline} {outer : List Enclosing}

/-- A change that leaves declarations alone. -/
theorem change_isGlobal {f : Symbol → Symbol}
    (hf : ∀ s, (f s).name = s.name ∧ (f s).isGlobal = s.isGlobal) (m n : String) :
    ((o.change m f).symbol n).isGlobal = (o.symbol n).isGlobal := by
  rw [symbol_change fun s => (hf s).1]
  split
  · rename_i heq
    rw [heq, (hf _).2]
  · rfl

/-- What comprehensions inside bind is not declared by that. -/
theorem adopt_isGlobal (hkind : o.kind.isNaming = true) (names : List String) (n : String) :
    ((o.adopt names).symbol n).isGlobal = (o.symbol n).isGlobal := by
  have hfold : ((names.foldl (fun o m => o.change m fun s => { s with isBound := true }) o).symbol
      n).isGlobal = (o.symbol n).isGlobal := by
    clear hkind
    induction names generalizing o with
    | nil => rfl
    | cons m names ih =>
      rw [List.foldl_cons, ih, change_isGlobal]
      exact fun _ => ⟨rfl, rfl⟩
  obtain ⟨kind, symbols, inner, outward⟩ := o
  cases kind with
  | function | cls => exact hfold
  | _ => cases hkind

/-- A name that is bound by a named expression in a function is declared there only if it is anyway. -/
theorem isFunctionHome_function {e : Enclosing} (h : e.kind = .function) (n : String) :
    isFunctionHome n (e :: outer) = !(symbolOf e.symbols n).isGlobal := by
  rw [isFunctionHome, walrusHome]
  simp only [h]
  cases (symbolOf e.symbols n).isGlobal <;> rfl

end Outline

variable {outer : List Enclosing} {d e : Draft} {head : BlockHead} {ms : List Mention}

/-- A mention makes no name global but the one that it declares so. -/
theorem Draft.note_isGlobal {m : Mention} (hkind : d.head.kind.isNaming = true)
    (h : d.note outer m = .ok e) (n : String) : (e.outline.symbol n).isGlobal = true ↔
      (d.outline.symbol n).isGlobal = true ∨ m.declared? = some n := by
  rcases m.simple_or_block with hsimple | ⟨head, inner, rfl⟩
  · have houtline := (Draft.note_simple hsimple h).1
    cases m with
    | block head inner => exact absurd rfl (hsimple head inner)
    | walrus sp m =>
      have hfunction : d.head.kind = .function := by
        cases hk : d.head.kind with
        | function => rfl
        | cls =>
          rw [Draft.note, bind_eq_ok] at h
          obtain ⟨home, hhome, -⟩ := h
          rw [Draft.enclosing, walrusHome, hk] at hhome
          cases hhome
        | _ => rw [hk] at hkind; cases hkind
      -- In a function the named expression leaves to the module what is declared to be there.
      have hhome : Outline.isFunctionHome m (d.outline.enclosing :: outer) =
          !(d.outline.symbol m).isGlobal := Outline.isFunctionHome_function hfunction m
      rw [houtline, Outline.note, hhome, Outline.symbol_change]
      · cases hglobal : (d.outline.symbol m).isGlobal <;>
          split <;> simp_all [Mention.declared?, Outline.symbol]
      · intro s
        split <;> rfl
    | declaredGlobal sp m =>
      rw [houtline, Outline.note, Outline.symbol_change]
      · split <;> simp_all [Mention.declared?]
        grind
      · exact fun _ => rfl
    | walrusInIterable | starImport | yields | awaits =>
      rw [houtline, Outline.note]
      simp [Mention.declared?]
    | _ =>
      rw [houtline, Outline.note, Outline.change_isGlobal]
      · simp [Mention.declared?]
      · exact fun _ => ⟨rfl, rfl⟩
  · obtain ⟨child, -, rfl⟩ := Draft.note_block h
    rw [(Draft.adopt_eq _ _).1, Outline.adopt_isGlobal hkind]
    simp [Mention.declared?, Draft.outline_cons, Outline.symbol]

/-- The names of a block that are global by declaration are those that it declares so. -/
theorem Draft.noteAll_isGlobal (hkind : d.head.kind.isNaming = true) (h : d.noteAll outer ms = .ok e)
    (n : String) : (e.outline.symbol n).isGlobal = true ↔
      (d.outline.symbol n).isGlobal = true ∨ n ∈ declaredBy ms := by
  induction ms generalizing d with
  | nil =>
    rw [Draft.noteAll] at h
    cases h
    simp [declaredBy]
  | cons m ms ih =>
    obtain ⟨d', hm, hms⟩ := Draft.noteAll_cons.1 h
    rw [ih (by rwa [Draft.note_head hm]) hms, Draft.note_isGlobal hkind hm, or_assoc, declaredBy,
      declaredBy, List.mem_filterMap, List.mem_filterMap]
    simp

/-! ## Scopes of blocks -/

/-- A scope is that of a block of the given mentions. -/
def IsScopeOf (head : BlockHead) (ms : List Mention) (s : Scope) : Prop :=
  ∃ outer d around free, Draft.noteAll outer { head } ms = .ok d ∧
    ofBlock around d.block = .ok (s, free)

variable {s : Scope}

theorem IsScopeOf.head_eq (h : IsScopeOf head ms s) : s.head = head := by
  obtain ⟨outer, d, around, free, hd, hs⟩ := h
  rw [ofBlock_head hs]
  exact Draft.noteAll_head hd

theorem placeIn_declaredGlobal {t : Symbol} {around : List String} :
    t.placeIn around = .declaredGlobal ↔ t.isGlobal = true := by
  unfold Symbol.placeIn
  split_ifs <;> simp_all

/-- The places of a block are those of its symbols, as far as declarations go, and behind them those
    of names that are taken from around for blocks inside. -/
theorem Placed.places_eq {around : Around} {q : Placing} {symbols : List Symbol}
    (h : Placed { around } symbols q) (head : BlockHead) (wanted : List String) (yields awaits : Bool)
    (children : List Scope) : ∃ (place : Symbol → Place) (through : List String),
      (∀ t, place t = .declaredGlobal ↔ t.isGlobal = true) ∧
        (finish head symbols around q wanted yields awaits children).1.places =
          symbols.map (fun t => (t.name, place t)) ++ through.map fun n => (n, .captured) := by
  have hplaces : ∀ (isFunction : Bool) (through : List String), ∃ (place : Symbol → Place)
      (through' : List String), (∀ t, place t = .declaredGlobal ↔ t.isGlobal = true) ∧
        (if isFunction then q.places.map fun e =>
            (e.1, if e.2 == .own && wanted.contains e.1 then .shared else e.2)
          else q.places) ++ through.map (fun n => (n, .captured)) =
          symbols.map (fun t => (t.name, place t)) ++ through'.map fun n => (n, .captured) := by
    intro isFunction through
    rw [h.places, List.nil_append]
    cases isFunction with
    | false => exact ⟨fun t => t.placeIn around.names, through, fun t => placeIn_declaredGlobal, rfl⟩
    | true =>
      refine ⟨fun t => if t.placeIn around.names == .own && wanted.contains t.name then .shared
        else t.placeIn around.names, through, fun t => ?_, by rw [if_pos rfl, List.map_map]; rfl⟩
      dsimp only
      split
      · rename_i hown
        rw [Bool.and_eq_true, beq_iff_eq] at hown
        rw [← placeIn_declaredGlobal, hown.1]
        simp
      · exact placeIn_declaredGlobal
  exact hplaces _ _

/-- **Which names are global by declaration**: those that the block itself declares so. -/
theorem IsScopeOf.place?_iff (h : IsScopeOf head ms s) (hkind : head.kind.isNaming = true)
    (n : String) : s.place? n = some .declaredGlobal ↔ n ∈ declaredBy ms := by
  obtain ⟨outer, d, around, free, hd, hs⟩ := h
  have hglobal : (symbolOf d.symbols n).isGlobal = true ↔ n ∈ declaredBy ms :=
    (Draft.noteAll_isGlobal hkind hd n).trans
      (or_iff_right (by simp [Outline.symbol, Draft.outline, symbolOf]))
  have htidy := (Draft.block_tidy hd).1
  rw [Draft.block, ofBlock] at hs
  simp only [bind_eq_ok] at hs
  obtain ⟨q, hplaced, ⟨children, wanted⟩, -, hs⟩ := hs
  obtain ⟨place, through, hplace, hplaces⟩ := (Placing.placeAll_ok htidy hplaced).places_eq d.head
    wanted.eraseDups d.yields d.awaits children
  rw [show _ = s from congrArg Prod.fst (Except.ok.inj hs)] at hplaces
  rw [← hglobal, Scope.place?, hplaces, List.find?_append, List.find?_map, symbolOf]
  cases hfound : d.symbols.find? ((fun x : String × Place => x.1 == n) ∘ fun t =>
      (t.name, place t)) with
  | some t =>
    have hfound' : d.symbols.find? (·.name == n) = some t := hfound
    simp [hfound', hplace]
  | none =>
    have hfound' : d.symbols.find? (·.name == n) = none := hfound
    rw [hfound']
    simp

theorem IsScopeOf.place?_ne (h : IsScopeOf head ms s) (hkind : head.kind.isNaming = true)
    (hms : declaredBy ms = []) (n : String) : s.place? n ≠ some .declaredGlobal := by
  rw [Ne, h.place?_iff hkind n, hms]
  exact List.not_mem_nil

/-! ## Blocks inside a block -/

/-- The block that a mention is, if it is one, with what is mentioned in it. -/
def Mention.block? : Mention → Option (BlockHead × List Mention)
  | .block head ms => some (head, ms)
  | _ => none

theorem Mention.IsSimple.block?_eq_none {m : Mention} (h : m.IsSimple) : m.block? = none := by
  cases m with
  | block head inner => exact absurd rfl (h head inner)
  | _ => rfl

/-- The blocks that are mentioned. -/
def blocksOf (ms : List Mention) : List (BlockHead × List Mention) := ms.filterMap Mention.block?

theorem mem_blocksOf {inner : List Mention} :
    (head, inner) ∈ blocksOf ms ↔ .block head inner ∈ ms := by
  refine List.mem_filterMap.trans ⟨?_, fun h => ⟨_, h, rfl⟩⟩
  rintro ⟨m, hm, h⟩
  cases m with
  | block head' inner' =>
    cases h
    exact hm
  | _ => cases h

/-- A block has been gathered from what is mentioned in it. -/
def IsGathered (m : BlockHead × List Mention) (b : Block) : Prop :=
  ∃ outer d, Draft.noteAll outer { head := m.1 } m.2 = .ok d ∧ b = d.block

/-- The blocks inside are those that are mentioned, in their order. -/
theorem Draft.noteAll_children (h : d.noteAll outer ms = .ok e) : ∃ bs,
    e.children.reverse = d.children.reverse ++ bs ∧ List.Forall₂ IsGathered (blocksOf ms) bs := by
  induction ms generalizing d with
  | nil =>
    rw [Draft.noteAll] at h
    cases h
    exact ⟨[], (List.append_nil _).symm, .nil⟩
  | cons m ms ih =>
    obtain ⟨d', hm, hms⟩ := Draft.noteAll_cons.1 h
    obtain ⟨bs, hbs, hall⟩ := ih hms
    rcases m.simple_or_block with hsimple | ⟨head, inner, rfl⟩
    · have hnone := hsimple.block?_eq_none
      refine ⟨bs, by rw [hbs, (Draft.note_simple hsimple hm).2.2], ?_⟩
      rwa [blocksOf, List.filterMap_cons_none hnone]
    · obtain ⟨child, hchild, rfl⟩ := Draft.note_block hm
      refine ⟨child.block :: bs, ?_, .cons ⟨_, child, hchild, rfl⟩ hall⟩
      rw [hbs, (Draft.adopt_eq _ _).2.2, List.reverse_cons, List.append_assoc, List.singleton_append]

/-- Blocks have the scopes that their mentions say. -/
theorem ofBlocks_areScopesOf {around : Around} {blocks : List (BlockHead × List Mention)}
    {bs : List Block} (hbs : List.Forall₂ IsGathered blocks bs) {ss : List Scope} {free : List String}
    (h : ofBlocks around bs = .ok (ss, free)) :
    List.Forall₂ (fun m s' => IsScopeOf m.1 m.2 s') blocks ss := by
  induction hbs generalizing ss free with
  | nil =>
    rw [ofBlocks] at h
    cases h
    exact .nil
  | cons hb _ ih =>
    obtain ⟨outer, d, hd, rfl⟩ := hb
    rw [ofBlocks] at h
    simp only [bind_eq_ok] at h
    obtain ⟨⟨s, free₁⟩, hs, ⟨ss', free₂⟩, hss, h⟩ := h
    cases h
    exact .cons ⟨outer, d, around, free₁, hd, hs⟩ (ih hss)

/-- The scopes inside are those of the blocks that are mentioned, in their order. -/
theorem IsScopeOf.children (h : IsScopeOf head ms s) :
    List.Forall₂ (fun m s' => IsScopeOf m.1 m.2 s') (blocksOf ms) s.children := by
  obtain ⟨outer, d, around, free, hd, hs⟩ := h
  obtain ⟨bs, hbs, hgathered⟩ := Draft.noteAll_children hd
  rw [List.reverse_nil, List.nil_append] at hbs
  rw [Draft.block, ofBlock, hbs] at hs
  simp only [bind_eq_ok] at hs
  obtain ⟨q, -, ⟨children, wanted⟩, hblocks, hs⟩ := hs
  have hchildren : s.children = children := by
    rw [← show _ = s from congrArg Prod.fst (Except.ok.inj hs)]
    rfl
  rw [hchildren]
  exact ofBlocks_areScopesOf hgathered hblocks

/-! ### Blocks that are told apart -/

/-- Whether two blocks are told apart by their names or where they stand. -/
def BlockHead.differs (head head' : BlockHead) : Bool :=
  head.span != head'.span || head.name != head'.name

mutual

/-- Whether blocks are told apart in what is mentioned, at all depths.  They are where no two of them
    begin and end at the same places. -/
def Mention.isApart : Mention → Bool
  | .block _ ms => areApart ms
  | _ => true

/-- Whether blocks are told apart in all that is mentioned. -/
def areApart : List Mention → Bool
  | [] => true
  | m :: ms =>
    m.isApart && areApart ms
      && m.block?.all fun b => (blocksOf ms).all fun b' => b.1.differs b'.1

end

theorem areApart_of_mem {inner : List Mention} (h : areApart ms = true)
    (hm : .block head inner ∈ ms) : areApart inner = true := by
  induction ms with
  | nil => cases hm
  | cons m ms ih =>
    rw [areApart, Bool.and_eq_true, Bool.and_eq_true] at h
    rcases List.mem_cons.1 hm with rfl | hm
    · simpa only [Mention.isApart] using h.1.1
    · exact ih h.1.2 hm

/-- The scope of a block that is mentioned is found. -/
theorem find?_of_areApart {inner : List Mention} {ss : List Scope} (h : areApart ms = true)
    (hss : List.Forall₂ (fun m s' => IsScopeOf m.1 m.2 s') (blocksOf ms) ss)
    (hm : .block head inner ∈ ms) :
    ∃ s', ss.find? (fun c => c.head.span == head.span && c.head.name == head.name) = some s' ∧
      IsScopeOf head inner s' := by
  induction ms generalizing ss with
  | nil => cases hm
  | cons m ms ih =>
    rw [areApart, Bool.and_eq_true, Bool.and_eq_true] at h
    obtain ⟨⟨-, hrest⟩, hfirst⟩ := h
    rcases m.simple_or_block with hsimple | ⟨head', inner', rfl⟩
    · have hnone := hsimple.block?_eq_none
      rw [blocksOf, List.filterMap_cons_none hnone] at hss
      exact ih hrest hss ((List.mem_cons.1 hm).resolve_left fun heq => hsimple _ _ heq.symm)
    · cases hss with
      | cons hfirst' hss =>
        rcases List.mem_cons.1 hm with heq | hm
        · cases heq
          exact ⟨_, List.find?_cons_of_pos (by simp [hfirst'.head_eq]), hfirst'⟩
        · obtain ⟨s', hfound, hs'⟩ := ih hrest hss hm
          have hdiffers : head'.differs head = true :=
            List.all_eq_true.1 hfirst _ (mem_blocksOf.2 hm)
          refine ⟨s', ?_, hs'⟩
          rw [List.find?_cons_of_neg, hfound]
          rw [hfirst'.head_eq]
          simpa [BlockHead.differs, or_iff_not_imp_left] using hdiffers

/-- The scopes of the blocks that are mentioned are found in a scope. -/
def Houses (s : Scope) (ms : List Mention) : Prop :=
  ∀ head inner, .block head inner ∈ ms →
    ∃ s', s.child? head.span head.name = some s' ∧ IsScopeOf head inner s' ∧ areApart inner = true

theorem IsScopeOf.houses (h : IsScopeOf head ms s) (hapart : areApart ms = true) : Houses s ms := by
  intro head' inner hm
  obtain ⟨s', hfound, hs'⟩ := find?_of_areApart hapart h.children hm
  exact ⟨s', hfound, hs', areApart_of_mem hapart hm⟩

end Graft.Scope
