import Graft.Proofs.Mentions
import Graft.Proofs.Run
import Graft.Scope.Resolve

set_option autoImplicit false

/-! # Which names a block takes from around

The outline of a block is all that matters for the names that the block takes from blocks around it:
what is said about each name, and which names the blocks inside take in turn.  It does not depend on
spans, nor on anything that names no names. -/

namespace Graft.Scope

open Graft.Syntax

/-! ## Names of a block -/

/-- Whether a name belongs to the block itself. -/
def Symbol.isOwn (s : Symbol) : Bool :=
  !s.isGlobal && !s.isNonlocal && (s.isBound || s.isImported || s.isParam)

/-- Whether a name belongs to a block around, if it is bound there. -/
def Symbol.isOpen (s : Symbol) : Bool :=
  !s.isGlobal && (s.isNonlocal || !(s.isBound || s.isImported || s.isParam))

/-- Whether a name that a block inside takes from around is looked for further out. -/
def leavesOpen (kind : BlockKind) (symbols : List Symbol) (name : String) : Bool :=
  match kind with
  | .cls => name != classCell
  | .module => !symbols.any fun s => s.name == name && s.isGlobal
  | _ => !symbols.any fun s => s.name == name && (s.isGlobal || s.isOwn)

/-- The names that a block takes from around, as far as they are bound there. -/
def taken (kind : BlockKind) (symbols : List Symbol) (inner : List String) : List String :=
  (symbols.filter Symbol.isOpen).map Symbol.name ++ inner.filter (leavesOpen kind symbols)

mutual

/-- The names that a block takes from around, as far as they are bound there. -/
def Block.taken : Block → List String
  | .mk head symbols _ _ _ blocks => Scope.taken head.kind symbols (takenByAll blocks)

/-- The names that blocks take from around. -/
def takenByAll : List Block → List String
  | [] => []
  | b :: bs => b.taken ++ takenByAll bs

end

theorem takenByAll_append (bs cs : List Block) :
    takenByAll (bs ++ cs) = takenByAll bs ++ takenByAll cs := by
  induction bs with
  | nil => rfl
  | cons b bs ih => rw [List.cons_append, takenByAll, takenByAll, ih, List.append_assoc]

/-! ## Outlines -/

/-- What matters of a block for the names that it takes from around. -/
structure Outline where
  kind : BlockKind
  symbols : List Symbol := []
  /-- The names that blocks inside take from around them. -/
  inner : List String := []
  /-- The names that are bound in the function around this comprehension. -/
  outward : List String := []

namespace Outline

/-- Changes what is said about a name. -/
def change (o : Outline) (name : String) (f : Symbol → Symbol) : Outline :=
  { o with symbols := changeSymbol name f o.symbols }

/-- The outline seen from inside. -/
def enclosing (o : Outline) : Enclosing := ⟨o.kind, o.symbols⟩

/-- The names that the block takes from around. -/
def taken (o : Outline) : List String := Scope.taken o.kind o.symbols o.inner

/-- Takes over the names that comprehensions inside bind. -/
def adopt (o : Outline) (names : List String) : Outline :=
  match o.kind with
  | .comprehension _ => { o with outward := o.outward ++ names }
  | .module => names.foldl (fun o n => o.change n fun s => { s with isGlobal := true }) o
  | _ => names.foldl (fun o n => o.change n fun s => { s with isBound := true }) o

/-- Whether a name that is bound by a named expression belongs to a function around. -/
def isFunctionHome (name : String) (outer : List Enclosing) : Bool :=
  match walrusHome default name outer with
  | .ok (.function false) => true
  | _ => false

mutual

/-- Takes note of a mention, in a block inside others. -/
def note (outer : List Enclosing) (o : Outline) : Mention → Outline
  | .read n => o.change n fun s => { s with isRead := true }
  | .bind n => o.change n fun s => { s with isBound := true }
  | .imported n => o.change n fun s => { s with isImported := true }
  | .param _ n => o.change n fun s => { s with isParam := true }
  | .typed _ n => o.change n fun s => { s with isTyped := true, isBound := true }
  | .iterated _ n => o.change n fun s => { s with isBound := true, isIterated := true }
  | .declaredGlobal _ n => o.change n fun s => { s with isGlobal := true }
  | .declaredNonlocal _ n => o.change n fun s => { s with isNonlocal := true }
  | .walrus _ n =>
    { o with outward := o.outward ++ [n] }.change n fun s =>
      if isFunctionHome n (o.enclosing :: outer) then { s with isNonlocal := true }
      else { s with isGlobal := true }
  | .walrusInIterable _ | .starImport _ | .yields _ | .awaits => o
  | .block head mentions =>
    let child := noteAll (o.enclosing :: outer) { kind := head.kind } mentions
    { o with inner := o.inner ++ child.taken }.adopt child.outward

/-- Takes note of mentions one after the other. -/
def noteAll (outer : List Enclosing) (o : Outline) : List Mention → Outline
  | [] => o
  | m :: ms => noteAll outer (o.note outer m) ms

end

end Outline

/-- The outline of a draft. -/
def Draft.outline (d : Draft) : Outline :=
  { kind := d.head.kind, symbols := d.symbols, inner := takenByAll d.children.reverse
    outward := d.outward }

/-- The block that has been gathered. -/
def Draft.block (d : Draft) : Block :=
  .mk d.head d.symbols d.declarations d.yields d.awaits d.children.reverse

/-! ## A draft follows its outline -/

variable {outer : List Enclosing} {d e : Draft}

theorem Draft.foldl_change (g : String → Symbol → Symbol) (names : List String) (d : Draft) :
    let e := names.foldl (fun d n => d.change n (g n)) d
    e.outline = names.foldl (fun o n => o.change n (g n)) d.outline ∧ e.head = d.head ∧
      e.children = d.children := by
  induction names generalizing d with
  | nil => exact ⟨rfl, rfl, rfl⟩
  | cons n names ih =>
    obtain ⟨houtline, hhead, hchildren⟩ := ih (d.change n (g n))
    exact ⟨houtline, hhead, hchildren⟩

theorem Draft.adopt_eq (d : Draft) (names : List String) :
    (d.adopt names).outline = d.outline.adopt names ∧ (d.adopt names).head = d.head ∧
      (d.adopt names).children = d.children := by
  have hkind : d.outline.kind = d.head.kind := rfl
  unfold Draft.adopt Outline.adopt
  cases hd : d.head.kind with
  | comprehension kind =>
    rw [hd] at hkind
    simp only [hkind]
    exact ⟨by simp only [Draft.outline, hd], trivial, trivial⟩
  | module =>
    rw [hd] at hkind
    simp only [hkind]
    exact d.foldl_change (fun _ s => { s with isGlobal := true }) names
  | function =>
    rw [hd] at hkind
    simp only [hkind]
    exact d.foldl_change (fun _ s => { s with isBound := true }) names
  | cls =>
    rw [hd] at hkind
    simp only [hkind]
    exact d.foldl_change (fun _ s => { s with isBound := true }) names

/-- The home of a name does not depend on where the fault would be. -/
theorem walrusHome_span {sp : Span} {name : String} {es : List Enclosing} {home : WalrusHome}
    (h : walrusHome sp name es = .ok home) (sp' : Span) : walrusHome sp' name es = .ok home := by
  induction es with
  | nil => exact h
  | cons e es ih =>
    rw [walrusHome] at h ⊢
    cases hkind : e.kind with
    | comprehension kind =>
      simp only [hkind] at h ⊢
      split at h
      · cases h
      · rename_i hfree
        rw [if_neg hfree]
        exact ih h
    | function => simpa only [hkind] using h
    | module => simpa only [hkind] using h
    | cls =>
      simp only [hkind] at h
      cases h

theorem Draft.declare_eq {isGlobal : Bool} {sp : Span} {n : String}
    (h : d.declare isGlobal sp n = .ok e) :
    e.outline = (d.outline.change n fun s =>
        if isGlobal then { s with isGlobal := true } else { s with isNonlocal := true }) ∧
      e.head = d.head ∧ e.children = d.children := by
  unfold Draft.declare at h
  split at h
  · cases h
  · cases h
    exact ⟨rfl, rfl, rfl⟩

/-- What a mention that is not a block does to a draft. -/
theorem Draft.note_simple {m : Mention} (hm : m.IsSimple)
    (h : d.note outer m = .ok e) :
    e.outline = d.outline.note outer m ∧ e.head = d.head ∧ e.children = d.children := by
  -- Noting a mention can be refused, but if it is not, the outline notes it in the same way.
  cases m with
  | block head inner => exact absurd rfl (hm head inner)
  | walrus sp n =>
    rw [Draft.note] at h
    simp only [bind_eq_ok] at h
    obtain ⟨home, hhome, h⟩ := h
    have hdefault : walrusHome default n (d.outline.enclosing :: outer) = .ok home :=
      walrusHome_span hhome default
    rw [Outline.note]
    simp only [Outline.isFunctionHome, hdefault]
    cases home with
    | module =>
      cases h
      exact ⟨rfl, rfl, rfl⟩
    | function isGlobal => cases isGlobal <;> cases h <;> exact ⟨rfl, rfl, rfl⟩
  | read n =>
    rw [Draft.note] at h
    cases h
    exact ⟨rfl, rfl, rfl⟩
  | bind n =>
    rw [Draft.note] at h
    cases h
    exact ⟨rfl, rfl, rfl⟩
  | imported n =>
    rw [Draft.note] at h
    cases h
    exact ⟨rfl, rfl, rfl⟩
  | param sp n =>
    rw [Draft.note] at h
    split at h <;> cases h
    exact ⟨rfl, rfl, rfl⟩
  | typed sp n =>
    rw [Draft.note] at h
    split at h <;> cases h
    exact ⟨rfl, rfl, rfl⟩
  | iterated sp n =>
    rw [Draft.note] at h
    split at h <;> cases h
    exact ⟨rfl, rfl, rfl⟩
  | declaredGlobal sp n => exact Draft.declare_eq h
  | declaredNonlocal sp n => exact Draft.declare_eq h
  | walrusInIterable sp =>
    rw [Draft.note] at h
    cases h
  | starImport sp =>
    rw [Draft.note] at h
    split at h <;> cases h
    exact ⟨rfl, rfl, rfl⟩
  | yields sp =>
    rw [Draft.note] at h
    split at h <;> cases h
    exact ⟨rfl, rfl, rfl⟩
  | awaits =>
    rw [Draft.note] at h
    cases h
    exact ⟨rfl, rfl, rfl⟩

theorem Draft.noteAll_cons {m : Mention} {ms : List Mention} :
    d.noteAll outer (m :: ms) = .ok e ↔
      ∃ d', d.note outer m = .ok d' ∧ d'.noteAll outer ms = .ok e := by
  rw [Draft.noteAll, bind_eq_ok]

theorem Draft.note_head {m : Mention} (h : d.note outer m = .ok e) : e.head = d.head := by
  rcases m.simple_or_block with hm | ⟨head, inner, rfl⟩
  · exact (note_simple hm h).2.1
  · rw [Draft.note] at h
    simp only [bind_eq_ok] at h
    obtain ⟨child, -, h⟩ := h
    cases h
    exact (Draft.adopt_eq _ _).2.1

theorem Draft.noteAll_head {ms : List Mention} (h : d.noteAll outer ms = .ok e) :
    e.head = d.head := by
  induction ms generalizing d with
  | nil =>
    rw [Draft.noteAll] at h
    cases h
    rfl
  | cons m ms ih =>
    obtain ⟨d', hm, hms⟩ := noteAll_cons.1 h
    rw [ih hms, note_head hm]

/-- A block that is mentioned becomes the last one inside. -/
theorem Draft.note_block {head : BlockHead} {inner : List Mention}
    (h : d.note outer (.block head inner) = .ok e) :
    ∃ child, Draft.noteAll (d.enclosing :: outer) { head } inner = .ok child ∧
      e = { d with children := child.block :: d.children }.adopt child.outward := by
  rw [Draft.note] at h
  simp only [bind_eq_ok] at h
  obtain ⟨child, hchild, h⟩ := h
  cases h
  refine ⟨child, hchild, ?_⟩
  rw [Draft.block, noteAll_head hchild]

theorem Draft.outline_taken (d : Draft) : d.outline.taken = d.block.taken := by
  rw [Draft.block, Block.taken]
  rfl

theorem Draft.outline_cons (d child : Draft) :
    { d with children := child.block :: d.children }.outline =
      { d.outline with inner := d.outline.inner ++ child.outline.taken } := by
  rw [Draft.outline_taken]
  simp only [Draft.outline, List.reverse_cons, takenByAll_append, takenByAll, List.append_nil]

/-- What a draft becomes is told by its outline. -/
theorem Draft.noteAll_outline {ms : List Mention} (h : d.noteAll outer ms = .ok e) :
    e.outline = d.outline.noteAll outer ms := by
  refine Mention.induct_all
    (P := fun m => ∀ outer (d e : Draft), d.note outer m = .ok e →
      e.outline = d.outline.note outer m)
    (Q := fun ms => ∀ outer (d e : Draft), d.noteAll outer ms = .ok e →
      e.outline = d.outline.noteAll outer ms)
    ?block ?simple ?nil ?cons ms outer d e h
  case block =>
    intro head inner ih outer d e h
    obtain ⟨child, hchild, rfl⟩ := note_block h
    have houtline : child.outline =
        Outline.noteAll (d.outline.enclosing :: outer) { kind := head.kind } inner :=
      ih _ _ _ hchild
    have houtward : child.outward = child.outline.outward := rfl
    rw [(Draft.adopt_eq _ _).1, outline_cons, Outline.note, houtward, houtline]
  case simple =>
    intro m hm outer d e h
    exact (note_simple hm h).1
  case nil =>
    intro outer d e h
    rw [Draft.noteAll] at h
    cases h
    rfl
  case cons =>
    intro m ms ihm ihms outer d e h
    obtain ⟨d', hm, hms⟩ := noteAll_cons.1 h
    rw [ihms _ _ _ hms, ihm _ _ _ hm, Outline.noteAll]

/-! ## What outlines do not depend on -/

namespace Outline

variable {outer outer' : List Enclosing} {o : Outline}

theorem noteAll_append (ms ms' : List Mention) :
    o.noteAll outer (ms ++ ms') = (o.noteAll outer ms).noteAll outer ms' := by
  induction ms generalizing o with
  | nil => rfl
  | cons m ms ih => rw [List.cons_append, noteAll, noteAll, ih]

theorem foldl_change_kind (g : String → Symbol → Symbol) (names : List String) :
    (names.foldl (fun o n => o.change n (g n)) o).kind = o.kind := by
  induction names generalizing o with
  | nil => rfl
  | cons n names ih => exact ih

theorem adopt_kind (o : Outline) (names : List String) : (o.adopt names).kind = o.kind := by
  unfold adopt
  split
  · rfl
  · exact foldl_change_kind (fun _ s => { s with isGlobal := true }) names
  · exact foldl_change_kind (fun _ s => { s with isBound := true }) names

theorem adopt_nil (o : Outline) : o.adopt [] = o := by
  unfold adopt
  split
  · rw [List.append_nil]
  · rfl
  · rfl

theorem note_kind (m : Mention) : (o.note outer m).kind = o.kind := by
  cases m with
  | block head inner =>
    rw [note]
    exact adopt_kind _ _
  | _ => rfl

/-- Spans do not matter. -/
theorem noteAll_mapSpan (f : Span → Span) (ms : List Mention) :
    o.noteAll outer (ms.map (Mention.mapSpan f)) = o.noteAll outer ms := by
  refine Mention.induct_all
    (P := fun m => ∀ outer (o : Outline), o.note outer (m.mapSpan f) = o.note outer m)
    (Q := fun ms => ∀ outer (o : Outline),
      o.noteAll outer (ms.map (Mention.mapSpan f)) = o.noteAll outer ms)
    ?block ?simple ?nil ?cons ms outer o
  case block =>
    intro head inner ih outer o
    rw [Mention.mapSpan, note, note, mapMentionSpans_eq_map, ih]
  case simple =>
    intro m hm outer o
    cases m with
    | block head inner => exact absurd rfl (hm head inner)
    | _ => rfl
  case nil => exact fun _ _ => rfl
  case cons =>
    intro m ms ihm ihms outer o
    rw [List.map_cons, noteAll, noteAll, ihm, ihms]

end Outline

/-! ### Mentions that name no names -/

mutual

/-- Whether a mention names no names. -/
def Mention.isSilent : Mention → Bool
  | .yields _ | .awaits => true
  | .block _ inner => allSilent inner
  | _ => false

/-- Whether mentions name no names. -/
def allSilent : List Mention → Bool
  | [] => true
  | m :: ms => m.isSilent && allSilent ms

end

namespace Outline

variable {outer outer' : List Enclosing} {o : Outline}

theorem noteAll_silent {ms : List Mention} (h : allSilent ms = true) : o.noteAll outer ms = o := by
  refine Mention.induct_all
    (P := fun m => m.isSilent = true → ∀ outer (o : Outline), o.note outer m = o)
    (Q := fun ms => allSilent ms = true → ∀ outer (o : Outline), o.noteAll outer ms = o)
    ?block ?simple ?nil ?cons ms h outer o
  case block =>
    intro head inner ih h outer o
    -- A block whose mentions are silent takes nothing from around it, and nothing is adopted.
    rw [Mention.isSilent] at h
    have htaken : ({ kind := head.kind } : Outline).taken = [] := rfl
    rw [note, ih h, htaken, List.append_nil]
    exact adopt_nil o
  case simple =>
    intro m hm h outer o
    cases m with
    | block head inner => exact absurd rfl (hm head inner)
    | yields sp => rfl
    | awaits => rfl
    | _ => cases h
  case nil => exact fun _ _ _ => rfl
  case cons =>
    intro m ms ihm ihms h outer o
    rw [allSilent, Bool.and_eq_true] at h
    rw [noteAll, ihm h.1, ihms h.2]

/-! ### What is around a function -/

/-- Names that are bound by named expressions belong to the same blocks around. -/
def SameHomes (outer outer' : List Enclosing) : Prop :=
  ∀ n, walrusHome default n outer = walrusHome default n outer'

theorem SameHomes.cons (h : SameHomes outer outer') (e : Enclosing) :
    SameHomes (e :: outer) (e :: outer') := by
  intro n
  rw [walrusHome, walrusHome, h n]

theorem SameHomes.function {e : Enclosing} (h : e.kind = .function) (outer outer' : List Enclosing) :
    SameHomes (e :: outer) (e :: outer') := by
  intro n
  simp only [walrusHome, h]

theorem noteAll_congr {ms : List Mention}
    (h : ∀ e : Enclosing, e.kind = o.kind → SameHomes (e :: outer) (e :: outer')) :
    o.noteAll outer ms = o.noteAll outer' ms := by
  refine Mention.induct_all
    (P := fun m => ∀ outer outer' (o : Outline),
      (∀ e : Enclosing, e.kind = o.kind → SameHomes (e :: outer) (e :: outer')) →
      o.note outer m = o.note outer' m)
    (Q := fun ms => ∀ outer outer' (o : Outline),
      (∀ e : Enclosing, e.kind = o.kind → SameHomes (e :: outer) (e :: outer')) →
      o.noteAll outer ms = o.noteAll outer' ms)
    ?block ?simple ?nil ?cons ms outer outer' o h
  case block =>
    intro head inner ih outer outer' o h
    -- Inside a block the block itself is one more to look through.
    have hinner := ih (o.enclosing :: outer) (o.enclosing :: outer') { kind := head.kind }
      fun e _ => (h o.enclosing rfl).cons e
    rw [note, note, hinner]
  case simple =>
    intro m hm outer outer' o h
    cases m with
    | block head inner => exact absurd rfl (hm head inner)
    | walrus sp n =>
      have hhome : isFunctionHome n (o.enclosing :: outer) = isFunctionHome n (o.enclosing :: outer')
          := by
        rw [isFunctionHome, isFunctionHome, h o.enclosing rfl n]
      simp only [note, hhome]
    | _ => rfl
  case nil => exact fun _ _ _ _ => rfl
  case cons =>
    intro m ms ihm ihms outer outer' o h
    -- A mention does not change the kind of block, so the homes are the same for the others.
    rw [noteAll, noteAll, ihm outer outer' o h]
    exact ihms _ _ _ fun e he => h e (he.trans (note_kind m))

/-- What is around a function does not matter for its outline. -/
theorem noteAll_function {ms : List Mention} (h : o.kind = .function)
    (outer outer' : List Enclosing) : o.noteAll outer ms = o.noteAll outer' ms :=
  noteAll_congr fun _ he => .function (he.trans h) outer outer'

end Outline

/-! ## Tidiness -/

/-- No two symbols have the same name. -/
def Tidy (symbols : List Symbol) : Prop := (symbols.map Symbol.name).Nodup

mutual

/-- No two symbols of a block or of a block inside have the same name. -/
def Block.IsTidy : Block → Prop
  | .mk _ symbols _ _ _ blocks => Tidy symbols ∧ AllTidy blocks

/-- The blocks are tidy. -/
def AllTidy : List Block → Prop
  | [] => True
  | b :: bs => b.IsTidy ∧ AllTidy bs

end

theorem allTidy_iff {bs : List Block} : AllTidy bs ↔ ∀ b ∈ bs, b.IsTidy := by
  induction bs with
  | nil => simp [AllTidy]
  | cons b bs ih => simp [AllTidy, ih]

theorem changeSymbol_names {n : String} {f : Symbol → Symbol} (hf : ∀ s, (f s).name = s.name)
    (ss : List Symbol) : (changeSymbol n f ss).map Symbol.name =
      if n ∈ ss.map Symbol.name then ss.map Symbol.name else ss.map Symbol.name ++ [n] := by
  induction ss with
  | nil => simp [changeSymbol, hf]
  | cons s ss ih =>
    rw [changeSymbol]
    by_cases hs : s.name = n
    · simp [hs, hf]
    · rw [if_neg (by simpa using hs), List.map_cons, ih, List.map_cons]
      by_cases hn : n ∈ ss.map Symbol.name
      · rw [if_pos hn, if_pos (List.mem_cons_of_mem _ hn)]
      · rw [if_neg hn, if_neg (by simpa [Ne.symm hs] using hn), List.cons_append]

theorem Tidy.change {ss : List Symbol} (h : Tidy ss) (n : String) {f : Symbol → Symbol}
    (hf : ∀ s, (f s).name = s.name) : Tidy (changeSymbol n f ss) := by
  unfold Tidy at h ⊢
  rw [changeSymbol_names hf]
  split
  · exact h
  · rename_i hn
    exact List.nodup_append.2 ⟨h, by simp, by simpa using fun s hs he => hn (by simpa using ⟨s, hs, he⟩)⟩

theorem Tidy.foldl_change {o : Outline} (h : Tidy o.symbols) (names : List String)
    {g : String → Symbol → Symbol} (hg : ∀ n s, (g n s).name = s.name) :
    Tidy (names.foldl (fun o n => o.change n (g n)) o).symbols := by
  induction names generalizing o with
  | nil => exact h
  | cons n names ih => exact ih (h.change n (hg n))

theorem Tidy.adopt {o : Outline} (h : Tidy o.symbols) (names : List String) :
    Tidy (o.adopt names).symbols := by
  unfold Outline.adopt
  split
  · exact h
  · exact h.foldl_change names (g := fun _ s => { s with isGlobal := true }) fun _ _ => rfl
  · exact h.foldl_change names (g := fun _ s => { s with isBound := true }) fun _ _ => rfl

theorem Tidy.note {outer : List Enclosing} {o : Outline} (h : Tidy o.symbols) (m : Mention) :
    Tidy (o.note outer m).symbols := by
  cases m with
  | walrusInIterable sp => exact h
  | starImport sp => exact h
  | yields sp => exact h
  | awaits => exact h
  | block head inner =>
    have hinner : ∀ names, Tidy { o with inner := names }.symbols := fun _ => h
    rw [Outline.note]
    exact (hinner _).adopt _
  | walrus sp n =>
    refine h.change n fun s => ?_
    split <;> rfl
  | _ => exact h.change _ fun _ => rfl

theorem Tidy.noteAll {outer : List Enclosing} {o : Outline} (h : Tidy o.symbols)
    (ms : List Mention) : Tidy (o.noteAll outer ms).symbols := by
  induction ms generalizing o with
  | nil => exact h
  | cons m ms ih => exact ih (h.note m)

/-- The blocks inside what is gathered are tidy. -/
theorem Draft.noteAll_tidy {ms : List Mention} (hd : AllTidy d.children)
    (h : d.noteAll outer ms = .ok e) : AllTidy e.children := by
  refine Mention.induct_all
    (P := fun m => ∀ outer (d e : Draft), AllTidy d.children → d.note outer m = .ok e →
      AllTidy e.children)
    (Q := fun ms => ∀ outer (d e : Draft), AllTidy d.children → d.noteAll outer ms = .ok e →
      AllTidy e.children)
    ?block ?simple ?nil ?cons ms outer d e hd h
  case block =>
    intro head inner ih outer d e hd h
    obtain ⟨child, hchild, rfl⟩ := note_block h
    rw [(Draft.adopt_eq _ _).2.2]
    have hnil : Tidy ({ kind := head.kind } : Outline).symbols := List.nodup_nil
    -- The symbols of a draft are those of its outline, which has begun with none.
    have hsymbols : child.symbols =
        (Outline.noteAll (d.enclosing :: outer) { kind := head.kind } inner).symbols :=
      congrArg Outline.symbols (noteAll_outline hchild)
    refine ⟨⟨hsymbols ▸ hnil.noteAll inner, ?_⟩, hd⟩
    have hall := ih _ _ _ (by trivial) hchild
    exact allTidy_iff.2 fun b hb => allTidy_iff.1 hall b (List.mem_reverse.1 hb)
  case simple =>
    intro m hm outer d e hd h
    rwa [(note_simple hm h).2.2]
  case nil =>
    intro outer d e hd h
    rw [Draft.noteAll] at h
    cases h
    exact hd
  case cons =>
    intro m ms ihm ihms outer d e hd h
    obtain ⟨d', hm, hms⟩ := noteAll_cons.1 h
    exact ihms _ _ _ (ihm _ _ _ hd hm) hms

/-- A block that is gathered from mentions is tidy. -/
theorem Draft.block_tidy {head : BlockHead} {ms : List Mention}
    (h : Draft.noteAll outer { head } ms = .ok e) : e.block.IsTidy := by
  have hnil : Tidy ({ kind := head.kind } : Outline).symbols := List.nodup_nil
  have hsymbols : e.symbols = (Outline.noteAll outer { kind := head.kind } ms).symbols :=
    congrArg Outline.symbols (noteAll_outline h)
  have hall : AllTidy e.children := noteAll_tidy (by trivial) h
  exact ⟨hsymbols ▸ hnil.noteAll ms, allTidy_iff.2 fun b hb =>
    allTidy_iff.1 hall b (List.mem_reverse.1 hb)⟩

end Graft.Scope
