import Graft.Proofs.Compile
import Graft.Proofs.Header
import Graft.Proofs.Scoping

set_option autoImplicit false

/-! # The surroundings of a definition

A definition that is compiled anew stands in surroundings that are made for it.  Here it is said
which names are bound there: the variables that the old function takes from around, and besides them
those that the surroundings bind by being there. -/

namespace Graft.Scope

open Graft.Syntax Graft.Code

/-! ## Blocks in blocks -/

/-- What a block is called and where it stands. -/
def Block.head : Block → BlockHead
  | .mk head .. => head

variable {outer : List Enclosing} {d e : Draft}

theorem ofBlock_head {around : Around} {b : Block} {s : Scope} {free : List String}
    (h : ofBlock around b = .ok (s, free)) : s.head = b.head := by
  obtain ⟨head, symbols, declarations, yields, awaits, blocks⟩ := b
  rw [ofBlock] at h
  simp only [bind_eq_ok] at h
  obtain ⟨q, -, ⟨children, wanted⟩, -, h⟩ := h
  have hs := congrArg Prod.fst (Except.ok.inj h)
  rw [← show _ = s from hs]
  rfl

/-- The scope of a block that stands behind others of other names is found by its name. -/
theorem ofBlocks_found {around : Around} {bs : List Block} {b : Block} {ss : List Scope}
    {free : List String} (h : ofBlocks around (bs ++ [b]) = .ok (ss, free))
    (hbs : ∀ b' ∈ bs, b'.head.name ≠ b.head.name) :
    ∃ s free', ofBlock around b = .ok (s, free') ∧
      ss.find? (fun c => c.head.span == b.head.span && c.head.name == b.head.name) = some s := by
  induction bs generalizing ss free with
  | nil =>
    rw [List.nil_append, ofBlocks] at h
    simp only [bind_eq_ok] at h
    obtain ⟨⟨s, free₁⟩, hb, ⟨ss', free₂⟩, -, h⟩ := h
    cases h
    exact ⟨s, free₁, hb, List.find?_cons_of_pos (by simp [ofBlock_head hb])⟩
  | cons b' bs ih =>
    rw [List.cons_append, ofBlocks] at h
    simp only [bind_eq_ok] at h
    obtain ⟨⟨s', free₁⟩, hb', ⟨ss', free₂⟩, hbs', h⟩ := h
    obtain ⟨s, free', hb, hfound⟩ := ih hbs' fun b hb => hbs b (List.mem_cons_of_mem _ hb)
    have hother : s'.head.name ≠ b.head.name := by
      rw [ofBlock_head hb']
      exact hbs b' List.mem_cons_self
    cases h
    refine ⟨s, free', hb, ?_⟩
    rw [List.find?_cons_of_neg (by simp [hother])]
    exact hfound

theorem Draft.noteAll_append {ms ms' : List Mention} :
    d.noteAll outer (ms ++ ms') = .ok e ↔
      ∃ d', d.noteAll outer ms = .ok d' ∧ d'.noteAll outer ms' = .ok e := by
  induction ms generalizing d with
  | nil => simp [Draft.noteAll]
  | cons m ms ih =>
    rw [List.cons_append, noteAll_cons]
    simp only [ih, noteAll_cons]
    grind

/-- The blocks that plain mentions add have no name. -/
theorem Draft.noteAll_nameless {ms : List Mention} (hms : AllPlain ms)
    (hd : ∀ b ∈ d.children, b.head.name ∈ anonymousNames) (h : d.noteAll outer ms = .ok e) :
    ∀ b ∈ e.children, b.head.name ∈ anonymousNames := by
  induction ms generalizing d with
  | nil =>
    rw [Draft.noteAll] at h
    cases h
    exact hd
  | cons m ms ih =>
    obtain ⟨d', hm, hrest⟩ := noteAll_cons.1 h
    obtain ⟨hplain, hms⟩ := allPlain_cons.1 hms
    refine ih hms ?_ hrest
    rcases m.simple_or_block with hsimple | ⟨head, inner, rfl⟩
    · rwa [(note_simple hsimple hm).2.2]
    · obtain ⟨child, hchild, rfl⟩ := note_block hm
      rw [(Draft.adopt_eq _ _).2.2]
      intro b hb
      rcases List.mem_cons.1 hb with rfl | hb
      · have hhead : child.block.head = head := noteAll_head hchild
        rw [hhead]
        simpa [Mention.isPlain] using hplain
      · exact hd b hb

/-- A block with a name, mentioned last in a block and behind nameless ones only: it is gathered
    from what it mentions, and its scope is found by its name. -/
theorem ofBlock_last {around : Around} {head inner : BlockHead} {ms ms' : List Mention} {s : Scope}
    {free : List String} (hms : AllPlain ms) (hname : inner.name ∉ anonymousNames)
    (he : Draft.noteAll outer { head } (ms ++ [.block inner ms']) = .ok e)
    (h : ofBlock around e.block = .ok (s, free)) :
    ∃ (outer' : List Enclosing) (child : Draft) (q : Placing) (s' : Scope) (free' : List String),
      Draft.noteAll outer' { head := inner } ms' = .ok child ∧
      Placed { around } e.symbols q ∧
      ofBlock (aroundChildren head.kind around q) child.block = .ok (s', free') ∧
      s.child? inner.span inner.name = some s' := by
  obtain ⟨d', hd', hlast⟩ := Draft.noteAll_append.1 he
  obtain ⟨d'', hblock, hnil⟩ := Draft.noteAll_cons.1 hlast
  rw [Draft.noteAll] at hnil
  cases hnil
  obtain ⟨child, hchild, rfl⟩ := Draft.note_block hblock
  have hhead := Draft.noteAll_head he
  have htidy := Draft.block_tidy he
  have hchildren := (Draft.adopt_eq { d' with children := child.block :: d'.children }
    child.outward).2.2
  -- Of the blocks only the last one has a name, so that looking for the name finds it.
  have hnameless := Draft.noteAll_nameless hms (by simp) hd'
  have hinner : child.block.head = inner := Draft.noteAll_head hchild
  generalize Draft.adopt _ child.outward = e at *
  rw [Draft.block, ofBlock, hchildren, List.reverse_cons, hhead] at h
  simp only [bind_eq_ok] at h
  obtain ⟨q, hplaced, ⟨children, wanted⟩, hblocks, h⟩ := h
  have hs : s.children = children := by
    rw [← show _ = s from congrArg Prod.fst (Except.ok.inj h)]
    rfl
  obtain ⟨s', free', hs', hfound⟩ := ofBlocks_found hblocks fun b hb heq => by
    have hb := hnameless b (List.mem_reverse.1 hb)
    rw [heq, hinner] at hb
    exact hname hb
  refine ⟨_, child, q, s', free', hchild, Placing.placeAll_ok htidy.1 hplaced, hs', ?_⟩
  rw [Scope.child?, hs, ← hinner]
  exact hfound

/-! ## Names that are bound around -/

theorem AllPlain.isLocal {ms : List Mention} (h : AllPlain ms) {head : BlockHead}
    {inner : List Mention} : ∀ m ∈ ms ++ [.block head inner], m.isLocal = true := by
  intro m hm
  rcases List.mem_append.1 hm with hm | hm
  · exact Mention.isLocal_of_plain (h m hm)
  · rw [List.mem_singleton.1 hm]
    rfl

/-- In a function that declares no names, those bound around a block are its own and the ones bound
    around itself. -/
theorem Placed.around_function {around : Around} {head : BlockHead} {ms : List Mention}
    {q : Placing} (hkind : head.kind = .function) (hms : ∀ m ∈ ms, m.isLocal = true)
    (he : Draft.noteAll outer { head } ms = .ok e) (hplaced : Placed { around } e.symbols q)
    (n : String) : n ∈ (aroundChildren head.kind around q).names ↔
      n ∈ boundByAll ms ∨ n ∈ around.names := by
  have htidy : Tidy e.symbols := (Draft.block_tidy he).1
  have hundeclared : ({ kind := head.kind } : Outline).IsUndeclared :=
    ⟨hkind, fun _ => rfl, fun _ => rfl⟩
  have hafter_binds : Outline.Binds { kind := head.kind }
      (Outline.noteAll outer { kind := head.kind } ms) (boundByAll ms) := hundeclared.noteAll hms
  obtain ⟨hafter, hbinds⟩ := hafter_binds
  have hsymbols : e.symbols = (Outline.noteAll outer { kind := head.kind } ms).symbols :=
    congrArg Outline.symbols (Draft.noteAll_outline he)
  -- No symbol is global, and the block's own ones are those that are bound.
  have hglobal : ¬∃ s ∈ e.symbols, s.name = n ∧ s.isGlobal = true := by
    rw [htidy.exists_iff rfl, hsymbols]
    exact Bool.eq_false_iff.1 (hafter.isGlobal n)
  have hown : (∃ s ∈ e.symbols, s.name = n ∧ s.isOwn = true) ↔ n ∈ boundByAll ms := by
    rw [htidy.exists_iff (by simp [Symbol.isOwn]), hsymbols]
    refine (hbinds n).trans (or_iff_right ?_)
    simp [Outline.symbol, symbolOf, Symbol.isOwn]
  rw [mem_aroundChildren, hkind]
  simp only [hplaced.bound, hplaced.around, hown, hglobal, not_false_eq_true, and_true,
    List.not_mem_nil, false_or]

end Graft.Scope

namespace Graft.Injection

open Graft.Code Graft.Scope Graft.Syntax

/-- A scope is that of a definition, given the class that private names belong to and the names that
    are bound around. -/
def Stands (d : Splice.Definition) (owner : Option String) (around : List String) (s : Scope) :
    Prop :=
  ∃ outer e a free, Draft.noteAll outer { head := headOf d } (bodyMentions { owner } d) = .ok e ∧
    a.bound = some around ∧ ofBlock a e.block = .ok (s, free)

/-- The names that surroundings bind by being there. -/
def extras (owner : Option String) (d : Splice.Definition) : List String :=
  match owner with
  | none => boundByAll (stmtMentions { inFunction := true } d.toStmt)
  | some o => [o, classCell]

theorem boundByAll_append (ms ms' : List Mention) :
    boundByAll (ms ++ ms') = boundByAll ms ++ boundByAll ms' :=
  List.flatMap_append

theorem bound_freeParameters {c : Setting} (hc : c.owner = none) (frees : List String) :
    ∀ column : Nat, ((freeParameters column frees).map fun
      | .mk p _ => Mention.param p.span (c.known p.name)).flatMap Mention.bound = frees := by
  induction frees with
  | nil => exact fun _ => rfl
  | cons n ns ih =>
    intro column
    have hn : c.known n = n := by rw [Setting.known, hc, mangle]
    rw [freeParameters, List.map_cons, List.flatMap_cons, ih]
    simp only [Parameter.name, hn, Mention.bound, List.singleton_append]

theorem boundByAll_freeParameters {c : Setting} (hc : c.owner = none) (column : Nat)
    (frees : List String) :
    boundByAll (paramMentions c (.mk [] (freeParameters column frees) none [] none)) = frees := by
  have hlist := bound_freeParameters hc frees
  have hnil : ∀ ms : List Mention, [] ++ ms ++ [] ++ [] ++ [] = ms := by simp
  simp only [paramMentions, List.map_nil, Option.toList_none, hnil]
  exact hlist column

/-- The scope of the only definition in a module. -/
theorem ofModule_definition {d : Splice.Definition} {scope : Scope}
    (hname : d.name ∉ anonymousNames) (h : Scope.ofModule [d.toStmt] = .ok scope) :
    ∃ s, Stands d none [] s ∧ scope.child? d.span d.name = some s := by
  unfold Scope.ofModule Block.ofModule at h
  simp only [bind_eq_ok] at h
  obtain ⟨block, ⟨m, hm, hblock⟩, ⟨scope', free⟩, hscope, h⟩ := h
  cases h
  have hmentions : stmtsMentions {} [d.toStmt] =
      (.bind d.name :: headerMentions {} d) ++ [.block (headOf d) (bodyMentions {} d)] := by
    rw [stmtsMentions, stmtsMentions, List.append_nil, stmtMentions_toStmt]
    rfl
  have hplain : AllPlain (.bind d.name :: headerMentions {} d) :=
    allPlain_cons.2 ⟨rfl, headerMentions_plain rfl d⟩
  have hsame : block = m.block := by
    rw [Draft.block, Draft.noteAll_head hm]
    exact (Except.ok.inj hblock).symm
  rw [hmentions] at hm
  rw [hsame] at hscope
  obtain ⟨outer, child, q, s, free', hchild, hplaced, hs, hfound⟩ :=
    ofBlock_last hplain hname hm hscope
  refine ⟨s, ⟨outer, child, _, free', hchild, ?_, hs⟩, hfound⟩
  -- Nothing is bound around a module.
  have hnone : q.around.names = [] := by
    refine List.eq_nil_iff_forall_not_mem.2 fun n hn => ?_
    simpa [Around.names] using ((hplaced.around n).1 hn).1
  rw [aroundChildren, hnone]

/-- The scope of a definition that stands last in a function. -/
theorem Stands.last {f : Splice.Definition} {owner : Option String} {around : List String}
    {s : Scope} (h : Stands f owner around s) {head : BlockHead} {ms inner : List Mention}
    (hbody : bodyMentions { owner } f = ms ++ [.block head inner]) (hms : AllPlain ms)
    (hname : head.name ∉ anonymousNames) :
    ∃ outer child a s' free, Draft.noteAll outer { head } inner = .ok child ∧
      a.bound.isSome = true ∧ ofBlock a child.block = .ok (s', free) ∧
      s.child? head.span head.name = some s' ∧
      ∀ n, n ∈ a.names ↔ n ∈ boundByAll (bodyMentions { owner } f) ∨ n ∈ around := by
  obtain ⟨outer, e, a, free, he, ha, hs⟩ := h
  rw [hbody] at he ⊢
  obtain ⟨outer', child, q, s', free', hchild, hplaced, hs', hfound⟩ := ofBlock_last hms hname he hs
  refine ⟨outer', child, _, s', free', hchild, ?_, hs', hfound, fun n => ?_⟩
  · rfl
  · rw [hplaced.around_function rfl hms.isLocal he, Around.names, ha, Option.getD_some]

theorem Around.bound_eq {a : Around} (h : a.bound.isSome = true) : a.bound = some a.names := by
  obtain ⟨names, hnames⟩ := Option.isSome_iff_exists.1 h
  rw [Around.names, hnames, Option.getD_some]

section

variable {frees : List String} {owner : Option String} {d : Splice.Definition}

/-- The function around a definition that is compiled anew. -/
def factory (frees : List String) (owner : Option String) (d : Splice.Definition) :
    Splice.Definition :=
  { span := match owner with
      | none => ⟨1, 0, 2, 8⟩
      | some _ => ⟨1, 0, 3, 12⟩
    isAsync := false
    name := factoryName
    params := .mk [] (freeParameters parameterColumn frees) none [] none
    body := match owner with
      | none => [d.toStmt]
      | some o => [.classDef ⟨2, 4, 3, 12⟩ o [] [] [d.toStmt] []]
    decorators := []
    returns := none }

theorem surrounded_eq (frees : List String) (owner : Option String) (d : Splice.Definition) :
    surrounded frees owner d.toStmt = (factory frees owner d).toStmt := by
  cases owner <;> rfl

theorem factory_params_plain (c : Setting) :
    AllPlain (paramMentions c (factory frees owner d).params) := paramMentions_plain c _

/-- Without a class around, the definition itself stands in the function around it. -/
theorem factory_bodyMentions : bodyMentions {} (factory frees none d) =
    (paramMentions { inFunction := true } (factory frees none d).params ++
      (.bind d.name :: headerMentions { inFunction := true } d)) ++
      [.block (headOf d) (bodyMentions {} d)] := by
  rw [bodyMentions, factory, stmtsMentions, stmtsMentions, List.append_nil, stmtMentions_toStmt,
    List.append_assoc]
  rfl

/-- With a class around, the class stands in the function around the definition. -/
theorem factory_bodyMentions_class (o : String) : bodyMentions {} (factory frees (some o) d) =
    (paramMentions { inFunction := true } (factory frees (some o) d).params ++ [.bind o]) ++
      [.block ⟨.cls, o, ⟨2, 4, 3, 12⟩⟩ (stmtsMentions { owner := some o } [d.toStmt])] := by
  rw [bodyMentions, factory, stmtsMentions, stmtsMentions, List.append_nil, stmtMentions,
    exprsMentions, keywordsMentions]
  simp only [List.nil_append, List.append_assoc, List.cons_append]
  rfl

/-- The function around a definition stands in the module. -/
theorem ofModule_factory {scope : Scope}
    (h : Scope.ofModule [surrounded frees owner d.toStmt] = .ok scope) :
    ∃ s, Stands (factory frees owner d) none [] s ∧
      scope.child? (factory frees owner d).span factoryName = some s := by
  rw [surrounded_eq] at h
  exact ofModule_definition (show factoryName ∉ anonymousNames by decide) h

end

/-- **What is bound around a definition that is compiled anew**: the variables that the old function
    takes from around, and what the surroundings bind themselves. -/
theorem ofModule_surrounded {frees : List String} {owner : Option String} {d : Splice.Definition}
    {scope : Scope} (file : String) (hname : d.name ∉ anonymousNames)
    (howner : ∀ o, owner = some o → o ∉ anonymousNames)
    (h : Scope.ofModule [surrounded frees owner d.toStmt] = .ok scope) :
    ∃ around, Stands d owner around
        ((surroundingContext file scope owner).ofFunction d.span d.name d.isAsync).scope ∧
      ∀ n, n ∈ around ↔ n ∈ frees ∨ n ∈ extras owner d := by
  have hheader : ∀ c : Setting, c.inComprehension = false →
      AllPlain (.bind (c.known d.name) :: headerMentions c d) :=
    fun c hc => allPlain_cons.2 ⟨rfl, headerMentions_plain hc d⟩
  obtain ⟨s, hstands, hfound⟩ := ofModule_factory h
  -- The factory binds the names that are free in the member, and the class stands between the two.
  cases owner with
  | none =>
    obtain ⟨outer, child, a, s', free, hchild, ha, hs', hfound', hnames⟩ :=
      hstands.last factory_bodyMentions (allPlain_append.2
        ⟨factory_params_plain _, hheader { inFunction := true } rfl⟩) hname
    have hscope : ((surroundingContext file scope none).ofFunction d.span d.name d.isAsync).scope =
        s' := by
      change scope.child? ⟨1, 0, 2, 8⟩ factoryName = some s at hfound
      change s.child? d.span d.name = some s' at hfound'
      simp only [surroundingContext, Context.ofFunction, Context.inside, Context.scopeAt, hfound,
        hfound', Option.getD_some]
    refine ⟨a.names, ⟨outer, child, a, free, hchild, Around.bound_eq ha, hscope ▸ hs'⟩, fun n => ?_⟩
    have hbound : boundByAll (bodyMentions {} (factory frees none d)) =
        frees ++ extras none d := by
      rw [bodyMentions, factory, stmtsMentions, stmtsMentions, List.append_nil, boundByAll_append,
        boundByAll_freeParameters rfl]
      rfl
    rw [hnames, hbound, List.mem_append]
    simp
  | some o =>
    have hinner : stmtsMentions { owner := some o } [d.toStmt] =
        (.bind (Setting.known { owner := some o } d.name) :: headerMentions { owner := some o } d)
          ++ [.block (headOf d) (bodyMentions { owner := some o } d)] := by
      rw [stmtsMentions, stmtsMentions, List.append_nil, stmtMentions_toStmt]
      rfl
    have hbody := @factory_bodyMentions_class frees d o
    obtain ⟨outer, cls, a, s', free, hcls, ha, hs', hfound', hnames⟩ := hstands.last hbody
      (allPlain_append.2 ⟨factory_params_plain _, by simp [Mention.isPlain]⟩) (howner o rfl)
    rw [hinner] at hcls
    obtain ⟨outer', child, q, s'', free', hchild, hplaced, hs'', hfound''⟩ :=
      ofBlock_last (hheader { owner := some o } rfl) hname hcls hs'
    have hscope : ((surroundingContext file scope (some o)).ofFunction d.span d.name
        d.isAsync).scope = s'' := by
      change scope.child? ⟨1, 0, 3, 12⟩ factoryName = some s at hfound
      change s.child? ⟨2, 4, 3, 12⟩ o = some s' at hfound'
      change s'.child? d.span d.name = some s'' at hfound''
      simp only [surroundingContext, Context.ofFunction, Context.ofClass, Context.inside,
        Context.scopeAt, hfound, hfound', hfound'', Option.getD_some]
    refine ⟨_, ⟨outer', child, _, free', hchild, Around.bound_eq rfl, hscope ▸ hs''⟩, fun n => ?_⟩
    have hbound : boundByAll (bodyMentions {} (factory frees (some o) d)) = frees ++ [o] := by
      have hlocal : outwardOfAll false (_ ++ [.block (headOf d) (bodyMentions { owner := some o } d)])
          = [] := outwardOfAll_local (hheader { owner := some o } rfl).isLocal
      rw [hbody, boundByAll_append, boundByAll_append, factory, boundByAll_freeParameters rfl]
      simp only [boundByAll, List.flatMap_cons, List.flatMap_nil, Mention.bound, hinner,
        BlockKind.isComprehension, hlocal, List.append_nil]
    rw [mem_aroundChildren]
    simp only [hnames, hbound, extras, List.mem_append, List.mem_cons, List.not_mem_nil, or_false]
    grind

end Graft.Injection
