import Graft.Proofs.Anonymous
import Graft.Proofs.Outline

set_option autoImplicit false

/-! # What the header of a definition mentions

The header of a definition, which is its defaults, types and decorators, belongs to the block that
the definition stands in.  It consists of expressions, so that all it does there is to read names and
to bind some by named expressions; and the blocks in it have no name. -/

namespace Graft.Scope

open Graft.Syntax Graft.Code

/-! ## Plain mentions -/

/-- Whether a mention says nothing of blocks around, and is no block with a name. -/
def Mention.isPlain : Mention → Bool
  | .declaredGlobal .. | .declaredNonlocal .. | .walrus .. => false
  | .block head _ => anonymousNames.contains head.name
  | _ => true

/-- The mentions are plain. -/
def AllPlain (ms : List Mention) : Prop := ∀ m ∈ ms, m.isPlain = true

@[simp] theorem allPlain_nil : AllPlain [] := by simp [AllPlain]

@[simp] theorem allPlain_cons {m : Mention} {ms : List Mention} :
    AllPlain (m :: ms) ↔ m.isPlain = true ∧ AllPlain ms := by
  simp [AllPlain]

@[simp] theorem allPlain_append {ms ms' : List Mention} :
    AllPlain (ms ++ ms') ↔ AllPlain ms ∧ AllPlain ms' := by
  simp only [AllPlain, List.mem_append]
  constructor
  · exact fun h => ⟨fun m hm => h m (.inl hm), fun m hm => h m (.inr hm)⟩
  · rintro ⟨h, h'⟩ m (hm | hm)
    · exact h m hm
    · exact h' m hm

theorem readName_plain (c : Setting) (name : String) : AllPlain (readName c name) := by
  unfold readName
  split <;> simp [Mention.isPlain]

theorem boundParameters_plain (c : Setting) (ds : List DefaultParameter) : AllPlain (ds.map fun
    | .mk p _ => Mention.param p.span (c.known p.name)) := by
  intro m hm
  obtain ⟨⟨p, d⟩, -, rfl⟩ := List.mem_map.1 hm
  rfl

theorem paramMentions_plain (c : Setting) (ps : Parameters) : AllPlain (paramMentions c ps) := by
  obtain ⟨posOnly, plain, star, keywordOnly, doubleStar⟩ := ps
  have hoption : ∀ p : Option Parameter,
      AllPlain (p.toList.map fun p => Mention.param p.span (c.known p.name)) := by
    intro p m hm
    obtain ⟨p, -, rfl⟩ := List.mem_map.1 hm
    rfl
  simp only [paramMentions, allPlain_append]
  exact ⟨⟨⟨⟨boundParameters_plain c posOnly, boundParameters_plain c plain⟩,
    boundParameters_plain c keywordOnly⟩, hoption star⟩, hoption doubleStar⟩

/-! ## Expressions -/

mutual

theorem exprMentions_plain : ∀ {c : Setting}, c.inComprehension = false → (e : Expr) →
    AllPlain (exprMentions c e)
  | c, h, .boolOp _ _ es => by
    rw [exprMentions]
    exact exprsMentions_plain h es
  | c, h, .named sp t v => by
    rw [exprMentions, h]
    simp only [Bool.false_eq_true, if_false, allPlain_append]
    refine ⟨⟨?_, exprMentions_plain h v⟩, targetMentions_plain h t⟩
    split <;> simp [Mention.isPlain]
  | c, h, .binary _ l _ r => by
    rw [exprMentions, allPlain_append]
    exact ⟨exprMentions_plain h l, exprMentions_plain h r⟩
  | c, h, .unary _ _ e => by
    rw [exprMentions]
    exact exprMentions_plain h e
  | c, h, .lambda sp ps b => by
    rw [exprMentions, allPlain_append]
    exact ⟨defaultsMentions_plain h ps, by simp [Mention.isPlain, anonymousNames]⟩
  | c, h, .ifElse _ t b o => by
    rw [exprMentions, allPlain_append, allPlain_append]
    exact ⟨⟨exprMentions_plain h t, exprMentions_plain h b⟩, exprMentions_plain h o⟩
  | c, h, .dict _ items => by
    rw [exprMentions, allPlain_append]
    exact ⟨keysMentions_plain h items, valuesMentions_plain h items⟩
  | c, h, .set _ es => by
    rw [exprMentions]
    exact exprsMentions_plain h es
  | c, h, .listComp sp e cs => by
    rw [exprMentions]
    exact comprehensionMentions_plain h _ sp cs _
  | c, h, .setComp sp e cs => by
    rw [exprMentions]
    exact comprehensionMentions_plain h _ sp cs _
  | c, h, .dictComp sp k v cs => by
    rw [exprMentions]
    exact comprehensionMentions_plain h _ sp cs _
  | c, h, .generator sp e cs => by
    rw [exprMentions]
    exact comprehensionMentions_plain h _ sp cs _
  | c, h, .await _ e => by
    rw [exprMentions, allPlain_append]
    exact ⟨exprMentions_plain h e, by simp [Mention.isPlain]⟩
  | c, h, .yield sp e => by
    rw [exprMentions, allPlain_append]
    exact ⟨optionMentions_plain h e, by simp [Mention.isPlain]⟩
  | c, h, .yieldFrom sp e => by
    rw [exprMentions, allPlain_append]
    exact ⟨exprMentions_plain h e, by simp [Mention.isPlain]⟩
  | c, h, .compare _ l cs => by
    rw [exprMentions, allPlain_append]
    exact ⟨exprMentions_plain h l, comparandsMentions_plain h cs⟩
  | c, h, .call _ f args ks => by
    rw [exprMentions, allPlain_append, allPlain_append]
    exact ⟨⟨exprMentions_plain h f, exprsMentions_plain h args⟩, keywordsMentions_plain h ks⟩
  | c, h, .formatted _ e _ format => by
    rw [exprMentions, allPlain_append]
    exact ⟨exprMentions_plain h e, optionMentions_plain h format⟩
  | c, h, .joined _ es => by
    rw [exprMentions]
    exact exprsMentions_plain h es
  | c, h, .constant _ _ => by simp [exprMentions]
  | c, h, .attribute _ e _ => by
    rw [exprMentions]
    exact exprMentions_plain h e
  | c, h, .subscript _ e i => by
    rw [exprMentions, allPlain_append]
    exact ⟨exprMentions_plain h e, exprMentions_plain h i⟩
  | c, h, .starred _ e => by
    rw [exprMentions]
    exact exprMentions_plain h e
  | c, h, .name _ id => by
    rw [exprMentions]
    exact readName_plain c id
  | c, h, .list _ es => by
    rw [exprMentions]
    exact exprsMentions_plain h es
  | c, h, .tuple _ es => by
    rw [exprMentions]
    exact exprsMentions_plain h es
  | c, h, .slice _ l u s => by
    rw [exprMentions, allPlain_append, allPlain_append]
    exact ⟨⟨optionMentions_plain h l, optionMentions_plain h u⟩, optionMentions_plain h s⟩

theorem exprsMentions_plain : ∀ {c : Setting}, c.inComprehension = false → (es : List Expr) →
    AllPlain (exprsMentions c es)
  | c, h, [] => by simp [exprsMentions]
  | c, h, e :: es => by
    rw [exprsMentions, allPlain_append]
    exact ⟨exprMentions_plain h e, exprsMentions_plain h es⟩

theorem optionMentions_plain : ∀ {c : Setting}, c.inComprehension = false → (e : Option Expr) →
    AllPlain (optionMentions c e)
  | c, h, none => by simp [optionMentions]
  | c, h, some e => by
    rw [optionMentions]
    exact exprMentions_plain h e

theorem targetMentions_plain : ∀ {c : Setting}, c.inComprehension = false → (e : Expr) →
    AllPlain (targetMentions c e)
  | c, h, .name _ id => by simp [targetMentions, Mention.isPlain]
  | c, h, .tuple _ es => by
    rw [targetMentions]
    exact targetsMentions_plain h es
  | c, h, .list _ es => by
    rw [targetMentions]
    exact targetsMentions_plain h es
  | c, h, .starred _ e => by
    rw [targetMentions]
    exact targetMentions_plain h e
  | c, h, .attribute _ e _ => by
    rw [targetMentions]
    exact exprMentions_plain h e
  | c, h, .subscript _ e i => by
    rw [targetMentions, allPlain_append]
    exact ⟨exprMentions_plain h e, exprMentions_plain h i⟩
  | c, h, .boolOp .. | c, h, .named .. | c, h, .binary .. | c, h, .unary .. | c, h, .lambda ..
  | c, h, .ifElse .. | c, h, .dict .. | c, h, .set .. | c, h, .listComp .. | c, h, .setComp ..
  | c, h, .dictComp .. | c, h, .generator .. | c, h, .await .. | c, h, .yield ..
  | c, h, .yieldFrom .. | c, h, .compare .. | c, h, .call .. | c, h, .formatted ..
  | c, h, .joined .. | c, h, .constant .. | c, h, .slice .. => by simp [targetMentions]

theorem targetsMentions_plain : ∀ {c : Setting}, c.inComprehension = false → (es : List Expr) →
    AllPlain (targetsMentions c es)
  | c, h, [] => by simp [targetsMentions]
  | c, h, e :: es => by
    rw [targetsMentions, allPlain_append]
    exact ⟨targetMentions_plain h e, targetsMentions_plain h es⟩

theorem keysMentions_plain : ∀ {c : Setting}, c.inComprehension = false → (items : List DictItem) →
    AllPlain (keysMentions c items)
  | c, h, [] => by simp [keysMentions]
  | c, h, .pair k _ :: rest => by
    rw [keysMentions, allPlain_append]
    exact ⟨exprMentions_plain h k, keysMentions_plain h rest⟩
  | c, h, .unpack _ :: rest => by
    rw [keysMentions]
    exact keysMentions_plain h rest

theorem valuesMentions_plain : ∀ {c : Setting}, c.inComprehension = false →
    (items : List DictItem) → AllPlain (valuesMentions c items)
  | c, h, [] => by simp [valuesMentions]
  | c, h, .pair _ v :: rest => by
    rw [valuesMentions, allPlain_append]
    exact ⟨exprMentions_plain h v, valuesMentions_plain h rest⟩
  | c, h, .unpack v :: rest => by
    rw [valuesMentions, allPlain_append]
    exact ⟨exprMentions_plain h v, valuesMentions_plain h rest⟩

theorem comparandsMentions_plain : ∀ {c : Setting}, c.inComprehension = false →
    (cs : List Comparand) → AllPlain (comparandsMentions c cs)
  | c, h, [] => by simp [comparandsMentions]
  | c, h, .mk _ e :: rest => by
    rw [comparandsMentions, allPlain_append]
    exact ⟨exprMentions_plain h e, comparandsMentions_plain h rest⟩

theorem keywordsMentions_plain : ∀ {c : Setting}, c.inComprehension = false →
    (ks : List Keyword) → AllPlain (keywordsMentions c ks)
  | c, h, [] => by simp [keywordsMentions]
  | c, h, .mk _ _ e :: rest => by
    rw [keywordsMentions, allPlain_append]
    exact ⟨exprMentions_plain h e, keywordsMentions_plain h rest⟩

theorem comprehensionMentions_plain : ∀ {c : Setting}, c.inComprehension = false →
    (kind : ComprehensionKind) → (sp : Span) → (cs : List Clause) → (element : List Mention) →
    AllPlain (comprehensionMentions c kind sp cs element)
  | c, h, kind, sp, [], element => by
    simp [comprehensionMentions, Mention.isPlain, blockName_mem_anonymousNames]
  | c, h, kind, sp, .mk isAsync target iter conditions :: rest, element => by
    have hiter : c.iterable.inComprehension = false := h
    rw [comprehensionMentions, allPlain_append]
    exact ⟨exprMentions_plain hiter iter, by
      simp [Mention.isPlain, blockName_mem_anonymousNames]⟩

theorem defaultsMentions_plain : ∀ {c : Setting}, c.inComprehension = false →
    (ps : Parameters) → AllPlain (defaultsMentions c ps)
  | c, h, .mk posOnly plain star keywordOnly doubleStar => by
    rw [defaultsMentions, allPlain_append, allPlain_append]
    exact ⟨⟨defaultListMentions_plain h posOnly, defaultListMentions_plain h plain⟩,
      defaultListMentions_plain h keywordOnly⟩

theorem defaultListMentions_plain : ∀ {c : Setting}, c.inComprehension = false →
    (ps : List DefaultParameter) → AllPlain (defaultListMentions c ps)
  | c, h, [] => by simp [defaultListMentions]
  | c, h, .mk _ d :: rest => by
    rw [defaultListMentions, allPlain_append]
    exact ⟨optionMentions_plain h d, defaultListMentions_plain h rest⟩

end

theorem typeHintMentions_plain {c : Setting} (h : c.inComprehension = false) (p : Parameter) :
    AllPlain (typeHintMentions c p) := by
  obtain ⟨sp, name, hint⟩ := p
  exact optionMentions_plain h hint

theorem parameterHints_plain {c : Setting} (h : c.inComprehension = false)
    (ds : List DefaultParameter) : AllPlain (ds.flatMap fun
      | .mk p _ => typeHintMentions c p) := by
  intro m hm
  obtain ⟨⟨p, d⟩, -, hm⟩ := List.mem_flatMap.1 hm
  exact typeHintMentions_plain h p m hm

theorem typeHintsMentions_plain {c : Setting} (h : c.inComprehension = false) (ps : Parameters)
    (returns : Option Expr) : AllPlain (typeHintsMentions c ps returns) := by
  obtain ⟨posOnly, plain, star, keywordOnly, doubleStar⟩ := ps
  have hlist := parameterHints_plain h
  have hoption : ∀ p : Option Parameter, AllPlain (p.toList.flatMap (typeHintMentions c)) := by
    intro p m hm
    obtain ⟨p, -, hm⟩ := List.mem_flatMap.1 hm
    exact typeHintMentions_plain h p m hm
  simp only [typeHintsMentions, allPlain_append]
  exact ⟨⟨⟨⟨⟨hlist posOnly, hlist plain⟩, hoption star⟩, hoption doubleStar⟩, hlist keywordOnly⟩,
    optionMentions_plain h returns⟩

/-! ## Definitions -/

/-- What the header of a definition mentions. -/
def headerMentions (c : Setting) (d : Splice.Definition) : List Mention :=
  defaultsMentions c d.params ++ typeHintsMentions c d.params d.returns
    ++ exprsMentions c d.decorators

/-- What a definition mentions inside. -/
def bodyMentions (c : Setting) (d : Splice.Definition) : List Mention :=
  paramMentions c.function d.params ++ stmtsMentions c.function d.body

/-- What the block of a definition is called and where it stands. -/
def headOf (d : Splice.Definition) : BlockHead := ⟨.function, d.name, d.span⟩

theorem stmtMentions_toStmt (c : Setting) (d : Splice.Definition) :
    stmtMentions c d.toStmt =
      .bind (c.known d.name) :: (headerMentions c d ++ [.block (headOf d) (bodyMentions c d)]) := by
  rw [Splice.Definition.toStmt, stmtMentions]
  rfl

theorem headerMentions_plain {c : Setting} (h : c.inComprehension = false)
    (d : Splice.Definition) : AllPlain (headerMentions c d) := by
  unfold headerMentions
  rw [allPlain_append, allPlain_append]
  exact ⟨⟨defaultsMentions_plain h _, typeHintsMentions_plain h _ _⟩, exprsMentions_plain h _⟩

/-! ## Names that are bound -/

/-- Whether a block is a comprehension. -/
def BlockKind.isComprehension : BlockKind → Bool
  | .comprehension _ => true
  | _ => false

mutual

/-- The names that a mention binds in the block around, given whether it stands in a
    comprehension. -/
def Mention.outward (inComprehension : Bool) : Mention → List String
  | .walrus _ n => [n]
  | .block head within =>
    if inComprehension then outwardOfAll head.kind.isComprehension within else []
  | _ => []

/-- The names that mentions bind in the block around. -/
def outwardOfAll (inComprehension : Bool) : List Mention → List String
  | [] => []
  | m :: ms => m.outward inComprehension ++ outwardOfAll inComprehension ms

end

/-- The names that a mention binds in a function. -/
def Mention.bound : Mention → List String
  | .bind n | .imported n | .param _ n | .typed _ n | .iterated _ n => [n]
  | .block head within => outwardOfAll head.kind.isComprehension within
  | _ => []

/-- The names that mentions bind in a function. -/
def boundByAll (ms : List Mention) : List String := ms.flatMap Mention.bound

/-- Whether a mention says nothing of blocks around. -/
def Mention.isLocal : Mention → Bool
  | .declaredGlobal .. | .declaredNonlocal .. | .walrus .. => false
  | _ => true

theorem Mention.isLocal_of_plain {m : Mention} (h : m.isPlain = true) : m.isLocal = true := by
  cases m <;> first | rfl | cases h

theorem symbolOf_cons (s : Symbol) (ss : List Symbol) (n : String) :
    symbolOf (s :: ss) n = if s.name = n then s else symbolOf ss n := by
  unfold symbolOf
  by_cases h : s.name = n
  · simp [h]
  · simp [h]

theorem symbolOf_changeSymbol {n : String} {f : Symbol → Symbol}
    (hf : ∀ s, (f s).name = s.name) (ss : List Symbol) (m : String) :
    symbolOf (changeSymbol n f ss) m = if m = n then f (symbolOf ss n) else symbolOf ss m := by
  induction ss with
  | nil =>
    rw [changeSymbol, symbolOf_cons, hf]
    by_cases h : m = n
    · simp [h, symbolOf]
    · simp [h, Ne.symm h]
  | cons s ss ih =>
    rw [changeSymbol]
    by_cases hs : s.name = n
    · rw [if_pos (by simpa using hs), symbolOf_cons, hf, symbolOf_cons, symbolOf_cons, hs]
      by_cases h : m = n
      · simp [h]
      · simp [h, Ne.symm h]
    · rw [if_neg (by simpa using hs), symbolOf_cons, symbolOf_cons, symbolOf_cons, ih, if_neg hs]
      by_cases h : m = n
      · simp [h, hs]
      · simp [h]

theorem outwardOfAll_local {ms : List Mention} (h : ∀ m ∈ ms, m.isLocal = true) :
    outwardOfAll false ms = [] := by
  induction ms with
  | nil => rfl
  | cons m ms ih =>
    have hm := h m List.mem_cons_self
    rw [outwardOfAll, ih fun m hm => h m (List.mem_cons_of_mem _ hm), List.append_nil]
    cases m with
    | walrus sp n => cases hm
    | _ => rfl

theorem outwardOfAll_mapSpan (f : Span → Span) (ms : List Mention) (b : Bool) :
    outwardOfAll b (ms.map (Mention.mapSpan f)) = outwardOfAll b ms := by
  refine Mention.induct_all
    (P := fun m => ∀ b, (m.mapSpan f).outward b = m.outward b)
    (Q := fun ms => ∀ b, outwardOfAll b (ms.map (Mention.mapSpan f)) = outwardOfAll b ms)
    ?block ?simple ?nil ?cons ms b
  case block =>
    intro head inner ih b
    rw [Mention.mapSpan, Mention.outward, Mention.outward, mapMentionSpans_eq_map, ih]
  case simple =>
    intro m hm b
    cases m with
    | block head inner => exact absurd rfl (hm head inner)
    | _ => rfl
  case nil => exact fun _ => rfl
  case cons =>
    intro m ms ihm ihms b
    rw [List.map_cons, outwardOfAll, outwardOfAll, ihm, ihms]

/-- Spans do not matter for what is bound. -/
theorem boundByAll_mapSpan (f : Span → Span) (ms : List Mention) :
    boundByAll (ms.map (Mention.mapSpan f)) = boundByAll ms := by
  have hone : ∀ m : Mention, (m.mapSpan f).bound = m.bound := by
    intro m
    cases m with
    | block head inner =>
      rw [Mention.mapSpan, Mention.bound, Mention.bound, mapMentionSpans_eq_map,
        outwardOfAll_mapSpan]
    | _ => rfl
  unfold boundByAll
  rw [List.flatMap_map]
  exact congrArg (fun g => ms.flatMap g) (funext hone)

/-- What is said about the names of a tidy block, as it is looked up. -/
theorem Tidy.exists_iff {ss : List Symbol} (h : Tidy ss) {p : Symbol → Bool} {n : String}
    (hp : p { name := n } = false) :
    (∃ s ∈ ss, s.name = n ∧ p s = true) ↔ p (symbolOf ss n) = true := by
  induction ss with
  | nil => simp [symbolOf, hp]
  | cons s ss ih =>
    obtain ⟨hfresh, htidy⟩ := List.nodup_cons.1 h
    rw [symbolOf_cons]
    by_cases hs : s.name = n
    · have hnone : ¬∃ t ∈ ss, t.name = n ∧ p t = true := fun ⟨t, ht, hname, _⟩ =>
        hfresh (hs.trans hname.symm ▸ List.mem_map_of_mem ht)
      simp [hs, hnone]
    · simp [hs, ih htidy]

namespace Outline

variable {o : Outline} {outer : List Enclosing}

/-- What is said about a name. -/
def symbol (o : Outline) (n : String) : Symbol := symbolOf o.symbols n

theorem symbol_change {n : String} {f : Symbol → Symbol} (hf : ∀ s, (f s).name = s.name)
    (m : String) : (o.change n f).symbol m = if m = n then f (o.symbol n) else o.symbol m :=
  symbolOf_changeSymbol hf o.symbols m

/-- A function block none of whose names has been declared to be one of blocks around. -/
structure IsUndeclared (o : Outline) : Prop where
  kind : o.kind = .function
  isGlobal : ∀ n, (o.symbol n).isGlobal = false
  isNonlocal : ∀ n, (o.symbol n).isNonlocal = false

/-- A step after which none of the names is declared either, and some more names are the block's
    own. -/
def Binds (o o' : Outline) (names : List String) : Prop :=
  o'.IsUndeclared ∧ ∀ n, (o'.symbol n).isOwn = true ↔ (o.symbol n).isOwn = true ∨ n ∈ names

theorem Binds.refl (h : o.IsUndeclared) : o.Binds o [] := ⟨h, by simp⟩

theorem Binds.trans {o₁ o₂ o₃ : Outline} {ns ms : List String} (h : o₁.Binds o₂ ns)
    (h' : o₂.Binds o₃ ms) : o₁.Binds o₃ (ns ++ ms) :=
  ⟨h'.1, fun n => by rw [h'.2, h.2, List.mem_append, or_assoc]⟩

/-- A change that makes a name the block's own. -/
theorem IsUndeclared.change_own (h : o.IsUndeclared) (n : String) {f : Symbol → Symbol}
    (hf : ∀ s, (f s).name = s.name ∧ (f s).isGlobal = s.isGlobal ∧
      (f s).isNonlocal = s.isNonlocal ∧
      ((f s).isBound || (f s).isImported || (f s).isParam) = true) :
    o.Binds (o.change n f) [n] := by
  have hsymbol := symbol_change (o := o) (n := n) fun s => (hf s).1
  obtain ⟨-, hglobal, hnonlocal, hheld⟩ := hf (o.symbol n)
  refine ⟨⟨h.kind, fun m => ?_, fun m => ?_⟩, fun m => ?_⟩
  · rw [hsymbol]
    split
    · rw [hglobal, h.isGlobal]
    · exact h.isGlobal m
  · rw [hsymbol]
    split
    · rw [hnonlocal, h.isNonlocal]
    · exact h.isNonlocal m
  · rw [hsymbol, List.mem_singleton]
    by_cases hm : m = n
    · simp [hm, Symbol.isOwn, hglobal, hnonlocal, hheld, h.isGlobal, h.isNonlocal]
    · rw [if_neg hm]
      exact (or_iff_left hm).symm

/-- A change that does not matter for whose a name is. -/
theorem IsUndeclared.change_same (h : o.IsUndeclared) (n : String) {f : Symbol → Symbol}
    (hf : ∀ s, (f s).name = s.name ∧ (f s).isGlobal = s.isGlobal ∧
      (f s).isNonlocal = s.isNonlocal ∧ (f s).isOwn = s.isOwn) :
    o.Binds (o.change n f) [] := by
  have hsymbol := symbol_change (o := o) (n := n) fun s => (hf s).1
  obtain ⟨-, hglobal, hnonlocal, hown⟩ := hf (o.symbol n)
  refine ⟨⟨h.kind, fun m => ?_, fun m => ?_⟩, fun m => ?_⟩
  · rw [hsymbol]
    split
    · rw [hglobal, h.isGlobal]
    · exact h.isGlobal m
  · rw [hsymbol]
    split
    · rw [hnonlocal, h.isNonlocal]
    · exact h.isNonlocal m
  · rw [hsymbol]
    by_cases hm : m = n
    · simp [hm, hown]
    · simp [hm]

theorem IsUndeclared.adopt (h : o.IsUndeclared) (names : List String) :
    o.Binds (o.adopt names) names := by
  -- In a function each of the names becomes bound.
  have hfold : ∀ (o : Outline), o.IsUndeclared →
      o.Binds (names.foldl (fun o n => o.change n fun s => { s with isBound := true }) o) names := by
    induction names with
    | nil => exact fun o h => .refl h
    | cons n names ih =>
      intro o h
      have hone := h.change_own n (f := fun s => { s with isBound := true }) (by simp)
      exact hone.trans (ih _ hone.1)
  unfold Outline.adopt
  rw [h.kind]
  exact hfold o h

theorem adopt_outward (o : Outline) (names : List String) :
    (o.adopt names).outward = o.outward ++ if o.kind.isComprehension then names else [] := by
  have hfold : ∀ (g : String → Symbol → Symbol) (o : Outline),
      (names.foldl (fun o n => o.change n (g n)) o).outward = o.outward := by
    intro g
    induction names with
    | nil => exact fun _ => rfl
    | cons n names ih => exact fun o => ih (o.change n (g n))
  have hglobal := hfold fun _ s => { s with isGlobal := true }
  have hbound := hfold fun _ s => { s with isBound := true }
  unfold adopt
  cases hkind : o.kind <;> simp [BlockKind.isComprehension, hglobal, hbound]

theorem noteAll_outward (ms : List Mention) :
    (o.noteAll outer ms).outward = o.outward ++ outwardOfAll o.kind.isComprehension ms := by
  refine Mention.induct_all
    (P := fun m => ∀ outer (o : Outline),
      (o.note outer m).outward = o.outward ++ m.outward o.kind.isComprehension)
    (Q := fun ms => ∀ outer (o : Outline),
      (o.noteAll outer ms).outward = o.outward ++ outwardOfAll o.kind.isComprehension ms)
    ?block ?simple ?nil ?cons ms outer o
  case block =>
    intro head inner ih outer o
    rw [note, adopt_outward, ih, List.nil_append, Mention.outward]
  case simple =>
    intro m hm outer o
    cases m with
    | block head inner => exact absurd rfl (hm head inner)
    | walrus sp n => rfl
    | _ => exact (List.append_nil _).symm
  case nil => exact fun _ o => (List.append_nil o.outward).symm
  case cons =>
    intro m ms ihm ihms outer o
    rw [noteAll, ihms, ihm, note_kind, outwardOfAll, List.append_assoc]

theorem IsUndeclared.note (h : o.IsUndeclared) {m : Mention} (hm : m.isLocal = true) :
    o.Binds (o.note outer m) m.bound := by
  cases m with
  | declaredGlobal sp n => cases hm
  | declaredNonlocal sp n => cases hm
  | walrus sp n => cases hm
  | read n => exact h.change_same n (by simp [Symbol.isOwn])
  | bind n => exact h.change_own n (by simp)
  | imported n => exact h.change_own n (by simp)
  | param sp n => exact h.change_own n (by simp)
  | typed sp n => exact h.change_own n (by simp)
  | iterated sp n => exact h.change_own n (by simp)
  | block head inner =>
    have hinner : ∀ names, { o with inner := names }.IsUndeclared :=
      fun _ => ⟨h.kind, h.isGlobal, h.isNonlocal⟩
    have houtward : (Outline.noteAll (o.enclosing :: outer) { kind := head.kind } inner).outward =
        [] ++ outwardOfAll head.kind.isComprehension inner := noteAll_outward inner
    rw [List.nil_append] at houtward
    rw [Outline.note, Mention.bound, ← houtward]
    exact (hinner _).adopt _
  | walrusInIterable sp => exact .refl h
  | starImport sp => exact .refl h
  | yields sp => exact .refl h
  | awaits => exact .refl h

/-- **The names of a function's own** are those that are bound in it, if none is declared. -/
theorem IsUndeclared.noteAll (h : o.IsUndeclared) {ms : List Mention}
    (hms : ∀ m ∈ ms, m.isLocal = true) : o.Binds (o.noteAll outer ms) (boundByAll ms) := by
  induction ms generalizing o with
  | nil => exact .refl h
  | cons m ms ih =>
    have hone : o.Binds (o.note outer m) m.bound := h.note (hms m List.mem_cons_self)
    exact hone.trans (ih hone.1 fun m hm => hms m (List.mem_cons_of_mem _ hm))

end Outline

end Graft.Scope
