import Graft.Scope.Mention
import Graft.Proofs.Definition

set_option autoImplicit false

/-! # What programs without their spans mention

What a piece of program mentions depends on its spans only in where it is mentioned, and on the
class that private names belong to only in what private names become. -/

namespace Graft.Scope

open Graft.Syntax

/-! ## Induction over mentions -/

/-- A mention that is not a block. -/
def Mention.IsSimple (m : Mention) : Prop := ∀ head inner, m ≠ .block head inner

theorem Mention.simple_or_block (m : Mention) :
    m.IsSimple ∨ ∃ head inner, m = .block head inner := by
  cases m with
  | block head inner => exact .inr ⟨head, inner, rfl⟩
  | _ => exact .inl (by simp [IsSimple])

section

variable {P : Mention → Prop} {Q : List Mention → Prop}

mutual

theorem Mention.induct_one (block : ∀ head inner, Q inner → P (.block head inner))
    (simple : ∀ m, m.IsSimple → P m) (nil : Q [])
    (cons : ∀ m ms, P m → Q ms → Q (m :: ms)) : (m : Mention) → P m
  | .block head inner => block head inner (Mention.induct_all block simple nil cons inner)
  | .read _ | .bind _ | .imported _ | .param _ _ | .typed _ _ | .iterated _ _
  | .declaredGlobal _ _ | .declaredNonlocal _ _ | .walrus _ _ | .walrusInIterable _
  | .starImport _ | .yields _ | .awaits => simple _ (by simp [IsSimple])

theorem Mention.induct_all (block : ∀ head inner, Q inner → P (.block head inner))
    (simple : ∀ m, m.IsSimple → P m) (nil : Q [])
    (cons : ∀ m ms, P m → Q ms → Q (m :: ms)) : (ms : List Mention) → Q ms
  | [] => nil
  | m :: ms => cons m ms (Mention.induct_one block simple nil cons m)
      (Mention.induct_all block simple nil cons ms)

end

end

/-! ## Mentions at other places -/

mutual

/-- A mention at another place. -/
def Mention.mapSpan (f : Span → Span) : Mention → Mention
  | .read n => .read n
  | .bind n => .bind n
  | .imported n => .imported n
  | .param sp n => .param (f sp) n
  | .typed sp n => .typed (f sp) n
  | .iterated sp n => .iterated (f sp) n
  | .declaredGlobal sp n => .declaredGlobal (f sp) n
  | .declaredNonlocal sp n => .declaredNonlocal (f sp) n
  | .walrus sp n => .walrus (f sp) n
  | .walrusInIterable sp => .walrusInIterable (f sp)
  | .starImport sp => .starImport (f sp)
  | .yields sp => .yields (f sp)
  | .awaits => .awaits
  | .block head inner => .block { head with span := f head.span } (mapMentionSpans f inner)

/-- Mentions at other places. -/
def mapMentionSpans (f : Span → Span) : List Mention → List Mention
  | [] => []
  | m :: ms => m.mapSpan f :: mapMentionSpans f ms

end

theorem mapMentionSpans_eq_map (f : Span → Span) (ms : List Mention) :
    mapMentionSpans f ms = ms.map (Mention.mapSpan f) := by
  induction ms with
  | nil => rfl
  | cons m ms ih => rw [mapMentionSpans, ih, List.map_cons]

/-! ## Settings in which names are the same -/

/-- Settings that differ in the class that private names belong to, and in which the names are the
    same all the same. -/
structure Setting.Agrees (c c' : Setting) : Prop where
  known : ∀ n, c.known n = c'.known n
  inFunction : c.inFunction = c'.inFunction
  inComprehension : c.inComprehension = c'.inComprehension
  inIterable : c.inIterable = c'.inIterable

namespace Setting.Agrees

variable {c c' : Setting}

theorem function (h : c.Agrees c') : c.function.Agrees c'.function :=
  ⟨h.known, rfl, rfl, h.inIterable⟩

theorem comprehension (h : c.Agrees c') : c.comprehension.Agrees c'.comprehension :=
  ⟨h.known, rfl, rfl, h.inIterable⟩

theorem inside (h : c.Agrees c') (cls : String) : (c.inside cls).Agrees (c'.inside cls) :=
  ⟨fun _ => rfl, rfl, rfl, h.inIterable⟩

theorem iterable (h : c.Agrees c') : c.iterable.Agrees c'.iterable :=
  ⟨h.known, h.inFunction, h.inComprehension, rfl⟩

end Setting.Agrees

variable (f : Span → Span) {c c' : Setting}

theorem readName_agrees (h : c.Agrees c') (name : String) :
    readName c name = (readName c' name).map (Mention.mapSpan f) := by
  simp only [readName, h.known, h.inFunction, List.map_cons, Mention.mapSpan]
  split <;> simp [Mention.mapSpan]

theorem mapDefaultSpans_eq_map (ps : List DefaultParameter) :
    mapDefaultSpans f ps = ps.map fun
      | .mk p d => .mk (p.mapSpan f) (mapSpan? f d) := by
  induction ps with
  | nil => rfl
  | cons p ps ih =>
    obtain ⟨p, d⟩ := p
    rw [mapDefaultSpans, ih, List.map_cons]

theorem mapParameterSpan?_eq_map (p : Option Parameter) :
    mapParameterSpan? f p = p.map (Parameter.mapSpan f) := by
  cases p <;> rfl

theorem paramMentions_mapSpan (h : c.Agrees c') (ps : Parameters) :
    paramMentions c (ps.mapSpan f) = (paramMentions c' ps).map (Mention.mapSpan f) := by
  obtain ⟨posOnly, plain, star, keywordOnly, doubleStar⟩ := ps
  have hone : ∀ p : Parameter, Mention.param (p.mapSpan f).span (c.known (p.mapSpan f).name) =
      (Mention.param p.span (c'.known p.name)).mapSpan f := by
    rintro ⟨sp, n, hint⟩
    simp only [Parameter.mapSpan, Parameter.span, Parameter.name, Mention.mapSpan, h.known]
  have hdefaulted : ∀ p : DefaultParameter, (match (match p with
        | .mk p d => DefaultParameter.mk (p.mapSpan f) (mapSpan? f d)) with
      | .mk p _ => Mention.param p.span (c.known p.name)) =
      (match p with
        | .mk p _ => Mention.param p.span (c'.known p.name)).mapSpan f := by
    rintro ⟨p, d⟩
    exact hone p
  have hoption : ∀ p : Option Parameter, ((p.map (Parameter.mapSpan f)).toList.map fun p =>
      Mention.param p.span (c.known p.name)) =
      (p.toList.map fun p => Mention.param p.span (c'.known p.name)).map (Mention.mapSpan f) := by
    intro p
    cases p with
    | none => rfl
    | some p => simp only [Option.map_some, Option.toList_some, List.map_cons, List.map_nil, hone]
  simp only [paramMentions, Parameters.mapSpan, mapDefaultSpans_eq_map, mapParameterSpan?_eq_map,
    List.map_append, List.map_map, hoption]
  congr 4
  · exact List.map_congr_left fun p _ => hdefaulted p
  · exact List.map_congr_left fun p _ => hdefaulted p
  · exact funext hdefaulted

/-! ## Expressions -/

mutual

theorem exprMentions_mapSpan : ∀ {c c' : Setting}, c.Agrees c' → ∀ e : Expr,
    exprMentions c (e.mapSpan f) = (exprMentions c' e).map (Mention.mapSpan f)
  | c, c', h, .boolOp sp op es => by
    simp only [Expr.mapSpan, exprMentions, exprsMentions_mapSpan h es]
  | c, c', h, .named sp t v => by
    have hwalrus : walrusMentions c (t.mapSpan f) =
        (walrusMentions c' t).map (Mention.mapSpan f) := by
      cases t <;> simp [Expr.mapSpan, walrusMentions, Mention.mapSpan, h.known]
    simp only [Expr.mapSpan, exprMentions, exprMentions_mapSpan h v, targetMentions_mapSpan h t,
      hwalrus, h.inIterable, h.inComprehension, List.map_append]
    split
    · rfl
    · split <;> rfl
  | c, c', h, .binary sp l op r => by
    simp only [Expr.mapSpan, exprMentions, exprMentions_mapSpan h l, exprMentions_mapSpan h r,
      List.map_append]
  | c, c', h, .unary sp op e => by
    simp only [Expr.mapSpan, exprMentions, exprMentions_mapSpan h e]
  | c, c', h, .lambda sp ps b => by
    simp only [Expr.mapSpan, exprMentions, defaultsMentions_mapSpan h ps,
      paramMentions_mapSpan f h.function ps, exprMentions_mapSpan h.function b, List.map_append,
      List.map_cons, List.map_nil, Mention.mapSpan, mapMentionSpans_eq_map]
  | c, c', h, .ifElse sp t b o => by
    simp only [Expr.mapSpan, exprMentions, exprMentions_mapSpan h t, exprMentions_mapSpan h b,
      exprMentions_mapSpan h o, List.map_append]
  | c, c', h, .dict sp items => by
    simp only [Expr.mapSpan, exprMentions, keysMentions_mapSpan h items,
      valuesMentions_mapSpan h items, List.map_append]
  | c, c', h, .set sp es => by
    simp only [Expr.mapSpan, exprMentions, exprsMentions_mapSpan h es]
  | c, c', h, .listComp sp e cs => by
    simp only [Expr.mapSpan, exprMentions, exprMentions_mapSpan h.comprehension e,
      comprehensionMentions_mapSpan h _ sp cs _]
  | c, c', h, .setComp sp e cs => by
    simp only [Expr.mapSpan, exprMentions, exprMentions_mapSpan h.comprehension e,
      comprehensionMentions_mapSpan h _ sp cs _]
  | c, c', h, .dictComp sp k v cs => by
    simp only [Expr.mapSpan, exprMentions, exprMentions_mapSpan h.comprehension k,
      exprMentions_mapSpan h.comprehension v, ← List.map_append,
      comprehensionMentions_mapSpan h _ sp cs _]
  | c, c', h, .generator sp e cs => by
    simp only [Expr.mapSpan, exprMentions, exprMentions_mapSpan h.comprehension e,
      comprehensionMentions_mapSpan h _ sp cs _]
  | c, c', h, .await sp e => by
    simp only [Expr.mapSpan, exprMentions, exprMentions_mapSpan h e, List.map_append,
      List.map_cons, List.map_nil, Mention.mapSpan]
  | c, c', h, .yield sp e => by
    simp only [Expr.mapSpan, exprMentions, optionMentions_mapSpan h e, List.map_append,
      List.map_cons, List.map_nil, Mention.mapSpan]
  | c, c', h, .yieldFrom sp e => by
    simp only [Expr.mapSpan, exprMentions, exprMentions_mapSpan h e, List.map_append,
      List.map_cons, List.map_nil, Mention.mapSpan]
  | c, c', h, .compare sp l cs => by
    simp only [Expr.mapSpan, exprMentions, exprMentions_mapSpan h l,
      comparandsMentions_mapSpan h cs, List.map_append]
  | c, c', h, .call sp g as ks => by
    simp only [Expr.mapSpan, exprMentions, exprMentions_mapSpan h g, exprsMentions_mapSpan h as,
      keywordsMentions_mapSpan h ks, List.map_append]
  | c, c', h, .formatted sp v conversion fmt => by
    simp only [Expr.mapSpan, exprMentions, exprMentions_mapSpan h v, optionMentions_mapSpan h fmt,
      List.map_append]
  | c, c', h, .joined sp es => by
    simp only [Expr.mapSpan, exprMentions, exprsMentions_mapSpan h es]
  | c, c', h, .constant sp v => rfl
  | c, c', h, .attribute sp v a => by
    simp only [Expr.mapSpan, exprMentions, exprMentions_mapSpan h v]
  | c, c', h, .subscript sp v i => by
    simp only [Expr.mapSpan, exprMentions, exprMentions_mapSpan h v, exprMentions_mapSpan h i,
      List.map_append]
  | c, c', h, .starred sp v => by
    simp only [Expr.mapSpan, exprMentions, exprMentions_mapSpan h v]
  | c, c', h, .name sp x => readName_agrees f h x
  | c, c', h, .list sp es => by
    simp only [Expr.mapSpan, exprMentions, exprsMentions_mapSpan h es]
  | c, c', h, .tuple sp es => by
    simp only [Expr.mapSpan, exprMentions, exprsMentions_mapSpan h es]
  | c, c', h, .slice sp l u s => by
    simp only [Expr.mapSpan, exprMentions, optionMentions_mapSpan h l, optionMentions_mapSpan h u,
      optionMentions_mapSpan h s, List.map_append]

theorem exprsMentions_mapSpan : ∀ {c c' : Setting}, c.Agrees c' → ∀ es : List Expr,
    exprsMentions c (mapSpans f es) = (exprsMentions c' es).map (Mention.mapSpan f)
  | c, c', h, [] => rfl
  | c, c', h, e :: es => by
    simp only [mapSpans, exprsMentions, exprMentions_mapSpan h e, exprsMentions_mapSpan h es,
      List.map_append]

theorem optionMentions_mapSpan : ∀ {c c' : Setting}, c.Agrees c' → ∀ e : Option Expr,
    optionMentions c (mapSpan? f e) = (optionMentions c' e).map (Mention.mapSpan f)
  | c, c', h, none => rfl
  | c, c', h, some e => by
    simp only [mapSpan?, optionMentions, exprMentions_mapSpan h e]

theorem targetMentions_mapSpan : ∀ {c c' : Setting}, c.Agrees c' → ∀ e : Expr,
    targetMentions c (e.mapSpan f) = (targetMentions c' e).map (Mention.mapSpan f)
  | c, c', h, .name sp x => by
    simp only [Expr.mapSpan, targetMentions, List.map_cons, List.map_nil, Mention.mapSpan, h.known]
  | c, c', h, .tuple sp es => by
    simp only [Expr.mapSpan, targetMentions, targetsMentions_mapSpan h es]
  | c, c', h, .list sp es => by
    simp only [Expr.mapSpan, targetMentions, targetsMentions_mapSpan h es]
  | c, c', h, .starred sp e => by
    simp only [Expr.mapSpan, targetMentions, targetMentions_mapSpan h e]
  | c, c', h, .attribute sp e a => by
    simp only [Expr.mapSpan, targetMentions, exprMentions_mapSpan h e]
  | c, c', h, .subscript sp e i => by
    simp only [Expr.mapSpan, targetMentions, exprMentions_mapSpan h e, exprMentions_mapSpan h i,
      List.map_append]
  | c, c', h, .boolOp .. | c, c', h, .named .. | c, c', h, .binary .. | c, c', h, .unary ..
  | c, c', h, .lambda .. | c, c', h, .ifElse .. | c, c', h, .dict .. | c, c', h, .set ..
  | c, c', h, .listComp .. | c, c', h, .setComp .. | c, c', h, .dictComp ..
  | c, c', h, .generator .. | c, c', h, .await .. | c, c', h, .yield .. | c, c', h, .yieldFrom ..
  | c, c', h, .compare .. | c, c', h, .call .. | c, c', h, .formatted .. | c, c', h, .joined ..
  | c, c', h, .constant .. | c, c', h, .slice .. => rfl

theorem targetsMentions_mapSpan : ∀ {c c' : Setting}, c.Agrees c' → ∀ es : List Expr,
    targetsMentions c (mapSpans f es) = (targetsMentions c' es).map (Mention.mapSpan f)
  | c, c', h, [] => rfl
  | c, c', h, e :: es => by
    simp only [mapSpans, targetsMentions, targetMentions_mapSpan h e, targetsMentions_mapSpan h es,
      List.map_append]

theorem iteratedMentions_mapSpan : ∀ {c c' : Setting}, c.Agrees c' → ∀ e : Expr,
    iteratedMentions c (e.mapSpan f) = (iteratedMentions c' e).map (Mention.mapSpan f)
  | c, c', h, .name sp x => by
    simp only [Expr.mapSpan, iteratedMentions, List.map_cons, List.map_nil, Mention.mapSpan,
      h.known]
  | c, c', h, .tuple sp es => by
    simp only [Expr.mapSpan, iteratedMentions, iteratedAllMentions_mapSpan h es]
  | c, c', h, .list sp es => by
    simp only [Expr.mapSpan, iteratedMentions, iteratedAllMentions_mapSpan h es]
  | c, c', h, .starred sp e => by
    simp only [Expr.mapSpan, iteratedMentions, iteratedMentions_mapSpan h e]
  | c, c', h, .attribute sp e a => by
    simp only [Expr.mapSpan, iteratedMentions, exprMentions_mapSpan h e]
  | c, c', h, .subscript sp e i => by
    simp only [Expr.mapSpan, iteratedMentions, exprMentions_mapSpan h e, exprMentions_mapSpan h i,
      List.map_append]
  | c, c', h, .boolOp .. | c, c', h, .named .. | c, c', h, .binary .. | c, c', h, .unary ..
  | c, c', h, .lambda .. | c, c', h, .ifElse .. | c, c', h, .dict .. | c, c', h, .set ..
  | c, c', h, .listComp .. | c, c', h, .setComp .. | c, c', h, .dictComp ..
  | c, c', h, .generator .. | c, c', h, .await .. | c, c', h, .yield .. | c, c', h, .yieldFrom ..
  | c, c', h, .compare .. | c, c', h, .call .. | c, c', h, .formatted .. | c, c', h, .joined ..
  | c, c', h, .constant .. | c, c', h, .slice .. => rfl

theorem iteratedAllMentions_mapSpan : ∀ {c c' : Setting}, c.Agrees c' → ∀ es : List Expr,
    iteratedAllMentions c (mapSpans f es) = (iteratedAllMentions c' es).map (Mention.mapSpan f)
  | c, c', h, [] => rfl
  | c, c', h, e :: es => by
    simp only [mapSpans, iteratedAllMentions, iteratedMentions_mapSpan h e,
      iteratedAllMentions_mapSpan h es, List.map_append]

theorem keysMentions_mapSpan : ∀ {c c' : Setting}, c.Agrees c' → ∀ items : List DictItem,
    keysMentions c (mapItemSpans f items) = (keysMentions c' items).map (Mention.mapSpan f)
  | c, c', h, [] => rfl
  | c, c', h, .pair k v :: rest => by
    simp only [mapItemSpans, keysMentions, exprMentions_mapSpan h k, keysMentions_mapSpan h rest,
      List.map_append]
  | c, c', h, .unpack v :: rest => by
    simp only [mapItemSpans, keysMentions, keysMentions_mapSpan h rest]

theorem valuesMentions_mapSpan : ∀ {c c' : Setting}, c.Agrees c' → ∀ items : List DictItem,
    valuesMentions c (mapItemSpans f items) = (valuesMentions c' items).map (Mention.mapSpan f)
  | c, c', h, [] => rfl
  | c, c', h, .pair k v :: rest => by
    simp only [mapItemSpans, valuesMentions, exprMentions_mapSpan h v,
      valuesMentions_mapSpan h rest, List.map_append]
  | c, c', h, .unpack v :: rest => by
    simp only [mapItemSpans, valuesMentions, exprMentions_mapSpan h v,
      valuesMentions_mapSpan h rest, List.map_append]

theorem comparandsMentions_mapSpan : ∀ {c c' : Setting}, c.Agrees c' → ∀ cs : List Comparand,
    comparandsMentions c (mapComparandSpans f cs) =
      (comparandsMentions c' cs).map (Mention.mapSpan f)
  | c, c', h, [] => rfl
  | c, c', h, .mk op e :: rest => by
    simp only [mapComparandSpans, comparandsMentions, exprMentions_mapSpan h e,
      comparandsMentions_mapSpan h rest, List.map_append]

theorem keywordsMentions_mapSpan : ∀ {c c' : Setting}, c.Agrees c' → ∀ ks : List Keyword,
    keywordsMentions c (mapKeywordSpans f ks) = (keywordsMentions c' ks).map (Mention.mapSpan f)
  | c, c', h, [] => rfl
  | c, c', h, .mk sp n e :: rest => by
    simp only [mapKeywordSpans, keywordsMentions, exprMentions_mapSpan h e,
      keywordsMentions_mapSpan h rest, List.map_append]

theorem comprehensionMentions_mapSpan : ∀ {c c' : Setting}, c.Agrees c' →
    ∀ (kind : ComprehensionKind) (sp : Span) (cs : List Clause) (element : List Mention),
    comprehensionMentions c kind (f sp) (mapClauseSpans f cs) (element.map (Mention.mapSpan f)) =
      (comprehensionMentions c' kind sp cs element).map (Mention.mapSpan f)
  | c, c', h, kind, sp, [], element => by
    simp only [mapClauseSpans, comprehensionMentions, List.map_cons, List.map_nil, Mention.mapSpan,
      mapMentionSpans_eq_map]
  | c, c', h, kind, sp, .mk a t i conditions :: rest, element => by
    have hasync : (if a then [Mention.awaits] else []) =
        (if a then [Mention.awaits] else []).map (Mention.mapSpan f) := by
      cases a <;> rfl
    simp only [mapClauseSpans, comprehensionMentions, exprMentions_mapSpan h.iterable i,
      iteratedMentions_mapSpan h.comprehension t, exprsMentions_mapSpan h.comprehension conditions,
      clausesMentions_mapSpan h.comprehension rest, List.map_append, List.map_cons, List.map_nil,
      Mention.mapSpan, mapMentionSpans_eq_map, ← hasync]

theorem clausesMentions_mapSpan : ∀ {c c' : Setting}, c.Agrees c' → ∀ cs : List Clause,
    clausesMentions c (mapClauseSpans f cs) = (clausesMentions c' cs).map (Mention.mapSpan f)
  | c, c', h, [] => rfl
  | c, c', h, .mk a t i conditions :: rest => by
    have hasync : (if a then [Mention.awaits] else []) =
        (if a then [Mention.awaits] else []).map (Mention.mapSpan f) := by
      cases a <;> rfl
    simp only [mapClauseSpans, clausesMentions, iteratedMentions_mapSpan h t,
      exprMentions_mapSpan h.iterable i, exprsMentions_mapSpan h conditions,
      clausesMentions_mapSpan h rest, List.map_append, ← hasync]

theorem defaultsMentions_mapSpan : ∀ {c c' : Setting}, c.Agrees c' → ∀ ps : Parameters,
    defaultsMentions c (ps.mapSpan f) = (defaultsMentions c' ps).map (Mention.mapSpan f)
  | c, c', h, .mk posOnly plain star keywordOnly doubleStar => by
    simp only [Parameters.mapSpan, defaultsMentions, defaultListMentions_mapSpan h posOnly,
      defaultListMentions_mapSpan h plain, defaultListMentions_mapSpan h keywordOnly,
      List.map_append]

theorem defaultListMentions_mapSpan : ∀ {c c' : Setting}, c.Agrees c' →
    ∀ ps : List DefaultParameter,
    defaultListMentions c (mapDefaultSpans f ps) =
      (defaultListMentions c' ps).map (Mention.mapSpan f)
  | c, c', h, [] => rfl
  | c, c', h, .mk p d :: rest => by
    simp only [mapDefaultSpans, defaultListMentions, optionMentions_mapSpan h d,
      defaultListMentions_mapSpan h rest, List.map_append]

end

/-! ## Statements -/

theorem bindMentions_agrees (h : c.Agrees c') (name : Option String) :
    (name.toList.map fun n => Mention.bind (c.known n)) =
      (name.toList.map fun n => Mention.bind (c'.known n)).map (Mention.mapSpan f) := by
  cases name <;> simp [Mention.mapSpan, h.known]

mutual

theorem patternMentions_mapSpan (h : c.Agrees c') : ∀ p : Pattern,
    patternMentions c (p.mapSpan f) = (patternMentions c' p).map (Mention.mapSpan f)
  | .value sp e => by simp only [Pattern.mapSpan, patternMentions, exprMentions_mapSpan f h e]
  | .singleton sp v => rfl
  | .sequence sp ps => by
    simp only [Pattern.mapSpan, patternMentions, patternsMentions_mapSpan h ps]
  | .mapping sp ks ps rest => by
    simp only [Pattern.mapSpan, patternMentions, exprsMentions_mapSpan f h ks,
      patternsMentions_mapSpan h ps, bindMentions_agrees f h, List.map_append]
  | .cls sp e ps ns qs => by
    simp only [Pattern.mapSpan, patternMentions, exprMentions_mapSpan f h e,
      patternsMentions_mapSpan h ps, patternsMentions_mapSpan h qs, List.map_append]
  | .star sp n => by
    simp only [Pattern.mapSpan, patternMentions, bindMentions_agrees f h]
  | .capture sp none n => by
    simp only [Pattern.mapSpan, patternMentions, patternMentions?, bindMentions_agrees f h,
      List.map_append, List.map_nil]
  | .capture sp (some p) n => by
    simp only [Pattern.mapSpan, patternMentions, patternMentions?, patternMentions_mapSpan h p,
      bindMentions_agrees f h, List.map_append]
  | .alternatives sp ps => by
    simp only [Pattern.mapSpan, patternMentions, patternsMentions_mapSpan h ps]

theorem patternsMentions_mapSpan (h : c.Agrees c') : ∀ ps : List Pattern,
    patternsMentions c (mapPatternSpans f ps) = (patternsMentions c' ps).map (Mention.mapSpan f)
  | [] => rfl
  | p :: ps => by
    simp only [mapPatternSpans, patternsMentions, patternMentions_mapSpan h p,
      patternsMentions_mapSpan h ps, List.map_append]

end

theorem withItemMentions_mapSpan (h : c.Agrees c') (ws : List WithItem) :
    (ws.map (WithItem.mapSpan f)).flatMap (withItemMentions c) =
      (ws.flatMap (withItemMentions c')).map (Mention.mapSpan f) := by
  induction ws with
  | nil => rfl
  | cons w ws ih =>
    obtain ⟨context, target⟩ := w
    have hone : withItemMentions c (WithItem.mapSpan f ⟨context, target⟩) =
        (withItemMentions c' ⟨context, target⟩).map (Mention.mapSpan f) := by
      cases target <;>
        simp [withItemMentions, WithItem.mapSpan, mapSpan?, exprMentions_mapSpan f h context,
          targetMentions_mapSpan f h]
    rw [List.map_cons, List.flatMap_cons, List.flatMap_cons, List.map_append, hone, ih]

theorem aliasMentions_mapSpan (h : c.Agrees c') (names : List Alias) :
    (names.map (Alias.mapSpan f)).flatMap (aliasMentions c) =
      (names.flatMap (aliasMentions c')).map (Mention.mapSpan f) := by
  induction names with
  | nil => rfl
  | cons a names ih =>
    have hone : aliasMentions c (a.mapSpan f) = (aliasMentions c' a).map (Mention.mapSpan f) := by
      simp only [aliasMentions, Alias.mapSpan, Alias.bound, h.known]
      split <;> simp [Mention.mapSpan]
    rw [List.map_cons, List.flatMap_cons, List.flatMap_cons, List.map_append, hone, ih]

theorem typedTargetMentions_mapSpan (h : c.Agrees c') (sp : Span) (e : Expr)
    (simple hasValue : Bool) :
    typedTargetMentions c (f sp) (e.mapSpan f) simple hasValue =
      (typedTargetMentions c' sp e simple hasValue).map (Mention.mapSpan f) := by
  have htarget := targetMentions_mapSpan f h e
  cases e with
  | name sp' id =>
    simp only [Expr.mapSpan, typedTargetMentions, h.known]
    split
    · simp [Mention.mapSpan]
    · split <;> simp [Mention.mapSpan]
  | _ => exact htarget

theorem mapSpan?_isSome (e : Option Expr) : (mapSpan? f e).isSome = e.isSome := by
  cases e <;> rfl

theorem typeHintMentions_mapSpan (h : c.Agrees c') (p : Parameter) :
    typeHintMentions c (p.mapSpan f) = (typeHintMentions c' p).map (Mention.mapSpan f) := by
  obtain ⟨sp, n, hint⟩ := p
  simp only [Parameter.mapSpan, typeHintMentions, optionMentions_mapSpan f h hint]

theorem typeHintsMentions_mapSpan (h : c.Agrees c') (ps : Parameters) (returns : Option Expr) :
    typeHintsMentions c (ps.mapSpan f) (mapSpan? f returns) =
      (typeHintsMentions c' ps returns).map (Mention.mapSpan f) := by
  obtain ⟨posOnly, plain, star, keywordOnly, doubleStar⟩ := ps
  have hlist : ∀ qs : List DefaultParameter, ((mapDefaultSpans f qs).flatMap fun
      | .mk p _ => typeHintMentions c p) = (qs.flatMap fun
      | .mk p _ => typeHintMentions c' p).map (Mention.mapSpan f) := by
    intro qs
    induction qs with
    | nil => rfl
    | cons q qs ih =>
      obtain ⟨p, d⟩ := q
      simp only [mapDefaultSpans, List.flatMap_cons, List.map_append, ih,
        typeHintMentions_mapSpan f h p]
  have hoption : ∀ q : Option Parameter, (mapParameterSpan? f q).toList.flatMap (typeHintMentions c)
      = (q.toList.flatMap (typeHintMentions c')).map (Mention.mapSpan f) := by
    intro q
    cases q with
    | none => rfl
    | some p =>
      simp only [mapParameterSpan?, Option.toList_some, List.flatMap_cons, List.flatMap_nil,
        List.append_nil, typeHintMentions_mapSpan f h p]
  simp only [typeHintsMentions, Parameters.mapSpan, hoption, optionMentions_mapSpan f h returns,
    List.map_append]
  congr 4
  · congr 1
    · exact hlist posOnly
    · exact hlist plain
  · exact hlist keywordOnly

mutual

theorem stmtMentions_mapSpan : ∀ {c c' : Setting}, c.Agrees c' → ∀ s : Stmt,
    stmtMentions c (s.mapSpan f) = (stmtMentions c' s).map (Mention.mapSpan f)
  | c, c', h, .functionDef sp a n ps b ds r => by
    simp only [Stmt.mapSpan, stmtMentions, defaultsMentions_mapSpan f h ps,
      typeHintsMentions_mapSpan f h ps r, exprsMentions_mapSpan f h ds,
      paramMentions_mapSpan f h.function ps, stmtsMentions_mapSpan h.function b, List.map_append,
      List.map_cons, List.map_nil, Mention.mapSpan, mapMentionSpans_eq_map, h.known]
  | c, c', h, .classDef sp n bs ks b ds => by
    simp only [Stmt.mapSpan, stmtMentions, exprsMentions_mapSpan f h bs,
      keywordsMentions_mapSpan f h ks, exprsMentions_mapSpan f h ds,
      stmtsMentions_mapSpan (h.inside n) b, List.map_append, List.map_cons, List.map_nil,
      Mention.mapSpan, mapMentionSpans_eq_map, h.known]
  | c, c', h, .ret sp v => by
    simp only [Stmt.mapSpan, stmtMentions, optionMentions_mapSpan f h v]
  | c, c', h, .delete sp ts => by
    simp only [Stmt.mapSpan, stmtMentions, targetsMentions_mapSpan f h ts]
  | c, c', h, .assign sp ts v => by
    simp only [Stmt.mapSpan, stmtMentions, targetsMentions_mapSpan f h ts,
      exprMentions_mapSpan f h v, List.map_append]
  | c, c', h, .augAssign sp t op v => by
    simp only [Stmt.mapSpan, stmtMentions, targetMentions_mapSpan f h t,
      exprMentions_mapSpan f h v, List.map_append]
  | c, c', h, .annAssign sp t a v simple => by
    simp only [Stmt.mapSpan, stmtMentions, mapSpan?_isSome, typedTargetMentions_mapSpan f h,
      exprMentions_mapSpan f h a, optionMentions_mapSpan f h v, List.map_append]
  | c, c', h, .forLoop sp a t i b o => by
    simp only [Stmt.mapSpan, stmtMentions, targetMentions_mapSpan f h t,
      exprMentions_mapSpan f h i, stmtsMentions_mapSpan h b, stmtsMentions_mapSpan h o,
      List.map_append]
  | c, c', h, .whileLoop sp t b o => by
    simp only [Stmt.mapSpan, stmtMentions, exprMentions_mapSpan f h t, stmtsMentions_mapSpan h b,
      stmtsMentions_mapSpan h o, List.map_append]
  | c, c', h, .cond sp t b o => by
    simp only [Stmt.mapSpan, stmtMentions, exprMentions_mapSpan f h t, stmtsMentions_mapSpan h b,
      stmtsMentions_mapSpan h o, List.map_append]
  | c, c', h, .withBlock sp a ws b => by
    have hitems := withItemMentions_mapSpan f h ws
    simp only [Stmt.mapSpan, stmtMentions, stmtsMentions_mapSpan h b, List.map_append]
    rw [← hitems]
  | c, c', h, .matchBlock sp e cs => by
    simp only [Stmt.mapSpan, stmtMentions, exprMentions_mapSpan f h e, casesMentions_mapSpan h cs,
      List.map_append]
  | c, c', h, .raise sp e cause => by
    simp only [Stmt.mapSpan, stmtMentions, optionMentions_mapSpan f h e,
      optionMentions_mapSpan f h cause, List.map_append]
  | c, c', h, .tryBlock sp isStar b hs o fb => by
    simp only [Stmt.mapSpan, stmtMentions, stmtsMentions_mapSpan h b, stmtsMentions_mapSpan h o,
      stmtsMentions_mapSpan h fb, handlersMentions_mapSpan h hs, List.map_append]
  | c, c', h, .assert sp t m => by
    simp only [Stmt.mapSpan, stmtMentions, exprMentions_mapSpan f h t,
      optionMentions_mapSpan f h m, List.map_append]
  | c, c', h, .importNames sp names => by
    have hnames := aliasMentions_mapSpan f h names
    simp only [Stmt.mapSpan, stmtMentions]
    rw [← hnames]
  | c, c', h, .importFrom sp m names level => by
    have hnames := aliasMentions_mapSpan f h names
    simp only [Stmt.mapSpan, stmtMentions]
    rw [← hnames]
  | c, c', h, .global sp names => by
    simp only [Stmt.mapSpan, stmtMentions, List.map_map, h.known]
    rfl
  | c, c', h, .nonlocal sp names => by
    simp only [Stmt.mapSpan, stmtMentions, List.map_map, h.known]
    rfl
  | c, c', h, .expr sp v => by
    simp only [Stmt.mapSpan, stmtMentions, exprMentions_mapSpan f h v]
  | c, c', h, .pass sp => rfl
  | c, c', h, .break sp => rfl
  | c, c', h, .continue sp => rfl

theorem stmtsMentions_mapSpan : ∀ {c c' : Setting}, c.Agrees c' → ∀ ss : List Stmt,
    stmtsMentions c (mapStmtSpans f ss) = (stmtsMentions c' ss).map (Mention.mapSpan f)
  | c, c', h, [] => rfl
  | c, c', h, s :: ss => by
    simp only [mapStmtSpans, stmtsMentions, stmtMentions_mapSpan h s, stmtsMentions_mapSpan h ss,
      List.map_append]

theorem handlersMentions_mapSpan : ∀ {c c' : Setting}, c.Agrees c' → ∀ hs : List Handler,
    handlersMentions c (mapHandlerSpans f hs) = (handlersMentions c' hs).map (Mention.mapSpan f)
  | c, c', h, [] => rfl
  | c, c', h, .mk sp t n b :: rest => by
    simp only [mapHandlerSpans, handlersMentions, optionMentions_mapSpan f h t,
      bindMentions_agrees f h, stmtsMentions_mapSpan h b, handlersMentions_mapSpan h rest,
      List.map_append]

theorem casesMentions_mapSpan : ∀ {c c' : Setting}, c.Agrees c' → ∀ cs : List MatchCase,
    casesMentions c (mapCaseSpans f cs) = (casesMentions c' cs).map (Mention.mapSpan f)
  | c, c', h, [] => rfl
  | c, c', h, .mk p g b :: rest => by
    simp only [mapCaseSpans, casesMentions, patternMentions_mapSpan f h p,
      optionMentions_mapSpan f h g, stmtsMentions_mapSpan h b, casesMentions_mapSpan h rest,
      List.map_append]

end

end Graft.Scope
