import Graft.Proofs.Declared
import Graft.Proofs.Nested

set_option autoImplicit false

/-! # Titles of what instructions make

The instructions for a piece of program text make what stands in the text, each function and each
class with the title that it has there.  The spans in the text do not matter for that, as long as the
scope of each block is found by its span. -/

namespace Graft.Code

open Graft.Machine Graft.Scope Graft.Syntax

mutual

/-- The titles of the functions and classes that an instruction makes, and of those made in them. -/
def Instr.titles : Instr → List Title
  | .function code _ _ _ => titles code
  | .buildClass code _ _ => titles code
  | _ => []

/-- The titles of the function or class that some code is for, and of those made in it. -/
def titles : Code → List Title
  | .mk info is =>
    (if info.kind == .comprehension then [] else [⟨info.name, info.qualname⟩]) ++ titlesOf is

/-- The titles of all that instructions make. -/
def titlesOf : List Instr → List Title
  | [] => []
  | i :: is => i.titles ++ titlesOf is

end

@[simp] theorem titlesOf_nil : titlesOf [] = [] := by rw [titlesOf]

@[simp] theorem titlesOf_cons (i : Instr) (is : List Instr) :
    titlesOf (i :: is) = i.titles ++ titlesOf is := by rw [titlesOf]

@[simp] theorem titlesOf_append (is js : List Instr) :
    titlesOf (is ++ js) = titlesOf is ++ titlesOf js := by
  induction is with
  | nil => simp
  | cons i is ih => simp [ih]

/-- What is made by instructions, if there are any, are the given things. -/
def Titled (p : Whereabouts) (x : Except Fault (List Instr)) (ns : List Nested) : Prop :=
  ∀ is, x = .ok is → titlesOf is = titlesAll p ns

section Rules

variable {α : Type} {p : Whereabouts} {ns : List Nested}

@[simp] theorem titled_ok {is : List Instr} :
    Titled p (.ok is) ns ↔ titlesOf is = titlesAll p ns := by
  simp [Titled]

@[simp] theorem titled_failAt {sp : Span} {message : String} : Titled p (failAt sp message) ns := by
  simp [Titled, failAt]

theorem Titled.bind {x : Except Fault α} {f : α → Except Fault (List Instr)}
    (h : ∀ a, x = .ok a → Titled p (f a) ns) : Titled p (x >>= f) ns := by
  intro is his
  obtain ⟨a, ha, hf⟩ := bind_eq_ok.1 his
  exact h a ha is hf

theorem Titled.ite {q : Prop} [Decidable q] {x y : Except Fault (List Instr)}
    (hx : Titled p x ns) (hy : Titled p y ns) : Titled p (if q then x else y) ns := by
  split
  · exact hx
  · exact hy

end Rules

@[simp] theorem titlesAll_nil (p : Whereabouts) : titlesAll p [] = [] := by rw [titlesAll]

attribute [simp] titlesAll_append

/-! ## Places -/

/-- The place of a piece of program is that of its text. -/
structure Context.At (c : Context) (p : Whereabouts) : Prop where
  owner_eq : c.owner = p.owner
  kind_eq : c.kind = p.kind.code
  qualname_eq : c.qualname = p.qualname

section

variable {c : Context} {p : Whereabouts}

theorem Context.At.qualnameOf (h : c.At p) (name : String) :
    c.qualnameOf name = p.lead ++ name := by
  obtain ⟨owner, kind, qualname, globals⟩ := p
  rw [Context.qualnameOf, Whereabouts.lead, h.kind_eq, h.qualname_eq]
  cases kind with
  | cls =>
    dsimp only [NestedKind.code]
    split
    · exact String.empty_append.symm
    · rfl
  | _ => rfl

/-- The place inside a function without a name. -/
theorem Context.At.inside (h : c.At p) {kind : NestedKind}
    (hkind : kind = .lambda ∨ kind = .comprehension) (scope : Scope) (isAsync : Bool)
    (name : String) :
    (c.inside scope kind.code isAsync (c.qualnameOf name)).At (p.inside kind name []) := by
  rcases hkind with rfl | rfl
  · exact ⟨h.owner_eq, rfl, h.qualnameOf name⟩
  · exact ⟨h.owner_eq, rfl, h.qualnameOf name⟩

theorem literal_titles (v : Constant) : (literal v).titles = [] := by
  cases v <;> simp [literal, Instr.titles]

theorem storeName_titles (sp : Span) (n : String) : Titled p (storeName c sp n) [] := by
  unfold storeName
  exact .bind fun _ _ => by simp [Instr.titles]

theorem deleteName_titles (sp : Span) (n : String) : Titled p (deleteName c sp n) [] := by
  unfold deleteName
  exact .ite titled_failAt (by simp [Instr.titles])

theorem unpackInstr_titles {sp : Span} {es : List Expr} {i : Instr}
    (h : unpackInstr sp es = .ok i) : i.titles = [] := by
  unfold unpackInstr at h
  obtain ⟨shape, -, hi⟩ := bind_eq_ok.1 h
  split at hi <;> cases hi <;> simp [Instr.titles]

end

variable (f : Span → Span)

/-! ## Expressions -/

mutual

theorem expr_titles : ∀ {c : Context} {p : Whereabouts}, c.At p →
    ∀ e : Expr, Titled p (expr c e) (exprNested (e.mapSpan f))
  | c, p, h, .boolOp _ op es => by
    rw [expr, Expr.mapSpan, exprNested]
    exact operandChain_titles h _ es
  | c, p, h, .named _ t e => by
    rw [expr, Expr.mapSpan, exprNested]
    refine .bind fun a ha => .bind fun b hb => ?_
    simp [expr_titles h e a ha, assignTo_titles h t b hb, Instr.titles]
  | c, p, h, .binary _ l op r => by
    rw [expr, Expr.mapSpan, exprNested]
    refine .bind fun a ha => .bind fun b hb => ?_
    simp [expr_titles h l a ha, expr_titles h r b hb, Instr.titles]
  | c, p, h, .unary _ op e => by
    rw [expr, Expr.mapSpan, exprNested]
    refine .bind fun a ha => ?_
    simp [expr_titles h e a ha, Instr.titles]
  | c, p, h, .lambda sp ps e => by
    rw [expr, Expr.mapSpan, exprNested]
    refine .bind fun _ _ => .bind fun ds hds => .bind fun is his => ?_
    have hinner : (c.inside (c.scopeAt sp lambdaName .function) NestedKind.lambda.code false
        (c.qualnameOf lambdaName)).At (p.inside .lambda lambdaName []) :=
      h.inside (.inl rfl) _ false lambdaName
    -- The body of a lambda is compiled in a context of its own, which is at a place of its own.
    have hbody := expr_titles hinner e is his
    have hqualname : (c.inside (c.scopeAt sp lambdaName .function) .lambda false
        (c.qualnameOf lambdaName)).qualname = p.qualnameIn .lambda lambdaName := hinner.qualname_eq
    simp [defaultValues_titles h ps ds hds, Instr.titles, titles, titlesAll, Nested.titles, hbody,
      hqualname]
  | c, p, h, .ifElse _ t b o => by
    rw [expr, Expr.mapSpan, exprNested]
    refine .bind fun x hx => .bind fun y hy => .bind fun z hz => ?_
    simp [expr_titles h t x hx, expr_titles h b y hy, expr_titles h o z hz, Instr.titles]
  | c, p, h, .dict _ items => by
    rw [expr, Expr.mapSpan, exprNested]
    refine .bind fun a ha => ?_
    simp [dictItems_titles h items a ha, Instr.titles]
  | c, p, h, .set _ es => by
    rw [expr, Expr.mapSpan, exprNested]
    refine .ite (.bind fun a ha => ?_) (.bind fun a ha => ?_)
    · simp [collected_titles h es a ha, Instr.titles]
    · simp [exprs_titles h es a ha, Instr.titles]
  | c, p, h, .listComp sp e cs => by
    rw [expr, Expr.mapSpan, exprNested]
    exact comprehension_titles h .list sp cs
      (expr_titles (h.inside (.inr rfl) _ _ _) e)
  | c, p, h, .setComp sp e cs => by
    rw [expr, Expr.mapSpan, exprNested]
    exact comprehension_titles h .set sp cs
      (expr_titles (h.inside (.inr rfl) _ _ _) e)
  | c, p, h, .dictComp sp x v cs => by
    rw [expr, Expr.mapSpan, exprNested]
    refine comprehension_titles h .dict sp cs (.bind fun a ha => .bind fun b hb => ?_)
    simp [expr_titles (h.inside (.inr rfl) _ _ _) x a ha,
      expr_titles (h.inside (.inr rfl) _ _ _) v b hb]
  | c, p, h, .generator sp e cs => by
    rw [expr, Expr.mapSpan, exprNested]
    exact comprehension_titles h .generator sp cs
      (expr_titles (h.inside (.inr rfl) _ _ _) e)
  | c, p, h, .await sp e => by
    rw [expr, Expr.mapSpan, exprNested]
    refine .bind fun _ _ => .bind fun a ha => ?_
    simp [expr_titles h e a ha, Instr.titles]
  | c, p, h, .yield sp e => by
    rw [expr, Expr.mapSpan, exprNested]
    refine .bind fun _ _ => .bind fun a ha => ?_
    simp [exprOr_titles h e a ha, Instr.titles]
  | c, p, h, .yieldFrom sp e => by
    rw [expr, Expr.mapSpan, exprNested]
    refine .bind fun _ _ => .ite titled_failAt (.bind fun a ha => ?_)
    simp [expr_titles h e a ha, Instr.titles]
  | c, p, h, .compare _ l cs => by
    rw [expr, Expr.mapSpan, exprNested]
    refine .bind fun a ha => .bind fun b hb => ?_
    simp [expr_titles h l a ha, comparisons_titles h cs b hb]
  | c, p, h, .call _ g es ks => by
    rw [expr, Expr.mapSpan, exprNested]
    refine .bind fun _ _ => .bind fun a ha => .ite (.bind fun b hb => .bind fun d hd => ?_)
      (.bind fun b hb => .bind fun d hd => ?_)
    · simp [expr_titles h g a ha, collected_titles h es b hb, mergedKeywords_titles h ks d hd,
        Instr.titles]
    · simp [expr_titles h g a ha, exprs_titles h es b hb, keywordValues_titles h ks d hd, Instr.titles]
  | c, p, h, .formatted _ e conversion none => by
    rw [expr, Expr.mapSpan, exprNested, mapSpan?, optionNested]
    refine .bind fun a ha => ?_
    simp [expr_titles h e a ha, Instr.titles]
  | c, p, h, .formatted _ e conversion (some format) => by
    rw [expr, Expr.mapSpan, exprNested, mapSpan?, optionNested]
    refine .bind fun a ha => .bind fun b hb => ?_
    simp [expr_titles h e a ha, expr_titles h format b hb, Instr.titles]
  | c, p, h, .joined _ es => by
    rw [expr, Expr.mapSpan, exprNested]
    refine .bind fun a ha => ?_
    simp [exprs_titles h es a ha, Instr.titles]
  | c, p, h, .constant _ v => by simp [expr, Expr.mapSpan, exprNested, literal_titles]
  | c, p, h, .attribute _ e n => by
    rw [expr, Expr.mapSpan, exprNested]
    refine .bind fun a ha => ?_
    simp [expr_titles h e a ha, Instr.titles]
  | c, p, h, .subscript _ e i => by
    rw [expr, Expr.mapSpan, exprNested]
    refine .bind fun a ha => .bind fun b hb => ?_
    simp [expr_titles h e a ha, expr_titles h i b hb, Instr.titles]
  | c, p, h, .starred sp e => by simp [expr]
  | c, p, h, .name _ n => by simp [expr, Expr.mapSpan, exprNested, loadName, Instr.titles]
  | c, p, h, .list _ es => by
    rw [expr, Expr.mapSpan, exprNested]
    refine .ite (.bind fun a ha => ?_) (.bind fun a ha => ?_)
    · simp [collected_titles h es a ha, Instr.titles]
    · simp [exprs_titles h es a ha, Instr.titles]
  | c, p, h, .tuple _ es => by
    rw [expr, Expr.mapSpan, exprNested]
    refine .ite (.bind fun a ha => ?_) (.bind fun a ha => ?_)
    · simp [collected_titles h es a ha, Instr.titles]
    · simp [exprs_titles h es a ha, Instr.titles]
  | c, p, h, .slice _ l u s => by
    rw [expr, Expr.mapSpan, exprNested]
    refine .bind fun x hx => .bind fun y hy => .bind fun z hz => ?_
    simp [exprOr_titles h l x hx, exprOr_titles h u y hy, exprOr_titles h s z hz, Instr.titles]

theorem exprs_titles : ∀ {c : Context} {p : Whereabouts}, c.At p →
    ∀ es : List Expr, Titled p (exprs c es) (exprsNested (mapSpans f es))
  | c, p, h, [] => by simp [exprs, mapSpans, exprsNested]
  | c, p, h, e :: es => by
    rw [exprs, mapSpans, exprsNested]
    refine .bind fun a ha => .bind fun b hb => ?_
    simp [expr_titles h e a ha, exprs_titles h es b hb]

theorem exprOr_titles : ∀ {c : Context} {p : Whereabouts}, c.At p →
    ∀ e : Option Expr, Titled p (exprOr c (.push .none) e) (optionNested (mapSpan? f e))
  | c, p, h, none => by simp [exprOr, mapSpan?, optionNested, Instr.titles]
  | c, p, h, some e => by
    rw [exprOr, mapSpan?, optionNested]
    exact expr_titles h e

theorem collected_titles : ∀ {c : Context} {p : Whereabouts}, c.At p →
    ∀ es : List Expr, Titled p (collected c es) (exprsNested (mapSpans f es))
  | c, p, h, [] => by simp [collected, mapSpans, exprsNested]
  | c, p, h, e :: es => by
    cases e with
    | starred sp e =>
      rw [collected, mapSpans, exprsNested, Expr.mapSpan, exprNested]
      refine .bind fun a ha => .bind fun b hb => ?_
      simp [expr_titles h e a ha, collected_titles h es b hb, Instr.titles]
    | _ =>
      rw [collected, mapSpans, exprsNested]
      · refine .bind fun a ha => .bind fun b hb => ?_
        simp [expr_titles h _ a ha, collected_titles h es b hb, Instr.titles]
      · simp

theorem operandChain_titles : ∀ {c : Context} {p : Whereabouts}, c.At p →
    ∀ (sense : Bool) (es : List Expr), Titled p (operandChain c sense es) (exprsNested (mapSpans f es))
  | c, p, h, sense, [] => by simp [operandChain, mapSpans, exprsNested]
  | c, p, h, sense, e :: es => by
    rw [operandChain, mapSpans, exprsNested]
    refine .bind fun a ha => ?_
    cases es with
    | nil => simp [expr_titles h e a ha, mapSpans, exprsNested]
    | cons e' es =>
      refine .bind fun b hb => ?_
      simp [expr_titles h e a ha, operandChain_titles h sense (e' :: es) b hb, Instr.titles]

theorem comparisons_titles : ∀ {c : Context} {p : Whereabouts}, c.At p →
    ∀ cs : List Comparand, Titled p (comparisons c cs) (comparandsNested (mapComparandSpans f cs))
  | c, p, h, [] => by simp [comparisons, mapComparandSpans, comparandsNested]
  | c, p, h, .mk op e :: cs => by
    rw [comparisons, mapComparandSpans, comparandsNested]
    refine .bind fun a ha => ?_
    cases cs with
    | nil => simp [expr_titles h e a ha, mapComparandSpans, comparandsNested, Instr.titles]
    | cons e' cs =>
      refine .bind fun b hb => ?_
      simp [chainStep, expr_titles h e a ha, comparisons_titles h (e' :: cs) b hb, Instr.titles]

theorem dictItems_titles : ∀ {c : Context} {p : Whereabouts}, c.At p →
    ∀ items : List DictItem, Titled p (dictItems c items) (itemsNested (mapItemSpans f items))
  | c, p, h, [] => by simp [dictItems, mapItemSpans, itemsNested]
  | c, p, h, .pair x v :: items => by
    rw [dictItems, mapItemSpans, itemsNested]
    refine .bind fun a ha => .bind fun b hb => .bind fun d hd => ?_
    simp [expr_titles h x a ha, expr_titles h v b hb, dictItems_titles h items d hd, Instr.titles]
  | c, p, h, .unpack e :: items => by
    rw [dictItems, mapItemSpans, itemsNested]
    refine .bind fun a ha => .bind fun b hb => ?_
    simp [expr_titles h e a ha, dictItems_titles h items b hb, Instr.titles]

theorem keywordValues_titles : ∀ {c : Context} {p : Whereabouts}, c.At p →
    ∀ ks : List Keyword, Titled p (keywordValues c ks) (keywordsNested (mapKeywordSpans f ks))
  | c, p, h, [] => by simp [keywordValues, mapKeywordSpans, keywordsNested]
  | c, p, h, .mk _ _ e :: ks => by
    rw [keywordValues, mapKeywordSpans, keywordsNested]
    refine .bind fun a ha => .bind fun b hb => ?_
    simp [expr_titles h e a ha, keywordValues_titles h ks b hb]

theorem mergedKeywords_titles : ∀ {c : Context} {p : Whereabouts}, c.At p →
    ∀ ks : List Keyword, Titled p (mergedKeywords c ks) (keywordsNested (mapKeywordSpans f ks))
  | c, p, h, [] => by simp [mergedKeywords, mapKeywordSpans, keywordsNested]
  | c, p, h, .mk _ none e :: ks => by
    rw [mergedKeywords, mapKeywordSpans, keywordsNested]
    refine .bind fun a ha => .bind fun b hb => ?_
    simp [expr_titles h e a ha, mergedKeywords_titles h ks b hb, Instr.titles]
  | c, p, h, .mk _ (some n) e :: ks => by
    rw [mergedKeywords, mapKeywordSpans, keywordsNested]
    refine .bind fun a ha => .bind fun b hb => ?_
    simp [expr_titles h e a ha, mergedKeywords_titles h ks b hb, Instr.titles]

theorem defaultValues_titles : ∀ {c : Context} {p : Whereabouts}, c.At p →
    ∀ ps : Parameters, Titled p (defaultValues c ps) (defaultsNested (ps.mapSpan f))
  | c, p, h, .mk posOnly plain star keywordOnly doubleStar => by
    rw [defaultValues, Parameters.mapSpan, defaultsNested]
    refine .bind fun x hx => .bind fun y hy => .bind fun z hz => ?_
    simp [defaultList_titles h posOnly x hx, defaultList_titles h plain y hy,
      defaultList_titles h keywordOnly z hz]

theorem defaultList_titles : ∀ {c : Context} {p : Whereabouts}, c.At p →
    ∀ ps : List DefaultParameter, Titled p (defaultList c ps) (defaultListNested (mapDefaultSpans f ps))
  | c, p, h, [] => by simp [defaultList, mapDefaultSpans, defaultListNested]
  | c, p, h, .mk _ none :: ps => by
    rw [defaultList, mapDefaultSpans, defaultListNested, mapSpan?, optionNested]
    exact defaultList_titles h ps
  | c, p, h, .mk _ (some e) :: ps => by
    rw [defaultList, mapDefaultSpans, defaultListNested, mapSpan?, optionNested]
    refine .bind fun a ha => .bind fun b hb => ?_
    simp [expr_titles h e a ha, defaultList_titles h ps b hb]

theorem comprehension_titles : ∀ {c : Context} {p : Whereabouts}, c.At p →
    ∀ (kind : ComprehensionKind) (sp : Span) (cs : List Clause)
      {element : Except Fault (List Instr)} {ns : List Nested},
      Titled (p.inside .comprehension kind.blockName []) element ns →
      Titled p (comprehension c kind sp cs element) (comprehensionNested kind (mapClauseSpans f cs) ns)
  | c, p, h, kind, sp, [], element, ns, helement => by
    rw [comprehension, mapClauseSpans, comprehensionNested]
    exact .ite titled_failAt (by simp)
  | c, p, h, kind, sp, .mk isAsync t i ts :: rest, element, ns, helement => by
    rw [comprehension, mapClauseSpans, comprehensionNested]
    have hinner : (comprehensionContext c kind sp).At (p.inside .comprehension kind.blockName []) :=
      h.inside (.inr rfl) _ _ _
    refine .ite titled_failAt (.bind fun x hx => .bind fun y hy => .bind fun z hz =>
      .bind fun a ha => ?_)
    have hempty : titlesOf (emptyResult kind) = [] := by cases kind <;> simp [emptyResult, Instr.titles]
    have hloop : titlesOf (clauseLoop x z y) =
        titlesAll (p.inside .comprehension kind.blockName [])
          (targetNested (t.mapSpan f) ++ exprsNested (mapSpans f ts)
            ++ (clausesNested (mapClauseSpans f rest) ++ ns)) := by
      simp [clauseLoop, assignTo_titles hinner t x hx, tests_titles hinner _ ts z hz,
        clausesLoops_titles hinner kind 1 rest helement y hy, Instr.titles]
    have hasync : ∀ (p : Prop) [Decidable p] (is : List Instr), titlesOf is = [] →
        titlesOf (if p then is else []) = [] := by
      intro p _ is his
      split
      · exact his
      · exact titlesOf_nil
    simp only [titled_ok, titlesOf_append, titlesOf_cons, titlesOf_nil, Instr.titles,
      comprehensionCode, titles, hempty, hloop, hasync, expr_titles h i a ha, titlesAll,
      Nested.titles, beq_self_eq_true, if_pos, List.append_nil, List.nil_append]

theorem clausesLoops_titles : ∀ {c : Context} {p : Whereabouts}, c.At p →
    ∀ (kind : ComprehensionKind) (depth : Nat) (cs : List Clause)
      {element : Except Fault (List Instr)} {ns : List Nested}, Titled p element ns →
      Titled p (clausesLoops c kind depth element cs) (clausesNested (mapClauseSpans f cs) ++ ns)
  | c, p, h, kind, depth, [], element, ns, helement => by
    rw [clausesLoops, mapClauseSpans, clausesNested]
    refine .bind fun a ha => ?_
    cases kind <;> simp [collect, helement a ha, Instr.titles]
  | c, p, h, kind, depth, .mk isAsync t i ts :: rest, element, ns, helement => by
    rw [clausesLoops, mapClauseSpans, clausesNested]
    refine .bind fun x hx => .bind fun y hy => .bind fun z hz => .bind fun a ha => ?_
    simp [clauseLoop, expr_titles h i x hx, assignTo_titles h t y hy,
      clausesLoops_titles h kind (depth + 1) rest helement z hz, tests_titles h _ ts a ha, Instr.titles]
    split <;> simp [Instr.titles]

theorem tests_titles : ∀ {c : Context} {p : Whereabouts}, c.At p →
    ∀ (behind : Nat) (es : List Expr), Titled p (tests c behind es) (exprsNested (mapSpans f es))
  | c, p, h, behind, [] => by simp [tests, mapSpans, exprsNested]
  | c, p, h, behind, e :: es => by
    rw [tests, mapSpans, exprsNested]
    refine .bind fun a ha => .bind fun b hb => ?_
    simp [skipUnless, expr_titles h e a ha, tests_titles h behind es b hb, Instr.titles]

theorem assignTo_titles : ∀ {c : Context} {p : Whereabouts}, c.At p →
    ∀ e : Expr, Titled p (assignTo c e) (targetNested (e.mapSpan f))
  | c, p, h, .name sp n => by
    simpa [assignTo, Expr.mapSpan, targetNested] using storeName_titles sp n
  | c, p, h, .attribute sp e n => by
    rw [assignTo, Expr.mapSpan, targetNested]
    refine .bind fun a ha => .bind fun _ _ => ?_
    simp [expr_titles h e a ha, Instr.titles]
  | c, p, h, .subscript _ e i => by
    rw [assignTo, Expr.mapSpan, targetNested]
    refine .bind fun a ha => .bind fun b hb => ?_
    simp [expr_titles h e a ha, expr_titles h i b hb, Instr.titles]
  | c, p, h, .tuple sp es => by
    rw [assignTo, Expr.mapSpan, targetNested]
    refine .bind fun a ha => .bind fun b hb => ?_
    simp [unpackInstr_titles ha, assignToAll_titles h es b hb]
  | c, p, h, .list sp es => by
    rw [assignTo, Expr.mapSpan, targetNested]
    refine .bind fun a ha => .bind fun b hb => ?_
    simp [unpackInstr_titles ha, assignToAll_titles h es b hb]
  | c, p, h, .starred sp e => by simp [assignTo]
  | c, p, h, .boolOp .. | c, p, h, .named .. | c, p, h, .binary ..
  | c, p, h, .unary .. | c, p, h, .lambda .. | c, p, h, .ifElse ..
  | c, p, h, .dict .. | c, p, h, .set .. | c, p, h, .listComp ..
  | c, p, h, .setComp .. | c, p, h, .dictComp .. | c, p, h, .generator ..
  | c, p, h, .await .. | c, p, h, .yield .. | c, p, h, .yieldFrom ..
  | c, p, h, .compare .. | c, p, h, .call .. | c, p, h, .formatted ..
  | c, p, h, .joined .. | c, p, h, .constant .. | c, p, h, .slice .. => by
    simp [assignTo, Expr.mapSpan, targetNested, Instr.titles]

theorem assignToAll_titles : ∀ {c : Context} {p : Whereabouts}, c.At p →
    ∀ es : List Expr, Titled p (assignToAll c es) (targetsNested (mapSpans f es))
  | c, p, h, [] => by simp [assignToAll, mapSpans, targetsNested]
  | c, p, h, e :: es => by
    cases e with
    | starred sp e =>
      rw [assignToAll, mapSpans, targetsNested, Expr.mapSpan, targetNested]
      refine .bind fun a ha => .bind fun b hb => ?_
      simp [assignTo_titles h e a ha, assignToAll_titles h es b hb]
    | _ =>
      rw [assignToAll, mapSpans, targetsNested]
      · refine .bind fun a ha => .bind fun b hb => ?_
        simp [assignTo_titles h _ a ha, assignToAll_titles h es b hb]
      · simp

end


/-! ## What text declares -/

section

variable {c : Setting}

mutual

theorem patternMentions_plain (h : c.inComprehension = false) : ∀ q : Pattern,
    AllPlain (patternMentions c q)
  | .value _ e => by
    rw [patternMentions]
    exact exprMentions_plain h e
  | .singleton _ _ => by simp [patternMentions]
  | .sequence _ qs => by
    rw [patternMentions]
    exact patternsMentions_plain h qs
  | .mapping _ keys qs rest => by
    rw [patternMentions, allPlain_append, allPlain_append]
    refine ⟨⟨exprsMentions_plain h keys, patternsMentions_plain h qs⟩, ?_⟩
    cases rest <;> simp [Mention.isPlain]
  | .cls _ e qs _ keywordPatterns => by
    rw [patternMentions, allPlain_append, allPlain_append]
    exact ⟨⟨exprMentions_plain h e, patternsMentions_plain h qs⟩,
      patternsMentions_plain h keywordPatterns⟩
  | .star _ name => by
    rw [patternMentions]
    cases name <;> simp [Mention.isPlain]
  | .capture _ none name => by
    rw [patternMentions, patternMentions?]
    cases name <;> simp [Mention.isPlain]
  | .capture _ (some q) name => by
    rw [patternMentions, patternMentions?, allPlain_append]
    refine ⟨patternMentions_plain h q, ?_⟩
    cases name <;> simp [Mention.isPlain]
  | .alternatives _ qs => by
    rw [patternMentions]
    exact patternsMentions_plain h qs

theorem patternsMentions_plain (h : c.inComprehension = false) : ∀ qs : List Pattern,
    AllPlain (patternsMentions c qs)
  | [] => by simp [patternsMentions]
  | q :: qs => by
    rw [patternsMentions, allPlain_append]
    exact ⟨patternMentions_plain h q, patternsMentions_plain h qs⟩

end

theorem withItemMentions_plain (h : c.inComprehension = false) (ws : List WithItem) :
    AllPlain (ws.flatMap (withItemMentions c)) := by
  intro m hm
  obtain ⟨⟨context, target⟩, -, hm⟩ := List.mem_flatMap.1 hm
  rcases List.mem_append.1 hm with hm | hm
  · exact exprMentions_plain h context m hm
  · cases target with
    | none => cases hm
    | some t => exact targetMentions_plain h t m hm

theorem aliasMentions_plain (names : List Alias) :
    AllPlain (names.flatMap (aliasMentions c)) := by
  intro m hm
  obtain ⟨a, -, hm⟩ := List.mem_flatMap.1 hm
  unfold aliasMentions at hm
  split at hm <;> rw [List.mem_singleton.1 hm] <;> rfl

theorem typedTargetMentions_plain (h : c.inComprehension = false) (sp : Span) (t : Expr)
    (simple hasValue : Bool) : AllPlain (typedTargetMentions c sp t simple hasValue) := by
  unfold typedTargetMentions
  split
  · split
    · simp [Mention.isPlain]
    · split <;> simp [Mention.isPlain]
  · exact targetMentions_plain h t

theorem nameMentions_plain (name : Option String) :
    AllPlain (name.toList.map fun n => Mention.bind (c.known n)) := by
  cases name <;> simp [Mention.isPlain]

theorem declaredBy_globals (sp : Span) (names : List String) :
    declaredBy (names.map fun n => .declaredGlobal sp (c.known n)) = names.map c.known := by
  simp [declaredBy, Mention.declared?, Function.comp_def]

theorem declaredBy_nonlocals (sp : Span) (names : List String) :
    declaredBy (names.map fun n => .declaredNonlocal sp (c.known n)) = [] := by
  simp [declaredBy, Mention.declared?]

theorem declaredBy_bind (n : String) (ms : List Mention) :
    declaredBy (.bind n :: ms) = declaredBy ms := rfl

theorem declaredBy_block (head : BlockHead) (inner : List Mention) :
    declaredBy [.block head inner] = [] := rfl

mutual

/-- The names that are mentioned as declared global are those that the text declares so, as they are
    known there. -/
theorem declaredBy_stmtMentions (h : c.inComprehension = false) : ∀ s : Stmt,
    declaredBy (stmtMentions c s) = (stmtGlobals s).map c.known
  -- What stands in a block of its own declares nothing outside.
  | .functionDef sp _ n ps b ds r => by
    rw [stmtMentions, stmtGlobals, declaredBy_bind, declaredBy_append, declaredBy_block,
      declaredBy_plain (allPlain_append.2 ⟨allPlain_append.2 ⟨defaultsMentions_plain h ps,
        typeHintsMentions_plain h ps r⟩, exprsMentions_plain h ds⟩)]
    · rfl
    all_goals simp
  | .classDef sp n bs ks b ds => by
    rw [stmtMentions, stmtGlobals, declaredBy_bind, declaredBy_append, declaredBy_block,
      declaredBy_plain (allPlain_append.2 ⟨allPlain_append.2 ⟨exprsMentions_plain h bs,
        keywordsMentions_plain h ks⟩, exprsMentions_plain h ds⟩)]
    · rfl
    all_goals simp
  | .ret _ e => by
    simp [stmtMentions, stmtGlobals, declaredBy_plain (optionMentions_plain h e)]
  | .delete _ ts => by
    simp [stmtMentions, stmtGlobals, declaredBy_plain (targetsMentions_plain h ts)]
  | .assign _ ts e => by
    simp [stmtMentions, stmtGlobals, declaredBy_plain (targetsMentions_plain h ts),
      declaredBy_plain (exprMentions_plain h e)]
  | .augAssign _ t _ e => by
    simp [stmtMentions, stmtGlobals, declaredBy_plain (targetMentions_plain h t),
      declaredBy_plain (exprMentions_plain h e)]
  | .annAssign sp t hint e simple => by
    simp [stmtMentions, stmtGlobals, declaredBy_plain (typedTargetMentions_plain h sp t simple _),
      declaredBy_plain (exprMentions_plain h hint), declaredBy_plain (optionMentions_plain h e)]
  | .forLoop _ _ t i b o => by
    simp [stmtMentions, stmtGlobals, declaredBy_plain (targetMentions_plain h t),
      declaredBy_plain (exprMentions_plain h i), declaredBy_stmtsMentions h b,
      declaredBy_stmtsMentions h o]
  | .whileLoop _ t b o | .cond _ t b o => by
    simp [stmtMentions, stmtGlobals, declaredBy_plain (exprMentions_plain h t),
      declaredBy_stmtsMentions h b, declaredBy_stmtsMentions h o]
  | .withBlock _ _ ws b => by
    simp [stmtMentions, stmtGlobals, declaredBy_plain (withItemMentions_plain h ws),
      declaredBy_stmtsMentions h b]
  | .matchBlock _ e cases => by
    simp [stmtMentions, stmtGlobals, declaredBy_plain (exprMentions_plain h e),
      declaredBy_casesMentions h cases]
  | .raise _ e cause => by
    simp [stmtMentions, stmtGlobals, declaredBy_plain (optionMentions_plain h e),
      declaredBy_plain (optionMentions_plain h cause)]
  | .tryBlock _ _ b hs o final => by
    simp [stmtMentions, stmtGlobals, declaredBy_stmtsMentions h b, declaredBy_stmtsMentions h o,
      declaredBy_handlersMentions h hs, declaredBy_stmtsMentions h final]
  | .assert _ t e => by
    simp [stmtMentions, stmtGlobals, declaredBy_plain (exprMentions_plain h t),
      declaredBy_plain (optionMentions_plain h e)]
  | .importNames _ names | .importFrom _ _ names _ => by
    simp [stmtMentions, stmtGlobals, declaredBy_plain (aliasMentions_plain names)]
  | .global sp names => by
    rw [stmtMentions, stmtGlobals]
    exact declaredBy_globals sp names
  | .nonlocal sp names => by
    simp [stmtMentions, stmtGlobals, declaredBy_nonlocals]
  | .expr _ e => by
    simp [stmtMentions, stmtGlobals, declaredBy_plain (exprMentions_plain h e)]
  | .pass _ | .break _ | .continue _ => by simp [stmtMentions, stmtGlobals, declaredBy]

theorem declaredBy_stmtsMentions (h : c.inComprehension = false) : ∀ ss : List Stmt,
    declaredBy (stmtsMentions c ss) = (stmtsGlobals ss).map c.known
  | [] => by simp [stmtsMentions, stmtsGlobals, declaredBy]
  | s :: ss => by
    simp [stmtsMentions, stmtsGlobals, declaredBy_stmtMentions h s, declaredBy_stmtsMentions h ss]

theorem declaredBy_handlersMentions (h : c.inComprehension = false) : ∀ hs : List Handler,
    declaredBy (handlersMentions c hs) = (handlersGlobals hs).map c.known
  | [] => by simp [handlersMentions, handlersGlobals, declaredBy]
  | .mk _ type name b :: rest => by
    simp only [handlersMentions, handlersGlobals, declaredBy_append, List.map_append,
      declaredBy_plain (optionMentions_plain h type), declaredBy_plain (nameMentions_plain name),
      declaredBy_stmtsMentions h b, declaredBy_handlersMentions h rest, List.nil_append]

theorem declaredBy_casesMentions (h : c.inComprehension = false) : ∀ cases : List MatchCase,
    declaredBy (casesMentions c cases) = (casesGlobals cases).map c.known
  | [] => by simp [casesMentions, casesGlobals, declaredBy]
  | .mk q guard b :: rest => by
    simp [casesMentions, casesGlobals, declaredBy_plain (patternMentions_plain h q),
      declaredBy_plain (optionMentions_plain h guard), declaredBy_stmtsMentions h b,
      declaredBy_casesMentions h rest]

end

/-- A definition declares in its body what the statements there do. -/
theorem declaredBy_bodyMentions (c : Setting) (d : Splice.Definition) :
    declaredBy (bodyMentions c d) = (stmtsGlobals d.body).map c.known := by
  rw [bodyMentions, declaredBy_append, declaredBy_plain (paramMentions_plain _ _),
    declaredBy_stmtsMentions rfl]
  rfl

end

mutual

theorem stmtGlobals_mapSpan : ∀ s : Stmt, stmtGlobals (s.mapSpan f) = stmtGlobals s
  | .forLoop _ _ _ _ b o | .whileLoop _ _ b o | .cond _ _ b o => by
    simp only [Stmt.mapSpan, stmtGlobals, stmtsGlobals_mapSpan b, stmtsGlobals_mapSpan o]
  | .withBlock _ _ _ b => by simp only [Stmt.mapSpan, stmtGlobals, stmtsGlobals_mapSpan b]
  | .matchBlock _ _ cases => by simp only [Stmt.mapSpan, stmtGlobals, casesGlobals_mapSpan cases]
  | .tryBlock _ _ b hs o final => by
    simp only [Stmt.mapSpan, stmtGlobals, stmtsGlobals_mapSpan b, handlersGlobals_mapSpan hs,
      stmtsGlobals_mapSpan o, stmtsGlobals_mapSpan final]
  | .global _ _ | .functionDef .. | .classDef .. | .ret .. | .delete .. | .assign ..
  | .augAssign .. | .annAssign .. | .raise .. | .assert .. | .importNames .. | .importFrom ..
  | .nonlocal .. | .expr .. | .pass _ | .break _ | .continue _ => by
    simp [Stmt.mapSpan, stmtGlobals]

theorem stmtsGlobals_mapSpan : ∀ ss : List Stmt, stmtsGlobals (mapStmtSpans f ss) = stmtsGlobals ss
  | [] => by rw [mapStmtSpans]
  | s :: ss => by
    rw [mapStmtSpans, stmtsGlobals, stmtsGlobals, stmtGlobals_mapSpan s, stmtsGlobals_mapSpan ss]

theorem handlersGlobals_mapSpan : ∀ hs : List Handler,
    handlersGlobals (mapHandlerSpans f hs) = handlersGlobals hs
  | [] => by rw [mapHandlerSpans]
  | .mk _ _ _ b :: rest => by
    rw [mapHandlerSpans, handlersGlobals, handlersGlobals, stmtsGlobals_mapSpan b,
      handlersGlobals_mapSpan rest]

theorem casesGlobals_mapSpan : ∀ cases : List MatchCase,
    casesGlobals (mapCaseSpans f cases) = casesGlobals cases
  | [] => by rw [mapCaseSpans]
  | .mk _ _ b :: rest => by
    rw [mapCaseSpans, casesGlobals, casesGlobals, stmtsGlobals_mapSpan b,
      casesGlobals_mapSpan rest]

end

/-! ## Statements -/

section

variable {c : Context} {p : Whereabouts}

mutual

theorem deleteTarget_titles (h : c.At p) : ∀ e : Expr,
    Titled p (deleteTarget c e) (deletedNested (e.mapSpan f))
  | .name sp n => by
    simpa [deleteTarget, Expr.mapSpan, deletedNested] using deleteName_titles sp n
  | .attribute _ e n => by
    rw [deleteTarget, Expr.mapSpan, deletedNested]
    refine .bind fun a ha => ?_
    simp [expr_titles f h e a ha, Instr.titles]
  | .subscript _ e i => by
    rw [deleteTarget, Expr.mapSpan, deletedNested]
    refine .bind fun a ha => .bind fun b hb => ?_
    simp [expr_titles f h e a ha, expr_titles f h i b hb, Instr.titles]
  | .tuple _ es => by
    rw [deleteTarget, Expr.mapSpan, deletedNested]
    exact deleteTargets_titles h es
  | .list _ es => by
    rw [deleteTarget, Expr.mapSpan, deletedNested]
    exact deleteTargets_titles h es
  | .boolOp .. | .named .. | .binary .. | .unary .. | .lambda .. | .ifElse .. | .dict .. | .set ..
  | .listComp .. | .setComp .. | .dictComp .. | .generator .. | .await .. | .yield ..
  | .yieldFrom .. | .compare .. | .call .. | .formatted .. | .joined .. | .constant ..
  | .starred .. | .slice .. => by simp [deleteTarget, Expr.mapSpan, deletedNested]

theorem deleteTargets_titles (h : c.At p) : ∀ es : List Expr,
    Titled p (deleteTargets c es) (deletedAllNested (mapSpans f es))
  | [] => by simp [deleteTargets, mapSpans, deletedAllNested]
  | e :: es => by
    rw [deleteTargets, mapSpans, deletedAllNested]
    refine .bind fun a ha => .bind fun b hb => ?_
    simp [deleteTarget_titles h e a ha, deleteTargets_titles h es b hb]

end

theorem assignEach_titles (h : c.At p) (es : List Expr) :
    Titled p (assignEach c es) (targetsNested (mapSpans f es)) := by
  induction es with
  | nil => simp [assignEach, mapSpans, targetsNested, Instr.titles]
  | cons e es ih =>
    cases es with
    | nil =>
      rw [assignEach, mapSpans, mapSpans, targetsNested, targetsNested, List.append_nil]
      exact assignTo_titles f h e
    | cons e' es =>
      rw [assignEach, mapSpans, targetsNested]
      · refine .bind fun a ha => .bind fun b hb => ?_
        simp [assignTo_titles f h e a ha, ih b hb, Instr.titles]
      · simp

theorem augmented_titles (h : c.At p) (op : BinaryOp) {is : List Instr} {ns : List Nested}
    (his : titlesOf is = titlesAll p ns) : ∀ e : Expr,
    Titled p (augmented c e op is) (augmentedNested ns (e.mapSpan f))
  | .name sp n => by
    refine .bind fun a ha => ?_
    simp [Expr.mapSpan, augmentedNested, loadName, storeName_titles (p := p) sp n a ha, his,
      Instr.titles]
  | .attribute sp e n => by
    refine .bind fun _ _ => .bind fun a ha => ?_
    simp [Expr.mapSpan, augmentedNested, expr_titles f h e a ha, his, Instr.titles]
  | .subscript sp e i => by
    refine .bind fun a ha => .bind fun b hb => ?_
    simp [Expr.mapSpan, augmentedNested, expr_titles f h e a ha, expr_titles f h i b hb, his,
      Instr.titles]
  | .boolOp .. | .named .. | .binary .. | .unary .. | .lambda .. | .ifElse .. | .dict .. | .set ..
  | .listComp .. | .setComp .. | .dictComp .. | .generator .. | .await .. | .yield ..
  | .yieldFrom .. | .compare .. | .call .. | .formatted .. | .joined .. | .constant ..
  | .starred .. | .list .. | .tuple .. | .slice .. => by
    simp [augmented, Expr.mapSpan, augmentedNested]

/-- The instructions for the items of a `with` statement make what stands in the items. -/
theorem withItems_titles (h : c.At p) {ws : List WithItem}
    {items : List (List Instr × List Instr)} (hitems : withItems c ws = .ok items) :
    items.flatMap (fun item => titlesOf item.1 ++ titlesOf item.2) =
      titlesAll p ((ws.map (·.mapSpan f)).flatMap withItemNested) := by
  induction ws generalizing items with
  | nil =>
    cases hitems
    simp
  | cons w ws ih =>
    obtain ⟨context, target⟩ := w
    rw [withItems] at hitems
    obtain ⟨a, ha, hitems⟩ := bind_eq_ok.1 hitems
    have hcontext := expr_titles f h context a ha
    -- Whether or not there is a target, what it is assigned by comes behind the context.
    have hsplit : ∃ b rest, withItems c ws = .ok rest ∧ items = (a, b) :: rest ∧
        titlesOf a ++ titlesOf b =
          titlesAll p (withItemNested (WithItem.mapSpan f ⟨context, target⟩)) := by
      cases target with
      | none =>
        obtain ⟨b, hb, hitems⟩ := bind_eq_ok.1 hitems
        obtain ⟨rest, hrest, hitems⟩ := bind_eq_ok.1 hitems
        cases hb
        cases hitems
        exact ⟨_, rest, hrest, rfl, by
          simp [Instr.titles, WithItem.mapSpan, mapSpan?, withItemNested, hcontext]⟩
      | some t =>
        obtain ⟨b, hb, hitems⟩ := bind_eq_ok.1 hitems
        obtain ⟨rest, hrest, hitems⟩ := bind_eq_ok.1 hitems
        cases hitems
        have htarget := assignTo_titles f h t b hb
        exact ⟨b, rest, hrest, rfl, by
          simp [WithItem.mapSpan, mapSpan?, withItemNested, hcontext, htarget]⟩
    obtain ⟨b, rest, hrest, rfl, hitem⟩ := hsplit
    simp only [List.flatMap_cons, List.map_cons, ih hrest, titlesAll_append, hitem]

theorem withCode_titles (target body : List Instr) :
    titlesOf (withCode target body) = titlesOf target ++ titlesOf body := by
  simp [withCode, Instr.titles]

theorem withCodes_titles (items : List (List Instr × List Instr)) (body : List Instr) :
    titlesOf (items.foldr (fun (context, target) code => context ++ withCode target code) body) =
      items.flatMap (fun item => titlesOf item.1 ++ titlesOf item.2) ++ titlesOf body := by
  induction items with
  | nil => rfl
  | cons item items ih =>
    rw [List.foldr_cons, List.flatMap_cons, titlesOf_append, withCode_titles, ih]
    simp only [List.append_assoc]

theorem importStores_titles (names : List Alias) : Titled p (importStores c names) [] := by
  induction names with
  | nil => simp [importStores]
  | cons a names ih =>
    rw [importStores]
    split
    · exact ih
    · refine .bind fun x hx => .bind fun y hy => ?_
      simp [storeName_titles (p := p) a.span (Alias.bound a) x hx, ih y hy]

theorem applyDecorators_titles (es : List Expr) : titlesOf (applyDecorators es) = [] := by
  induction es with
  | nil => exact titlesOf_nil
  | cons e es ih => simpa [applyDecorators, Instr.titles] using ih

theorem classPrologue_titles (qualname : String) (doc : Option String) :
    titlesOf (classPrologue qualname doc) = [] := by
  cases doc <;> simp [classPrologue, Instr.titles]

theorem classEpilogue_titles (scope : Scope) : titlesOf (classEpilogue scope) = [] := by
  unfold classEpilogue
  split <;> simp [returnNone, Instr.titles]

theorem exprs_typeHints_titles (h : c.At p) (ps : Parameters) (r : Option Expr) :
    Titled p (exprs c ((typeHints c ps r).map Prod.snd))
      (hintNested (ps.mapSpan f) (mapSpan? f r)) := by
  have htypes : (typeHints c ps r).map Prod.snd =
      (typedParameters ps).map Prod.snd ++ r.toList := by
    simp [typeHints, Function.comp_def]
  have hmapped : (typedParameters (ps.mapSpan f)).map Prod.snd ++ (mapSpan? f r).toList =
      mapSpans f ((typedParameters ps).map Prod.snd ++ r.toList) := by
    rw [typedParameters_mapSpan, mapSpans_eq_map, List.map_append, List.map_map, List.map_map]
    cases r <;> rfl
  rw [htypes, hintNested, hmapped]
  exact exprs_titles f h _

theorem tryCode_titles (body orelse handlers : List Instr) :
    titlesOf (tryCode body orelse handlers) =
      titlesOf body ++ titlesOf orelse ++ titlesOf handlers := by
  simp [tryCode, Instr.titles]

theorem finallyCode_titles (body final : List Instr) :
    titlesOf (finallyCode body final) = titlesOf body ++ titlesOf final := by
  simp [finallyCode, Instr.titles]

theorem branchCode_titles (test body orelse : List Instr) :
    titlesOf (branchCode test body orelse) = titlesOf test ++ titlesOf body ++ titlesOf orelse := by
  unfold branchCode
  split
  · rename_i hempty
    rw [List.isEmpty_iff.1 hempty]
    simp [Instr.titles]
  · simp [Instr.titles]

theorem handlerCode_titles (type : Option (List Instr)) (body rest : List Instr) :
    titlesOf (handlerCode type body rest) =
      titlesOf (type.getD []) ++ titlesOf body ++ titlesOf rest := by
  cases type <;> simp [handlerCode, Instr.titles]

theorem exprStmt_titles (h : c.At p) (sp : Span) (e : Expr) :
    Titled p (stmt c (.expr sp e)) (exprNested (e.mapSpan f)) := by
  have hvalue := expr_titles f h e
  cases e with
  | constant sp' v => simp [stmt, Expr.mapSpan, exprNested]
  | _ =>
    rw [stmt]
    · refine .bind fun a ha => ?_
      simp [hvalue a ha, Instr.titles]
    · simp

end

/-! ### Blocks -/

/-- The block that a piece of program stands in is that of its text: what is mentioned there has its
    scope where it is looked for, and names are known to be global if they are declared so. -/
structure Context.Holds (c : Context) (p : Whereabouts) (t : Setting) (ms : List Mention) : Prop
    extends c.At p where
  owner_known : t.owner = c.owner
  plain : t.inComprehension = false
  place?_iff : ∀ n, c.scope.place? (c.known n) = some .declaredGlobal ↔ p.isGlobal n = true
  houses : Houses c.scope ms

section

variable {c : Context} {p : Whereabouts} {t : Setting} {ms : List Mention}

theorem Context.Holds.inLoop (h : c.Holds p t ms) : { c with inLoop := true }.Holds p t ms :=
  ⟨⟨h.owner_eq, h.kind_eq, h.qualname_eq⟩, h.owner_known, h.plain, h.place?_iff, h.houses⟩

/-- What a definition is called, it is called because of the text. -/
theorem Context.Holds.qualnameOfDefinition (h : c.Holds p t ms) {kind : NestedKind}
    (hkind : kind = .function ∨ kind = .cls) (n : String) :
    c.qualnameOfDefinition n = p.qualnameIn kind n := by
  have hloose : p.isLoose kind n = p.isGlobal n := by
    rcases hkind with rfl | rfl <;> rfl
  have hmodule : (c.kind != .module) = true := by
    rw [h.kind_eq]
    cases p.kind <;> rfl
  rw [Context.qualnameOfDefinition, Whereabouts.qualnameIn, hloose, hmodule, Bool.true_and]
  by_cases hglobal : p.isGlobal n = true
  · rw [if_pos hglobal, if_pos (beq_iff_eq.2 ((h.place?_iff n).2 hglobal))]
  · rw [if_neg hglobal, if_neg fun hplace => hglobal ((h.place?_iff n).1 (beq_iff_eq.1 hplace)),
      h.toAt.qualnameOf]

/-- A block whose scope has been made for what is mentioned in it. -/
theorem holds_of_isScopeOf {head : BlockHead} (hscope : IsScopeOf head ms c.scope)
    (hapart : areApart ms = true) (hkind : head.kind.isNaming = true) (hat : c.At p)
    (howner : t.owner = c.owner) (hplain : t.inComprehension = false)
    (hglobals : declaredBy ms = p.globals.map t.known) : c.Holds p t ms := by
  refine ⟨hat, howner, hplain, fun n => (hscope.place?_iff hkind _).trans ?_, hscope.houses hapart⟩
  have hknown : t.known = mangle p.owner := by
    funext m
    rw [Setting.known, howner, hat.owner_eq]
  rw [hglobals, hknown, Context.known, hat.owner_eq, Whereabouts.isGlobal, List.contains_iff_mem]

/-- The block of a function. -/
theorem Context.Holds.ofFunction (h : c.Holds p t ms) {sp : Span} {n : String} {ps : Parameters}
    {b : List Stmt} (hblock : .block ⟨.function, n, sp⟩
      (paramMentions t.function ps ++ stmtsMentions t.function b) ∈ ms) (isAsync : Bool) :
    (c.ofFunction sp n isAsync).Holds (p.inside .function n (stmtsGlobals b)) t.function
      (paramMentions t.function ps ++ stmtsMentions t.function b) := by
  obtain ⟨s, hfound, hscope, hapart⟩ := h.houses _ _ hblock
  have hs : (c.ofFunction sp n isAsync).scope = s := by
    simp only [Context.ofFunction, Context.inside, Context.scopeAt, hfound, Option.getD_some]
  refine holds_of_isScopeOf (hs ▸ hscope) hapart rfl
    ⟨h.owner_eq, rfl, h.qualnameOfDefinition (.inl rfl) n⟩ h.owner_known rfl ?_
  rw [declaredBy_append, declaredBy_plain (paramMentions_plain _ _), declaredBy_stmtsMentions rfl]
  rfl

/-- The block of a class. -/
theorem Context.Holds.ofClass (h : c.Holds p t ms) {sp : Span} {n : String} {b : List Stmt}
    (hblock : .block ⟨.cls, n, sp⟩ (stmtsMentions (t.inside n) b) ∈ ms) :
    (c.ofClass sp n).Holds (p.inside .cls n (stmtsGlobals b)) (t.inside n)
      (stmtsMentions (t.inside n) b) := by
  obtain ⟨s, hfound, hscope, hapart⟩ := h.houses _ _ hblock
  have hs : (c.ofClass sp n).scope = s := by
    simp only [Context.ofClass, Context.inside, Context.scopeAt, hfound, Option.getD_some]
  refine holds_of_isScopeOf (hs ▸ hscope) hapart rfl
    ⟨rfl, rfl, h.qualnameOfDefinition (.inr rfl) n⟩ rfl rfl ?_
  rw [declaredBy_stmtsMentions rfl]
  rfl

/-- The title of a function is that of its definition. -/
theorem functionCode_titles {sp : Span} {isAsync : Bool} {n : String} {globals : List String}
    (h : (c.ofFunction sp n isAsync).At (p.inside .function n globals)) {is : List Instr}
    {ns : List Nested} (his : titlesOf is = titlesAll (p.inside .function n globals) ns)
    (ps : Parameters) (b : List Stmt) (ds : List Expr) :
    titles (functionCode c sp isAsync n ps b ds is) =
      Nested.titles p (.mk .function n globals ns) := by
  have hqualname : (c.ofFunction sp n isAsync).qualname = p.qualnameIn .function n := h.qualname_eq
  rw [functionCode, titles, Nested.titles, titlesOf_append, his]
  simp [functionInfo, returnNone, Instr.titles, hqualname]

/-- The title of a class is that of its definition. -/
theorem classCode_titles {sp : Span} {n : String} {globals : List String}
    (h : (c.ofClass sp n).At (p.inside .cls n globals)) {is : List Instr} {ns : List Nested}
    (his : titlesOf is = titlesAll (p.inside .cls n globals) ns) (b : List Stmt) (ds : List Expr) :
    titles (classCode c sp n b ds is) = Nested.titles p (.mk .cls n globals ns) := by
  have hqualname : c.qualnameOfDefinition n = p.qualnameIn .cls n := h.qualname_eq
  rw [classCode, titles, Nested.titles, titlesOf_append, titlesOf_append, his,
    classPrologue_titles, classEpilogue_titles]
  simp [classInfo, hqualname]

end

/-- Where a type is noted behind instructions that make something, what stands in it is made too. -/
theorem noted_titles {c : Context} {p : Whereabouts} (h : c.At p) {e hint : Expr} {simple : Bool}
    {a : List Instr} {ns : List Nested} (ha : titlesOf a = titlesAll p ns) :
    Titled p (match e with
      | .name sp n => do
        checkBindable sp n
        if simple && (c.kind == .module || c.kind == .cls) then
          .ok (a ++ (← expr c hint) ++ [.noteType (c.known n)])
        else .ok a
      | .attribute sp _ n => do
        checkBindable sp n
        .ok a
      | _ => .ok a)
      (ns ++ notedNested (simple && p.kind == .cls) (hint.mapSpan f) (e.mapSpan f)) := by
  have hcls : (c.kind == .module || c.kind == .cls) = (p.kind == .cls) := by
    rw [h.kind_eq]
    cases p.kind <;> rfl
  rw [hcls]
  split
  · refine .bind fun _ _ => ?_
    rw [Expr.mapSpan, notedNested]
    split
    · refine .bind fun b hb => ?_
      simp [ha, expr_titles f h hint b hb, Instr.titles]
    · simp [ha]
  · exact .bind fun _ _ => by simp [ha, Expr.mapSpan, notedNested]
  · rename_i hname _
    cases e with
    | name sp n => exact absurd rfl (hname sp n)
    | _ => simp [ha, Expr.mapSpan, notedNested]

/-- An assignment with a type makes what stands in it; the type itself counts only where it is
    noted. -/
theorem annAssign_titles {c : Context} {p : Whereabouts} (h : c.At p) (sp : Span) (e hint : Expr)
    (value : Option Expr) (simple : Bool) :
    Titled p (stmt c (.annAssign sp e hint value simple))
      (assignedNested (e.mapSpan f) (mapSpan? f value)
        ++ notedNested (simple && p.kind == .cls) (hint.mapSpan f) (e.mapSpan f)) := by
  rw [stmt.eq_def]
  dsimp only
  cases value with
  | none =>
    refine .bind fun a ha => noted_titles f h ?_
    cases ha
    simp [mapSpan?, assignedNested]
  | some v =>
    refine .bind fun x hx => .bind fun y hy => .bind fun a ha => noted_titles f h ?_
    cases ha
    simp [mapSpan?, assignedNested, expr_titles f h v x hx, assignTo_titles f h e y hy]

mutual

/-- The instructions for a statement make what stands in it. -/
theorem stmt_titles : ∀ {c : Context} {p : Whereabouts} {t : Setting} {ms : List Mention},
    c.Holds p t ms → ∀ s : Stmt, stmtMentions t s ⊆ ms →
    Titled p (stmt c s) (stmtNested (p.kind == .cls) (s.mapSpan f))
  | c, p, t, ms, h, .functionDef sp isAsync n ps b ds r, hs => by
    rw [stmt, Stmt.mapSpan, stmtNested]
    have hblock : .block ⟨.function, n, sp⟩ (paramMentions t.function ps ++
        stmtsMentions t.function b) ∈ stmtMentions t (.functionDef sp isAsync n ps b ds r) := by
      simp [stmtMentions]
    have hinner := h.ofFunction (hs hblock) isAsync
    refine .bind fun _ _ => .bind fun applied happlied => .bind fun defaults hdefaults =>
      .bind fun hints hhints => .bind fun body hbody => .bind fun stored hstored => ?_
    have hbody' := stmts_titles hinner b (List.subset_append_right _ _) body hbody
    simp only [titled_ok, titlesOf_append, titlesOf_cons, titlesOf_nil, Instr.titles,
      exprs_titles f h.toAt ds applied happlied, applyDecorators_titles,
      defaultValues_titles f h.toAt ps defaults hdefaults,
      exprs_typeHints_titles f h.toAt ps r hints hhints, stmtsGlobals_mapSpan,
      storeName_titles (p := p) sp n stored hstored, titlesAll_append, titlesAll, List.append_nil]
    exact congrArg _ (functionCode_titles hinner.toAt hbody' ps b ds)
  | c, p, t, ms, h, .classDef sp n bs ks b ds, hs => by
    rw [stmt, Stmt.mapSpan, stmtNested]
    have hblock : .block ⟨.cls, n, sp⟩ (stmtsMentions (t.inside n) b) ∈
        stmtMentions t (.classDef sp n bs ks b ds) := by
      simp [stmtMentions]
    have hinner := h.ofClass (hs hblock)
    refine .bind fun applied happlied => .bind fun body hbody => .bind fun _ _ =>
      .bind fun given hgiven => .bind fun named hnamed => .bind fun stored hstored => ?_
    have hbody' := stmts_titles hinner b (List.Subset.refl _) body hbody
    simp only [titled_ok, titlesOf_append, titlesOf_cons, titlesOf_nil, Instr.titles,
      exprs_titles f h.toAt ds applied happlied, applyDecorators_titles,
      exprs_titles f h.toAt bs given hgiven, keywordValues_titles f h.toAt ks named hnamed,
      stmtsGlobals_mapSpan, storeName_titles (p := p) sp n stored hstored, titlesAll_append,
      titlesAll, List.append_nil]
    exact congrArg _ (classCode_titles hinner.toAt hbody' b ds)
  | c, p, t, ms, h, .ret sp e, hs => by
    rw [stmt, Stmt.mapSpan, stmtNested]
    refine .ite titled_failAt (.ite titled_failAt (.bind fun a ha => ?_))
    simp [exprOr_titles f h.toAt e a ha, Instr.titles]
  | c, p, t, ms, h, .delete _ es, hs => by
    rw [stmt, Stmt.mapSpan, stmtNested]
    exact deleteTargets_titles f h.toAt es
  | c, p, t, ms, h, .assign _ es e, hs => by
    rw [stmt, Stmt.mapSpan, stmtNested]
    refine .bind fun a ha => .bind fun b hb => ?_
    simp [expr_titles f h.toAt e a ha, assignEach_titles f h.toAt es b hb]
  | c, p, t, ms, h, .augAssign _ target op e, hs => by
    rw [stmt, Stmt.mapSpan, stmtNested]
    refine .bind fun a ha => ?_
    exact augmented_titles f h.toAt op (expr_titles f h.toAt e a ha) target
  | c, p, t, ms, h, .annAssign sp e hint value simple, hs => by
    rw [Stmt.mapSpan, stmtNested]
    exact annAssign_titles f h.toAt sp e hint value simple
  | c, p, t, ms, h, .forLoop sp isAsync e i b o, hs => by
    rw [stmt, Stmt.mapSpan, stmtNested]
    simp only [stmtMentions, List.append_subset] at hs
    cases isAsync with
    | false =>
      refine .bind fun x hx => .bind fun y hy => .bind fun z hz => .bind fun a ha => ?_
      simp [forCode, expr_titles f h.toAt i x hx, assignTo_titles f h.toAt e y hy,
        stmts_titles h.inLoop b hs.1.2 z hz, stmts_titles h o hs.2 a ha, Instr.titles]
    | true =>
      refine .bind fun _ _ => .bind fun x hx => .bind fun y hy => .bind fun z hz =>
        .bind fun a ha => ?_
      simp [forCode, expr_titles f h.toAt i x hx, assignTo_titles f h.toAt e y hy,
        stmts_titles h.inLoop b hs.1.2 z hz, stmts_titles h o hs.2 a ha, Instr.titles]
  | c, p, t, ms, h, .whileLoop _ e b o, hs => by
    rw [stmt, Stmt.mapSpan, stmtNested]
    simp only [stmtMentions, List.append_subset] at hs
    refine .bind fun x hx => .bind fun y hy => .bind fun z hz => ?_
    simp [whileCode, expr_titles f h.toAt e x hx, stmts_titles h.inLoop b hs.1.2 y hy,
      stmts_titles h o hs.2 z hz, Instr.titles]
  | c, p, t, ms, h, .cond _ e b o, hs => by
    rw [stmt, Stmt.mapSpan, stmtNested]
    simp only [stmtMentions, List.append_subset] at hs
    refine .bind fun x hx => .bind fun y hy => .bind fun z hz => ?_
    simp [branchCode_titles, expr_titles f h.toAt e x hx, stmts_titles h b hs.1.2 y hy,
      stmts_titles h o hs.2 z hz]
  | c, p, t, ms, h, .withBlock sp isAsync ws b, hs => by
    rw [stmt, Stmt.mapSpan, stmtNested]
    simp only [stmtMentions, List.append_subset] at hs
    cases isAsync with
    | false =>
      refine .bind fun items hitems => .bind fun body hbody => ?_
      rw [titled_ok, if_neg Bool.false_ne_true, List.nil_append, withCodes_titles,
        withItems_titles f h.toAt hitems, stmts_titles h b hs.2 body hbody, titlesAll_append]
    | true =>
      refine .bind fun _ _ => .bind fun items hitems => .bind fun body hbody => ?_
      rw [titled_ok, if_pos rfl, titlesOf_append, withCodes_titles,
        withItems_titles f h.toAt hitems, stmts_titles h b hs.2 body hbody, titlesAll_append]
      simp [Instr.titles]
  | c, p, t, ms, h, .matchBlock _ e cases, hs => by
    rw [stmt, Stmt.mapSpan, stmtNested]
    simp only [stmtMentions, List.append_subset] at hs
    refine .bind fun a ha => .bind fun b hb => ?_
    simp [expr_titles f h.toAt e a ha, matchCases_titles h cases hs.2 b hb, Instr.titles]
  | c, p, t, ms, h, .raise _ none cause, hs => by
    simp [stmt, Stmt.mapSpan, mapSpan?, stmtNested, Instr.titles]
  | c, p, t, ms, h, .raise _ (some e) none, hs => by
    rw [stmt, Stmt.mapSpan, mapSpan?, mapSpan?, stmtNested, optionNested]
    refine .bind fun a ha => ?_
    simp [expr_titles f h.toAt e a ha, Instr.titles]
  | c, p, t, ms, h, .raise _ (some e) (some cause), hs => by
    rw [stmt, Stmt.mapSpan, mapSpan?, mapSpan?, stmtNested, optionNested]
    refine .bind fun a ha => .bind fun b hb => ?_
    simp [expr_titles f h.toAt e a ha, expr_titles f h.toAt cause b hb, Instr.titles]
  | c, p, t, ms, h, .tryBlock _ isStar b hands o final, hs => by
    rw [stmt, Stmt.mapSpan, stmtNested]
    simp only [stmtMentions, List.append_subset] at hs
    obtain ⟨⟨⟨hb, ho⟩, hhands⟩, hfinally⟩ := hs
    refine .bind fun x hx => .bind fun y hy => .bind fun z hz => .bind fun a ha => ?_
    have hinner : titlesOf (if hands.isEmpty then x ++ y else tryCode x y z) =
        titlesAll p (stmtsNested (p.kind == .cls) (mapStmtSpans f b)
          ++ stmtsNested (p.kind == .cls) (mapStmtSpans f o)
          ++ handlersNested (p.kind == .cls) (mapHandlerSpans f hands)) := by
      cases hands with
      | nil => simp [mapHandlerSpans, handlersNested, stmts_titles h b hb x hx,
          stmts_titles h o ho y hy]
      | cons handler hands =>
        rw [List.isEmpty_cons, if_neg Bool.false_ne_true, tryCode_titles]
        simp [stmts_titles h b hb x hx, stmts_titles h o ho y hy,
          tryHandlers_titles h (handler :: hands) hhands z hz]
    have hstar : ∀ is, titlesOf (if isStar then .missing "exception groups" :: is else is) =
        titlesOf is := by
      intro is
      cases isStar <;> simp [Instr.titles]
    have hfinal := stmts_titles h final hfinally a ha
    cases final with
    | nil =>
      rw [mapStmtSpans, stmtsNested, List.append_nil]
      simp only [titled_ok, List.isEmpty_nil, if_pos, hstar, hinner]
    | cons st final =>
      simp only [titled_ok, List.isEmpty_cons, Bool.false_eq_true, if_false, finallyCode_titles,
        hstar, hinner, hfinal, titlesAll_append]
  | c, p, t, ms, h, .assert _ e none, hs => by
    rw [stmt, Stmt.mapSpan, mapSpan?, stmtNested, optionNested]
    refine .bind fun a ha => .bind fun b hb => ?_
    cases hb
    simp [expr_titles f h.toAt e a ha, Instr.titles]
  | c, p, t, ms, h, .assert _ e (some m), hs => by
    rw [stmt, Stmt.mapSpan, mapSpan?, stmtNested, optionNested]
    refine .bind fun a ha => .bind fun x hx => .bind fun b hb => ?_
    cases hb
    simp [expr_titles f h.toAt e a ha, expr_titles f h.toAt m x hx, Instr.titles]
  | c, p, t, ms, h, .importNames _ names, hs => by
    rw [stmt, Stmt.mapSpan, stmtNested]
    refine .bind fun a ha => ?_
    simp [importStores_titles (p := p) names a ha, Instr.titles]
  | c, p, t, ms, h, .importFrom sp module names _, hs => by
    rw [stmt, Stmt.mapSpan, stmtNested]
    refine .ite titled_failAt (.bind fun a ha => ?_)
    simp [importStores_titles (p := p) names a ha, Instr.titles]
  | c, p, t, ms, h, .expr sp e, hs => by
    rw [Stmt.mapSpan, stmtNested]
    exact exprStmt_titles f h.toAt sp e
  | c, p, t, ms, h, .global _ _, hs => by simp [stmt, Stmt.mapSpan, stmtNested]
  | c, p, t, ms, h, .nonlocal _ _, hs => by simp [stmt, Stmt.mapSpan, stmtNested]
  | c, p, t, ms, h, .pass _, hs => by simp [stmt, Stmt.mapSpan, stmtNested]
  | c, p, t, ms, h, .break sp, hs => by
    rw [stmt, Stmt.mapSpan, stmtNested]
    exact .ite (by simp [Instr.titles]) titled_failAt
  | c, p, t, ms, h, .continue sp, hs => by
    rw [stmt, Stmt.mapSpan, stmtNested]
    exact .ite (by simp [Instr.titles]) titled_failAt

/-- The instructions for statements make what stands in them. -/
theorem stmts_titles : ∀ {c : Context} {p : Whereabouts} {t : Setting} {ms : List Mention},
    c.Holds p t ms → ∀ ss : List Stmt, stmtsMentions t ss ⊆ ms →
    Titled p (stmts c ss) (stmtsNested (p.kind == .cls) (mapStmtSpans f ss))
  | c, p, t, ms, h, [], hs => by simp [stmts, mapStmtSpans, stmtsNested]
  | c, p, t, ms, h, s :: ss, hs => by
    rw [stmts, mapStmtSpans, stmtsNested]
    rw [stmtsMentions, List.append_subset] at hs
    refine .bind fun a ha => .bind fun b hb => ?_
    simp [stmt_titles h s hs.1 a ha, stmts_titles h ss hs.2 b hb]

theorem tryHandlers_titles : ∀ {c : Context} {p : Whereabouts} {t : Setting} {ms : List Mention},
    c.Holds p t ms → ∀ hands : List Handler, handlersMentions t hands ⊆ ms →
    Titled p (tryHandlers c hands) (handlersNested (p.kind == .cls) (mapHandlerSpans f hands))
  | c, p, t, ms, h, [], hs => by
    simp [tryHandlers, mapHandlerSpans, handlersNested, Instr.titles]
  | c, p, t, ms, h, .mk sp e n b :: rest, hs => by
    rw [tryHandlers, mapHandlerSpans, handlersNested]
    rw [handlersMentions, List.append_subset, List.append_subset] at hs
    obtain ⟨⟨-, hb⟩, hrest⟩ := hs
    refine .ite titled_failAt ?_
    -- With or without a type and a name, the same code follows behind them.
    have htail : ∀ {type : Option (List Instr)} {body : List Instr},
        titlesOf (type.getD []) = titlesAll p (optionNested (mapSpan? f e)) →
        titlesOf body = titlesAll p (stmtsNested (p.kind == .cls) (mapStmtSpans f b)) →
        Titled p (do .ok (handlerCode type body (← tryHandlers c rest)))
          (optionNested (mapSpan? f e) ++ stmtsNested (p.kind == .cls) (mapStmtSpans f b)
            ++ handlersNested (p.kind == .cls) (mapHandlerSpans f rest)) := by
      intro type body htype hbody
      refine .bind fun a ha => ?_
      simp [handlerCode_titles, htype, hbody, tryHandlers_titles h rest hrest a ha]
    have hbody : ∀ {type : Option (List Instr)},
        titlesOf (type.getD []) = titlesAll p (optionNested (mapSpan? f e)) →
        Titled p (match n with
          | some n => do
            let store ← storeName c sp n
            let body ← stmts c b
            let body ← .ok (namedHandlerBody store (← deleteName c sp n) body)
            .ok (handlerCode type body (← tryHandlers c rest))
          | none => do
            let body ← .ok (.pop :: (← stmts c b))
            .ok (handlerCode type body (← tryHandlers c rest)))
          (optionNested (mapSpan? f e) ++ stmtsNested (p.kind == .cls) (mapStmtSpans f b)
            ++ handlersNested (p.kind == .cls) (mapHandlerSpans f rest)) := by
      intro type htype
      cases n with
      | none =>
        refine .bind fun x hx => .bind fun y hy => htail htype ?_
        cases hy
        simp [stmts_titles h b hb x hx, Instr.titles]
      | some n =>
        refine .bind fun x hx => .bind fun y hy => .bind fun z hz => .bind fun a ha =>
          htail htype ?_
        cases ha
        rw [namedHandlerBody, titlesOf_append, finallyCode_titles]
        simp [storeName_titles (p := p) sp n x hx, stmts_titles h b hb y hy,
          deleteName_titles (p := p) sp n z hz, Instr.titles]
    cases e with
    | none =>
      refine .bind fun x hx => hbody ?_
      cases hx
      simp [mapSpan?, optionNested]
    | some e =>
      refine .bind fun x hx => .bind fun y hy => hbody ?_
      cases hy
      rw [Option.getD_some, mapSpan?, optionNested]
      exact expr_titles f h.toAt e x hx

theorem matchCases_titles : ∀ {c : Context} {p : Whereabouts} {t : Setting} {ms : List Mention},
    c.Holds p t ms → ∀ cases : List MatchCase, casesMentions t cases ⊆ ms →
    Titled p (matchCases c cases) (casesNested (p.kind == .cls) (mapCaseSpans f cases))
  | c, p, t, ms, h, [], hs => by simp [matchCases, mapCaseSpans, casesNested]
  | c, p, t, ms, h, .mk _ guard b :: rest, hs => by
    rw [matchCases, mapCaseSpans, casesNested]
    rw [casesMentions, List.append_subset, List.append_subset] at hs
    refine .bind fun x hx => .bind fun y hy => .bind fun z hz => ?_
    simp [exprOr_titles f h.toAt guard x hx, stmts_titles h b hs.1.2 y hy,
      matchCases_titles h rest hs.2 z hz, Instr.titles]

end

end Graft.Code
