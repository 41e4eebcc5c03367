import Graft.Proofs.Compile
import Graft.Proofs.Uses

set_option autoImplicit false

/-! # Names that instructions have

The instructions for a piece of program text name what the text names: each name that the text uses
is there once for each time that it is read or written, in the form in which it is known where it
stands.  Nothing else about the place of the text matters for that. -/

namespace Graft.Code

open Graft.Machine Graft.Scope Graft.Syntax

/-- The names of all parameters. -/
def Signature.names (s : Signature) : List String :=
  s.posOnly ++ s.plain ++ s.star.toList ++ s.keywordOnly ++ s.doubleStar.toList

mutual

/-- The names of variables and attributes that an instruction reads or writes. -/
def Instr.names : Instr → List String
  | .load _ n => [n]
  | .store _ n => [n]
  | .delete _ n => [n]
  | .getAttr n => [n]
  | .setAttr n => [n]
  | .delAttr n => [n]
  | .noteType n => [n]
  | .function code _ _ _ => names code
  | .buildClass code _ _ => names code
  | _ => []

/-- The names that some code has, those of its parameters first. -/
def names : Code → List String
  | .mk info is => info.signature.names ++ namesOf is

/-- The names that instructions have one after the other. -/
def namesOf : List Instr → List String
  | [] => []
  | i :: is => i.names ++ namesOf is

end

@[simp] theorem namesOf_nil : namesOf [] = [] := by rw [namesOf]

@[simp] theorem namesOf_cons (i : Instr) (is : List Instr) :
    namesOf (i :: is) = i.names ++ namesOf is := by rw [namesOf]

@[simp] theorem namesOf_append (is js : List Instr) :
    namesOf (is ++ js) = namesOf is ++ namesOf js := by
  induction is with
  | nil => simp
  | cons i is ih => simp [ih]

/-- What is made, if anything is, names what is used. -/
def Names (owner : Option String) (x : Except Fault (List Instr)) (us : List Use) : Prop :=
  ∀ is, x = .ok is → namesOf is = us.map (Use.known owner)

section Rules

variable {α : Type} {owner : Option String} {us : List Use}

@[simp] theorem names_ok {is : List Instr} :
    Names owner (.ok is) us ↔ namesOf is = us.map (Use.known owner) := by
  simp [Names]

@[simp] theorem names_failAt {sp : Span} {message : String} :
    Names owner (failAt sp message) us := by
  simp [Names, failAt]

theorem Names.bind {x : Except Fault α} {f : α → Except Fault (List Instr)}
    (h : ∀ a, x = .ok a → Names owner (f a) us) : Names owner (x >>= f) us := by
  intro is his
  obtain ⟨a, ha, hf⟩ := bind_eq_ok.1 his
  exact h a ha is hf

theorem Names.ite {p : Prop} [Decidable p] {x y : Except Fault (List Instr)}
    (hx : Names owner x us) (hy : Names owner y us) : Names owner (if p then x else y) us := by
  split
  · exact hx
  · exact hy

end Rules

/-! ## Names -/

theorem mangle_of_not_private {n : String} (h : isPrivate n.toList = false)
    (owner : Option String) : mangle owner n = n := by
  cases owner with
  | none => rfl
  | some cls => rw [mangle, if_neg (by simp [h])]

section

variable {c : Context} {k owner : Option String}

theorem known_eq (h : c.owner = k.or owner) (n : String) : c.known n = Use.known owner ⟨k, n⟩ := by
  rw [Context.known, Use.known, h]

theorem iterableUses_known :
    iterableUses.map (Use.known owner) = [iterableParam, iterableParam] := by
  have hknown : Use.known owner ⟨none, iterableParam⟩ = iterableParam :=
    mangle_of_not_private (by decide) _
  rw [iterableUses, List.map_cons, List.map_cons, hknown, List.map_nil]

theorem storeName_names (h : c.owner = k.or owner) (sp : Span) (n : String) :
    Names owner (storeName c sp n) [⟨k, n⟩] := by
  unfold storeName
  exact .bind fun _ _ => by simp [Instr.names, known_eq h]

theorem deleteName_names (h : c.owner = k.or owner) (sp : Span) (n : String) :
    Names owner (deleteName c sp n) [⟨k, n⟩] := by
  unfold deleteName
  exact .ite names_failAt (by simp [Instr.names, known_eq h])

theorem literal_names (v : Constant) : (literal v).names = [] := by
  cases v <;> simp [literal, Instr.names]

theorem unpackInstr_names {sp : Span} {es : List Expr} {i : Instr}
    (h : unpackInstr sp es = .ok i) : i.names = [] := by
  unfold unpackInstr at h
  obtain ⟨shape, -, hi⟩ := bind_eq_ok.1 h
  split at hi <;> cases hi <;> simp [Instr.names]

theorem known_parameters (h : c.owner = k.or owner) (qs : List DefaultParameter) :
    (qs.map fun
      | .mk p _ => c.known p.name) = (qs.map fun
      | .mk p _ => (⟨k, p.name⟩ : Use)).map (Use.known owner) := by
  rw [List.map_map]
  refine List.map_congr_left fun q _ => ?_
  obtain ⟨p, d⟩ := q
  exact known_eq h p.name

theorem signatureOf_names (h : c.owner = k.or owner) (ps : Parameters) :
    (signatureOf c ps).names = (paramUses k ps).map (Use.known owner) := by
  obtain ⟨posOnly, plain, star, keywordOnly, doubleStar⟩ := ps
  have hoption : ∀ q : Option Parameter, (q.map fun p => c.known p.name).toList =
      (q.toList.map fun p => (⟨k, p.name⟩ : Use)).map (Use.known owner) := by
    intro q
    cases q with
    | none => rfl
    | some p => simp [known_eq h]
  simp only [signatureOf, Signature.names, paramUses, List.map_append, hoption]
  congr 1
  congr 1
  · congr 1
    congr 1
    · exact known_parameters h posOnly
    · exact known_parameters h plain
  · exact known_parameters h keywordOnly

end

/-! ## Expressions -/

mutual

theorem expr_names : ∀ {c : Context} {k owner : Option String}, c.owner = k.or owner →
    ∀ e : Expr, Names owner (expr c e) (exprUses k e)
  | c, k, owner, h, .boolOp _ op es => by
    rw [expr, exprUses]
    exact operandChain_names h _ es
  | c, k, owner, h, .named _ t e => by
    rw [expr, exprUses]
    refine .bind fun a ha => .bind fun b hb => ?_
    simp [expr_names h e a ha, assignTo_names h t b hb, Instr.names]
  | c, k, owner, h, .binary _ l op r => by
    rw [expr, exprUses]
    refine .bind fun a ha => .bind fun b hb => ?_
    simp [expr_names h l a ha, expr_names h r b hb, Instr.names]
  | c, k, owner, h, .unary _ op e => by
    rw [expr, exprUses]
    refine .bind fun a ha => ?_
    simp [expr_names h e a ha, Instr.names]
  | c, k, owner, h, .lambda sp ps e => by
    rw [expr, exprUses]
    refine .bind fun _ _ => .bind fun ds hds => .bind fun is his => ?_
    have hsignature := signatureOf_names
      (c := c.inside (c.scopeAt sp lambdaName .function) .lambda false (c.qualnameOf lambdaName)) h ps
    simp only [names_ok, namesOf_append, namesOf_cons, namesOf_nil, Instr.names, names,
      List.append_nil, List.map_append, defaultValues_names h ps ds hds, hsignature,
      expr_names (c := c.inside _ .lambda false _) h e is his]
  | c, k, owner, h, .ifElse _ t b o => by
    rw [expr, exprUses]
    refine .bind fun x hx => .bind fun y hy => .bind fun z hz => ?_
    simp [expr_names h t x hx, expr_names h b y hy, expr_names h o z hz, Instr.names]
  | c, k, owner, h, .dict _ items => by
    rw [expr, exprUses]
    refine .bind fun a ha => ?_
    simp [dictItems_names h items a ha, Instr.names]
  | c, k, owner, h, .set _ es => by
    rw [expr, exprUses]
    refine .ite (.bind fun a ha => ?_) (.bind fun a ha => ?_)
    · simp [collected_names h es a ha, Instr.names]
    · simp [exprs_names h es a ha, Instr.names]
  | c, k, owner, h, .listComp sp e cs => by
    rw [expr, exprUses]
    exact comprehension_names h .list sp cs
      (expr_names (c := comprehensionContext c .list sp) h e)
  | c, k, owner, h, .setComp sp e cs => by
    rw [expr, exprUses]
    exact comprehension_names h .set sp cs
      (expr_names (c := comprehensionContext c .set sp) h e)
  | c, k, owner, h, .dictComp sp x v cs => by
    rw [expr, exprUses]
    refine comprehension_names h .dict sp cs (.bind fun a ha => .bind fun b hb => ?_)
    simp [expr_names (c := comprehensionContext c .dict sp) h x a ha,
      expr_names (c := comprehensionContext c .dict sp) h v b hb]
  | c, k, owner, h, .generator sp e cs => by
    rw [expr, exprUses]
    exact comprehension_names h .generator sp cs
      (expr_names (c := comprehensionContext c .generator sp) h e)
  | c, k, owner, h, .await sp e => by
    rw [expr, exprUses]
    refine .bind fun _ _ => .bind fun a ha => ?_
    simp [expr_names h e a ha, Instr.names]
  | c, k, owner, h, .yield sp e => by
    rw [expr, exprUses]
    refine .bind fun _ _ => .bind fun a ha => ?_
    simp [exprOr_names h e a ha, Instr.names]
  | c, k, owner, h, .yieldFrom sp e => by
    rw [expr, exprUses]
    refine .bind fun _ _ => .ite names_failAt (.bind fun a ha => ?_)
    simp [expr_names h e a ha, Instr.names]
  | c, k, owner, h, .compare _ l cs => by
    rw [expr, exprUses]
    refine .bind fun a ha => .bind fun b hb => ?_
    simp [expr_names h l a ha, comparisons_names h cs b hb]
  | c, k, owner, h, .call _ g es ks => by
    rw [expr, exprUses]
    refine .bind fun _ _ => .bind fun a ha => .ite (.bind fun b hb => .bind fun d hd => ?_)
      (.bind fun b hb => .bind fun d hd => ?_)
    · simp [expr_names h g a ha, collected_names h es b hb, mergedKeywords_names h ks d hd,
        Instr.names]
    · simp [expr_names h g a ha, exprs_names h es b hb, keywordValues_names h ks d hd, Instr.names]
  | c, k, owner, h, .formatted _ e conversion none => by
    rw [expr, exprUses, optionUses]
    refine .bind fun a ha => ?_
    simp [expr_names h e a ha, Instr.names]
  | c, k, owner, h, .formatted _ e conversion (some format) => by
    rw [expr, exprUses, optionUses]
    refine .bind fun a ha => .bind fun b hb => ?_
    simp [expr_names h e a ha, expr_names h format b hb, Instr.names]
  | c, k, owner, h, .joined _ es => by
    rw [expr, exprUses]
    refine .bind fun a ha => ?_
    simp [exprs_names h es a ha, Instr.names]
  | c, k, owner, h, .constant _ v => by simp [expr, exprUses, literal_names]
  | c, k, owner, h, .attribute _ e n => by
    rw [expr, exprUses]
    refine .bind fun a ha => ?_
    simp [expr_names h e a ha, Instr.names, known_eq h]
  | c, k, owner, h, .subscript _ e i => by
    rw [expr, exprUses]
    refine .bind fun a ha => .bind fun b hb => ?_
    simp [expr_names h e a ha, expr_names h i b hb, Instr.names]
  | c, k, owner, h, .starred sp e => by simp [expr]
  | c, k, owner, h, .name _ n => by simp [expr, exprUses, loadName, Instr.names, known_eq h]
  | c, k, owner, h, .list _ es => by
    rw [expr, exprUses]
    refine .ite (.bind fun a ha => ?_) (.bind fun a ha => ?_)
    · simp [collected_names h es a ha, Instr.names]
    · simp [exprs_names h es a ha, Instr.names]
  | c, k, owner, h, .tuple _ es => by
    rw [expr, exprUses]
    refine .ite (.bind fun a ha => ?_) (.bind fun a ha => ?_)
    · simp [collected_names h es a ha, Instr.names]
    · simp [exprs_names h es a ha, Instr.names]
  | c, k, owner, h, .slice _ l u s => by
    rw [expr, exprUses]
    refine .bind fun x hx => .bind fun y hy => .bind fun z hz => ?_
    simp [exprOr_names h l x hx, exprOr_names h u y hy, exprOr_names h s z hz, Instr.names]

theorem exprs_names : ∀ {c : Context} {k owner : Option String}, c.owner = k.or owner →
    ∀ es : List Expr, Names owner (exprs c es) (exprsUses k es)
  | c, k, owner, h, [] => by simp [exprs, exprsUses]
  | c, k, owner, h, e :: es => by
    rw [exprs, exprsUses]
    refine .bind fun a ha => .bind fun b hb => ?_
    simp [expr_names h e a ha, exprs_names h es b hb]

theorem exprOr_names : ∀ {c : Context} {k owner : Option String}, c.owner = k.or owner →
    ∀ e : Option Expr, Names owner (exprOr c (.push .none) e) (optionUses k e)
  | c, k, owner, h, none => by simp [exprOr, optionUses, Instr.names]
  | c, k, owner, h, some e => by
    rw [exprOr, optionUses]
    exact expr_names h e

theorem collected_names : ∀ {c : Context} {k owner : Option String}, c.owner = k.or owner →
    ∀ es : List Expr, Names owner (collected c es) (exprsUses k es)
  | c, k, owner, h, [] => by simp [collected, exprsUses]
  | c, k, owner, h, e :: es => by
    cases e with
    | starred sp e =>
      rw [collected, exprsUses, exprUses]
      refine .bind fun a ha => .bind fun b hb => ?_
      simp [expr_names h e a ha, collected_names h es b hb, Instr.names]
    | _ =>
      rw [collected, exprsUses]
      · refine .bind fun a ha => .bind fun b hb => ?_
        simp [expr_names h _ a ha, collected_names h es b hb, Instr.names]
      · simp

theorem operandChain_names : ∀ {c : Context} {k owner : Option String}, c.owner = k.or owner →
    ∀ (sense : Bool) (es : List Expr), Names owner (operandChain c sense es) (exprsUses k es)
  | c, k, owner, h, sense, [] => by simp [operandChain, exprsUses]
  | c, k, owner, h, sense, e :: es => by
    rw [operandChain, exprsUses]
    refine .bind fun a ha => ?_
    cases es with
    | nil => simp [expr_names h e a ha, exprsUses]
    | cons e' es =>
      refine .bind fun b hb => ?_
      simp [expr_names h e a ha, operandChain_names h sense (e' :: es) b hb, Instr.names]

theorem comparisons_names : ∀ {c : Context} {k owner : Option String}, c.owner = k.or owner →
    ∀ cs : List Comparand, Names owner (comparisons c cs) (comparandsUses k cs)
  | c, k, owner, h, [] => by simp [comparisons, comparandsUses]
  | c, k, owner, h, .mk op e :: cs => by
    rw [comparisons, comparandsUses]
    refine .bind fun a ha => ?_
    cases cs with
    | nil => simp [expr_names h e a ha, comparandsUses, Instr.names]
    | cons e' cs =>
      refine .bind fun b hb => ?_
      simp [chainStep, expr_names h e a ha, comparisons_names h (e' :: cs) b hb, Instr.names]

theorem dictItems_names : ∀ {c : Context} {k owner : Option String}, c.owner = k.or owner →
    ∀ items : List DictItem, Names owner (dictItems c items) (itemsUses k items)
  | c, k, owner, h, [] => by simp [dictItems, itemsUses]
  | c, k, owner, h, .pair x v :: items => by
    rw [dictItems, itemsUses]
    refine .bind fun a ha => .bind fun b hb => .bind fun d hd => ?_
    simp [expr_names h x a ha, expr_names h v b hb, dictItems_names h items d hd, Instr.names]
  | c, k, owner, h, .unpack e :: items => by
    rw [dictItems, itemsUses]
    refine .bind fun a ha => .bind fun b hb => ?_
    simp [expr_names h e a ha, dictItems_names h items b hb, Instr.names]

theorem keywordValues_names : ∀ {c : Context} {k owner : Option String}, c.owner = k.or owner →
    ∀ ks : List Keyword, Names owner (keywordValues c ks) (keywordsUses k ks)
  | c, k, owner, h, [] => by simp [keywordValues, keywordsUses]
  | c, k, owner, h, .mk _ _ e :: ks => by
    rw [keywordValues, keywordsUses]
    refine .bind fun a ha => .bind fun b hb => ?_
    simp [expr_names h e a ha, keywordValues_names h ks b hb]

theorem mergedKeywords_names : ∀ {c : Context} {k owner : Option String}, c.owner = k.or owner →
    ∀ ks : List Keyword, Names owner (mergedKeywords c ks) (keywordsUses k ks)
  | c, k, owner, h, [] => by simp [mergedKeywords, keywordsUses]
  | c, k, owner, h, .mk _ none e :: ks => by
    rw [mergedKeywords, keywordsUses]
    refine .bind fun a ha => .bind fun b hb => ?_
    simp [expr_names h e a ha, mergedKeywords_names h ks b hb, Instr.names]
  | c, k, owner, h, .mk _ (some n) e :: ks => by
    rw [mergedKeywords, keywordsUses]
    refine .bind fun a ha => .bind fun b hb => ?_
    simp [expr_names h e a ha, mergedKeywords_names h ks b hb, Instr.names]

theorem defaultValues_names : ∀ {c : Context} {k owner : Option String}, c.owner = k.or owner →
    ∀ ps : Parameters, Names owner (defaultValues c ps) (defaultsUses k ps)
  | c, k, owner, h, .mk posOnly plain star keywordOnly doubleStar => by
    rw [defaultValues, defaultsUses]
    refine .bind fun x hx => .bind fun y hy => .bind fun z hz => ?_
    simp [defaultList_names h posOnly x hx, defaultList_names h plain y hy,
      defaultList_names h keywordOnly z hz]

theorem defaultList_names : ∀ {c : Context} {k owner : Option String}, c.owner = k.or owner →
    ∀ ps : List DefaultParameter, Names owner (defaultList c ps) (defaultListUses k ps)
  | c, k, owner, h, [] => by simp [defaultList, defaultListUses]
  | c, k, owner, h, .mk _ none :: ps => by
    rw [defaultList, defaultListUses, optionUses]
    exact defaultList_names h ps
  | c, k, owner, h, .mk _ (some e) :: ps => by
    rw [defaultList, defaultListUses, optionUses]
    refine .bind fun a ha => .bind fun b hb => ?_
    simp [expr_names h e a ha, defaultList_names h ps b hb]

theorem comprehension_names : ∀ {c : Context} {k owner : Option String}, c.owner = k.or owner →
    ∀ (kind : ComprehensionKind) (sp : Span) (cs : List Clause)
      {element : Except Fault (List Instr)} {us : List Use}, Names owner element us →
      Names owner (comprehension c kind sp cs element) (comprehensionUses k cs us)
  | c, k, owner, h, kind, sp, [], element, us, helement => by
    rw [comprehension, comprehensionUses]
    exact .ite names_failAt (by simp)
  | c, k, owner, h, kind, sp, .mk isAsync t i ts :: rest, element, us, helement => by
    rw [comprehension, comprehensionUses]
    have hinner : (comprehensionContext c kind sp).owner = k.or owner := h
    refine .ite names_failAt (.bind fun x hx => .bind fun y hy => .bind fun z hz =>
      .bind fun a ha => ?_)
    have hempty : namesOf (emptyResult kind) = [] := by cases kind <;> simp [emptyResult, Instr.names]
    have hloop : namesOf (clauseLoop x z y) =
        (targetUses k t ++ exprsUses k ts ++ (clausesUses k rest ++ us)).map (Use.known owner) := by
      simp [clauseLoop, assignTo_names hinner t x hx, tests_names hinner _ ts z hz,
        clausesLoops_names hinner kind 1 rest helement y hy, Instr.names]
    have hasync : ∀ (p : Prop) [Decidable p] (is : List Instr), namesOf is = [] →
        namesOf (if p then is else []) = [] := by
      intro p _ is his
      split
      · exact his
      · exact namesOf_nil
    simp only [names_ok, namesOf_append, namesOf_cons, namesOf_nil, Instr.names, comprehensionCode,
      names, hempty, hloop, hasync, expr_names h i a ha, iterableUses_known, Signature.names,
      List.append_nil, List.nil_append, List.map_append, Option.toList_none, List.cons_append,
      List.append_assoc]

theorem clausesLoops_names : ∀ {c : Context} {k owner : Option String}, c.owner = k.or owner →
    ∀ (kind : ComprehensionKind) (depth : Nat) (cs : List Clause)
      {element : Except Fault (List Instr)} {us : List Use}, Names owner element us →
      Names owner (clausesLoops c kind depth element cs) (clausesUses k cs ++ us)
  | c, k, owner, h, kind, depth, [], element, us, helement => by
    rw [clausesLoops, clausesUses]
    refine .bind fun a ha => ?_
    cases kind <;> simp [collect, helement a ha, Instr.names]
  | c, k, owner, h, kind, depth, .mk isAsync t i ts :: rest, element, us, helement => by
    rw [clausesLoops, clausesUses]
    refine .bind fun x hx => .bind fun y hy => .bind fun z hz => .bind fun a ha => ?_
    simp [clauseLoop, expr_names h i x hx, assignTo_names h t y hy,
      clausesLoops_names h kind (depth + 1) rest helement z hz, tests_names h _ ts a ha, Instr.names]
    split <;> simp [Instr.names]

theorem tests_names : ∀ {c : Context} {k owner : Option String}, c.owner = k.or owner →
    ∀ (behind : Nat) (es : List Expr), Names owner (tests c behind es) (exprsUses k es)
  | c, k, owner, h, behind, [] => by simp [tests, exprsUses]
  | c, k, owner, h, behind, e :: es => by
    rw [tests, exprsUses]
    refine .bind fun a ha => .bind fun b hb => ?_
    simp [skipUnless, expr_names h e a ha, tests_names h behind es b hb, Instr.names]

theorem assignTo_names : ∀ {c : Context} {k owner : Option String}, c.owner = k.or owner →
    ∀ e : Expr, Names owner (assignTo c e) (targetUses k e)
  | c, k, owner, h, .name sp n => by
    rw [assignTo, targetUses]
    exact storeName_names h sp n
  | c, k, owner, h, .attribute sp e n => by
    rw [assignTo, targetUses]
    refine .bind fun a ha => .bind fun _ _ => ?_
    simp [expr_names h e a ha, Instr.names, known_eq h]
  | c, k, owner, h, .subscript _ e i => by
    rw [assignTo, targetUses]
    refine .bind fun a ha => .bind fun b hb => ?_
    simp [expr_names h e a ha, expr_names h i b hb, Instr.names]
  | c, k, owner, h, .tuple sp es => by
    rw [assignTo, targetUses]
    refine .bind fun a ha => .bind fun b hb => ?_
    simp [unpackInstr_names ha, assignToAll_names h es b hb]
  | c, k, owner, h, .list sp es => by
    rw [assignTo, targetUses]
    refine .bind fun a ha => .bind fun b hb => ?_
    simp [unpackInstr_names ha, assignToAll_names h es b hb]
  | c, k, owner, h, .starred sp e => by simp [assignTo]
  | c, k, owner, h, .boolOp .. | c, k, owner, h, .named .. | c, k, owner, h, .binary ..
  | c, k, owner, h, .unary .. | c, k, owner, h, .lambda .. | c, k, owner, h, .ifElse ..
  | c, k, owner, h, .dict .. | c, k, owner, h, .set .. | c, k, owner, h, .listComp ..
  | c, k, owner, h, .setComp .. | c, k, owner, h, .dictComp .. | c, k, owner, h, .generator ..
  | c, k, owner, h, .await .. | c, k, owner, h, .yield .. | c, k, owner, h, .yieldFrom ..
  | c, k, owner, h, .compare .. | c, k, owner, h, .call .. | c, k, owner, h, .formatted ..
  | c, k, owner, h, .joined .. | c, k, owner, h, .constant .. | c, k, owner, h, .slice .. => by
    simp [assignTo, targetUses, Instr.names]

theorem assignToAll_names : ∀ {c : Context} {k owner : Option String}, c.owner = k.or owner →
    ∀ es : List Expr, Names owner (assignToAll c es) (targetsUses k es)
  | c, k, owner, h, [] => by simp [assignToAll, targetsUses]
  | c, k, owner, h, e :: es => by
    cases e with
    | starred sp e =>
      rw [assignToAll, targetsUses, targetUses]
      refine .bind fun a ha => .bind fun b hb => ?_
      simp [assignTo_names h e a ha, assignToAll_names h es b hb]
    | _ =>
      rw [assignToAll, targetsUses]
      · refine .bind fun a ha => .bind fun b hb => ?_
        simp [assignTo_names h _ a ha, assignToAll_names h es b hb]
      · simp

end

/-! ## Statements -/

section

variable {c : Context} {k owner : Option String}

mutual

theorem deleteTarget_names (h : c.owner = k.or owner) : ∀ e : Expr,
    Names owner (deleteTarget c e) (deletedUses k e)
  | .name sp n => by
    rw [deleteTarget, deletedUses]
    exact deleteName_names h sp n
  | .attribute _ e n => by
    rw [deleteTarget, deletedUses]
    refine .bind fun a ha => ?_
    simp [expr_names h e a ha, Instr.names, known_eq h]
  | .subscript _ e i => by
    rw [deleteTarget, deletedUses]
    refine .bind fun a ha => .bind fun b hb => ?_
    simp [expr_names h e a ha, expr_names h i b hb, Instr.names]
  | .tuple _ es => by
    rw [deleteTarget, deletedUses]
    exact deleteTargets_names h es
  | .list _ es => by
    rw [deleteTarget, deletedUses]
    exact deleteTargets_names h es
  | .boolOp .. | .named .. | .binary .. | .unary .. | .lambda .. | .ifElse .. | .dict .. | .set ..
  | .listComp .. | .setComp .. | .dictComp .. | .generator .. | .await .. | .yield ..
  | .yieldFrom .. | .compare .. | .call .. | .formatted .. | .joined .. | .constant ..
  | .starred .. | .slice .. => by simp [deleteTarget, deletedUses]

theorem deleteTargets_names (h : c.owner = k.or owner) : ∀ es : List Expr,
    Names owner (deleteTargets c es) (deletedAllUses k es)
  | [] => by simp [deleteTargets, deletedAllUses]
  | e :: es => by
    rw [deleteTargets, deletedAllUses]
    refine .bind fun a ha => .bind fun b hb => ?_
    simp [deleteTarget_names h e a ha, deleteTargets_names h es b hb]

end

theorem assignEach_names (h : c.owner = k.or owner) (es : List Expr) :
    Names owner (assignEach c es) (targetsUses k es) := by
  induction es with
  | nil => simp [assignEach, targetsUses, Instr.names]
  | cons e es ih =>
    cases es with
    | nil =>
      rw [assignEach, targetsUses, targetsUses, List.append_nil]
      exact assignTo_names h e
    | cons e' es =>
      rw [assignEach, targetsUses]
      · refine .bind fun a ha => .bind fun b hb => ?_
        simp [assignTo_names h e a ha, ih b hb, Instr.names]
      · simp

theorem augmented_names (h : c.owner = k.or owner) (op : BinaryOp) {is : List Instr}
    {us : List Use} (his : namesOf is = us.map (Use.known owner)) : ∀ t : Expr,
    Names owner (augmented c t op is) (augmentedUses k us t)
  | .name sp n => by
    refine .bind fun a ha => ?_
    simp [augmentedUses, loadName, storeName_names h sp n a ha, his, Instr.names, known_eq h]
  | .attribute sp e n => by
    refine .bind fun _ _ => .bind fun a ha => ?_
    simp [augmentedUses, expr_names h e a ha, his, Instr.names, known_eq h]
  | .subscript sp e i => by
    refine .bind fun a ha => .bind fun b hb => ?_
    simp [augmentedUses, expr_names h e a ha, expr_names h i b hb, his, Instr.names]
  | .boolOp .. | .named .. | .binary .. | .unary .. | .lambda .. | .ifElse .. | .dict .. | .set ..
  | .listComp .. | .setComp .. | .dictComp .. | .generator .. | .await .. | .yield ..
  | .yieldFrom .. | .compare .. | .call .. | .formatted .. | .joined .. | .constant ..
  | .starred .. | .list .. | .tuple .. | .slice .. => by simp [augmented, augmentedUses]

/-- The instructions for the items of a `with` statement name what the items use. -/
theorem withItems_names (h : c.owner = k.or owner) {ws : List WithItem}
    {items : List (List Instr × List Instr)} (hitems : withItems c ws = .ok items) :
    items.flatMap (fun (context, target) => namesOf context ++ namesOf target) =
      (ws.flatMap (withItemUses k)).map (Use.known owner) := by
  induction ws generalizing items with
  | nil =>
    cases hitems
    rfl
  | cons w ws ih =>
    obtain ⟨context, target⟩ := w
    rw [withItems] at hitems
    obtain ⟨a, ha, hitems⟩ := bind_eq_ok.1 hitems
    have hcontext := expr_names h context a ha
    have hsplit : ∃ b rest, withItems c ws = .ok rest ∧ items = (a, b) :: rest ∧
        namesOf a ++ namesOf b = (withItemUses k ⟨context, target⟩).map (Use.known owner) := by
      cases target with
      | none =>
        obtain ⟨b, hb, hitems⟩ := bind_eq_ok.1 hitems
        obtain ⟨rest, hrest, hitems⟩ := bind_eq_ok.1 hitems
        cases hb
        cases hitems
        exact ⟨_, rest, hrest, rfl, by simp [Instr.names, withItemUses, hcontext]⟩
      | some t =>
        obtain ⟨b, hb, hitems⟩ := bind_eq_ok.1 hitems
        obtain ⟨rest, hrest, hitems⟩ := bind_eq_ok.1 hitems
        cases hitems
        have htarget := assignTo_names h t b hb
        exact ⟨b, rest, hrest, rfl, by simp [withItemUses, hcontext, htarget]⟩
    obtain ⟨b, rest, hrest, rfl, hitem⟩ := hsplit
    simp only [List.flatMap_cons, ih hrest, List.map_append, hitem]

theorem withCode_names (target body : List Instr) :
    namesOf (withCode target body) = namesOf target ++ namesOf body := by
  simp [withCode, Instr.names]

theorem withCodes_names (items : List (List Instr × List Instr)) (body : List Instr) :
    namesOf (items.foldr (fun (context, target) code => context ++ withCode target code) body) =
      items.flatMap (fun (context, target) => namesOf context ++ namesOf target) ++ namesOf body := by
  induction items with
  | nil => rfl
  | cons item items ih =>
    rw [List.foldr_cons, List.flatMap_cons, namesOf_append, withCode_names, ih]
    simp only [List.append_assoc]

theorem importStores_names (h : c.owner = k.or owner) (names : List Alias) :
    Names owner (importStores c names) (names.flatMap (aliasUses k)) := by
  induction names with
  | nil => simp [importStores]
  | cons a names ih =>
    rw [importStores, List.flatMap_cons, aliasUses]
    split
    · exact ih
    · refine .bind fun x hx => .bind fun y hy => ?_
      simp [storeName_names h a.span (Alias.bound a) x hx, ih y hy]

theorem applyDecorators_names (es : List Expr) : namesOf (applyDecorators es) = [] := by
  induction es with
  | nil => exact namesOf_nil
  | cons e es ih => simpa [applyDecorators, Instr.names] using ih

theorem classPrologue_names (owner : Option String) (qualname : String) (doc : Option String) :
    namesOf (classPrologue qualname doc) = (prologueUses doc).map (Use.known owner) := by
  have hknown : ∀ n, isPrivate n.toList = false → Use.known owner ⟨none, n⟩ = n := fun n hn =>
    mangle_of_not_private hn _
  cases doc <;>
    simp [classPrologue, prologueUses, Instr.names, hknown "__name__" (by decide),
      hknown "__module__" (by decide), hknown "__qualname__" (by decide),
      hknown "__doc__" (by decide)]

theorem classEpilogue_names (scope : Scope) : namesOf (classEpilogue scope) = [] := by
  unfold classEpilogue
  split <;> simp [returnNone, Instr.names]

theorem exprs_typeHints_names (h : c.owner = k.or owner) (ps : Parameters) (r : Option Expr) :
    Names owner (exprs c ((typeHints c ps r).map Prod.snd)) (hintUses k ps r) := by
  have htypes : (typeHints c ps r).map Prod.snd =
      (typedParameters ps).map Prod.snd ++ r.toList := by
    simp [typeHints, Function.comp_def]
  rw [htypes, hintUses]
  exact exprs_names h _

end

/-- A place and the text that stands there fit together: `k` is the class in the text that it is in,
    `owner` the class that the whole text is in. -/
structure Context.Fits (c : Context) (k owner : Option String) (inClass : Bool) : Prop where
  owner_eq : c.owner = k.or owner
  inClass_eq : (c.kind == .module || c.kind == .cls) = inClass

theorem Context.Fits.inLoop {c : Context} {k owner : Option String} {inClass : Bool}
    (h : c.Fits k owner inClass) : { c with inLoop := true }.Fits k owner inClass :=
  ⟨h.owner_eq, h.inClass_eq⟩

theorem tryCode_names (body orelse handlers : List Instr) :
    namesOf (tryCode body orelse handlers) = namesOf body ++ namesOf orelse ++ namesOf handlers := by
  simp [tryCode, Instr.names]

theorem finallyCode_names (body final : List Instr) :
    namesOf (finallyCode body final) = namesOf body ++ namesOf final := by
  simp [finallyCode, Instr.names]

theorem branchCode_names (test body orelse : List Instr) :
    namesOf (branchCode test body orelse) = namesOf test ++ namesOf body ++ namesOf orelse := by
  unfold branchCode
  split
  · rename_i hempty
    rw [List.isEmpty_iff.1 hempty]
    simp [Instr.names]
  · simp [Instr.names]

theorem handlerCode_names (type : Option (List Instr)) (body rest : List Instr) :
    namesOf (handlerCode type body rest) =
      namesOf (type.getD []) ++ namesOf body ++ namesOf rest := by
  cases type <;> simp [handlerCode, Instr.names]

theorem exprStmt_names {c : Context} {k owner : Option String} (h : c.owner = k.or owner)
    (sp : Span) (e : Expr) : Names owner (stmt c (.expr sp e)) (exprUses k e) := by
  have hvalue := expr_names h e
  cases e with
  | constant sp' v => simp [stmt, exprUses]
  | _ =>
    rw [stmt]
    · refine .bind fun a ha => ?_
      simp [hvalue a ha, Instr.names]
    · simp

/-- Where a type is noted behind instructions that name something, it is named as well. -/
theorem noted_names {c : Context} {k owner : Option String} {inClass : Bool}
    (h : c.Fits k owner inClass) {t hint : Expr} {simple : Bool} {a : List Instr} {us : List Use}
    (ha : namesOf a = us.map (Use.known owner)) :
    Names owner (match t with
      | .name sp n => do
        checkBindable sp n
        if simple && (c.kind == .module || c.kind == .cls) then
          .ok (a ++ (← expr c hint) ++ [.noteType (c.known n)])
        else .ok a
      | .attribute sp _ n => do
        checkBindable sp n
        .ok a
      | _ => .ok a) (us ++ notedUses k (simple && inClass) hint t) := by
  rw [h.inClass_eq]
  split
  · refine .bind fun _ _ => ?_
    rw [notedUses]
    split
    · refine .bind fun b hb => ?_
      simp [ha, expr_names h.owner_eq hint b hb, Instr.names, known_eq h.owner_eq]
    · simp [ha]
  · exact .bind fun _ _ => by simp [ha, notedUses]
  · rename_i hname _
    cases t with
    | name sp n => exact absurd rfl (hname sp n)
    | _ => simp [ha, notedUses]

/-- An assignment with a type names what it uses; the type itself counts only where it is noted. -/
theorem annAssign_names {c : Context} {k owner : Option String} {inClass : Bool}
    (h : c.Fits k owner inClass) (sp : Span) (t hint : Expr) (e : Option Expr) (simple : Bool) :
    Names owner (stmt c (.annAssign sp t hint e simple))
      (assignedUses k t e ++ notedUses k (simple && inClass) hint t) := by
  rw [stmt.eq_def]
  dsimp only
  cases e with
  | none =>
    refine .bind fun a ha => noted_names h ?_
    cases ha
    rfl
  | some e =>
    refine .bind fun x hx => .bind fun y hy => .bind fun a ha => noted_names h ?_
    cases ha
    simp [assignedUses, expr_names h.owner_eq e x hx, assignTo_names h.owner_eq t y hy]

mutual

theorem stmt_names : ∀ {c : Context} {k owner : Option String} {inClass : Bool},
    c.Fits k owner inClass → ∀ s : Stmt, Names owner (stmt c s) (stmtUses k inClass s)
  | c, k, owner, inClass, h, .functionDef sp isAsync n ps b ds r => by
    rw [stmt, stmtUses]
    have hinner : (c.ofFunction sp n isAsync).Fits k owner false := ⟨h.owner_eq, rfl⟩
    refine .bind fun _ _ => .bind fun applied happlied => .bind fun defaults hdefaults =>
      .bind fun hints hhints => .bind fun body hbody => .bind fun stored hstored => ?_
    have hsignature : (functionInfo (c.ofFunction sp n isAsync) n (firstLineOf sp ds) ps
        b).signature.names = (paramUses k ps).map (Use.known owner) :=
      signatureOf_names hinner.owner_eq ps
    have hcode : names (functionCode c sp isAsync n ps b ds body) =
        (paramUses k ps ++ stmtsUses k false b).map (Use.known owner) := by
      rw [functionCode, names, namesOf_append, hsignature, stmts_names hinner b body hbody]
      simp [returnNone, Instr.names]
    unfold functionCode Context.ofFunction at hcode
    simp only [names_ok, namesOf_append, namesOf_cons, namesOf_nil, Instr.names, hcode,
      exprs_names h.owner_eq ds applied happlied, applyDecorators_names,
      defaultValues_names h.owner_eq ps defaults hdefaults,
      exprs_typeHints_names h.owner_eq ps r hints hhints,
      storeName_names h.owner_eq sp n stored hstored, List.append_nil, List.map_append]
  | c, k, owner, inClass, h, .classDef sp n bs ks b ds => by
    rw [stmt, stmtUses]
    have hinner : (c.ofClass sp n).Fits (some n) owner true := ⟨rfl, rfl⟩
    refine .bind fun applied happlied => .bind fun body hbody => .bind fun _ _ =>
      .bind fun given hgiven => .bind fun named hnamed => .bind fun stored hstored => ?_
    have hbody' := stmts_names hinner b body hbody
    simp only [names_ok, namesOf_append, namesOf_cons, namesOf_nil, Instr.names, names,
      Signature.names, classPrologue_names owner, classEpilogue_names, hbody',
      exprs_names h.owner_eq ds applied happlied, applyDecorators_names,
      exprs_names h.owner_eq bs given hgiven, keywordValues_names h.owner_eq ks named hnamed,
      storeName_names h.owner_eq sp n stored hstored, List.append_nil, List.nil_append,
      List.map_append, Option.toList_none, List.append_assoc]
  | c, k, owner, inClass, h, .ret sp e => by
    rw [stmt, stmtUses]
    refine .ite names_failAt (.ite names_failAt (.bind fun a ha => ?_))
    simp [exprOr_names h.owner_eq e a ha, Instr.names]
  | c, k, owner, inClass, h, .delete _ ts => by
    rw [stmt, stmtUses]
    exact deleteTargets_names h.owner_eq ts
  | c, k, owner, inClass, h, .assign _ ts e => by
    rw [stmt, stmtUses]
    refine .bind fun a ha => .bind fun b hb => ?_
    simp [expr_names h.owner_eq e a ha, assignEach_names h.owner_eq ts b hb]
  | c, k, owner, inClass, h, .augAssign _ t op e => by
    rw [stmt, stmtUses]
    refine .bind fun a ha => ?_
    exact augmented_names h.owner_eq op (expr_names h.owner_eq e a ha) t
  | c, k, owner, inClass, h, .annAssign sp t hint e simple => by
    rw [stmtUses]
    exact annAssign_names h sp t hint e simple
  | c, k, owner, inClass, h, .forLoop sp isAsync t i b o => by
    rw [stmt, stmtUses]
    cases isAsync with
    | false =>
      refine .bind fun x hx => .bind fun y hy => .bind fun z hz => .bind fun a ha => ?_
      simp [forCode, expr_names h.owner_eq i x hx, assignTo_names h.owner_eq t y hy,
        stmts_names h.inLoop b z hz, stmts_names h o a ha, Instr.names]
    | true =>
      refine .bind fun _ _ => .bind fun x hx => .bind fun y hy => .bind fun z hz =>
        .bind fun a ha => ?_
      simp [forCode, expr_names h.owner_eq i x hx, assignTo_names h.owner_eq t y hy,
        stmts_names h.inLoop b z hz, stmts_names h o a ha, Instr.names]
  | c, k, owner, inClass, h, .whileLoop _ t b o => by
    rw [stmt, stmtUses]
    refine .bind fun x hx => .bind fun y hy => .bind fun z hz => ?_
    simp [whileCode, expr_names h.owner_eq t x hx, stmts_names h.inLoop b y hy,
      stmts_names h o z hz, Instr.names]
  | c, k, owner, inClass, h, .cond _ t b o => by
    rw [stmt, stmtUses]
    refine .bind fun x hx => .bind fun y hy => .bind fun z hz => ?_
    simp [branchCode_names, expr_names h.owner_eq t x hx, stmts_names h b y hy,
      stmts_names h o z hz]
  | c, k, owner, inClass, h, .withBlock sp isAsync ws b => by
    rw [stmt, stmtUses]
    cases isAsync with
    | false =>
      refine .bind fun items hitems => .bind fun body hbody => ?_
      rw [names_ok, if_neg Bool.false_ne_true, List.nil_append, withCodes_names,
        withItems_names h.owner_eq hitems, stmts_names h b body hbody, List.map_append]
    | true =>
      refine .bind fun _ _ => .bind fun items hitems => .bind fun body hbody => ?_
      rw [names_ok, if_pos rfl, namesOf_append, withCodes_names,
        withItems_names h.owner_eq hitems, stmts_names h b body hbody, List.map_append]
      simp [Instr.names]
  | c, k, owner, inClass, h, .matchBlock _ e cs => by
    rw [stmt, stmtUses]
    refine .bind fun a ha => .bind fun b hb => ?_
    simp [expr_names h.owner_eq e a ha, matchCases_names h cs b hb, Instr.names]
  | c, k, owner, inClass, h, .raise _ none cause => by simp [stmt, stmtUses, Instr.names]
  | c, k, owner, inClass, h, .raise _ (some e) none => by
    rw [stmt, stmtUses, optionUses]
    refine .bind fun a ha => ?_
    simp [expr_names h.owner_eq e a ha, Instr.names]
  | c, k, owner, inClass, h, .raise _ (some e) (some cause) => by
    rw [stmt, stmtUses, optionUses]
    refine .bind fun a ha => .bind fun b hb => ?_
    simp [expr_names h.owner_eq e a ha, expr_names h.owner_eq cause b hb, Instr.names]
  | c, k, owner, inClass, h, .tryBlock _ isStar b hs o final => by
    rw [stmt, stmtUses]
    refine .bind fun x hx => .bind fun y hy => .bind fun z hz => .bind fun a ha => ?_
    have hinner : namesOf (if hs.isEmpty then x ++ y else tryCode x y z) =
        (stmtsUses k inClass b ++ stmtsUses k inClass o ++ handlersUses k inClass hs).map
          (Use.known owner) := by
      cases hs with
      | nil => simp [handlersUses, stmts_names h b x hx, stmts_names h o y hy]
      | cons handler hs =>
        rw [List.isEmpty_cons, if_neg Bool.false_ne_true, tryCode_names]
        simp [stmts_names h b x hx, stmts_names h o y hy, tryHandlers_names h (handler :: hs) z hz]
    have hstar : ∀ is, namesOf (if isStar then .missing "exception groups" :: is else is) =
        namesOf is := by
      intro is
      cases isStar <;> simp [Instr.names]
    have hfinal := stmts_names h final a ha
    cases final with
    | nil =>
      rw [stmtsUses, List.append_nil]
      simp only [names_ok, List.isEmpty_nil, if_pos, hstar, hinner]
    | cons st final =>
      simp only [names_ok, List.isEmpty_cons, Bool.false_eq_true, if_false, finallyCode_names,
        hstar, hinner, hfinal, List.map_append]
  | c, k, owner, inClass, h, .assert _ t none => by
    rw [stmt, stmtUses, optionUses]
    refine .bind fun a ha => .bind fun b hb => ?_
    cases hb
    simp [expr_names h.owner_eq t a ha, Instr.names]
  | c, k, owner, inClass, h, .assert _ t (some e) => by
    rw [stmt, stmtUses, optionUses]
    refine .bind fun a ha => .bind fun x hx => .bind fun b hb => ?_
    cases hb
    simp [expr_names h.owner_eq t a ha, expr_names h.owner_eq e x hx, Instr.names]
  | c, k, owner, inClass, h, .importNames _ names => by
    rw [stmt, stmtUses]
    refine .bind fun a ha => ?_
    simp [importStores_names h.owner_eq names a ha, Instr.names]
  | c, k, owner, inClass, h, .importFrom sp module names _ => by
    rw [stmt, stmtUses]
    refine .ite names_failAt (.bind fun a ha => ?_)
    simp [importStores_names h.owner_eq names a ha, Instr.names]
  | c, k, owner, inClass, h, .expr sp e => by
    rw [stmtUses]
    exact exprStmt_names h.owner_eq sp e
  | c, k, owner, inClass, h, .global _ _ => by simp [stmt, stmtUses]
  | c, k, owner, inClass, h, .nonlocal _ _ => by simp [stmt, stmtUses]
  | c, k, owner, inClass, h, .pass _ => by simp [stmt, stmtUses]
  | c, k, owner, inClass, h, .break sp => by
    rw [stmt, stmtUses]
    exact .ite (by simp [Instr.names]) names_failAt
  | c, k, owner, inClass, h, .continue sp => by
    rw [stmt, stmtUses]
    exact .ite (by simp [Instr.names]) names_failAt

theorem stmts_names : ∀ {c : Context} {k owner : Option String} {inClass : Bool},
    c.Fits k owner inClass → ∀ ss : List Stmt, Names owner (stmts c ss) (stmtsUses k inClass ss)
  | c, k, owner, inClass, h, [] => by simp [stmts, stmtsUses]
  | c, k, owner, inClass, h, s :: ss => by
    rw [stmts, stmtsUses]
    refine .bind fun a ha => .bind fun b hb => ?_
    simp [stmt_names h s a ha, stmts_names h ss b hb]

theorem tryHandlers_names : ∀ {c : Context} {k owner : Option String} {inClass : Bool},
    c.Fits k owner inClass → ∀ hs : List Handler,
      Names owner (tryHandlers c hs) (handlersUses k inClass hs)
  | c, k, owner, inClass, h, [] => by simp [tryHandlers, handlersUses, Instr.names]
  | c, k, owner, inClass, h, .mk sp t n b :: rest => by
    rw [tryHandlers, handlersUses]
    refine .ite names_failAt ?_
    -- What comes behind the caught type and the body is the same for every form of a handler.
    have htail : ∀ (n : Option String) {type : Option (List Instr)} {body : List Instr},
        namesOf (type.getD []) = (optionUses k t).map (Use.known owner) →
        namesOf body = (handledUses k (stmtsUses k inClass b) n).map (Use.known owner) →
        Names owner (do .ok (handlerCode type body (← tryHandlers c rest)))
          (optionUses k t ++ handledUses k (stmtsUses k inClass b) n
            ++ handlersUses k inClass rest) := by
      intro n type body htype hbody
      refine .bind fun a ha => ?_
      simp [handlerCode_names, htype, hbody, tryHandlers_names h rest a ha]
    -- A handler with a name stores what it has caught and deletes the name again at its end.
    have hbody : ∀ {type : Option (List Instr)},
        namesOf (type.getD []) = (optionUses k t).map (Use.known owner) →
        Names owner (match n with
          | some n => do
            let store ← storeName c sp n
            let body ← stmts c b
            let body ← .ok (namedHandlerBody store (← deleteName c sp n) body)
            .ok (handlerCode type body (← tryHandlers c rest))
          | none => do
            let body ← .ok (.pop :: (← stmts c b))
            .ok (handlerCode type body (← tryHandlers c rest)))
          (optionUses k t ++ handledUses k (stmtsUses k inClass b) n
            ++ handlersUses k inClass rest) := by
      intro type htype
      cases n with
      | none =>
        refine .bind fun x hx => .bind fun y hy => htail none htype ?_
        cases hy
        simp [handledUses, stmts_names h b x hx, Instr.names]
      | some n =>
        refine .bind fun x hx => .bind fun y hy => .bind fun z hz => .bind fun a ha =>
          htail (some n) htype ?_
        cases ha
        rw [namedHandlerBody, namesOf_append, finallyCode_names]
        simp [handledUses, storeName_names h.owner_eq sp n x hx, stmts_names h b y hy,
          deleteName_names h.owner_eq sp n z hz, Instr.names]
    cases t with
    | none =>
      refine .bind fun x hx => hbody ?_
      cases hx
      rfl
    | some e =>
      refine .bind fun x hx => .bind fun y hy => hbody ?_
      cases hy
      exact expr_names h.owner_eq e x hx

theorem matchCases_names : ∀ {c : Context} {k owner : Option String} {inClass : Bool},
    c.Fits k owner inClass → ∀ cs : List MatchCase,
      Names owner (matchCases c cs) (casesUses k inClass cs)
  | c, k, owner, inClass, h, [] => by simp [matchCases, casesUses]
  | c, k, owner, inClass, h, .mk _ guard b :: rest => by
    rw [matchCases, casesUses]
    refine .bind fun x hx => .bind fun y hy => .bind fun z hz => ?_
    simp [exprOr_names h.owner_eq guard x hx, stmts_names h b y hy, matchCases_names h rest z hz,
      Instr.names]

end

end Graft.Code
