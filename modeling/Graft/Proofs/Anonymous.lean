import Graft.Code.Statement

set_option autoImplicit false

/-! # Codes that instructions hold

An expression makes functions of its own, but only such as have no name: those of lambdas and of
comprehensions.  So the code of a definition is the only one of its name among the codes that the
instructions of the definition hold. -/

namespace Graft.Code

open Graft.Syntax Graft.Machine

/-- The code that an instruction makes a function or a class from. -/
def Instr.code? : Instr → Option Code
  | .function c .. => some c
  | .buildClass c .. => some c
  | _ => none

theorem inner_eq (code : Code) : code.inner = code.body.filterMap Instr.code? := by
  unfold inner
  congr 1

/-- The names of codes that have no name in the program. -/
def anonymousNames : List String :=
  [Scope.lambdaName, Scope.ComprehensionKind.list.blockName, Scope.ComprehensionKind.set.blockName,
    Scope.ComprehensionKind.dict.blockName, Scope.ComprehensionKind.generator.blockName]

theorem blockName_mem_anonymousNames (kind : Scope.ComprehensionKind) :
    kind.blockName ∈ anonymousNames := by
  cases kind <;> simp [anonymousNames]

/-- Instructions hold only codes that have no name. -/
def Anonymous (is : List Instr) : Prop :=
  ∀ i ∈ is, ∀ code, i.code? = some code → code.info.name ∈ anonymousNames

@[simp] theorem anonymous_nil : Anonymous [] := by simp [Anonymous]

@[simp] theorem anonymous_cons {i : Instr} {is : List Instr} :
    Anonymous (i :: is) ↔
      (∀ code, i.code? = some code → code.info.name ∈ anonymousNames) ∧ Anonymous is := by
  simp [Anonymous]

@[simp] theorem anonymous_append {is js : List Instr} :
    Anonymous (is ++ js) ↔ Anonymous is ∧ Anonymous js := by
  simp only [Anonymous, List.mem_append]
  constructor
  · exact fun h => ⟨fun i hi => h i (.inl hi), fun i hi => h i (.inr hi)⟩
  · rintro ⟨his, hjs⟩ i (hi | hi)
    · exact his i hi
    · exact hjs i hi

/-- What is made, if anything is, holds only codes that have no name. -/
def MakesAnonymous (x : Except Fault (List Instr)) : Prop := ∀ is, x = .ok is → Anonymous is

section Rules

variable {α : Type}

@[simp] theorem makesAnonymous_ok {is : List Instr} :
    MakesAnonymous (.ok is) ↔ Anonymous is := by
  simp [MakesAnonymous]

@[simp] theorem makesAnonymous_failAt {sp : Span} {message : String} :
    MakesAnonymous (failAt sp message) := by
  simp [MakesAnonymous, failAt]

theorem MakesAnonymous.bind {x : Except Fault α} {f : α → Except Fault (List Instr)}
    (h : ∀ a, x = .ok a → MakesAnonymous (f a)) : MakesAnonymous (x >>= f) := by
  intro is his
  cases x with
  | error e => simp [Bind.bind, Except.bind] at his
  | ok a => exact h a rfl is his

theorem MakesAnonymous.ite {p : Prop} [Decidable p] {x y : Except Fault (List Instr)}
    (hx : MakesAnonymous x) (hy : MakesAnonymous y) : MakesAnonymous (if p then x else y) := by
  split
  · exact hx
  · exact hy

end Rules

/-! ## Names -/

theorem storeName_anonymous (c : Context) (sp : Span) (name : String) :
    MakesAnonymous (storeName c sp name) := by
  unfold storeName
  exact .bind fun _ _ => by simp [Instr.code?]

theorem literal_code? (k : Constant) : (literal k).code? = none := by cases k <;> rfl

theorem unpackInstr_code? {sp : Span} {es : List Expr} {i : Instr}
    (h : unpackInstr sp es = .ok i) : i.code? = none := by
  unfold unpackInstr at h
  cases hs : starShape sp es with
  | error e => simp [hs, Bind.bind, Except.bind] at h
  | ok shape =>
    simp only [hs, Bind.bind, Except.bind] at h
    split at h <;> cases h <;> rfl

/-! ## Expressions -/

mutual

theorem expr_anonymous (c : Context) : (e : Expr) → MakesAnonymous (expr c e)
  | .boolOp _ op es => by
    rw [expr]
    exact operandChain_anonymous c _ es
  | .named _ t v => by
    rw [expr]
    refine .bind fun a ha => .bind fun b hb => ?_
    simp [expr_anonymous c v a ha, assignTo_anonymous c t b hb, Instr.code?]
  | .binary _ l op r => by
    rw [expr]
    refine .bind fun a ha => .bind fun b hb => ?_
    simp [expr_anonymous c l a ha, expr_anonymous c r b hb, Instr.code?]
  | .unary _ op e => by
    rw [expr]
    refine .bind fun a ha => ?_
    simp [expr_anonymous c e a ha, Instr.code?]
  | .lambda sp ps b => by
    rw [expr]
    refine .bind fun _ _ => .bind fun ds hds => .bind fun is _ => ?_
    simp [defaultValues_anonymous c ps ds hds, Instr.code?, Code.info, anonymousNames]
  | .ifElse _ t b o => by
    rw [expr]
    refine .bind fun x hx => .bind fun y hy => .bind fun z hz => ?_
    simp [expr_anonymous c t x hx, expr_anonymous c b y hy, expr_anonymous c o z hz, Instr.code?]
  | .dict _ items => by
    rw [expr]
    refine .bind fun a ha => ?_
    simp [dictItems_anonymous c items a ha, Instr.code?]
  | .set _ es => by
    rw [expr]
    refine .ite (.bind fun a ha => ?_) (.bind fun a ha => ?_)
    · simp [collected_anonymous c es a ha, Instr.code?]
    · simp [exprs_anonymous c es a ha, Instr.code?]
  | .listComp sp e cs => by
    rw [expr]
    exact comprehension_anonymous c .list sp cs _
  | .setComp sp e cs => by
    rw [expr]
    exact comprehension_anonymous c .set sp cs _
  | .dictComp sp k v cs => by
    rw [expr]
    exact comprehension_anonymous c .dict sp cs _
  | .generator sp e cs => by
    rw [expr]
    exact comprehension_anonymous c .generator sp cs _
  | .await sp e => by
    rw [expr]
    refine .bind fun _ _ => .bind fun a ha => ?_
    simp [expr_anonymous c e a ha, Instr.code?]
  | .yield sp e => by
    rw [expr]
    refine .bind fun _ _ => .bind fun a ha => ?_
    simp [exprOr_anonymous c _ rfl e a ha, Instr.code?]
  | .yieldFrom sp e => by
    rw [expr]
    refine .bind fun _ _ => .ite makesAnonymous_failAt (.bind fun a ha => ?_)
    simp [expr_anonymous c e a ha, Instr.code?]
  | .compare _ l cs => by
    rw [expr]
    refine .bind fun a ha => .bind fun b hb => ?_
    simp [expr_anonymous c l a ha, comparisons_anonymous c cs b hb]
  | .call _ f args ks => by
    rw [expr]
    refine .bind fun _ _ => .bind fun a ha => .ite (.bind fun b hb => .bind fun d hd => ?_)
      (.bind fun b hb => .bind fun d hd => ?_)
    · simp [expr_anonymous c f a ha, collected_anonymous c args b hb,
        mergedKeywords_anonymous c ks d hd, Instr.code?]
    · simp [expr_anonymous c f a ha, exprs_anonymous c args b hb,
        keywordValues_anonymous c ks d hd, Instr.code?]
  | .formatted _ e conversion none => by
    rw [expr]
    refine .bind fun a ha => ?_
    simp [expr_anonymous c e a ha, Instr.code?]
  | .formatted _ e conversion (some f) => by
    rw [expr]
    refine .bind fun a ha => .bind fun b hb => ?_
    simp [expr_anonymous c e a ha, expr_anonymous c f b hb, Instr.code?]
  | .joined _ es => by
    rw [expr]
    refine .bind fun a ha => ?_
    simp [exprs_anonymous c es a ha, Instr.code?]
  | .constant _ k => by simp [expr, literal_code?]
  | .attribute _ e name => by
    rw [expr]
    refine .bind fun a ha => ?_
    simp [expr_anonymous c e a ha, Instr.code?]
  | .subscript _ e i => by
    rw [expr]
    refine .bind fun a ha => .bind fun b hb => ?_
    simp [expr_anonymous c e a ha, expr_anonymous c i b hb, Instr.code?]
  | .starred sp e => by simp [expr]
  | .name _ id => by simp [expr, loadName, Instr.code?]
  | .list _ es => by
    rw [expr]
    refine .ite (.bind fun a ha => ?_) (.bind fun a ha => ?_)
    · simp [collected_anonymous c es a ha, Instr.code?]
    · simp [exprs_anonymous c es a ha, Instr.code?]
  | .tuple _ es => by
    rw [expr]
    refine .ite (.bind fun a ha => ?_) (.bind fun a ha => ?_)
    · simp [collected_anonymous c es a ha, Instr.code?]
    · simp [exprs_anonymous c es a ha, Instr.code?]
  | .slice _ l u s => by
    rw [expr]
    refine .bind fun x hx => .bind fun y hy => .bind fun z hz => ?_
    simp [exprOr_anonymous c _ rfl l x hx, exprOr_anonymous c _ rfl u y hy,
      exprOr_anonymous c _ rfl s z hz, Instr.code?]

theorem exprs_anonymous (c : Context) : (es : List Expr) → MakesAnonymous (exprs c es)
  | [] => by simp [exprs]
  | e :: es => by
    rw [exprs]
    refine .bind fun a ha => .bind fun b hb => ?_
    simp [expr_anonymous c e a ha, exprs_anonymous c es b hb]

theorem exprOr_anonymous (c : Context) (i : Instr) (hi : i.code? = none) :
    (e : Option Expr) → MakesAnonymous (exprOr c i e)
  | none => by simp [exprOr, hi]
  | some e => by
    rw [exprOr]
    exact expr_anonymous c e

theorem collected_anonymous (c : Context) : (es : List Expr) → MakesAnonymous (collected c es)
  | [] => by simp [collected]
  | e :: es => by
    cases e with
    | starred sp e =>
      rw [collected]
      refine .bind fun a ha => .bind fun b hb => ?_
      simp [expr_anonymous c e a ha, collected_anonymous c es b hb, Instr.code?]
    | _ =>
      rw [collected]
      · refine .bind fun a ha => .bind fun b hb => ?_
        simp [expr_anonymous c _ a ha, collected_anonymous c es b hb, Instr.code?]
      · simp

theorem operandChain_anonymous (c : Context) (sense : Bool) :
    (es : List Expr) → MakesAnonymous (operandChain c sense es)
  | [] => by simp [operandChain]
  | e :: es => by
    rw [operandChain]
    refine .bind fun a ha => .ite ?_ (.bind fun b hb => ?_)
    · simp [expr_anonymous c e a ha]
    · simp [expr_anonymous c e a ha, operandChain_anonymous c sense es b hb, Instr.code?]

theorem comparisons_anonymous (c : Context) :
    (cs : List Comparand) → MakesAnonymous (comparisons c cs)
  | [] => by simp [comparisons]
  | .mk op e :: cs => by
    rw [comparisons]
    refine .bind fun a ha => .ite ?_ (.bind fun b hb => ?_)
    · simp [expr_anonymous c e a ha, Instr.code?]
    · simp [chainStep, expr_anonymous c e a ha, comparisons_anonymous c cs b hb, Instr.code?]

theorem dictItems_anonymous (c : Context) :
    (items : List DictItem) → MakesAnonymous (dictItems c items)
  | [] => by simp [dictItems]
  | .pair k v :: items => by
    rw [dictItems]
    refine .bind fun x hx => .bind fun y hy => .bind fun z hz => ?_
    simp [expr_anonymous c k x hx, expr_anonymous c v y hy, dictItems_anonymous c items z hz,
      Instr.code?]
  | .unpack e :: items => by
    rw [dictItems]
    refine .bind fun a ha => .bind fun b hb => ?_
    simp [expr_anonymous c e a ha, dictItems_anonymous c items b hb, Instr.code?]

theorem keywordValues_anonymous (c : Context) :
    (ks : List Keyword) → MakesAnonymous (keywordValues c ks)
  | [] => by simp [keywordValues]
  | .mk _ _ e :: ks => by
    rw [keywordValues]
    refine .bind fun a ha => .bind fun b hb => ?_
    simp [expr_anonymous c e a ha, keywordValues_anonymous c ks b hb]

theorem mergedKeywords_anonymous (c : Context) :
    (ks : List Keyword) → MakesAnonymous (mergedKeywords c ks)
  | [] => by simp [mergedKeywords]
  | .mk _ none e :: ks => by
    rw [mergedKeywords]
    refine .bind fun a ha => .bind fun b hb => ?_
    simp [expr_anonymous c e a ha, mergedKeywords_anonymous c ks b hb, Instr.code?]
  | .mk _ (some name) e :: ks => by
    rw [mergedKeywords]
    refine .bind fun a ha => .bind fun b hb => ?_
    simp [expr_anonymous c e a ha, mergedKeywords_anonymous c ks b hb, Instr.code?]

theorem defaultValues_anonymous (c : Context) :
    (ps : Parameters) → MakesAnonymous (defaultValues c ps)
  | .mk posOnly plain star keywordOnly doubleStar => by
    rw [defaultValues]
    refine .bind fun x hx => .bind fun y hy => .bind fun z hz => ?_
    simp [defaultList_anonymous c posOnly x hx, defaultList_anonymous c plain y hy,
      defaultList_anonymous c keywordOnly z hz]

theorem defaultList_anonymous (c : Context) :
    (ps : List DefaultParameter) → MakesAnonymous (defaultList c ps)
  | [] => by simp [defaultList]
  | .mk _ none :: ps => by
    rw [defaultList]
    exact defaultList_anonymous c ps
  | .mk _ (some e) :: ps => by
    rw [defaultList]
    refine .bind fun a ha => .bind fun b hb => ?_
    simp [expr_anonymous c e a ha, defaultList_anonymous c ps b hb]

theorem comprehension_anonymous (c : Context) (kind : Scope.ComprehensionKind) (sp : Span) :
    (cs : List Clause) → (element : Except Fault (List Instr)) →
      MakesAnonymous (comprehension c kind sp cs element)
  | [], element => by
    rw [comprehension]
    exact .ite makesAnonymous_failAt (by simp)
  | .mk isAsync target iter conditions :: rest, element => by
    rw [comprehension]
    refine .ite makesAnonymous_failAt (.bind fun _ _ => .bind fun _ _ => .bind fun _ _ =>
      .bind fun a ha => ?_)
    simp only [anonymous_append, anonymous_cons, anonymous_nil, Instr.code?, makesAnonymous_ok,
      Option.some.injEq, forall_eq', reduceCtorEq, false_implies, implies_true, and_true]
    refine ⟨⟨blockName_mem_anonymousNames kind, expr_anonymous c iter a ha⟩, ?_⟩
    split <;> simp [Instr.code?]

theorem assignTo_anonymous (c : Context) : (e : Expr) → MakesAnonymous (assignTo c e)
  | .name sp id => by
    rw [assignTo]
    exact storeName_anonymous c sp id
  | .attribute sp e name => by
    rw [assignTo]
    refine .bind fun a ha => .bind fun _ _ => ?_
    simp [expr_anonymous c e a ha, Instr.code?]
  | .subscript _ e i => by
    rw [assignTo]
    refine .bind fun a ha => .bind fun b hb => ?_
    simp [expr_anonymous c e a ha, expr_anonymous c i b hb, Instr.code?]
  | .tuple sp es => by
    rw [assignTo]
    refine .bind fun a ha => .bind fun b hb => ?_
    simp [unpackInstr_code? ha, assignToAll_anonymous c es b hb]
  | .list sp es => by
    rw [assignTo]
    refine .bind fun a ha => .bind fun b hb => ?_
    simp [unpackInstr_code? ha, assignToAll_anonymous c es b hb]
  | .starred sp e => by simp [assignTo]
  | .boolOp .. | .named .. | .binary .. | .unary .. | .lambda .. | .ifElse .. | .dict .. | .set ..
  | .listComp .. | .setComp .. | .dictComp .. | .generator .. | .await .. | .yield ..
  | .yieldFrom .. | .compare .. | .call .. | .formatted .. | .joined .. | .constant ..
  | .slice .. => by simp [assignTo, Instr.code?]

theorem assignToAll_anonymous (c : Context) : (es : List Expr) → MakesAnonymous (assignToAll c es)
  | [] => by simp [assignToAll]
  | e :: es => by
    cases e with
    | starred sp e =>
      rw [assignToAll]
      refine .bind fun a ha => .bind fun b hb => ?_
      simp [assignTo_anonymous c e a ha, assignToAll_anonymous c es b hb]
    | _ =>
      rw [assignToAll]
      · refine .bind fun a ha => .bind fun b hb => ?_
        simp [assignTo_anonymous c _ a ha, assignToAll_anonymous c es b hb]
      · simp

end

end Graft.Code
