import Graft.Code.Statement
import Graft.Proofs.Mentions

set_option autoImplicit false

/-! # Names that program text uses

The names by which a piece of program reads and writes variables and attributes, in the order in
which its instructions do.  A name that stands in a class which the text itself defines is private to
that class; all others are private to the class around the text, if there is one. -/

namespace Graft.Scope

open Graft.Syntax

/-- A name that program text uses, and the class in that text that it stands in, if there is one. -/
structure Use where
  cls : Option String := none
  name : String
deriving DecidableEq, Repr

/-- The name as it is known if the text stands in a class. -/
def Use.known (owner : Option String) (u : Use) : String := mangle (u.cls.or owner) u.name

/-! ## Expressions -/

/-- The names of parameters. -/
def paramUses (k : Option String) : Parameters → List Use
  | .mk posOnly plain star keywordOnly doubleStar =>
    let one : Parameter → Use := fun p => ⟨k, p.name⟩
    let defaulted : DefaultParameter → Use := fun
      | .mk p _ => one p
    posOnly.map defaulted ++ plain.map defaulted ++ star.toList.map one
      ++ keywordOnly.map defaulted ++ doubleStar.toList.map one

/-- What a comprehension uses to get at what it runs over: it is passed and then read. -/
def iterableUses : List Use := [⟨none, iterableParam⟩, ⟨none, iterableParam⟩]

mutual

/-- What an expression uses. -/
def exprUses (k : Option String) : Expr → List Use
  | .boolOp _ _ es => exprsUses k es
  | .named _ t e => exprUses k e ++ targetUses k t
  | .binary _ l _ r => exprUses k l ++ exprUses k r
  | .unary _ _ e => exprUses k e
  | .lambda _ ps e => defaultsUses k ps ++ (paramUses k ps ++ exprUses k e)
  | .ifElse _ t b o => exprUses k t ++ exprUses k b ++ exprUses k o
  | .dict _ items => itemsUses k items
  | .set _ es => exprsUses k es
  | .listComp _ e cs => comprehensionUses k cs (exprUses k e)
  | .setComp _ e cs => comprehensionUses k cs (exprUses k e)
  | .dictComp _ x v cs => comprehensionUses k cs (exprUses k x ++ exprUses k v)
  | .generator _ e cs => comprehensionUses k cs (exprUses k e)
  | .await _ e => exprUses k e
  | .yield _ e => optionUses k e
  | .yieldFrom _ e => exprUses k e
  | .compare _ l cs => exprUses k l ++ comparandsUses k cs
  | .call _ g es ks => exprUses k g ++ exprsUses k es ++ keywordsUses k ks
  | .formatted _ e _ format => exprUses k e ++ optionUses k format
  | .joined _ es => exprsUses k es
  | .constant _ _ => []
  | .attribute _ e n => exprUses k e ++ [⟨k, n⟩]
  | .subscript _ e i => exprUses k e ++ exprUses k i
  | .starred _ e => exprUses k e
  | .name _ n => [⟨k, n⟩]
  | .list _ es => exprsUses k es
  | .tuple _ es => exprsUses k es
  | .slice _ l u s => optionUses k l ++ optionUses k u ++ optionUses k s

/-- What expressions use one after the other. -/
def exprsUses (k : Option String) : List Expr → List Use
  | [] => []
  | e :: es => exprUses k e ++ exprsUses k es

/-- What an expression that may be missing uses. -/
def optionUses (k : Option String) : Option Expr → List Use
  | none => []
  | some e => exprUses k e

/-- What an expression uses that is assigned to. -/
def targetUses (k : Option String) : Expr → List Use
  | .name _ n => [⟨k, n⟩]
  | .attribute _ e n => exprUses k e ++ [⟨k, n⟩]
  | .subscript _ e i => exprUses k e ++ exprUses k i
  | .tuple _ es => targetsUses k es
  | .list _ es => targetsUses k es
  | .starred _ e => targetUses k e
  | _ => []

/-- What targets use one after the other. -/
def targetsUses (k : Option String) : List Expr → List Use
  | [] => []
  | e :: es => targetUses k e ++ targetsUses k es

/-- What the right operands of comparisons use. -/
def comparandsUses (k : Option String) : List Comparand → List Use
  | [] => []
  | .mk _ e :: rest => exprUses k e ++ comparandsUses k rest

/-- What the items of a dictionary display use. -/
def itemsUses (k : Option String) : List DictItem → List Use
  | [] => []
  | .pair x v :: rest => exprUses k x ++ exprUses k v ++ itemsUses k rest
  | .unpack e :: rest => exprUses k e ++ itemsUses k rest

/-- What keyword arguments use. -/
def keywordsUses (k : Option String) : List Keyword → List Use
  | [] => []
  | .mk _ _ e :: rest => exprUses k e ++ keywordsUses k rest

/-- What the defaults of parameters use. -/
def defaultsUses (k : Option String) : Parameters → List Use
  | .mk posOnly plain _ keywordOnly _ =>
    defaultListUses k posOnly ++ defaultListUses k plain ++ defaultListUses k keywordOnly

/-- What the defaults in a list use. -/
def defaultListUses (k : Option String) : List DefaultParameter → List Use
  | [] => []
  | .mk _ d :: rest => optionUses k d ++ defaultListUses k rest

/-- What a comprehension uses, given what its element does. -/
def comprehensionUses (k : Option String) (cs : List Clause) (element : List Use) : List Use :=
  match cs with
  | [] => []
  | .mk _ t i tests :: rest =>
    iterableUses ++ (targetUses k t ++ exprsUses k tests ++ (clausesUses k rest ++ element))
      ++ exprUses k i

/-- What further clauses of a comprehension use. -/
def clausesUses (k : Option String) : List Clause → List Use
  | [] => []
  | .mk _ t i tests :: rest =>
    exprUses k i ++ (targetUses k t ++ exprsUses k tests ++ clausesUses k rest)

end

/-- What the types of parameters and of the result use. -/
def hintUses (k : Option String) (ps : Parameters) (returns : Option Expr) : List Use :=
  exprsUses k ((Code.typedParameters ps).map Prod.snd ++ returns.toList)

/-! ## Statements -/

mutual

/-- What an expression uses that is deleted. -/
def deletedUses (k : Option String) : Expr → List Use
  | .name _ n => [⟨k, n⟩]
  | .attribute _ e n => exprUses k e ++ [⟨k, n⟩]
  | .subscript _ e i => exprUses k e ++ exprUses k i
  | .tuple _ es => deletedAllUses k es
  | .list _ es => deletedAllUses k es
  | _ => []

/-- What expressions use that are deleted one after the other. -/
def deletedAllUses (k : Option String) : List Expr → List Use
  | [] => []
  | e :: es => deletedUses k e ++ deletedAllUses k es

end

/-- What an assignment with an operator uses, given what its value does. -/
def augmentedUses (k : Option String) (value : List Use) : Expr → List Use
  | .name _ n => [⟨k, n⟩] ++ value ++ [⟨k, n⟩]
  | .attribute _ e n => exprUses k e ++ [⟨k, n⟩] ++ value ++ [⟨k, n⟩]
  | .subscript _ e i => exprUses k e ++ exprUses k i ++ value
  | _ => []

/-- What an assignment with a type uses if it has a value. -/
def assignedUses (k : Option String) (t : Expr) : Option Expr → List Use
  | none => []
  | some e => exprUses k e ++ targetUses k t

/-- What is used to note the type of a variable. -/
def notedUses (k : Option String) (noted : Bool) (hint : Expr) : Expr → List Use
  | .name _ n => if noted then exprUses k hint ++ [⟨k, n⟩] else []
  | _ => []

/-- What an item of a `with` statement uses. -/
def withItemUses (k : Option String) (w : WithItem) : List Use :=
  exprUses k w.context ++ match w.target with
    | some t => targetUses k t
    | none => []

/-- What an import uses. -/
def aliasUses (k : Option String) (a : Alias) : List Use :=
  if a.name == "*" then [] else [⟨k, Alias.bound a⟩]

/-- What the body of an `except` clause uses: the variable, if there is one, is bound before and set
    and deleted behind it. -/
def handledUses (k : Option String) (body : List Use) : Option String → List Use
  | none => body
  | some n => [⟨k, n⟩] ++ body ++ [⟨k, n⟩, ⟨k, n⟩]

/-- What the body of a class uses before anything else. -/
def prologueUses (doc : Option String) : List Use :=
  [⟨none, "__name__"⟩, ⟨none, "__module__"⟩, ⟨none, "__qualname__"⟩]
    ++ if doc.isSome then [⟨none, "__doc__"⟩] else []

mutual

/-- What a statement uses, which stands in the body of a class or not. -/
def stmtUses (k : Option String) (inClass : Bool) : Stmt → List Use
  | .functionDef _ _ n ps b ds r =>
    exprsUses k ds ++ defaultsUses k ps ++ hintUses k ps r ++ (paramUses k ps ++ stmtsUses k false b)
      ++ [⟨k, n⟩]
  | .classDef _ n bs ks b ds =>
    exprsUses k ds ++ exprsUses k bs ++ keywordsUses k ks
      ++ (prologueUses (Code.docOf b) ++ stmtsUses (some n) true b) ++ [⟨k, n⟩]
  | .ret _ e => optionUses k e
  | .delete _ ts => deletedAllUses k ts
  | .assign _ ts e => exprUses k e ++ targetsUses k ts
  | .augAssign _ t _ e => augmentedUses k (exprUses k e) t
  | .annAssign _ t hint e simple => assignedUses k t e ++ notedUses k (simple && inClass) hint t
  | .forLoop _ _ t i b o =>
    exprUses k i ++ (targetUses k t ++ stmtsUses k inClass b) ++ stmtsUses k inClass o
  | .whileLoop _ t b o => exprUses k t ++ stmtsUses k inClass b ++ stmtsUses k inClass o
  | .cond _ t b o => exprUses k t ++ stmtsUses k inClass b ++ stmtsUses k inClass o
  | .withBlock _ _ ws b => ws.flatMap (withItemUses k) ++ stmtsUses k inClass b
  | .matchBlock _ e cs => exprUses k e ++ casesUses k inClass cs
  | .raise _ none _ => []
  | .raise _ (some e) cause => exprUses k e ++ optionUses k cause
  | .tryBlock _ _ b hs o final =>
    stmtsUses k inClass b ++ stmtsUses k inClass o ++ handlersUses k inClass hs
      ++ stmtsUses k inClass final
  | .assert _ t e => exprUses k t ++ optionUses k e
  | .importNames _ names => names.flatMap (aliasUses k)
  | .importFrom _ _ names _ => names.flatMap (aliasUses k)
  | .expr _ e => exprUses k e
  | .global _ _ | .nonlocal _ _ | .pass _ | .break _ | .continue _ => []

/-- What statements use one after the other. -/
def stmtsUses (k : Option String) (inClass : Bool) : List Stmt → List Use
  | [] => []
  | s :: ss => stmtUses k inClass s ++ stmtsUses k inClass ss

/-- What `except` clauses use. -/
def handlersUses (k : Option String) (inClass : Bool) : List Handler → List Use
  | [] => []
  | .mk _ type n b :: rest =>
    optionUses k type ++ handledUses k (stmtsUses k inClass b) n ++ handlersUses k inClass rest

/-- What `case` clauses use.  Their patterns are not reached. -/
def casesUses (k : Option String) (inClass : Bool) : List MatchCase → List Use
  | [] => []
  | .mk _ guard b :: rest =>
    optionUses k guard ++ stmtsUses k inClass b ++ casesUses k inClass rest

end

theorem stmtsUses_append (k : Option String) (inClass : Bool) (ss ss' : List Stmt) :
    stmtsUses k inClass (ss ++ ss') = stmtsUses k inClass ss ++ stmtsUses k inClass ss' := by
  induction ss with
  | nil => rfl
  | cons s ss ih => rw [List.cons_append, stmtsUses, stmtsUses, ih, List.append_assoc]

/-! ## Spans do not matter -/

variable (f : Span → Span)

theorem paramUses_mapSpan (k : Option String) (ps : Parameters) :
    paramUses k (ps.mapSpan f) = paramUses k ps := by
  obtain ⟨posOnly, plain, star, keywordOnly, doubleStar⟩ := ps
  have hname : ∀ p : Parameter, (p.mapSpan f).name = p.name := by
    rintro ⟨sp, n, hint⟩
    rfl
  have hlist : ∀ qs : List DefaultParameter, ((mapDefaultSpans f qs).map fun
      | .mk p _ => (⟨k, p.name⟩ : Use)) = qs.map fun
      | .mk p _ => (⟨k, p.name⟩ : Use) := by
    intro qs
    induction qs with
    | nil => rfl
    | cons q qs ih =>
      obtain ⟨p, d⟩ := q
      simp only [mapDefaultSpans, List.map_cons, ih, hname]
  have hoption : ∀ q : Option Parameter, ((mapParameterSpan? f q).toList.map fun p =>
      (⟨k, p.name⟩ : Use)) = q.toList.map fun p => ⟨k, p.name⟩ := by
    intro q
    cases q with
    | none => rfl
    | some p => simp only [mapParameterSpan?, Option.toList_some, List.map_cons, List.map_nil, hname]
  simp only [Parameters.mapSpan, paramUses, hlist, hoption]

mutual

theorem exprUses_mapSpan (k : Option String) : ∀ e : Expr,
    exprUses k (e.mapSpan f) = exprUses k e
  | .boolOp sp op es => by simp only [Expr.mapSpan, exprUses, exprsUses_mapSpan k es]
  | .named sp t e => by
    simp only [Expr.mapSpan, exprUses, exprUses_mapSpan k e, targetUses_mapSpan k t]
  | .binary sp l op r => by
    simp only [Expr.mapSpan, exprUses, exprUses_mapSpan k l, exprUses_mapSpan k r]
  | .unary sp op e => by simp only [Expr.mapSpan, exprUses, exprUses_mapSpan k e]
  | .lambda sp ps e => by
    simp only [Expr.mapSpan, exprUses, defaultsUses_mapSpan k ps, paramUses_mapSpan f k ps,
      exprUses_mapSpan k e]
  | .ifElse sp t b o => by
    simp only [Expr.mapSpan, exprUses, exprUses_mapSpan k t, exprUses_mapSpan k b,
      exprUses_mapSpan k o]
  | .dict sp items => by simp only [Expr.mapSpan, exprUses, itemsUses_mapSpan k items]
  | .set sp es => by simp only [Expr.mapSpan, exprUses, exprsUses_mapSpan k es]
  | .listComp sp e cs => by
    simp only [Expr.mapSpan, exprUses, exprUses_mapSpan k e, comprehensionUses_mapSpan k cs]
  | .setComp sp e cs => by
    simp only [Expr.mapSpan, exprUses, exprUses_mapSpan k e, comprehensionUses_mapSpan k cs]
  | .dictComp sp x v cs => by
    simp only [Expr.mapSpan, exprUses, exprUses_mapSpan k x, exprUses_mapSpan k v,
      comprehensionUses_mapSpan k cs]
  | .generator sp e cs => by
    simp only [Expr.mapSpan, exprUses, exprUses_mapSpan k e, comprehensionUses_mapSpan k cs]
  | .await sp e => by simp only [Expr.mapSpan, exprUses, exprUses_mapSpan k e]
  | .yield sp e => by simp only [Expr.mapSpan, exprUses, optionUses_mapSpan k e]
  | .yieldFrom sp e => by simp only [Expr.mapSpan, exprUses, exprUses_mapSpan k e]
  | .compare sp l cs => by
    simp only [Expr.mapSpan, exprUses, exprUses_mapSpan k l, comparandsUses_mapSpan k cs]
  | .call sp g es ks => by
    simp only [Expr.mapSpan, exprUses, exprUses_mapSpan k g, exprsUses_mapSpan k es,
      keywordsUses_mapSpan k ks]
  | .formatted sp e conversion format => by
    simp only [Expr.mapSpan, exprUses, exprUses_mapSpan k e, optionUses_mapSpan k format]
  | .joined sp es => by simp only [Expr.mapSpan, exprUses, exprsUses_mapSpan k es]
  | .constant sp v => rfl
  | .attribute sp e n => by simp only [Expr.mapSpan, exprUses, exprUses_mapSpan k e]
  | .subscript sp e i => by
    simp only [Expr.mapSpan, exprUses, exprUses_mapSpan k e, exprUses_mapSpan k i]
  | .starred sp e => by simp only [Expr.mapSpan, exprUses, exprUses_mapSpan k e]
  | .name sp n => rfl
  | .list sp es => by simp only [Expr.mapSpan, exprUses, exprsUses_mapSpan k es]
  | .tuple sp es => by simp only [Expr.mapSpan, exprUses, exprsUses_mapSpan k es]
  | .slice sp l u s => by
    simp only [Expr.mapSpan, exprUses, optionUses_mapSpan k l, optionUses_mapSpan k u,
      optionUses_mapSpan k s]

theorem exprsUses_mapSpan (k : Option String) : ∀ es : List Expr,
    exprsUses k (mapSpans f es) = exprsUses k es
  | [] => rfl
  | e :: es => by simp only [mapSpans, exprsUses, exprUses_mapSpan k e, exprsUses_mapSpan k es]

theorem optionUses_mapSpan (k : Option String) : ∀ e : Option Expr,
    optionUses k (mapSpan? f e) = optionUses k e
  | none => rfl
  | some e => by simp only [mapSpan?, optionUses, exprUses_mapSpan k e]

theorem targetUses_mapSpan (k : Option String) : ∀ e : Expr,
    targetUses k (e.mapSpan f) = targetUses k e
  | .name sp n => rfl
  | .attribute sp e n => by simp only [Expr.mapSpan, targetUses, exprUses_mapSpan k e]
  | .subscript sp e i => by
    simp only [Expr.mapSpan, targetUses, exprUses_mapSpan k e, exprUses_mapSpan k i]
  | .tuple sp es => by simp only [Expr.mapSpan, targetUses, targetsUses_mapSpan k es]
  | .list sp es => by simp only [Expr.mapSpan, targetUses, targetsUses_mapSpan k es]
  | .starred sp e => by simp only [Expr.mapSpan, targetUses, targetUses_mapSpan k e]
  | .boolOp .. | .named .. | .binary .. | .unary .. | .lambda .. | .ifElse .. | .dict .. | .set ..
  | .listComp .. | .setComp .. | .dictComp .. | .generator .. | .await .. | .yield ..
  | .yieldFrom .. | .compare .. | .call .. | .formatted .. | .joined .. | .constant ..
  | .slice .. => rfl

theorem targetsUses_mapSpan (k : Option String) : ∀ es : List Expr,
    targetsUses k (mapSpans f es) = targetsUses k es
  | [] => rfl
  | e :: es => by
    simp only [mapSpans, targetsUses, targetUses_mapSpan k e, targetsUses_mapSpan k es]

theorem comparandsUses_mapSpan (k : Option String) : ∀ cs : List Comparand,
    comparandsUses k (mapComparandSpans f cs) = comparandsUses k cs
  | [] => rfl
  | .mk op e :: cs => by
    simp only [mapComparandSpans, comparandsUses, exprUses_mapSpan k e, comparandsUses_mapSpan k cs]

theorem itemsUses_mapSpan (k : Option String) : ∀ items : List DictItem,
    itemsUses k (mapItemSpans f items) = itemsUses k items
  | [] => rfl
  | .pair x v :: items => by
    simp only [mapItemSpans, itemsUses, exprUses_mapSpan k x, exprUses_mapSpan k v,
      itemsUses_mapSpan k items]
  | .unpack e :: items => by
    simp only [mapItemSpans, itemsUses, exprUses_mapSpan k e, itemsUses_mapSpan k items]

theorem keywordsUses_mapSpan (k : Option String) : ∀ ks : List Keyword,
    keywordsUses k (mapKeywordSpans f ks) = keywordsUses k ks
  | [] => rfl
  | .mk sp n e :: ks => by
    simp only [mapKeywordSpans, keywordsUses, exprUses_mapSpan k e, keywordsUses_mapSpan k ks]

theorem defaultsUses_mapSpan (k : Option String) : ∀ ps : Parameters,
    defaultsUses k (ps.mapSpan f) = defaultsUses k ps
  | .mk posOnly plain star keywordOnly doubleStar => by
    simp only [Parameters.mapSpan, defaultsUses, defaultListUses_mapSpan k posOnly,
      defaultListUses_mapSpan k plain, defaultListUses_mapSpan k keywordOnly]

theorem defaultListUses_mapSpan (k : Option String) : ∀ ps : List DefaultParameter,
    defaultListUses k (mapDefaultSpans f ps) = defaultListUses k ps
  | [] => rfl
  | .mk p d :: ps => by
    simp only [mapDefaultSpans, defaultListUses, optionUses_mapSpan k d,
      defaultListUses_mapSpan k ps]

theorem comprehensionUses_mapSpan (k : Option String) : ∀ (cs : List Clause) (element : List Use),
    comprehensionUses k (mapClauseSpans f cs) element = comprehensionUses k cs element
  | [], _ => rfl
  | .mk isAsync t i tests :: rest, _ => by
    simp only [mapClauseSpans, comprehensionUses, targetUses_mapSpan k t, exprUses_mapSpan k i,
      exprsUses_mapSpan k tests, clausesUses_mapSpan k rest]

theorem clausesUses_mapSpan (k : Option String) : ∀ cs : List Clause,
    clausesUses k (mapClauseSpans f cs) = clausesUses k cs
  | [] => rfl
  | .mk isAsync t i tests :: rest => by
    simp only [mapClauseSpans, clausesUses, targetUses_mapSpan k t, exprUses_mapSpan k i,
      exprsUses_mapSpan k tests, clausesUses_mapSpan k rest]

end

theorem typedDefaults_mapSpan (qs : List DefaultParameter) :
    ((mapDefaultSpans f qs).filterMap fun
      | .mk p _ => match p with
        | .mk _ n (some hint) => some (n, hint)
        | .mk _ _ none => none) = (qs.filterMap fun
      | .mk p _ => match p with
        | .mk _ n (some hint) => some (n, hint)
        | .mk _ _ none => none).map fun (n, e) => (n, e.mapSpan f) := by
  induction qs with
  | nil => rfl
  | cons q qs ih =>
    obtain ⟨⟨sp, n, _ | hint⟩, d⟩ := q
    · exact ih
    · exact congrArg ((n, hint.mapSpan f) :: ·) ih

theorem typedOption_mapSpan (q : Option Parameter) :
    ((mapParameterSpan? f q).toList.filterMap fun
      | .mk _ n (some hint) => some (n, hint)
      | .mk _ _ none => none) = (q.toList.filterMap fun
      | .mk _ n (some hint) => some (n, hint)
      | .mk _ _ none => none).map fun (n, e) => (n, e.mapSpan f) := by
  obtain _ | ⟨sp, n, _ | hint⟩ := q <;> rfl

theorem typedParameters_mapSpan (ps : Parameters) :
    Code.typedParameters (ps.mapSpan f) =
      (Code.typedParameters ps).map fun (n, e) => (n, e.mapSpan f) := by
  obtain ⟨posOnly, plain, star, keywordOnly, doubleStar⟩ := ps
  simp only [Parameters.mapSpan, Code.typedParameters, List.map_append]
  congr 4
  · exact typedDefaults_mapSpan f plain
  · exact typedDefaults_mapSpan f posOnly
  · exact typedOption_mapSpan f star
  · exact typedDefaults_mapSpan f keywordOnly
  · exact typedOption_mapSpan f doubleStar

theorem hintUses_mapSpan (k : Option String) (ps : Parameters) (r : Option Expr) :
    hintUses k (ps.mapSpan f) (mapSpan? f r) = hintUses k ps r := by
  have hresult : (mapSpan? f r).toList = r.toList.map (Expr.mapSpan f) := by cases r <;> rfl
  have htypes : (Code.typedParameters (ps.mapSpan f)).map Prod.snd =
      ((Code.typedParameters ps).map Prod.snd).map (Expr.mapSpan f) := by
    rw [typedParameters_mapSpan, List.map_map, List.map_map]
    rfl
  unfold hintUses
  rw [htypes, hresult, ← List.map_append, ← mapSpans_eq_map, exprsUses_mapSpan]

theorem withItemUses_mapSpan (k : Option String) (ws : List WithItem) :
    (ws.map (WithItem.mapSpan f)).flatMap (withItemUses k) = ws.flatMap (withItemUses k) := by
  induction ws with
  | nil => rfl
  | cons w ws ih =>
    obtain ⟨context, target⟩ := w
    have hone : withItemUses k (WithItem.mapSpan f ⟨context, target⟩) =
        withItemUses k ⟨context, target⟩ := by
      cases target <;>
        simp [withItemUses, WithItem.mapSpan, mapSpan?, exprUses_mapSpan, targetUses_mapSpan]
    rw [List.map_cons, List.flatMap_cons, List.flatMap_cons, hone, ih]

theorem aliasUses_mapSpan (k : Option String) (names : List Alias) :
    (names.map (Alias.mapSpan f)).flatMap (aliasUses k) = names.flatMap (aliasUses k) := by
  rw [List.flatMap_map]
  rfl

mutual

theorem deletedUses_mapSpan (k : Option String) : ∀ e : Expr,
    deletedUses k (e.mapSpan f) = deletedUses k e
  | .name sp n => rfl
  | .attribute sp e n => by simp only [Expr.mapSpan, deletedUses, exprUses_mapSpan f k e]
  | .subscript sp e i => by
    simp only [Expr.mapSpan, deletedUses, exprUses_mapSpan f k e, exprUses_mapSpan f k i]
  | .tuple sp es => by simp only [Expr.mapSpan, deletedUses, deletedAllUses_mapSpan k es]
  | .list sp es => by simp only [Expr.mapSpan, deletedUses, deletedAllUses_mapSpan k es]
  | .boolOp .. | .named .. | .binary .. | .unary .. | .lambda .. | .ifElse .. | .dict .. | .set ..
  | .listComp .. | .setComp .. | .dictComp .. | .generator .. | .await .. | .yield ..
  | .yieldFrom .. | .compare .. | .call .. | .formatted .. | .joined .. | .constant ..
  | .starred .. | .slice .. => rfl

theorem deletedAllUses_mapSpan (k : Option String) : ∀ es : List Expr,
    deletedAllUses k (mapSpans f es) = deletedAllUses k es
  | [] => rfl
  | e :: es => by
    simp only [mapSpans, deletedAllUses, deletedUses_mapSpan k e, deletedAllUses_mapSpan k es]

end

theorem augmentedUses_mapSpan (k : Option String) (value : List Use) (t : Expr) :
    augmentedUses k value (t.mapSpan f) = augmentedUses k value t := by
  cases t <;> simp only [Expr.mapSpan, augmentedUses, exprUses_mapSpan]

theorem assignedUses_mapSpan (k : Option String) (t : Expr) (e : Option Expr) :
    assignedUses k (t.mapSpan f) (mapSpan? f e) = assignedUses k t e := by
  cases e with
  | none => rfl
  | some e => simp only [mapSpan?, assignedUses, exprUses_mapSpan, targetUses_mapSpan]

theorem notedUses_mapSpan (k : Option String) (noted : Bool) (hint t : Expr) :
    notedUses k noted (hint.mapSpan f) (t.mapSpan f) = notedUses k noted hint t := by
  cases t with
  | name sp n => simp only [Expr.mapSpan, notedUses, exprUses_mapSpan]
  | _ => rfl

theorem docOf_mapSpan (ss : List Stmt) : Code.docOf (mapStmtSpans f ss) = Code.docOf ss := by
  cases ss with
  | nil => rfl
  | cons s ss =>
    cases s with
    | expr sp e =>
      cases e with
      | constant sp' v => cases v <;> rfl
      | _ => rfl
    | _ => rfl

mutual

theorem stmtUses_mapSpan (k : Option String) (inClass : Bool) : ∀ s : Stmt,
    stmtUses k inClass (s.mapSpan f) = stmtUses k inClass s
  | .functionDef sp isAsync n ps b ds r => by
    simp only [Stmt.mapSpan, stmtUses, exprsUses_mapSpan f k ds, defaultsUses_mapSpan f k ps,
      hintUses_mapSpan f k ps r, paramUses_mapSpan f k ps, stmtsUses_mapSpan k false b]
  | .classDef sp n bs ks b ds => by
    simp only [Stmt.mapSpan, stmtUses, exprsUses_mapSpan f k ds, exprsUses_mapSpan f k bs,
      keywordsUses_mapSpan f k ks, docOf_mapSpan f b, stmtsUses_mapSpan (some n) true b]
  | .ret sp e => by simp only [Stmt.mapSpan, stmtUses, optionUses_mapSpan f k e]
  | .delete sp ts => by simp only [Stmt.mapSpan, stmtUses, deletedAllUses_mapSpan f k ts]
  | .assign sp ts e => by
    simp only [Stmt.mapSpan, stmtUses, exprUses_mapSpan f k e, targetsUses_mapSpan f k ts]
  | .augAssign sp t op e => by
    simp only [Stmt.mapSpan, stmtUses, exprUses_mapSpan f k e, augmentedUses_mapSpan f k _ t]
  | .annAssign sp t hint e simple => by
    simp only [Stmt.mapSpan, stmtUses, assignedUses_mapSpan f k t e, notedUses_mapSpan f k _ hint t]
  | .forLoop sp isAsync t i b o => by
    simp only [Stmt.mapSpan, stmtUses, exprUses_mapSpan f k i, targetUses_mapSpan f k t,
      stmtsUses_mapSpan k inClass b, stmtsUses_mapSpan k inClass o]
  | .whileLoop sp t b o => by
    simp only [Stmt.mapSpan, stmtUses, exprUses_mapSpan f k t, stmtsUses_mapSpan k inClass b,
      stmtsUses_mapSpan k inClass o]
  | .cond sp t b o => by
    simp only [Stmt.mapSpan, stmtUses, exprUses_mapSpan f k t, stmtsUses_mapSpan k inClass b,
      stmtsUses_mapSpan k inClass o]
  | .withBlock sp isAsync ws b => by
    have hitems := withItemUses_mapSpan f k ws
    simp only [Stmt.mapSpan, stmtUses, stmtsUses_mapSpan k inClass b]
    rw [← hitems]
  | .matchBlock sp e cs => by
    simp only [Stmt.mapSpan, stmtUses, exprUses_mapSpan f k e, casesUses_mapSpan k inClass cs]
  | .raise sp none cause => by simp only [Stmt.mapSpan, mapSpan?, stmtUses]
  | .raise sp (some e) cause => by
    simp only [Stmt.mapSpan, mapSpan?, stmtUses, exprUses_mapSpan f k e,
      optionUses_mapSpan f k cause]
  | .tryBlock sp isStar b hs o final => by
    simp only [Stmt.mapSpan, stmtUses, stmtsUses_mapSpan k inClass b,
      stmtsUses_mapSpan k inClass o, handlersUses_mapSpan k inClass hs,
      stmtsUses_mapSpan k inClass final]
  | .assert sp t e => by
    simp only [Stmt.mapSpan, stmtUses, exprUses_mapSpan f k t, optionUses_mapSpan f k e]
  | .importNames sp names => by
    simp only [Stmt.mapSpan, stmtUses]
    exact aliasUses_mapSpan f k names
  | .importFrom sp module names level => by
    simp only [Stmt.mapSpan, stmtUses]
    exact aliasUses_mapSpan f k names
  | .expr sp e => by simp only [Stmt.mapSpan, stmtUses, exprUses_mapSpan f k e]
  | .global .. | .nonlocal .. | .pass .. | .break .. | .continue .. => rfl

theorem stmtsUses_mapSpan (k : Option String) (inClass : Bool) : ∀ ss : List Stmt,
    stmtsUses k inClass (mapStmtSpans f ss) = stmtsUses k inClass ss
  | [] => rfl
  | s :: ss => by
    simp only [mapStmtSpans, stmtsUses, stmtUses_mapSpan k inClass s,
      stmtsUses_mapSpan k inClass ss]

theorem handlersUses_mapSpan (k : Option String) (inClass : Bool) : ∀ hs : List Handler,
    handlersUses k inClass (mapHandlerSpans f hs) = handlersUses k inClass hs
  | [] => rfl
  | .mk sp type n b :: hs => by
    simp only [mapHandlerSpans, handlersUses, optionUses_mapSpan f k type,
      stmtsUses_mapSpan k inClass b, handlersUses_mapSpan k inClass hs]

theorem casesUses_mapSpan (k : Option String) (inClass : Bool) : ∀ cs : List MatchCase,
    casesUses k inClass (mapCaseSpans f cs) = casesUses k inClass cs
  | [] => rfl
  | .mk p guard b :: cs => by
    simp only [mapCaseSpans, casesUses, optionUses_mapSpan f k guard,
      stmtsUses_mapSpan k inClass b, casesUses_mapSpan k inClass cs]

end

/-- Definitions that are alike use the same names in their bodies. -/
theorem stmtsUses_alike {d e : Splice.Definition} (h : d.Alike e) (k : Option String)
    (inClass : Bool) : stmtsUses k inClass d.body = stmtsUses k inClass e.body := by
  have hbody : mapStmtSpans noSpan d.body = mapStmtSpans noSpan e.body := by
    rw [mapStmtSpans_eq_map, mapStmtSpans_eq_map]
    exact h.body
  rw [← stmtsUses_mapSpan noSpan, hbody, stmtsUses_mapSpan]

end Graft.Scope
