import Graft.Proofs.Naming
import Mathlib.Tactic.SplitIfs

set_option autoImplicit false

/-! # Definitions in program text

A piece of program text makes functions and classes where definitions, lambdas and comprehensions
stand in it, and these make further ones.  Each has a title, which is its name and its qualified
name.  The qualified name is put together from those of the blocks around, but a definition whose
name is declared global where it stands is titled as if nothing were around it. -/

namespace Graft.Code

open Graft.Scope Graft.Syntax

/-- What a function or a class goes by. -/
structure Title where
  name : String
  qualname : String
deriving DecidableEq, Repr

/-- What makes a function or a class. -/
inductive NestedKind
  | function | lambda | comprehension | cls
deriving DecidableEq, Repr

/-- The kind of code that is made. -/
def NestedKind.code : NestedKind → CodeKind
  | .function => .function
  | .lambda => .lambda
  | .comprehension => .comprehension
  | .cls => .cls

/-- Something in program text that makes a function or a class, with the names that its statements
    declare global and what is inside it. -/
inductive Nested
  | mk (kind : NestedKind) (name : String) (globals : List String) (inner : List Nested)

/-! ## Titles -/

/-- Where program text stands, as far as titles depend on it. -/
structure Whereabouts where
  /-- The class that private names belong to. -/
  owner : Option String
  kind : NestedKind
  qualname : String
  /-- The names that the block declares global. -/
  globals : List String

namespace Whereabouts

/-- What qualified names of what stands here begin with. -/
def lead (p : Whereabouts) : String :=
  match p.kind with
  | .cls => if p.qualname.isEmpty then "" else p.qualname ++ "."
  | _ => p.qualname ++ ".<locals>."

/-- Whether a name is declared global here. -/
def isGlobal (p : Whereabouts) (name : String) : Bool :=
  (p.globals.map (mangle p.owner)).contains (mangle p.owner name)

/-- Whether what stands here is titled as if nothing were around it. -/
def isLoose (p : Whereabouts) (kind : NestedKind) (name : String) : Bool :=
  (kind == .function || kind == .cls) && p.isGlobal name

/-- The qualified name that something of a kind gets here. -/
def qualnameIn (p : Whereabouts) (kind : NestedKind) (name : String) : String :=
  if p.isLoose kind name then name else p.lead ++ name

/-- The place inside of what stands here. -/
def inside (p : Whereabouts) (kind : NestedKind) (name : String) (globals : List String) :
    Whereabouts :=
  { owner := if kind == .cls then some name else p.owner, kind
    qualname := p.qualnameIn kind name, globals }

end Whereabouts

mutual

/-- The titles of what is made here, from the outside to the inside.  Functions that comprehensions
    are have none, since programs do not get at them. -/
def Nested.titles (p : Whereabouts) : Nested → List Title
  | .mk kind name globals inner =>
    (if kind == .comprehension then [] else [⟨name, p.qualnameIn kind name⟩])
      ++ titlesAll (p.inside kind name globals) inner

/-- The titles of all that is made here. -/
def titlesAll (p : Whereabouts) : List Nested → List Title
  | [] => []
  | n :: ns => n.titles p ++ titlesAll p ns

end

theorem titlesAll_append (p : Whereabouts) (ns ms : List Nested) :
    titlesAll p (ns ++ ms) = titlesAll p ns ++ titlesAll p ms := by
  induction ns with
  | nil => rfl
  | cons n ns ih => rw [List.cons_append, titlesAll, titlesAll, ih, List.append_assoc]

mutual

/-- Whether a title in what stands here depends on the qualified name of what is around. -/
def Nested.isTied (p : Whereabouts) : Nested → Bool
  | .mk kind name globals inner =>
    !p.isLoose kind name && (kind != .comprehension || anyTied (p.inside kind name globals) inner)

/-- Whether any title here depends on the qualified name of what is around. -/
def anyTied (p : Whereabouts) : List Nested → Bool
  | [] => false
  | n :: ns => n.isTied p || anyTied p ns

end

/-! ### What titles depend on -/

namespace Whereabouts

variable {p : Whereabouts} {q name : String}

theorem append_eq_append_iff_left {a b c : String} : a ++ c = b ++ c ↔ a = b := by
  rw [← String.toList_inj, ← String.toList_inj, String.toList_append, String.toList_append,
    List.append_left_inj]

/-- Qualified names tell what is around. -/
theorem lead_eq_iff : p.lead = { p with qualname := q }.lead ↔ p.qualname = q := by
  obtain ⟨owner, kind, qualname, globals⟩ := p
  cases kind with
  | cls =>
    have hne : ∀ a : String, a ++ "." ≠ "" := fun a h => by simpa using congrArg String.toList h
    simp only [lead, String.isEmpty_iff]
    split_ifs with h h' h'
    · simp [h, h']
    · simp [h, Ne.symm h', (hne _).symm]
    · simp [h', h, hne]
    · exact append_eq_append_iff_left
  | _ => exact append_eq_append_iff_left

theorem qualnameIn_eq_iff {kind : NestedKind} : p.qualnameIn kind name =
    { p with qualname := q }.qualnameIn kind name ↔ p.qualname = q ∨ p.isLoose kind name = true := by
  have hsame : { p with qualname := q }.isLoose kind name = p.isLoose kind name := rfl
  rw [qualnameIn, qualnameIn, hsame]
  split_ifs with hloose
  · simp [hloose]
  · rw [append_eq_append_iff_left, lead_eq_iff, or_iff_left hloose]

end Whereabouts

mutual

/-- Names do not depend on anything around. -/
theorem Nested.names_titles : ∀ (n : Nested) (p p' : Whereabouts),
    (n.titles p).map Title.name = (n.titles p').map Title.name
  | .mk kind name globals inner, p, p' => by
    rw [Nested.titles, Nested.titles, List.map_append, List.map_append,
      names_titlesAll inner _ (p'.inside kind name globals)]
    split <;> rfl

theorem names_titlesAll : ∀ (ns : List Nested) (p p' : Whereabouts),
    (titlesAll p ns).map Title.name = (titlesAll p' ns).map Title.name
  | [], _, _ => rfl
  | n :: ns, p, p' => by
    rw [titlesAll, titlesAll, List.map_append, List.map_append, n.names_titles p p',
      names_titlesAll ns p p']

end

theorem Nested.length_titles (n : Nested) (p p' : Whereabouts) :
    (n.titles p).length = (n.titles p').length := by
  simpa using congrArg List.length (n.names_titles p p')

mutual

/-- Titles are the same below two qualified names exactly if none is tied to them. -/
theorem Nested.titles_eq_iff : ∀ (n : Nested) (p : Whereabouts) (q : String),
    n.titles p = n.titles { p with qualname := q } ↔ p.qualname = q ∨ n.isTied p = false
  | .mk kind name globals inner, p, q => by
    have hinner := titlesAll_eq_iff inner (p.inside kind name globals)
      ({ p with qualname := q }.qualnameIn kind name)
    have hqualname : (p.inside kind name globals).qualname =
        { p with qualname := q }.qualnameIn kind name ↔ _ := Whereabouts.qualnameIn_eq_iff
    have hinside : { p.inside kind name globals with
        qualname := { p with qualname := q }.qualnameIn kind name } =
          { p with qualname := q }.inside kind name globals := rfl
    rw [hqualname, hinside] at hinner
    rw [Nested.titles, Nested.titles, Nested.isTied]
    split_ifs with hkind
    · obtain rfl := eq_of_beq hkind
      rw [List.nil_append, List.nil_append, hinner]
      simp [Whereabouts.isLoose]
    · have hkind' : (kind != .comprehension) = true := by simpa using hkind
      rw [List.singleton_append, List.singleton_append, List.cons.injEq, hinner, Title.mk.injEq,
        Whereabouts.qualnameIn_eq_iff, hkind']
      simp only [true_and, Bool.true_or, Bool.and_true, Bool.not_eq_false']
      exact and_iff_left_of_imp .inl

theorem titlesAll_eq_iff : ∀ (ns : List Nested) (p : Whereabouts) (q : String),
    titlesAll p ns = titlesAll { p with qualname := q } ns ↔ p.qualname = q ∨ anyTied p ns = false
  | [], p, q => by simp [titlesAll, anyTied]
  | n :: ns, p, q => by
    rw [titlesAll, titlesAll, anyTied, Bool.or_eq_false_iff, or_and_left, ← n.titles_eq_iff,
      ← titlesAll_eq_iff]
    exact ⟨fun h => List.append_inj h (n.length_titles p _), fun h => by rw [← h.1, ← h.2]⟩

end

mutual

/-- Whether a title depends on the qualified name of what is around, does not depend on it. -/
theorem Nested.isTied_qualname (q : String) : ∀ (n : Nested) (p : Whereabouts),
    n.isTied { p with qualname := q } = n.isTied p
  | .mk kind name globals inner, p => by
    have hinner := anyTied_qualname ({ p with qualname := q }.qualnameIn kind name) inner
      (p.inside kind name globals)
    rw [Nested.isTied, Nested.isTied, ← hinner]
    rfl

theorem anyTied_qualname (q : String) : ∀ (ns : List Nested) (p : Whereabouts),
    anyTied { p with qualname := q } ns = anyTied p ns
  | [], p => rfl
  | n :: ns, p => by rw [anyTied, anyTied, n.isTied_qualname, anyTied_qualname]

end

/-! ### Private names -/

mutual

/-- The names that definitions bind and statements declare global, as far as they are private to the
    class around, if they are private. -/
def Nested.names : Nested → List String
  | .mk kind name globals inner => name :: if kind == .cls then [] else globals ++ allNames inner

/-- The names of all that stands here. -/
def allNames : List Nested → List String
  | [] => []
  | n :: ns => n.names ++ allNames ns

end

theorem Whereabouts.isLoose_owner {p : Whereabouts} {k : Option String} {name : String}
    (hglobals : ∀ m ∈ p.globals, mangle p.owner m = mangle k m)
    (hname : mangle p.owner name = mangle k name) (kind : NestedKind) :
    { p with owner := k }.isLoose kind name = p.isLoose kind name := by
  rw [isLoose, isLoose, isGlobal, isGlobal, hname, List.map_congr_left hglobals]

mutual

/-- The class that private names belong to does not matter where the names are the same. -/
theorem Nested.titles_owner (k : Option String) : ∀ (n : Nested) (p : Whereabouts),
    (∀ m ∈ p.globals ++ n.names, mangle p.owner m = mangle k m) →
    n.titles { p with owner := k } = n.titles p ∧ n.isTied { p with owner := k } = n.isTied p
  | .mk kind name globals inner, p, h => by
    rw [Nested.names] at h
    have hloose := Whereabouts.isLoose_owner (fun m hm => h m (List.mem_append_left _ hm))
      (h name (List.mem_append_right _ List.mem_cons_self)) kind
    have hqualname : { p with owner := k }.qualnameIn kind name = p.qualnameIn kind name := by
      rw [Whereabouts.qualnameIn, Whereabouts.qualnameIn, hloose]
      rfl
    have hinner : titlesAll ({ p with owner := k }.inside kind name globals) inner =
          titlesAll (p.inside kind name globals) inner ∧
        anyTied ({ p with owner := k }.inside kind name globals) inner =
          anyTied (p.inside kind name globals) inner := by
      rw [Whereabouts.inside, Whereabouts.inside, hqualname]
      split
      · exact ⟨rfl, rfl⟩
      · rename_i hkind
        refine titlesAll_owner k inner
          { owner := p.owner, kind, qualname := p.qualnameIn kind name, globals } fun m hm => h m ?_
        rw [if_neg hkind]
        exact List.mem_append_right _ (List.mem_cons_of_mem _ hm)
    rw [Nested.titles, Nested.titles, Nested.isTied, Nested.isTied, hqualname, hinner.1, hinner.2,
      hloose]
    exact ⟨rfl, rfl⟩

theorem titlesAll_owner (k : Option String) : ∀ (ns : List Nested) (p : Whereabouts),
    (∀ m ∈ p.globals ++ allNames ns, mangle p.owner m = mangle k m) →
    titlesAll { p with owner := k } ns = titlesAll p ns ∧ anyTied { p with owner := k } ns = anyTied p ns
  | [], p, _ => ⟨rfl, rfl⟩
  | n :: ns, p, h => by
    simp only [allNames, List.mem_append] at h
    have hn := n.titles_owner k p fun m hm => h m (by grind)
    have hns := titlesAll_owner k ns p fun m hm => h m (by grind)
    rw [titlesAll, titlesAll, anyTied, anyTied, hn.1, hn.2, hns.1, hns.2]
    exact ⟨rfl, rfl⟩

end

/-! ## Expressions

What stands in an expression, in the order in which its instructions make it. -/

mutual

/-- What stands in an expression. -/
def exprNested : Expr → List Nested
  | .boolOp _ _ es => exprsNested es
  | .named _ t e => exprNested e ++ targetNested t
  | .binary _ l _ r => exprNested l ++ exprNested r
  | .unary _ _ e => exprNested e
  | .lambda _ ps e => defaultsNested ps ++ [.mk .lambda lambdaName [] (exprNested e)]
  | .ifElse _ t b o => exprNested t ++ exprNested b ++ exprNested o
  | .dict _ items => itemsNested items
  | .set _ es => exprsNested es
  | .listComp _ e cs => comprehensionNested .list cs (exprNested e)
  | .setComp _ e cs => comprehensionNested .set cs (exprNested e)
  | .dictComp _ x v cs => comprehensionNested .dict cs (exprNested x ++ exprNested v)
  | .generator _ e cs => comprehensionNested .generator cs (exprNested e)
  | .await _ e => exprNested e
  | .yield _ e => optionNested e
  | .yieldFrom _ e => exprNested e
  | .compare _ l cs => exprNested l ++ comparandsNested cs
  | .call _ g es ks => exprNested g ++ exprsNested es ++ keywordsNested ks
  | .formatted _ e _ format => exprNested e ++ optionNested format
  | .joined _ es => exprsNested es
  | .constant _ _ => []
  | .attribute _ e _ => exprNested e
  | .subscript _ e i => exprNested e ++ exprNested i
  | .starred _ e => exprNested e
  | .name _ _ => []
  | .list _ es => exprsNested es
  | .tuple _ es => exprsNested es
  | .slice _ l u s => optionNested l ++ optionNested u ++ optionNested s

/-- What stands in expressions one after the other. -/
def exprsNested : List Expr → List Nested
  | [] => []
  | e :: es => exprNested e ++ exprsNested es

/-- What stands in an expression that may be missing. -/
def optionNested : Option Expr → List Nested
  | none => []
  | some e => exprNested e

/-- What stands in an expression that is assigned to. -/
def targetNested : Expr → List Nested
  | .attribute _ e _ => exprNested e
  | .subscript _ e i => exprNested e ++ exprNested i
  | .tuple _ es => targetsNested es
  | .list _ es => targetsNested es
  | .starred _ e => targetNested e
  | _ => []

/-- What stands in targets one after the other. -/
def targetsNested : List Expr → List Nested
  | [] => []
  | e :: es => targetNested e ++ targetsNested es

/-- What stands in the right operands of comparisons. -/
def comparandsNested : List Comparand → List Nested
  | [] => []
  | .mk _ e :: rest => exprNested e ++ comparandsNested rest

/-- What stands in the items of a dictionary display. -/
def itemsNested : List DictItem → List Nested
  | [] => []
  | .pair x v :: rest => exprNested x ++ exprNested v ++ itemsNested rest
  | .unpack e :: rest => exprNested e ++ itemsNested rest

/-- What stands in keyword arguments. -/
def keywordsNested : List Keyword → List Nested
  | [] => []
  | .mk _ _ e :: rest => exprNested e ++ keywordsNested rest

/-- What stands in the defaults of parameters. -/
def defaultsNested : Parameters → List Nested
  | .mk posOnly plain _ keywordOnly _ =>
    defaultListNested posOnly ++ defaultListNested plain ++ defaultListNested keywordOnly

/-- What stands in the defaults in a list. -/
def defaultListNested : List DefaultParameter → List Nested
  | [] => []
  | .mk _ d :: rest => optionNested d ++ defaultListNested rest

/-- A comprehension, given what stands in its element.  Its first iterable stands outside. -/
def comprehensionNested (kind : ComprehensionKind) (cs : List Clause) (element : List Nested) :
    List Nested :=
  match cs with
  | [] => []
  | .mk _ t i tests :: rest =>
    .mk .comprehension kind.blockName []
      (targetNested t ++ exprsNested tests ++ (clausesNested rest ++ element)) :: exprNested i

/-- What stands in further clauses of a comprehension. -/
def clausesNested : List Clause → List Nested
  | [] => []
  | .mk _ t i tests :: rest =>
    exprNested i ++ (targetNested t ++ exprsNested tests ++ clausesNested rest)

end

/-- What stands in the types of parameters and of the result. -/
def hintNested (ps : Parameters) (returns : Option Expr) : List Nested :=
  exprsNested ((typedParameters ps).map Prod.snd ++ returns.toList)

/-! ## Statements -/

mutual

/-- The names that a statement declares global in the block that it stands in. -/
def stmtGlobals : Stmt → List String
  | .global _ names => names
  | .forLoop _ _ _ _ b o | .whileLoop _ _ b o | .cond _ _ b o => stmtsGlobals b ++ stmtsGlobals o
  | .withBlock _ _ _ b => stmtsGlobals b
  | .matchBlock _ _ cs => casesGlobals cs
  | .tryBlock _ _ b hs o final =>
    stmtsGlobals b ++ stmtsGlobals o ++ handlersGlobals hs ++ stmtsGlobals final
  | _ => []

/-- The names that statements declare global. -/
def stmtsGlobals : List Stmt → List String
  | [] => []
  | s :: ss => stmtGlobals s ++ stmtsGlobals ss

/-- The names that are declared global in `except` clauses. -/
def handlersGlobals : List Handler → List String
  | [] => []
  | .mk _ _ _ b :: rest => stmtsGlobals b ++ handlersGlobals rest

/-- The names that are declared global in `case` clauses. -/
def casesGlobals : List MatchCase → List String
  | [] => []
  | .mk _ _ b :: rest => stmtsGlobals b ++ casesGlobals rest

end

mutual

/-- What stands in an expression that is deleted. -/
def deletedNested : Expr → List Nested
  | .attribute _ e _ => exprNested e
  | .subscript _ e i => exprNested e ++ exprNested i
  | .tuple _ es => deletedAllNested es
  | .list _ es => deletedAllNested es
  | _ => []

/-- What stands in expressions that are deleted one after the other. -/
def deletedAllNested : List Expr → List Nested
  | [] => []
  | e :: es => deletedNested e ++ deletedAllNested es

end

/-- What stands in an assignment with an operator, given what stands in its value. -/
def augmentedNested (value : List Nested) : Expr → List Nested
  | .name _ _ => value
  | .attribute _ e _ => exprNested e ++ value
  | .subscript _ e i => exprNested e ++ exprNested i ++ value
  | _ => []

/-- What stands in an assignment with a type if it has a value. -/
def assignedNested (t : Expr) : Option Expr → List Nested
  | none => []
  | some e => exprNested e ++ targetNested t

/-- What stands in the type of a variable if it is noted. -/
def notedNested (noted : Bool) (hint : Expr) : Expr → List Nested
  | .name _ _ => if noted then exprNested hint else []
  | _ => []

/-- What stands in an item of a `with` statement. -/
def withItemNested (w : WithItem) : List Nested :=
  exprNested w.context ++ match w.target with
    | some t => targetNested t
    | none => []

mutual

/-- What stands in a statement, which stands in the body of a class or not. -/
def stmtNested (inClass : Bool) : Stmt → List Nested
  | .functionDef _ _ n ps b ds r =>
    exprsNested ds ++ defaultsNested ps ++ hintNested ps r
      ++ [.mk .function n (stmtsGlobals b) (stmtsNested false b)]
  | .classDef _ n bs ks b ds =>
    exprsNested ds ++ exprsNested bs ++ keywordsNested ks
      ++ [.mk .cls n (stmtsGlobals b) (stmtsNested true b)]
  | .ret _ e => optionNested e
  | .delete _ ts => deletedAllNested ts
  | .assign _ ts e => exprNested e ++ targetsNested ts
  | .augAssign _ t _ e => augmentedNested (exprNested e) t
  | .annAssign _ t hint e simple => assignedNested t e ++ notedNested (simple && inClass) hint t
  | .forLoop _ _ t i b o =>
    exprNested i ++ (targetNested t ++ stmtsNested inClass b) ++ stmtsNested inClass o
  | .whileLoop _ t b o => exprNested t ++ stmtsNested inClass b ++ stmtsNested inClass o
  | .cond _ t b o => exprNested t ++ stmtsNested inClass b ++ stmtsNested inClass o
  | .withBlock _ _ ws b => ws.flatMap withItemNested ++ stmtsNested inClass b
  | .matchBlock _ e cs => exprNested e ++ casesNested inClass cs
  | .raise _ none _ => []
  | .raise _ (some e) cause => exprNested e ++ optionNested cause
  | .tryBlock _ _ b hs o final =>
    stmtsNested inClass b ++ stmtsNested inClass o ++ handlersNested inClass hs
      ++ stmtsNested inClass final
  | .assert _ t e => exprNested t ++ optionNested e
  | .expr _ e => exprNested e
  | .importNames _ _ | .importFrom .. | .global _ _ | .nonlocal _ _ | .pass _ | .break _
  | .continue _ => []

/-- What stands in statements one after the other. -/
def stmtsNested (inClass : Bool) : List Stmt → List Nested
  | [] => []
  | s :: ss => stmtNested inClass s ++ stmtsNested inClass ss

/-- What stands in `except` clauses. -/
def handlersNested (inClass : Bool) : List Handler → List Nested
  | [] => []
  | .mk _ type _ b :: rest =>
    optionNested type ++ stmtsNested inClass b ++ handlersNested inClass rest

/-- What stands in `case` clauses.  Their patterns are not reached. -/
def casesNested (inClass : Bool) : List MatchCase → List Nested
  | [] => []
  | .mk _ guard b :: rest =>
    optionNested guard ++ stmtsNested inClass b ++ casesNested inClass rest

end

theorem stmtsNested_append (inClass : Bool) (ss ss' : List Stmt) :
    stmtsNested inClass (ss ++ ss') = stmtsNested inClass ss ++ stmtsNested inClass ss' := by
  induction ss with
  | nil => rfl
  | cons s ss ih => rw [List.cons_append, stmtsNested, stmtsNested, ih, List.append_assoc]

theorem stmtsGlobals_append (ss ss' : List Stmt) :
    stmtsGlobals (ss ++ ss') = stmtsGlobals ss ++ stmtsGlobals ss' := by
  induction ss with
  | nil => rfl
  | cons s ss ih => rw [List.cons_append, stmtsGlobals, stmtsGlobals, ih, List.append_assoc]

end Graft.Code
