import Graft.Proofs.Cells
import Graft.Proofs.PrivateNames
import Graft.Proofs.Titles

set_option autoImplicit false

/-! # When inner definitions keep their titles

A function that is compiled anew stands in surroundings that are made for it.  The function itself
gets its qualified name back, but the functions and classes that its body makes are titled with those
around them, and so with the surroundings.  They keep their names, and they keep their qualified
names only if they do not depend on that of the function or if the function was already compiled in
such surroundings. -/

namespace Graft

open Machine Code

/-! ## Titles of what is made -/

/-- What a function or a class goes by, if the value is one. -/
def World.title? (w : World) (v : Value) : Option Title :=
  match w.body? v with
  | some (.function f) => some ⟨f.name, f.qualname⟩
  | some (.cls c) => some ⟨c.name, c.qualname⟩
  | _ => none

namespace Machine.Activation

variable {call : Caller} {a a' : Activation} {w w' : World} {v : Value}

/-- A function goes by the title of its code. -/
theorem makeFunction_title {code : Code} {defaults : List Value} {keywordDefaults hints : Table}
    (h : (a.makeFunction code defaults keywordDefaults hints).Gives w v w') :
    w'.title? v = some ⟨code.info.name, code.info.qualname⟩ := by
  obtain ⟨f, hf, -, hname, hqualname, -⟩ := makeFunction_gives h
  rw [World.title?, hf, ← hname, ← hqualname]

/-- An instruction that makes a function leaves it on the stack. -/
theorem callStep_function_title {code : Code} {n : Nat} {keywordDefaults hints : List String}
    (h : (a.callStep call (.function code n keywordDefaults hints)).Gives w a' w') :
    ∃ v rest, a'.stack = v :: rest ∧ w'.title? v = some ⟨code.info.name, code.info.qualname⟩ := by
  simp only [callStep, Run.gives_bind] at h
  obtain ⟨types, w₁, -, named, w₂, -, values, w₃, -, v, w₄, hv, h⟩ := h
  obtain ⟨rfl, rfl⟩ := Run.gives_pure.1 h
  exact ⟨v, _, rfl, makeFunction_title hv⟩

/-- A class goes by its names. -/
theorem makeClass_title {name qualname : String} {bases : List Value} {table : Table}
    (h : (makeClass name qualname bases table).Gives w v w') :
    w'.title? v = some ⟨name, qualname⟩ := by
  unfold makeClass at h
  replace h := Run.gives_bind_world.1 h
  extract_lets all orders at h
  split at h
  · exact absurd h Run.not_gives_raise
  split at h
  · exact absurd h Run.not_gives_raise
  rename_i rest hrest
  obtain ⟨r, w₁, hnew, h⟩ := Run.gives_bind.1 h
  obtain ⟨⟨⟩, w₂, hbody, h⟩ := Run.gives_bind.1 h
  obtain ⟨⟨⟩, w₃, htable, h⟩ := Run.gives_bind.1 h
  obtain ⟨rfl, rfl⟩ := Run.gives_pure.1 h
  have hthere := World.thing?_alloc_self (w := w) (t := { body := .namespace })
  rw [Run.gives_new.1 hnew] at hthere
  rw [← Run.gives_modify.1 htable, ← Run.gives_modify.1 hbody, World.title?, World.body?,
    World.thing?_change, if_pos rfl, World.thing?_change, if_pos rfl, hthere]
  rfl

end Machine.Activation

end Graft

namespace Graft.Injection

open Graft.Code Graft.Machine Graft.Scope Graft.Syntax

/-! ## Titles in definitions -/

/-- The blocks in a definition are told apart by where they stand. -/
def Apart (owner : Option String) (d : Splice.Definition) : Prop :=
  areApart (bodyMentions { owner } d) = true

instance (owner : Option String) (d : Splice.Definition) : Decidable (Apart owner d) :=
  inferInstanceAs (Decidable (_ = true))

/-- What the statements of a function make, wherever they stand. -/
def nestedIn (ss : List Stmt) : List Nested := stmtsNested false (ss.map Stmt.erase)

theorem nestedIn_append (ss ss' : List Stmt) :
    nestedIn (ss ++ ss') = nestedIn ss ++ nestedIn ss' := by
  rw [nestedIn, List.map_append, stmtsNested_append, nestedIn, nestedIn]

/-- The place of statements in a function with a qualified name. -/
def placeOf (owner : Option String) (qualname : String) (ss : List Stmt) : Whereabouts :=
  { owner, kind := .function, qualname, globals := stmtsGlobals ss }

/-- The titles of what statements make in a function with a qualified name. -/
def titlesIn (owner : Option String) (qualname : String) (ss : List Stmt) : List Title :=
  titlesAll (placeOf owner qualname ss) (nestedIn ss)

/-- Whether any title of what statements make in a function depends on the qualified name of the
    function. -/
def areTied (owner : Option String) (ss : List Stmt) : Bool :=
  anyTied (placeOf owner "" ss) (nestedIn ss)

/-- The names that statements give to what they make, and those that they declare global. -/
def definedNames (ss : List Stmt) : List String := stmtsGlobals ss ++ allNames (nestedIn ss)

/-- The statements make nothing, and they declare nothing global. -/
def DefinesNothing (ss : List Stmt) : Prop := nestedIn ss = [] ∧ stmtsGlobals ss = []

theorem definesNothing_pass (sp : Span) : DefinesNothing [.pass sp] := by
  constructor
  · simp [nestedIn, Stmt.erase, Stmt.mapSpan, stmtsNested, stmtNested]
  · simp [stmtsGlobals, stmtGlobals]

section

variable {owner owner' : Option String} {q q' : String} {ss new : List Stmt}

/-- What makes nothing does not change the titles of the rest. -/
theorem titlesIn_insertAt (h : DefinesNothing new) (owner : Option String) (q : String) (i : Nat) :
    titlesIn owner q (Splice.insertAt ss i new) = titlesIn owner q ss := by
  have hnested : nestedIn (Splice.insertAt ss i new) = nestedIn ss := by
    rw [Splice.insertAt, nestedIn_append, nestedIn_append, h.1, List.append_nil, ← nestedIn_append,
      List.take_append_drop]
  have hglobals : stmtsGlobals (Splice.insertAt ss i new) = stmtsGlobals ss := by
    rw [Splice.insertAt, stmtsGlobals_append, stmtsGlobals_append, h.2, List.append_nil,
      ← stmtsGlobals_append, List.take_append_drop]
  rw [titlesIn, placeOf, hnested, hglobals]
  rfl

/-- The class that private names belong to matters only for private names. -/
theorem titlesIn_owner (h : ∀ n ∈ definedNames ss, mangle owner n = mangle owner' n) (q : String) :
    titlesIn owner' q ss = titlesIn owner q ss :=
  (titlesAll_owner owner' (nestedIn ss) (placeOf owner q ss) h).1

theorem names_titlesIn (owner owner' : Option String) (q q' : String) (ss : List Stmt) :
    (titlesIn owner q ss).map Title.name = (titlesIn owner' q' ss).map Title.name :=
  names_titlesAll _ _ _

theorem titlesIn_eq_iff :
    titlesIn owner q ss = titlesIn owner q' ss ↔ q = q' ∨ areTied owner ss = false := by
  have htied : areTied owner ss = anyTied (placeOf owner q ss) (nestedIn ss) :=
    anyTied_qualname "" _ (placeOf owner q ss)
  rw [htied]
  exact titlesAll_eq_iff (nestedIn ss) (placeOf owner q ss) q'

end

section

variable {d e : Splice.Definition} {code : Code} {inner : Context} {around : List String}

theorem nestedIn_alike (h : d.Alike e) : nestedIn d.body = nestedIn e.body := by
  rw [nestedIn, h.body, nestedIn]

theorem stmtsGlobals_erase (ss : List Stmt) : stmtsGlobals (ss.map Stmt.erase) = stmtsGlobals ss := by
  rw [← stmtsGlobals_mapSpan noSpan ss, mapStmtSpans_eq_map]
  rfl

theorem stmtsGlobals_alike (h : d.Alike e) : stmtsGlobals d.body = stmtsGlobals e.body := by
  rw [← stmtsGlobals_erase, h.body, stmtsGlobals_erase]

theorem Stands.isScopeOf {owner : Option String} {names : List String} {s : Scope}
    (h : Stands d owner names s) : IsScopeOf (headOf d) (bodyMentions { owner } d) s := by
  obtain ⟨outer, e, a, free, he, -, hs⟩ := h
  exact ⟨outer, e, a, free, he, hs⟩

/-- The block of a definition that code has been made from. -/
theorem MadeFrom.holds (h : MadeFrom code d inner around) (hapart : Apart inner.owner d) :
    inner.Holds (placeOf inner.owner code.info.qualname d.body)
      (Setting.function { owner := inner.owner }) (bodyMentions { owner := inner.owner } d) := by
  obtain ⟨c, is, hinner, -, rfl⟩ := h.made
  refine holds_of_isScopeOf h.stands.isScopeOf hapart rfl ?_ rfl rfl ?_
  · subst hinner
    exact ⟨rfl, rfl, rfl⟩
  · exact declaredBy_bodyMentions _ _

/-- The code of a definition makes what stands in the definition's body. -/
theorem MadeFrom.titles_eq (h : MadeFrom code d inner around) (hapart : Apart inner.owner d) :
    titlesOf code.body = titlesIn inner.owner code.info.qualname d.body := by
  have hholds := h.holds hapart
  obtain ⟨c, is, -, his, hcode⟩ := h.made
  have hbody : titlesOf is = titlesIn inner.owner code.info.qualname d.body := by
    rw [stmts_titles noSpan hholds d.body (List.subset_append_right _ _) is his,
      mapStmtSpans_eq_map]
    rfl
  have hall : code.body = is ++ returnNone := by
    rw [hcode]
    rfl
  rw [hall, titlesOf_append, hbody]
  simp [returnNone, Instr.titles]

theorem titlesIn_alike (owner : Option String) (qualname : String) (h : d.Alike e) :
    titlesIn owner qualname d.body = titlesIn owner qualname e.body := by
  rw [titlesIn, placeOf, nestedIn_alike h, stmtsGlobals_alike h]
  rfl

end

/-! ## Qualified names in surroundings -/

/-- The qualified name of a definition in surroundings that are made for it. -/
def factoryQualname (owner : Option String) (name : String) : String :=
  match owner with
  | none => factoryName ++ ".<locals>." ++ name
  | some o => factoryName ++ ".<locals>." ++ o ++ "." ++ name

section

variable {frees : List String} {owner : Option String} {d : Splice.Definition} {scope : Scope}

/-- In the function around a definition nothing is declared. -/
theorem factory_undeclared (file : String)
    (h : Scope.ofModule [surrounded frees owner d.toStmt] = .ok scope) :
    ∃ s, Stands (factory frees owner d) none [] s ∧
      (Context.ofFunction { file, scope, kind := .module } (factory frees owner d).span factoryName
        false).scope = s ∧ ∀ n, s.place? n ≠ some .declaredGlobal := by
  obtain ⟨s, hstands, hfound⟩ := ofModule_factory h
  refine ⟨s, hstands, ?_, hstands.isScopeOf.place?_ne rfl ?_⟩
  · simp only [Context.ofFunction, Context.inside, Context.scopeAt, hfound, Option.getD_some]
  · rw [declaredBy_bodyMentions]
    cases owner <;> rfl

/-- In the class around a definition nothing is declared. -/
theorem factoryClass_undeclared {o : String} {s : Scope} (ho : o ∉ anonymousNames)
    (h : Stands (factory frees (some o) d) none [] s) :
    ∃ s', s.child? ⟨2, 4, 3, 12⟩ o = some s' ∧ ∀ n, s'.place? n ≠ some .declaredGlobal := by
  obtain ⟨outer, cls, a, s', free, hcls, -, hs', hfound, -⟩ := h.last (factory_bodyMentions_class o)
    (allPlain_append.2 ⟨factory_params_plain _, by simp [Mention.isPlain]⟩) ho
  refine ⟨s', hfound, IsScopeOf.place?_ne ⟨outer, cls, a, free, hcls, hs'⟩ rfl ?_⟩
  rw [declaredBy_stmtsMentions rfl]
  rfl

/-- **The qualified name of what is compiled anew** is that of a definition in its surroundings. -/
theorem compile_qualname {source : List Char} {name file : String} {code : Code}
    (hname : name ∉ anonymousNames) (h : compile source frees owner name file = .ok code) :
    code.info.qualname = factoryQualname owner name := by
  obtain ⟨d, scope, is, -, hscope, -, rfl, rfl⟩ := compile_ok hname h
  obtain ⟨s, hstands, hs, hplaces⟩ := factory_undeclared file hscope
  change (surroundingContext file scope owner).qualnameOfDefinition d.name = _
  -- Titles run through the factory, and for a method through its class as well.
  cases owner with
  | none =>
    change (Context.ofFunction { file, scope, kind := .module } ⟨1, 0, 2, 8⟩ factoryName
      false).scope = s at hs
    rw [surroundingContext, Context.qualnameOfDefinition, hs, if_neg (by simp [hplaces])]
    rfl
  | some o =>
    have ho : o ∉ anonymousNames :=
      notMem_anonymousNames (List.all_eq_true.1 (compile_plain h) o (by simp))
    obtain ⟨s', hfound, hplaces'⟩ := factoryClass_undeclared ho hstands
    let c : Context :=
      Context.ofFunction { file, scope, kind := .module } ⟨1, 0, 3, 12⟩ factoryName false
    change c.scope = s at hs
    have hscope : (c.ofClass ⟨2, 4, 3, 12⟩ o).scope = s' := by
      simp only [Context.ofClass, Context.inside, Context.scopeAt, hs, hfound, Option.getD_some]
    have hqualname : (c.ofClass ⟨2, 4, 3, 12⟩ o).qualname = factoryName ++ ".<locals>." ++ o := by
      change c.qualnameOfDefinition o = _
      rw [Context.qualnameOfDefinition, hs, if_neg (by simp [hplaces])]
      rfl
    change (c.ofClass ⟨2, 4, 3, 12⟩ o).qualnameOfDefinition d.name = _
    rw [Context.qualnameOfDefinition, hscope, if_neg (by simp [hplaces']), Context.qualnameOf,
      hqualname]
    rfl

end

/-! ## Titles after an injection -/

/-- The old function has been made by its definition, and the printed text reads as the new one.
    Blocks are told apart in both. -/
structure Success.Retraced (s : Success) (old : Code) (inner : Context) : Prop where
  named : IsDefined s.plan.function
  behaviour : s.plan.function.behaviour = .code old
  made : ∃ d around, d.Alike s.plan.old ∧ MadeFrom old d inner around ∧ Apart inner.owner d
  readsBack : Injection.ReadsBack s.plan s.text
  apart : ∀ d, Splice.parseDefinition s.text.toList = .ok d → Apart s.plan.owner d

section

variable {call : Caller} {target member : Value} {spec : Option Spec} {w w' : World} {s : Success}
  {old : Code} {inner : Context}

/-- What the old code makes. -/
theorem Success.Retraced.titles_eq (h : s.Retraced old inner) :
    titlesOf old.body = titlesIn inner.owner old.info.qualname s.plan.old.body := by
  obtain ⟨d, around, halike, hfrom, hapart⟩ := h.made
  rw [hfrom.titles_eq hapart, titlesIn_alike _ _ halike]

/-- What the new code makes. -/
theorem Succeeds.titles_eq (h : Succeeds call target member spec w s w')
    (hretraced : s.Retraced old inner) :
    titlesOf s.code.body =
      titlesIn s.plan.owner s.code.info.qualname s.plan.definition.body := by
  obtain ⟨d, inner', around, hd, hfrom, howner, -⟩ := compile_madeFrom hretraced.named h.compiled
  have hapart : Apart inner'.owner d := by
    rw [howner]
    exact hretraced.apart d hd
  rw [hfrom.titles_eq hapart, howner, titlesIn_alike _ _ (hretraced.readsBack d hd)]
  rfl

/-- Names that are private are the same in the new code, as far as the titles depend on them. -/
def Success.KeepsPrivate (s : Success) (inner : Context) : Prop :=
  s.GuessesRight inner ∨ ∀ n ∈ definedNames s.plan.old.body, isPrivate n.toList = false

/-- Statements that make nothing leave the titles as they would be in a function with the qualified
    name under which the new code is compiled. -/
theorem Succeeds.titles_of_definesNothing (h : Succeeds call target member spec w s w')
    (hretraced : s.Retraced old inner) (hnew : DefinesNothing s.plan.new)
    (hprivate : s.KeepsPrivate inner) :
    titlesOf s.code.body = titlesIn inner.owner s.code.info.qualname s.plan.old.body := by
  have hsame : ∀ n ∈ definedNames s.plan.old.body, mangle inner.owner n = mangle s.plan.owner n := by
    intro n hn
    rcases hprivate with hguess | hpublic
    · exact sameNames_iff.2 hguess.symm n
    · rw [mangle_of_not_private (hpublic n hn), mangle_of_not_private (hpublic n hn)]
  rw [h.titles_eq hretraced, ← titlesIn_owner hsame]
  exact titlesIn_insertAt hnew _ _ _

end

end Graft.Injection

namespace Graft

open Injection Code Scope Machine

/-! ## The main result -/

/-- **When inner definitions keep their titles.**  Of every injection that gives an identifier: what
    is put in place runs new code, and all functions and classes that this code makes, at any depth,
    are titled as the text says in a function with the qualified name of the surroundings, and not
    with the one of the function, which alone is set right afterwards.  If the new statements make
    nothing, what the old body makes has kept its names, and it has kept its qualified names exactly
    if none of them depends on that of the function around or the old code had been compiled in such
    surroundings before.  A function goes by the names in its code. -/
theorem inner_titles_are_kept_iff {call : Caller} {target member : Value}
    {spec : Option Injection.Spec} {w w' : World} {id : String}
    (h : Attempt.Gives (Injection.apply call target member spec) w id w') :
    ∃ s, s.id = id ∧ Succeeds call target member spec w s w' ∧
      (∃ v w₁, Runs s.writing v s.code ∧
        Attempt.Gives (s.plan.member.assign call v) s.writing () w₁) ∧
      (∀ (a a' : Activation) (code : Code) (n : Nat) (keywordDefaults hints : List String)
        (v v' : World), (a.callStep call (.function code n keywordDefaults hints)).Gives v a' v' →
        ∃ f rest, a'.stack = f :: rest ∧ v'.title? f = some ⟨code.info.name, code.info.qualname⟩) ∧
      ∀ old inner, s.Retraced old inner →
        titlesOf old.body = titlesIn inner.owner old.info.qualname s.plan.old.body ∧
        titlesOf s.code.body = titlesIn s.plan.owner s.code.info.qualname s.plan.definition.body ∧
        s.code.info.qualname = factoryQualname s.plan.owner s.plan.function.codeName ∧
        (DefinesNothing s.plan.new → s.KeepsPrivate inner →
          (titlesOf s.code.body).map Title.name = (titlesOf old.body).map Title.name ∧
          (titlesOf s.code.body = titlesOf old.body ↔
            s.code.info.qualname = old.info.qualname ∨
              areTied inner.owner s.plan.old.body = false)) := by
  obtain ⟨s, hs, hid⟩ := apply_gives h
  refine ⟨s, hid, hs, hs.installed,
    fun _ _ _ _ _ _ _ _ hstep => Activation.callStep_function_title hstep,
    fun old inner hretraced => ⟨hretraced.titles_eq, hs.titles_eq hretraced, ?_, ?_⟩⟩
  · exact compile_qualname hretraced.named hs.compiled
  · intro hnew hprivate
    rw [hs.titles_of_definesNothing hretraced hnew hprivate, hretraced.titles_eq]
    exact ⟨names_titlesIn _ _ _ _ _, titlesIn_eq_iff⟩

/-! ### A function with a function inside -/

/-- The text of a function that makes another one. -/
def nestText : String := "def nest():\n    def leaf():\n        pass"

/-- What is printed when a `pass` has been put behind the other function. -/
def nestResult : String := "def nest():\n\n    def leaf():\n        pass\n    pass"

/-- The definition in the text. -/
def nestDefinition : Splice.Definition :=
  let leaf : Syntax.Stmt := .functionDef ⟨2, 4, 3, 12⟩ false "leaf" (.mk [] [] none [] none)
    [.pass ⟨3, 8, 3, 12⟩] [] none
  { span := ⟨1, 0, 3, 12⟩, isAsync := false, name := "nest", params := .mk [] [] none [] none
    body := [leaf], decorators := [], returns := none }

/-- The scope of the function. -/
def nestScope : Scope :=
  .mk (headOf nestDefinition) [("leaf", .own)] [] false false false
    [.mk ⟨.function, "leaf", ⟨2, 4, 3, 12⟩⟩ [] [] false false false []]

/-- The place inside the function. -/
def nestInside : Context :=
  { file := "<world>", scope := nestScope, kind := .function, qualname := "nest" }

/-- The code of the function inside. -/
def leafCode : Code :=
  .mk {
    kind := .function, name := "leaf", qualname := "nest.<locals>.leaf", file := "<world>"
    firstLine := 2 } returnNone

/-- The code of the function. -/
def nestCode : Code :=
  .mk { kind := .function, name := "nest", qualname := "nest", file := "<world>", firstLine := 1 }
    ([.function leafCode 0 [] [], .store .own "leaf"] ++ returnNone)

theorem nest_madeFrom : MadeFrom nestCode nestDefinition nestInside [] where
  made := by
    let scope : Scope := .mk ⟨.module, "<module>", moduleSpan⟩ [] [] false false false [nestScope]
    exact ⟨{ file := "<world>", scope, kind := .module }, _, rfl, rfl, rfl⟩
  stands := ⟨[], _, { bound := some [], globals := [] }, [], rfl, rfl, rfl⟩

/-- A world in which a thing holds the function, whose text is registered. -/
def nestWorld : World :=
  { things := #[{ body := .module "world" }, { body := .function {
        behaviour := .code nestCode, name := "nest", qualname := "nest", module := .str "world"
        globals := ⟨0⟩ } },
      { body := .namespace, table := [("nest", .thing ⟨1⟩)] }]
    sources := ({} : SourceCache).register "<world>" nestText }

/-- Whether a definition is that of the function, with so many `pass` behind the other function. -/
def isNest (n : Nat) (d : Splice.Definition) : Bool :=
  match d.params, d.decorators, d.returns, d.body with
  | .mk [] [] none [] none, [], none,
    .functionDef _ false "leaf" (.mk [] [] none [] none) [.pass _] [] none :: rest =>
    !d.isAsync && d.name == "nest" && rest.length == n && areIdle rest
  | _, _, _, _ => false

theorem isNest_alike {n : Nat} {d e : Splice.Definition} (hd : isNest n d = true)
    (he : isNest n e = true) : d.Alike e := by
  unfold isNest at hd he
  split at hd
  · rename_i hdparams hddecorators hdreturns hdbody
    split at he
    · rename_i heparams hedecorators hereturns hebody
      simp only [Bool.and_eq_true, Bool.not_eq_true', beq_iff_eq] at hd he
      obtain ⟨⟨⟨hdasync, hdname⟩, hdlength⟩, hdrest⟩ := hd
      obtain ⟨⟨⟨heasync, hename⟩, helength⟩, herest⟩ := he
      exact {
        isAsync := hdasync.trans heasync.symm
        name := hdname.trans hename.symm
        params := by rw [hdparams, heparams]
        body := by
          rw [hdbody, hebody, List.map_cons, List.map_cons, erase_of_areIdle hdrest,
            erase_of_areIdle herest, hdlength, helength]
          rfl
        decorators := by rw [hddecorators, hedecorators]
        returns := by rw [hdreturns, hereturns] }
    · cases he
  · cases hd

/-- Whether a text reads as the definition with one `pass` behind the other function. -/
def readsAsNest (text : String) : Bool :=
  match Splice.parseDefinition text.toList with
  | .ok d => isNest 1 d && decide (Apart none d)
  | .error _ => false

/-- Whether the injection of a `pass` into the function is planned as it should be. -/
def plansNest (p : Plan) : Bool :=
  (match p.function.behaviour with
    | .code (.mk ⟨.function, "nest", "nest", "<world>", 1, false, false, ⟨[], [], none, [], none⟩,
        [], [], none⟩ [.function (.mk ⟨.function, "leaf", "nest.<locals>.leaf", "<world>", 2, false,
          false, ⟨[], [], none, [], none⟩, [], [], none⟩ [.push .none, .ret]) 0 [] [],
          .store .own "leaf", .push .none, .ret]) => true
    | _ => false)
  && p.function.qualname == "nest" && isNest 0 p.old && isNest 1 p.definition && p.new.length == 1
  && areIdle p.new && p.definition.toStmt.print == .ok nestResult

/-- The injection is applied as it is planned, and what it prints reads as it should. -/
theorem nest_checks : Attempt.givesThat (fun x => plansNest x.plan)
      (Injection.applied call (.thing ⟨2⟩) (.str "nest") (some sampleSpec)) nestWorld = true ∧
    readsAsNest nestResult = true := by
  decide +kernel

/-- What is known of the injection from its plan. -/
structure NestPlanned (p : Plan) : Prop where
  behaviour : p.function.behaviour = .code nestCode
  qualname : p.function.qualname = "nest"
  old : isNest 0 p.old = true
  definition : isNest 1 p.definition = true
  new : ∃ sp, p.new = [.pass sp]
  printed : p.definition.toStmt.print = .ok nestResult

theorem nestPlanned_of_plansNest {p : Plan} (h : plansNest p = true) : NestPlanned p := by
  simp only [plansNest, Bool.and_eq_true, beq_iff_eq] at h
  obtain ⟨⟨⟨⟨⟨⟨hbehaviour, hqualname⟩, hold⟩, hdefinition⟩, hlength⟩, hidle⟩, hprinted⟩ := h
  refine ⟨?_, hqualname, hold, hdefinition, ?_, hprinted⟩
  · split at hbehaviour
    · assumption
    · cases hbehaviour
  · obtain ⟨s, hs⟩ := List.length_eq_one_iff.1 hlength
    rw [hs] at hidle ⊢
    cases s with
    | pass sp => exact ⟨sp, rfl⟩
    | _ => cases hidle

theorem nest_retraced {s : Success} {w' : World} (hplan : NestPlanned s.plan)
    (h : Succeeds call (.thing ⟨2⟩) (.str "nest") (some sampleSpec) nestWorld s w') :
    s.plan.owner = none ∧ s.Retraced nestCode nestInside := by
  have howner : s.plan.owner = none := by
    rw [Plan.owner, hplan.qualname]
    decide
  have htext : s.text = nestResult := Except.ok.inj (h.printed.symm.trans hplan.printed)
  have hreads := nest_checks.2
  rw [← htext] at hreads
  unfold readsAsNest at hreads
  refine ⟨howner, ?_, hplan.behaviour,
    ⟨nestDefinition, [], isNest_alike (by rfl) hplan.old, nest_madeFrom, by decide⟩, ?_, ?_⟩
  · rw [IsDefined, Function.codeName, hplan.behaviour]
    decide
  · intro d hd
    simp only [hd, Bool.and_eq_true] at hreads
    exact isNest_alike hreads.1 hplan.definition
  · intro d hd
    simp only [hd, Bool.and_eq_true, decide_eq_true_eq] at hreads
    exact howner ▸ hreads.2

/-- The function inside gets another qualified name when a `pass` is put behind it. -/
theorem leaf_is_renamed : ∃ s w',
    Succeeds call (.thing ⟨2⟩) (.str "nest") (some sampleSpec) nestWorld s w' ∧
      s.Retraced nestCode nestInside ∧ (∃ sp, s.plan.new = [.pass sp]) ∧
      titlesOf nestCode.body = [⟨"leaf", "nest.<locals>.leaf"⟩] ∧
      titlesOf s.code.body = [⟨"leaf", "__hotsplice_factory__.<locals>.nest.<locals>.leaf"⟩] := by
  obtain ⟨x, w', happlied, htest⟩ := Attempt.givesThat_iff.1 nest_checks.1
  obtain ⟨w₁, -, hprepared, -, hgiven⟩ := applied_gives happlied
  obtain ⟨s, -, hs, -, -, htitles⟩ := inner_titles_are_kept_iff hgiven
  obtain ⟨w₂, -, hplanned, -⟩ := prepare_stages hprepared
  obtain ⟨w₃, hplan, -⟩ := hs.setting
  obtain ⟨hsame, -⟩ := Attempt.gives_unique hplanned hplan
  have hnest : NestPlanned s.plan := hsame ▸ nestPlanned_of_plansNest htest
  obtain ⟨howner, hretraced⟩ := nest_retraced hnest hs
  obtain ⟨hold, hnew, hqualname, -⟩ := htitles nestCode nestInside hretraced
  obtain ⟨sp, hpass⟩ := hnest.new
  have halike : s.plan.old.Alike nestDefinition := isNest_alike hnest.old (by rfl)
  refine ⟨s, w', hs, hretraced, ⟨sp, hpass⟩, ?_, ?_⟩
  · rw [hold, titlesIn_alike _ _ halike]
    decide
  · have hbody : s.plan.definition.body =
        Splice.insertAt s.plan.old.body s.plan.index [.pass sp] := by
      rw [← hpass]
      rfl
    rw [hnew, hbody, titlesIn_insertAt (definesNothing_pass sp), titlesIn_alike _ _ halike, howner,
      hqualname, howner, Function.codeName, hnest.behaviour]
    decide

end Graft
