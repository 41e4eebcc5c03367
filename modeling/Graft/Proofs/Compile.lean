import Graft.Injection.Recompile
import Graft.Proofs.Anonymous
import Graft.Proofs.Run

set_option autoImplicit false

/-! # What is compiled anew

The code that comes out of a compilation is that of the definition itself: it is made from the
definition's body in a context inside the surroundings, and not from anything else in the text. -/

namespace Graft.Code

open Graft.Syntax Graft.Machine

/-! ## Definitions -/

namespace Context

/-- The place inside a function that is defined here. -/
def ofFunction (c : Context) (sp : Span) (name : String) (isAsync : Bool) : Context :=
  c.inside (c.scopeAt sp name .function) .function isAsync (c.qualnameOfDefinition name)

/-- The place inside a class that is defined here. -/
def ofClass (c : Context) (sp : Span) (name : String) : Context :=
  { c.inside (c.scopeAt sp name .cls) .cls false (c.qualnameOfDefinition name) with
    owner := some name }

end Context

/-- The only code with a name that the instructions hold is the given one. -/
def HoldsOnly (is : List Instr) (code : Code) : Prop :=
  ∃ before i behind, is = before ++ i :: behind ∧ i.code? = some code ∧ Anonymous before ∧
    Anonymous behind

/-- Looking for a code by its name finds the only one that has a name. -/
theorem HoldsOnly.innerNamed? {info : CodeInfo} {is : List Instr} {code found : Code}
    {name : String} (h : HoldsOnly is code) (hname : name ∉ anonymousNames)
    (hfound : (Code.mk info is).innerNamed? name = some found) :
    found = code ∧ code.info.name = name := by
  obtain ⟨before, i, behind, rfl, hi, hbefore, hbehind⟩ := h
  have other : ∀ js, Anonymous js → found ∉ js.filterMap Instr.code? ∨ found.info.name ≠ name := by
    intro js hjs
    by_cases hmem : found ∈ js.filterMap Instr.code?
    · right
      obtain ⟨j, hj, hcode⟩ := List.mem_filterMap.1 hmem
      exact fun h => hname (h ▸ hjs j hj found hcode)
    · exact .inl hmem
  rw [Code.innerNamed?, inner_eq] at hfound
  have hfoundName : found.info.name = name := by
    simpa using List.find?_some hfound
  have hmem := List.mem_of_find?_eq_some hfound
  simp only [Code.body, List.filterMap_append, List.filterMap_cons, hi, List.mem_append,
    List.mem_cons] at hmem
  rcases hmem with hmem | rfl | hmem
  · exact absurd hmem ((other before hbefore).resolve_right fun h => h hfoundName)
  · exact ⟨rfl, hfoundName⟩
  · exact absurd hmem ((other behind hbehind).resolve_right fun h => h hfoundName)

theorem HoldsOnly.append {is js : List Instr} {code : Code} (h : HoldsOnly is code)
    (hjs : Anonymous js) : HoldsOnly (is ++ js) code := by
  obtain ⟨before, i, behind, rfl, hi, hbefore, hbehind⟩ := h
  exact ⟨before, i, behind ++ js, by simp, hi, hbefore, by simp [hbehind, hjs]⟩

theorem HoldsOnly.prepend {is js : List Instr} {code : Code} (h : HoldsOnly is code)
    (hjs : Anonymous js) : HoldsOnly (js ++ is) code := by
  obtain ⟨before, i, behind, rfl, hi, hbefore, hbehind⟩ := h
  exact ⟨js ++ before, i, behind, by simp, hi, by simp [hbefore, hjs], hbehind⟩

theorem applyDecorators_anonymous (es : List Expr) : Anonymous (applyDecorators es) := by
  induction es with
  | nil => exact anonymous_nil
  | cons e es ih => simpa [applyDecorators, Instr.code?] using ih

/-- The code of a function definition. -/
def functionCode (c : Context) (sp : Span) (isAsync : Bool) (name : String) (params : Parameters)
    (body : List Stmt) (decorators : List Expr) (is : List Instr) : Code :=
  .mk (functionInfo (c.ofFunction sp name isAsync) name (firstLineOf sp decorators) params body)
    (is ++ returnNone)

/-- The instructions for a function definition hold its code, which is made from its body. -/
theorem functionDef_holdsOnly {c : Context} {sp : Span} {isAsync : Bool} {name : String}
    {params : Parameters} {body : List Stmt} {decorators : List Expr} {returns : Option Expr}
    {is : List Instr}
    (h : stmt c (.functionDef sp isAsync name params body decorators returns) = .ok is) :
    ∃ instrs, stmts (c.ofFunction sp name isAsync) body = .ok instrs ∧
      HoldsOnly is (functionCode c sp isAsync name params body decorators instrs) := by
  rw [stmt] at h
  simp only [bind_eq_ok, Except.ok.injEq] at h
  obtain ⟨-, -, applied, happlied, defaults, hdefaults, hints, hhints, instrs, hinstrs, stored,
    hstored, rfl⟩ := h
  refine ⟨instrs, hinstrs, applied ++ defaults ++ hints,
    .function (functionCode c sp isAsync name params body decorators instrs) (defaultCount params)
      (keywordDefaultNames c params) ((typeHints c params returns).map Prod.fst),
    applyDecorators decorators ++ stored, ?_, rfl, ?_, ?_⟩
  · simp only [List.append_assoc, List.cons_append, List.nil_append]
    rfl
  · simp [exprs_anonymous c _ _ happlied, defaultValues_anonymous c _ _ hdefaults,
      exprs_anonymous c _ _ hhints]
  · simp [applyDecorators_anonymous, storeName_anonymous c _ _ _ hstored]

/-- What is known of the code of a class definition. -/
def classInfo (c : Context) (sp : Span) (name : String) (body : List Stmt)
    (decorators : List Expr) : CodeInfo :=
  { kind := .cls, name, qualname := c.qualnameOfDefinition name, file := c.file
    firstLine := firstLineOf sp decorators
    cells := if (c.scopeAt sp name .cls).hasClassCell then [Scope.classCell] else []
    frees := (c.scopeAt sp name .cls).frees, doc := docOf body }

/-- The code of a class definition. -/
def classCode (c : Context) (sp : Span) (name : String) (body : List Stmt)
    (decorators : List Expr) (is : List Instr) : Code :=
  .mk (classInfo c sp name body decorators)
    (classPrologue (c.qualnameOfDefinition name) (docOf body) ++ is
      ++ classEpilogue (c.scopeAt sp name .cls))

/-- The instructions for a class definition hold its code, which is made from its body. -/
theorem classDef_holdsOnly {c : Context} {sp : Span} {name : String} {bases : List Expr}
    {keywords : List Keyword} {body : List Stmt} {decorators : List Expr} {is : List Instr}
    (h : stmt c (.classDef sp name bases keywords body decorators) = .ok is) :
    ∃ instrs, stmts (c.ofClass sp name) body = .ok instrs ∧
      HoldsOnly is (classCode c sp name body decorators instrs) := by
  rw [stmt] at h
  simp only [bind_eq_ok, Except.ok.injEq] at h
  obtain ⟨applied, happlied, instrs, hinstrs, -, -, given, hgiven, named, hnamed, stored, hstored,
    rfl⟩ := h
  refine ⟨instrs, hinstrs, applied ++ given ++ named,
    .buildClass (classCode c sp name body decorators instrs) bases.length
      (keywords.map keywordName), applyDecorators decorators ++ stored, ?_, rfl, ?_, ?_⟩
  · simp [classCode, classInfo, Context.inside]
  · simp [exprs_anonymous c _ _ happlied, exprs_anonymous c _ _ hgiven,
      keywordValues_anonymous c _ _ hnamed]
  · simp [applyDecorators_anonymous, storeName_anonymous c _ _ _ hstored]

theorem classPrologue_anonymous (qualname : String) (doc : Option String) :
    Anonymous (classPrologue qualname doc) := by
  cases doc <;> simp [classPrologue, Instr.code?]

theorem classEpilogue_anonymous (scope : Scope) : Anonymous (classEpilogue scope) := by
  unfold classEpilogue
  split <;> simp [returnNone, Instr.code?]

theorem stmts_singleton {c : Context} {s : Stmt} {is : List Instr} :
    stmts c [s] = .ok is ↔ stmt c s = .ok is := by
  simp [stmts, bind_eq_ok]

/-- The code of a module that consists of one statement holds what the statement holds. -/
theorem ofModule_singleton {file : String} {s : Stmt} {code : Code}
    (h : Code.ofModule file [s] = .ok code) :
    ∃ scope is info, Scope.ofModule [s] = .ok scope ∧
      stmt { file, scope, kind := .module } s = .ok is ∧ code = .mk info (is ++ returnNone) := by
  unfold Code.ofModule at h
  simp only [bind_eq_ok, Except.ok.injEq] at h
  obtain ⟨scope, hscope, is, his, rfl⟩ := h
  exact ⟨scope, is, _, hscope, stmts_singleton.1 his, rfl⟩

end Graft.Code

namespace Graft.Injection

open Graft.Code Graft.Syntax Graft.Machine

/-! ## Compiling in surroundings -/

theorem codeOf_eq_ok {code found : Code} {name : String} (h : codeOf code name = .ok found) :
    code.innerNamed? name = some found := by
  unfold codeOf at h
  split at h
  · cases h
    assumption
  · cases h

/-- A name that program text can use is none of those that stand for no name. -/
theorem notMem_anonymousNames {name : String} (h : isPlainName name = true) :
    name ∉ anonymousNames := by
  have hplain : ∀ n ∈ anonymousNames, isPlainName n = false := by decide +kernel
  intro hmem
  rw [hplain name hmem] at h
  cases h

/-- Where a definition stands that is compiled anew, given the scope of its surroundings. -/
def surroundingContext (file : String) (scope : Scope) (owner : Option String) : Context :=
  let c : Context := { file, scope, kind := .module }
  match owner with
  | none => c.ofFunction ⟨1, 0, 2, 8⟩ factoryName false
  | some o => (c.ofFunction ⟨1, 0, 3, 12⟩ factoryName false).ofClass ⟨2, 4, 3, 12⟩ o

theorem surroundingContext_owner (file : String) (scope : Scope) (owner : Option String) :
    (surroundingContext file scope owner).owner = owner := by
  cases owner <;> rfl

theorem not_compileMisnamed_ok {source : List Char} {d : Splice.Definition} {frees : List String}
    {owner : Option String} {file : String} {code : Code} :
    compileMisnamed source d frees owner file ≠ .ok code := by
  intro h
  unfold compileMisnamed at h
  split at h
  · simp [bind_eq_ok] at h
  · cases h

/-- Surroundings that compile consist of names. -/
theorem compile_plain {source : List Char} {frees : List String} {owner : Option String}
    {name file : String} {code : Code} (h : compile source frees owner name file = .ok code) :
    (frees ++ owner.toList).all isPlainName = true := by
  unfold compile at h
  rw [bind_eq_ok] at h
  obtain ⟨d, -, h⟩ := h
  by_cases hplain : (frees ++ owner.toList).all isPlainName = true
  · exact hplain
  · rw [if_neg hplain] at h
    exact absurd h not_compileMisnamed_ok

/-- **What is compiled is the definition.**  A compilation that succeeds gives the code of the
    definition that the text begins with, made in the context inside the surroundings; and that
    definition has the wanted name. -/
theorem compile_ok {source : List Char} {frees : List String} {owner : Option String}
    {name file : String} {code : Code} (hname : name ∉ anonymousNames)
    (h : compile source frees owner name file = .ok code) :
    ∃ d scope is, Splice.parseDefinition source = .ok d ∧
      Scope.ofModule [surrounded frees owner d.toStmt] = .ok scope ∧
      stmts ((surroundingContext file scope owner).ofFunction d.span d.name d.isAsync) d.body
        = .ok is ∧
      code = functionCode (surroundingContext file scope owner) d.span d.isAsync d.name d.params
        d.body d.decorators is ∧
      d.name = name := by
  have hplain := compile_plain h
  unfold compile at h
  rw [bind_eq_ok] at h
  obtain ⟨d, hd, h⟩ := h
  rw [mapError_eq_ok] at hd
  rw [if_pos hplain] at h
  refine ⟨d, ?_⟩
  unfold compileSurrounded codeOfModule at h
  simp only [bind_eq_ok, mapError_eq_ok] at h
  obtain ⟨module, hmodule, factory, hfactory, h⟩ := h
  obtain ⟨scope, is, info, hscope, his, rfl⟩ := ofModule_singleton hmodule
  refine ⟨scope, ?_⟩
  have hfactoryName : factoryName ∉ anonymousNames := by decide
  have hreturn : Anonymous returnNone := by simp [returnNone, Instr.code?]
  have hfound := codeOf_eq_ok hfactory
  -- What is compiled stands in a factory, and for a method also in the owner's class, inside it.
  cases owner with
  | none =>
    obtain ⟨body, hbody, hholds⟩ := functionDef_holdsOnly his
    obtain ⟨rfl, -⟩ := (hholds.append hreturn).innerNamed? hfactoryName hfound
    obtain ⟨instrs, hinstrs, hholds⟩ := functionDef_holdsOnly (stmts_singleton.1 hbody)
    obtain ⟨rfl, hn⟩ := (hholds.append hreturn).innerNamed? hname (codeOf_eq_ok h)
    exact ⟨instrs, hd, hscope, hinstrs, rfl, hn⟩
  | some o =>
    simp only [bind_eq_ok] at h
    obtain ⟨cls, hcls, h⟩ := h
    obtain ⟨body, hbody, hholds⟩ := functionDef_holdsOnly his
    obtain ⟨rfl, -⟩ := (hholds.append hreturn).innerNamed? hfactoryName hfound
    obtain ⟨members, hmembers, hholds⟩ := classDef_holdsOnly (stmts_singleton.1 hbody)
    have howner : o ∉ anonymousNames :=
      notMem_anonymousNames (by simpa using (List.all_eq_true.1 hplain) o (by simp))
    obtain ⟨rfl, -⟩ := (hholds.append hreturn).innerNamed? howner (codeOf_eq_ok hcls)
    obtain ⟨instrs, hinstrs, hholds⟩ := functionDef_holdsOnly (stmts_singleton.1 hmembers)
    obtain ⟨rfl, hn⟩ := ((hholds.prepend (classPrologue_anonymous _ _)).append
      (classEpilogue_anonymous _)).innerNamed? hname (codeOf_eq_ok h)
    exact ⟨instrs, hd, hscope, hinstrs, rfl, hn⟩

/-- Code that has been compiled belongs to the file and has the name that it was compiled for. -/
theorem compile_info {source : List Char} {frees : List String} {owner : Option String}
    {name file : String} {code : Code} (hname : name ∉ anonymousNames)
    (h : compile source frees owner name file = .ok code) :
    code.info.file = file ∧ code.info.name = name := by
  obtain ⟨d, scope, is, -, -, -, rfl, rfl⟩ := compile_ok hname h
  cases owner <;> exact ⟨rfl, rfl⟩

end Graft.Injection
