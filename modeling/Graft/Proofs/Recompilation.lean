import Graft.Proofs.Atomicity
import Graft.Proofs.Splicing
import Graft.Proofs.Surroundings

set_option autoImplicit false

/-! # Which names keep their scope

A definition that is compiled anew takes from around what the old function takes, as far as its
surroundings bind nothing else.  What they do bind besides, which is the definition's own name or the
name of the class and its cell, is taken from them as well although the old function looks for it in
the module; there is no cell for it then, and the injection is refused. -/

namespace Graft.Scope

open Graft.Syntax

/-! ## What a definition takes from around -/

theorem Setting.Agrees.refl (c : Setting) : c.Agrees c := ⟨fun _ => rfl, rfl, rfl, rfl⟩

/-- Names are private to two classes in the same way. -/
def SameNames (owner owner' : Option String) : Prop := ∀ n, mangle owner n = mangle owner' n

theorem SameNames.agrees {owner owner' : Option String} (h : SameNames owner owner') :
    Setting.Agrees { owner } { owner := owner' } :=
  ⟨h, rfl, rfl, rfl⟩

theorem bodyMentions_alike {c c' : Setting} (h : c.Agrees c') {d e : Splice.Definition}
    (hde : d.Alike e) : (bodyMentions c d).map (Mention.mapSpan noSpan) =
      (bodyMentions c' e).map (Mention.mapSpan noSpan) := by
  have hparams : (paramMentions c.function d.params).map (Mention.mapSpan noSpan) =
      (paramMentions c'.function e.params).map (Mention.mapSpan noSpan) := by
    rw [← paramMentions_mapSpan noSpan (.refl _) d.params, hde.params,
      paramMentions_mapSpan noSpan h.function e.params]
  have hbody : (stmtsMentions c.function d.body).map (Mention.mapSpan noSpan) =
      (stmtsMentions c'.function e.body).map (Mention.mapSpan noSpan) := by
    rw [← stmtsMentions_mapSpan noSpan (.refl _) d.body, mapStmtSpans_eq_map,
      show d.body.map (Stmt.mapSpan noSpan) = e.body.map (Stmt.mapSpan noSpan) from hde.body,
      ← mapStmtSpans_eq_map, stmtsMentions_mapSpan noSpan h.function e.body]
  rw [bodyMentions, bodyMentions, List.map_append, List.map_append, hparams, hbody]

/-- The outline of a definition, given the class that private names belong to. -/
def outlineOf (owner : Option String) (d : Splice.Definition) : Outline :=
  Outline.noteAll [] { kind := .function } (bodyMentions { owner } d)

/-- The names that a definition takes from around, as far as they are bound there. -/
def takes (owner : Option String) (d : Splice.Definition) : List String :=
  (outlineOf owner d).taken

/-- Definitions that are alike have the same outline. -/
theorem outlineOf_congr {owner owner' : Option String} (h : SameNames owner owner')
    {d e : Splice.Definition} (hde : d.Alike e) : outlineOf owner d = outlineOf owner' e := by
  unfold outlineOf
  rw [← Outline.noteAll_mapSpan noSpan, bodyMentions_alike h.agrees hde, Outline.noteAll_mapSpan]

/-! ### Statements that name no names -/

/-- The statements name no names. -/
def Silent (ss : List Stmt) : Prop := ∀ c : Setting, allSilent (stmtsMentions c ss) = true

theorem stmtsMentions_append (c : Setting) (ss ss' : List Stmt) :
    stmtsMentions c (ss ++ ss') = stmtsMentions c ss ++ stmtsMentions c ss' := by
  induction ss with
  | nil => rfl
  | cons s ss ih => rw [List.cons_append, stmtsMentions, stmtsMentions, ih, List.append_assoc]

/-- What a definition mentions inside when statements are put into its body. -/
theorem bodyMentions_insertAt (c : Setting) (d : Splice.Definition) (i : Nat) (new : List Stmt) :
    bodyMentions c { d with body := Splice.insertAt d.body i new } =
      (paramMentions c.function d.params ++ stmtsMentions c.function (d.body.take i)) ++
        (stmtsMentions c.function new ++ stmtsMentions c.function (d.body.drop i)) := by
  simp only [bodyMentions, Splice.insertAt, stmtsMentions_append, List.append_assoc]

theorem bodyMentions_eq (c : Setting) (d : Splice.Definition) (i : Nat) :
    bodyMentions c d =
      (paramMentions c.function d.params ++ stmtsMentions c.function (d.body.take i)) ++
        stmtsMentions c.function (d.body.drop i) := by
  rw [bodyMentions, List.append_assoc, ← stmtsMentions_append, List.take_append_drop]

/-- Statements that name no names do not change the outline of a definition. -/
theorem outlineOf_insertAt {new : List Stmt} (hnew : Silent new) (owner : Option String)
    (d : Splice.Definition) (i : Nat) :
    outlineOf owner { d with body := Splice.insertAt d.body i new } = outlineOf owner d := by
  unfold outlineOf
  rw [bodyMentions_insertAt, bodyMentions_eq { owner } d i]
  simp only [Outline.noteAll_append]
  rw [Outline.noteAll_silent (hnew _)]

theorem outwardOfAll_append (b : Bool) (ms ms' : List Mention) :
    outwardOfAll b (ms ++ ms') = outwardOfAll b ms ++ outwardOfAll b ms' := by
  induction ms with
  | nil => rfl
  | cons m ms ih => rw [List.cons_append, outwardOfAll, outwardOfAll, ih, List.append_assoc]

theorem outwardOfAll_silent {ms : List Mention} (h : allSilent ms = true) :
    outwardOfAll false ms = [] := by
  refine outwardOfAll_local fun m hm => ?_
  induction ms with
  | nil => cases hm
  | cons m' ms ih =>
    rw [allSilent, Bool.and_eq_true] at h
    rcases List.mem_cons.1 hm with rfl | hm
    · cases m with
      | declaredGlobal sp n => cases h.1
      | declaredNonlocal sp n => cases h.1
      | walrus sp n => cases h.1
      | _ => rfl
    · exact ih h.2 hm

end Graft.Scope

namespace Graft.Injection

open Graft.Code Graft.Machine Graft.Scope Graft.Syntax

theorem extras_alike {d e : Splice.Definition} (h : d.Alike e) (owner : Option String) :
    extras owner d = extras owner e := by
  cases owner with
  | some o => rfl
  | none =>
    have hstmt : d.toStmt.mapSpan noSpan = e.toStmt.mapSpan noSpan :=
      Splice.Definition.alike_iff.1 h
    unfold extras
    dsimp only
    rw [← boundByAll_mapSpan noSpan, ← stmtMentions_mapSpan noSpan (.refl _), hstmt,
      stmtMentions_mapSpan noSpan (.refl _), boundByAll_mapSpan]

theorem extras_insertAt {new : List Stmt} (hnew : Silent new) (owner : Option String)
    (d : Splice.Definition) (i : Nat) :
    extras owner { d with body := Splice.insertAt d.body i new } = extras owner d := by
  cases owner with
  | some o => rfl
  | none =>
    have hbody : outwardOfAll false (bodyMentions { inFunction := true }
        { d with body := Splice.insertAt d.body i new }) =
        outwardOfAll false (bodyMentions { inFunction := true } d) := by
      rw [bodyMentions_insertAt, bodyMentions_eq _ d i]
      simp only [outwardOfAll_append, outwardOfAll_silent (hnew _), List.nil_append]
    unfold extras
    dsimp only
    rw [stmtMentions_toStmt, stmtMentions_toStmt]
    simp only [boundByAll, List.flatMap_cons, List.flatMap_append, List.flatMap_nil, Mention.bound,
      headOf, BlockKind.isComprehension, hbody]
    rfl

/-! ## Scopes of definitions -/

section

variable {d d' : Splice.Definition} {owner owner' : Option String} {around around' : List String}
  {s s' : Scope}

/-- The scope of a definition is that of a function block with the outline of the definition. -/
theorem Stands.isFunctionScope (h : Stands d owner around s) :
    ∃ e, IsFunctionScope e around s ∧ e.outline = outlineOf owner d := by
  obtain ⟨outer, e, a, free, he, ha, hs⟩ := h
  refine ⟨e, ⟨Draft.block_tidy he, ?_, a, free, ha, hs⟩, ?_⟩
  · rw [Draft.noteAll_head he]
    rfl
  · rw [Draft.noteAll_outline he]
    exact Outline.noteAll_function rfl _ _

theorem Stands.mem_frees (h : Stands d owner around s) (n : String) :
    n ∈ s.frees ↔ n ∈ takes owner d ∧ n ∈ around := by
  obtain ⟨e, hscope, houtline⟩ := h.isFunctionScope
  rw [hscope.mem_frees, houtline, takes]

theorem Stands.place?_congr (h : Stands d owner around s) (h' : Stands d' owner' around' s')
    (houtline : outlineOf owner d = outlineOf owner' d')
    (hsame : ∀ n, n ∈ s.frees ↔ n ∈ s'.frees) (n : String) : s.place? n = s'.place? n := by
  obtain ⟨e, hscope, he⟩ := h.isFunctionScope
  obtain ⟨e', hscope', he'⟩ := h'.isFunctionScope
  refine hscope.place?_congr hscope' (by rw [he, he', houtline]) (fun m hm => ?_) n
  have hframe := hsame m
  rw [hscope.mem_frees, hscope'.mem_frees, he', ← houtline, ← he] at hframe
  exact ⟨fun h => (hframe.1 ⟨hm, h⟩).2, fun h => (hframe.2 ⟨hm, h⟩).2⟩

/-! ## Code that is made from definitions -/

/-- The code is made from the definition where it stands: `inner` is the place inside it, and the
    names are bound around it. -/
structure MadeFrom (code : Code) (d : Splice.Definition) (inner : Context) (around : List String) :
    Prop where
  made : ∃ c is, inner = c.ofFunction d.span d.name d.isAsync ∧ stmts inner d.body = .ok is ∧
    code = functionCode c d.span d.isAsync d.name d.params d.body d.decorators is
  stands : Stands d inner.owner around inner.scope

theorem MadeFrom.frees_eq {code : Code} {inner : Context} (h : MadeFrom code d inner around) :
    code.info.frees = inner.scope.frees := by
  obtain ⟨c, is, rfl, -, rfl⟩ := h.made
  rfl

/-- The function is made by a definition like the given one: `inner` is the place inside it. -/
structure MadeBy (f : Function) (d : Splice.Definition) (inner : Context) : Prop where
  named : IsDefined f
  code : ∃ code d' around, f.behaviour = .code code ∧ d'.Alike d ∧ MadeFrom code d' inner around
  closure : f.closure.map Prod.fst = f.frees

theorem MadeBy.frees_eq {f : Function} {inner : Context} (h : MadeBy f d inner) :
    f.frees = inner.scope.frees := by
  obtain ⟨code, d', around, hcode, -, hmade⟩ := h.code
  rw [Function.frees, hcode]
  exact hmade.frees_eq

/-- What is compiled anew is made from the definition in its surroundings. -/
theorem compile_madeFrom {source : List Char} {frees : List String} {name file : String}
    {code : Code} (hname : name ∉ anonymousNames)
    (h : compile source frees owner name file = .ok code) :
    ∃ d inner around, Splice.parseDefinition source = .ok d ∧ MadeFrom code d inner around ∧
      inner.owner = owner ∧ ∀ n, n ∈ around ↔ n ∈ frees ∨ n ∈ extras owner d := by
  obtain ⟨d, scope, is, hd, hscope, his, hcode, rfl⟩ := compile_ok hname h
  have howner : ∀ o, owner = some o → o ∉ anonymousNames := by
    rintro o rfl
    exact notMem_anonymousNames (List.all_eq_true.1 (compile_plain h) o (by simp))
  obtain ⟨around, hstands, hnames⟩ := ofModule_surrounded file hname howner hscope
  have hinner : ((surroundingContext file scope owner).ofFunction d.span d.name d.isAsync).owner =
      owner := surroundingContext_owner file scope owner
  exact ⟨d, _, around, hd, ⟨⟨_, is, rfl, his, hcode⟩, hinner.symm ▸ hstands⟩, hinner, hnames⟩

end

/-! ## Cells -/

section

variable {f : Function} {code : Code}

theorem closure_any (h : f.closure.map Prod.fst = f.frees) (n : String) :
    (f.closure.any fun c => c.1 == n) = true ↔ n ∈ f.frees := by
  rw [← h, List.any_eq_true, List.mem_map]
  simp

/-- There are cells for everything that the new code takes. -/
theorem bindCells_ok (h : f.closure.map Prod.fst = f.frees)
    (hall : ∀ n ∈ code.info.frees, n ∈ f.frees) : ∃ closure, bindCells f code = .ok closure := by
  have hnone : (code.info.frees.filter fun n => !f.closure.any fun c => c.1 == n) = [] := by
    refine List.filter_eq_nil_iff.2 fun n hn => ?_
    simp only [(closure_any h n).2 (hall n hn), Bool.not_true, Bool.false_eq_true, not_false_eq_true]
  unfold bindCells
  simp only [hnone]
  exact ⟨_, rfl⟩

/-- There is something that the new code takes and for which there is no cell. -/
theorem bindCells_error (h : f.closure.map Prod.fst = f.frees)
    (hlack : ¬∀ n ∈ code.info.frees, n ∈ f.frees) :
    ∃ names, bindCells f code = .error (.lacksVariables f.qualname names) ∧
      ∀ n, n ∈ names ↔ n ∈ code.info.frees ∧ n ∉ f.frees := by
  have hmem : ∀ n, n ∈ (code.info.frees.filter fun n => !f.closure.any fun c => c.1 == n) ↔
      n ∈ code.info.frees ∧ n ∉ f.frees := by
    intro n
    rw [List.mem_filter, Bool.not_eq_true', Bool.eq_false_iff, Ne, closure_any h]
  refine ⟨_, ?_, hmem⟩
  unfold bindCells
  dsimp only
  split
  · rename_i hnone
    refine absurd (fun n hn => ?_) hlack
    by_contra hfree
    have := (hmem n).2 ⟨hn, hfree⟩
    rw [hnone] at this
    cases this
  · rfl

end

/-! ## Plans -/

namespace Plan

/-- The class that private names of the new definition belong to. -/
def owner (p : Plan) : Option String := ownerName? p.function.qualname

/-- The code that the text of the new definition is compiled to. -/
def compiled (p : Plan) (text id : String) : Except Refusal Code :=
  compile text.toList p.function.frees p.owner p.function.codeName (fileName id)

/-- The names that the surroundings of the new definition bind and that it takes from there, although
    the old function does not take them. -/
def captured (p : Plan) : List String :=
  (takes p.owner p.old).filter fun n =>
    (extras p.owner p.old).contains n && !p.function.frees.contains n

/-- The names that the old function takes from around and the new definition does not. -/
def lost (p : Plan) : List String :=
  p.function.frees.filter fun n => !(takes p.owner p.old).contains n

theorem mem_captured {p : Plan} {n : String} : n ∈ p.captured ↔
    n ∈ takes p.owner p.old ∧ n ∈ extras p.owner p.old ∧ n ∉ p.function.frees := by
  simp [captured]

theorem mem_lost {p : Plan} {n : String} :
    n ∈ p.lost ↔ n ∈ p.function.frees ∧ n ∉ takes p.owner p.old := by
  simp [lost]

end Plan

/-- The text of the new definition reads as that definition. -/
def ReadsBack (p : Plan) (text : String) : Prop :=
  ∀ d, Splice.parseDefinition text.toList = .ok d → d.Alike p.definition

section

variable {p : Plan} {text id : String} {code : Code} {inner : Context}

/-- **What the new code takes from around**, if the new statements name no names. -/
theorem compiled_frees (hnamed : IsDefined p.function) (hnew : Silent p.new)
    (hback : ReadsBack p text) (h : p.compiled text id = .ok code) :
    ∃ d inner around, d.Alike p.definition ∧ MadeFrom code d inner around ∧
      inner.owner = p.owner ∧ outlineOf p.owner d = outlineOf p.owner p.old ∧
      ∀ n, n ∈ code.info.frees ↔ n ∈ takes p.owner p.old ∧
        (n ∈ p.function.frees ∨ n ∈ extras p.owner p.old) := by
  obtain ⟨d, inner, around, hd, hmade, howner, haround⟩ := compile_madeFrom hnamed h
  have halike := hback d hd
  have houtline : outlineOf p.owner d = outlineOf p.owner p.old := by
    rw [outlineOf_congr (fun _ => rfl) halike]
    exact outlineOf_insertAt hnew p.owner p.old p.index
  have hextras : extras p.owner d = extras p.owner p.old := by
    rw [extras_alike halike]
    exact extras_insertAt hnew p.owner p.old p.index
  refine ⟨d, inner, around, halike, hmade, howner, houtline, fun n => ?_⟩
  rw [hmade.frees_eq, hmade.stands.mem_frees, howner, haround, hextras, takes, takes, houtline]

/-- The new code takes nothing that there is no cell for exactly if nothing is captured. -/
theorem captured_eq_nil (hfrees : ∀ n, n ∈ code.info.frees ↔ n ∈ takes p.owner p.old ∧
      (n ∈ p.function.frees ∨ n ∈ extras p.owner p.old)) :
    p.captured = [] ↔ ∀ n ∈ code.info.frees, n ∈ p.function.frees := by
  rw [List.eq_nil_iff_forall_not_mem]
  refine forall_congr' fun n => ?_
  rw [Plan.mem_captured, hfrees]
  grind

/-- The new code takes the same names exactly if no name is captured and none is lost. -/
theorem same_frees (hfrees : ∀ n, n ∈ code.info.frees ↔ n ∈ takes p.owner p.old ∧
      (n ∈ p.function.frees ∨ n ∈ extras p.owner p.old)) :
    (∀ n, n ∈ code.info.frees ↔ n ∈ p.function.frees) ↔ p.captured = [] ∧ p.lost = [] := by
  rw [captured_eq_nil hfrees, List.eq_nil_iff_forall_not_mem]
  simp only [Plan.mem_lost]
  constructor
  · intro h
    refine ⟨fun n => (h n).1, fun n ⟨hn, hnot⟩ => hnot ?_⟩
    exact ((hfrees n).1 ((h n).2 hn)).1
  · rintro ⟨hcaptured, hlost⟩ n
    refine ⟨hcaptured n, fun hn => (hfrees n).2 ⟨?_, .inl hn⟩⟩
    by_contra hnot
    exact hlost n ⟨hn, hnot⟩

/-- No name is lost if private names belong to the same class. -/
theorem lost_eq_nil (hmade : MadeBy p.function p.old inner) (hsame : SameNames p.owner inner.owner) :
    p.lost = [] := by
  obtain ⟨code, d', around, hcode, halike, hfrom⟩ := hmade.code
  refine List.eq_nil_iff_forall_not_mem.2 fun n hn => ?_
  obtain ⟨hfree, hnot⟩ := Plan.mem_lost.1 hn
  rw [hmade.frees_eq, hfrom.stands.mem_frees, takes, ← outlineOf_congr hsame halike.symm] at hfree
  exact hnot hfree.1

/-- If private names belong to the same class and the new code takes the same names from around,
    it keeps every name where the old one keeps it. -/
theorem place?_eq {d : Splice.Definition} {inner' : Context} {around : List String}
    (hmade : MadeBy p.function p.old inner) (hsame : SameNames p.owner inner.owner)
    (hnew : MadeFrom code d inner' around) (howner : inner'.owner = p.owner)
    (houtline : outlineOf p.owner d = outlineOf p.owner p.old)
    (hfrees : ∀ n, n ∈ code.info.frees ↔ n ∈ p.function.frees) (n : String) :
    inner'.scope.place? n = inner.scope.place? n := by
  obtain ⟨code', d', around', hcode, halike, hfrom⟩ := hmade.code
  refine hnew.stands.place?_congr hfrom.stands ?_ (fun m => ?_) n
  · rw [howner, houtline, outlineOf_congr hsame halike.symm]
  · rw [← hnew.frees_eq, hfrees, hmade.frees_eq]

end

/-! ## Whole injections -/

section

variable {call : Caller} {target member : Value} {spec : Option Spec} {w w₁ w' : World} {p : Plan}
  {text id : String} {code : Code}

/-- What an injection does before it compiles anything. -/
def ready (call : Caller) (target member : Value) (spec : Option Spec) :
    Attempt (Plan × String × String) := do
  let plan ← plan call target member spec
  let text ← textOf plan.definition
  Run.log .debug logger ("Regenerated source for " ++ plan.member.name ++ ":\n" ++ text)
  let id ← newId
  return (plan, text, id)

theorem prepare_eq (h : Attempt.Gives (ready call target member spec) w (p, text, id) w₁) :
    (∀ x, Attempt.Gives (prepare call target member spec) w x w' ↔
      ∃ v, Attempt.Gives (replacementFor call p text id) w₁ v w' ∧ x = ⟨p, text, id, v⟩) ∧
    ∀ r, Attempt.Refuses (replacementFor call p text id) w₁ r w' →
      Attempt.Refuses (prepare call target member spec) w r w' := by
  unfold ready at h
  simp only [Attempt.gives_bind, Attempt.gives_pure] at h
  obtain ⟨p', wa, hplan, text', wb, htext, u, wc, hlog, id', wd, hid, heq, rfl⟩ := h
  cases heq
  unfold prepare
  constructor
  · intro x
    rw [hplan.bind_iff, htext.bind_iff, hlog.bind_iff, hid.bind_iff, Attempt.gives_bind]
    simp only [Attempt.gives_pure]
    constructor
    · rintro ⟨v, w₂, hv, rfl, rfl⟩
      exact ⟨v, hv, rfl⟩
    · rintro ⟨v, hv, rfl⟩
      exact ⟨v, w', hv, rfl, rfl⟩
  · intro r hr
    exact hplan.refuses_bind (htext.refuses_bind (hlog.refuses_bind (hid.refuses_bind hr.bind)))

theorem prepare_ready {x : Prepared} (h : Attempt.Gives (prepare call target member spec) w x w') :
    ∃ w₁, Attempt.Gives (ready call target member spec) w (x.plan, x.text, x.id) w₁ ∧
      Attempt.Gives (replacementFor call x.plan x.text x.id) w₁ x.replacement w' := by
  unfold prepare at h
  simp only [Attempt.gives_bind, Attempt.gives_pure] at h
  obtain ⟨p, wa, hplan, text, wb, htext, u, wc, hlog, id, wd, hid, v, wv, hv, rfl, rfl⟩ := h
  refine ⟨wd, ?_, hv⟩
  unfold ready
  simp only [Attempt.gives_bind, Attempt.gives_pure]
  exact ⟨p, wa, hplan, text, wb, htext, u, wc, hlog, id, wd, hid, rfl, rfl⟩

theorem replica_ends {old : Value} {g : Function} (hold : w.body? old = some (.function g))
    (r : Ref) (f : Function) (closure : List (String × Ref)) :
    (replica call old r f code closure).Ends w (fun _ _ => True) fun _ _ => False := by
  unfold replica annotationEntries
  simp only [Run.ends_bind]
  refine (World.getAttr_annotations hold).imp ?_ fun _ _ h => h
  intro v w₂ _
  split <;> simp

/-- A text that compiles and for which there are cells becomes a function. -/
theorem materialize_ends {old : Value} {g : Function} (hold : w.body? old = some (.function g))
    {source file : String} {r : Ref} {f : Function} {register : Bool}
    {closure : List (String × Ref)}
    (hcode : compile source.toList f.frees (ownerName? f.qualname) f.codeName file = .ok code)
    (hclosure : bindCells f code = .ok closure) :
    Attempt.Ends (materialize call source old r f file register) w (fun _ _ => True)
      fun _ => False := by
  unfold materialize registerText
  rw [Attempt.ends_bind, hcode, Attempt.ends_mk]
  dsimp only
  rw [Attempt.ends_bind, hclosure, Attempt.ends_mk]
  dsimp only
  rw [Attempt.ends_bind, Attempt.ends_lift]
  refine (replica_ends hold r f closure).imp ?_ fun _ _ h => h
  intro v w₂ _
  simp only [Attempt.ends_bind, Attempt.ends_lift, Run.ends_log, Attempt.ends_pure]
  split
  · trivial
  · trivial

theorem rebound_ends (m : Member) (v : Value) :
    (rebound m v).Ends w (fun _ _ => True) fun _ _ => False := by
  unfold rebound
  rw [Run.ends_bind, Run.ends_bodyOf]
  split <;> simp

theorem gives_registers {b : Bool}
    (h : Settings.bool w.around registerKeys (.bool true) none = .ok b) :
    Attempt.Gives registers w b w := by
  unfold registers
  simp only [Attempt.gives_bind, Attempt.gives_lift, Run.gives_world]
  refine ⟨w, w, ⟨rfl, rfl⟩, ?_⟩
  rw [h]
  exact Attempt.gives_pure.2 ⟨rfl, rfl⟩

/-- A replacement is made exactly if the text compiles and there are cells for the code. -/
theorem replacementFor_gives_iff {g : Function} (hvalue : w.body? p.value = some (.function g))
    (hregister : ∃ b, Settings.bool w.around registerKeys (.bool true) none = .ok b) :
    (∃ v w', Attempt.Gives (replacementFor call p text id) w v w') ↔
      ∃ code closure, p.compiled text id = .ok code ∧ bindCells p.function code = .ok closure := by
  obtain ⟨b, hb⟩ := hregister
  unfold replacementFor
  constructor
  · rintro ⟨v, w', h⟩
    rw [(gives_registers hb).bind_iff, Attempt.gives_bind] at h
    obtain ⟨v₁, w₁, hmade, -⟩ := h
    obtain ⟨code, closure, hcode, hclosure, -⟩ := materialize_gives hmade
    exact ⟨code, closure, hcode, hclosure⟩
  · rintro ⟨code, closure, hcode, hclosure⟩
    have hends : Attempt.Ends
        (materialize call text p.value p.ref p.function (fileName id) b) w (fun _ _ => True)
        fun _ => False := materialize_ends hvalue hcode hclosure
    obtain ⟨v₁, w₁, hmade, -⟩ := hends.gives
    obtain ⟨v, w₂, hrebound, -⟩ := (rebound_ends (w := w₁) p.member v₁).gives
    refine ⟨v, w₂, ?_⟩
    rw [(gives_registers hb).bind_iff, hmade.bind_iff, Attempt.gives_lift]
    exact hrebound

/-- Code for which cells lack is refused. -/
theorem replacementFor_refuses {r : Refusal}
    (hregister : ∃ b, Settings.bool w.around registerKeys (.bool true) none = .ok b)
    (hcode : p.compiled text id = .ok code) (hlack : bindCells p.function code = .error r) :
    Attempt.Refuses (replacementFor call p text id) w r w := by
  obtain ⟨b, hb⟩ := hregister
  have hcompiled : Attempt.Gives (ExceptT.mk (pure (p.compiled text id))) w code w :=
    Attempt.gives_mk.2 ⟨hcode, rfl⟩
  have hbound : Attempt.Refuses (ExceptT.mk (pure (bindCells p.function code))) w r w :=
    Attempt.refuses_mk.2 ⟨hlack, rfl⟩
  unfold replacementFor materialize
  exact (gives_registers hb).refuses_bind (hcompiled.refuses_bind hbound.bind).bind

/-- What an injection that is ready is for is a function. -/
theorem ready_function (h : Attempt.Gives (ready call target member spec) w (p, text, id) w₁) :
    ∃ g, w₁.body? p.value = some (.function g) := by
  unfold ready at h
  simp only [Attempt.gives_bind, Attempt.gives_lift, Attempt.gives_pure] at h
  obtain ⟨p', wa, hplan, text', wb, htext, u, wc, hlog, id', wd, hid, heq, rfl⟩ := h
  cases heq
  obtain ⟨g, hvalue⟩ := plan_function hplan
  have hb := (textOf_quiet _).of_gives htext
  have hc := (Run.Quiet.log _ _ _).of_gives hlog
  exact (hb.trans (hc.trans (newId_quiet.of_gives hid))).function hvalue

end

end Graft.Injection

namespace Graft

open Injection Code Scope Machine

/-! ## The main result -/

/-- The target takes what is written to a member, and adds no records meanwhile. -/
def Member.Accepts (m : Member) (call : Caller) (v : Value) (w : World) : Prop :=
  ∃ w', Attempt.Gives (m.assign call v) w () w' ∧ SameRecords w w'

/-- Statements that name no names are put into a function that a definition has made: all is ready
    but the compilation, what is printed reads back, and the target takes what is made. -/
structure Recompiles (call : Caller) (target member : Value) (spec : Option Injection.Spec)
    (w : World) (p : Plan) (text id : String) (w₁ : World) (inner : Context) : Prop where
  ready : Attempt.Gives (ready call target member spec) w (p, text, id) w₁
  made : MadeBy p.function p.old inner
  silent : Silent p.new
  readsBack : ReadsBack p text
  setting : ∃ b, Settings.bool w₁.around registerKeys (.bool true) none = .ok b
  accepts : ∀ v w₂, Attempt.Gives (replacementFor call p text id) w₁ v w₂ →
    p.member.Accepts call v w₂

variable {call : Caller} {target member : Value} {spec : Option Injection.Spec} {w w₁ : World}
  {p : Plan} {text id : String} {inner : Context}

/-- The injection succeeds exactly if there are cells for the code. -/
theorem Recompiles.gives_iff (h : Recompiles call target member spec w p text id w₁ inner) :
    (∃ id' w', Attempt.Gives (Injection.apply call target member spec) w id' w') ↔
      ∃ code closure, p.compiled text id = .ok code ∧ bindCells p.function code = .ok closure := by
  obtain ⟨g, hvalue⟩ := ready_function h.ready
  have hmakes : (∃ v w₂, Attempt.Gives (replacementFor call p text id) w₁ v w₂) ↔ _ :=
    replacementFor_gives_iff hvalue h.setting
  -- Everything else has been done already or can not fail, so that making the replacement decides.
  rw [← hmakes]
  unfold Injection.apply
  constructor
  · rintro ⟨id', w', happly⟩
    rw [Attempt.gives_bind] at happly
    obtain ⟨x, w₂, hx, -⟩ := happly
    obtain ⟨v, hv, -⟩ := ((prepare_eq h.ready).1 x).1 hx
    exact ⟨v, w₂, hv⟩
  · rintro ⟨v, w₂, hv⟩
    have hx := ((prepare_eq h.ready).1 _).2 ⟨v, hv, rfl⟩
    obtain ⟨w₃, hassign, hsame⟩ := h.accepts v w₂ hv
    obtain ⟨-, hfree⟩ := Injection.prepare_gives hx
    obtain ⟨w₄, hconclude⟩ := Injection.conclude_succeeds (w := w₃) (x := ⟨p, text, id, v⟩)
      (by rw [hsame.injections]; exact hfree)
    refine ⟨id, w₄, ?_⟩
    rw [hx.bind_iff, hassign.bind_iff, Attempt.Gives.bind_iff (Attempt.gives_lift.2 hconclude)]
    exact Attempt.gives_pure.2 ⟨rfl, rfl⟩

theorem silent_of_areIdle {ss : List Syntax.Stmt} (h : areIdle ss = true) : Silent ss := by
  intro c
  induction ss with
  | nil => rfl
  | cons s ss ih =>
    rw [areIdle, List.all_cons, Bool.and_eq_true] at h
    cases s with
    | pass sp =>
      rw [stmtsMentions, stmtMentions, List.nil_append]
      exact ih h.2
    | _ => cases h.1

/-- Where the sample function's definition stands. -/
def sampleSpan : Syntax.Span := ⟨1, 0, 2, 8⟩

/-- The sample function's definition. -/
def sampleDefinition : Splice.Definition :=
  { span := sampleSpan, isAsync := false, name := "idle", params := .mk [] [] none [] none
    body := [.pass sampleSpan], decorators := [], returns := none }

/-- The scope of the sample function. -/
def sampleScope : Scope := .mk (headOf sampleDefinition) [] [] false false false []

/-- The place inside the sample function. -/
def sampleInside : Context :=
  { file := "<world>", scope := sampleScope, kind := .function, qualname := "idle" }

theorem sample_madeFrom : MadeFrom (.mk {
    kind := .function, name := "idle", qualname := "idle", file := "<world>", firstLine := 1 }
    returnNone) sampleDefinition sampleInside [] where
  made := by
    let scope : Scope := .mk ⟨.module, "<module>", moduleSpan⟩ [] [] false false false [sampleScope]
    exact ⟨{ file := "<world>", scope, kind := .module }, [], rfl, rfl, rfl⟩
  stands :=
    ⟨[], { head := headOf sampleDefinition }, { bound := some [], globals := [] }, [], rfl, rfl, rfl⟩

theorem madeBy_of_isSampleFunction {f : Function} {d : Splice.Definition}
    (hf : isSampleFunction f = true) (hd : isIdle 1 d = true) : MadeBy f d sampleInside := by
  have hdefined := isSampleFunction_isDefined hf
  unfold isSampleFunction at hf
  split at hf
  · rename_i hcode
    have hclosure : f.closure = [] := List.isEmpty_iff.1 hf
    refine ⟨hdefined, ⟨_, sampleDefinition, [], hcode, isIdle_alike rfl hd, sample_madeFrom⟩, ?_⟩
    rw [hclosure, Function.frees, hcode]
    rfl
  · cases hf

theorem sampleTarget_isInert : sampleWorld.IsInert sampleTarget := World.isInert_namespace rfl

theorem sample_recompiles : ∃ p text id w₁, Recompiles Machine.call sampleTarget (.str "idle")
    (some sampleSpec) sampleWorld p text id w₁ sampleInside := by
  obtain ⟨x, w', happlied, hsample⟩ := sample_applied
  obtain ⟨w₂, w₃, hprepared, hassign, hgiven⟩ := applied_gives happlied
  obtain ⟨w₁, hready, hmade⟩ := prepare_ready hprepared
  obtain ⟨hsampled, htext, -⟩ := isSample_iff.1 hsample
  obtain ⟨hfunction, hold, hnew, hidle⟩ := isSamplePlan_iff.1 hsampled
  obtain ⟨e, he, he', -⟩ := readsAsResult_iff.1 sample_checks.2.1
  have htame : Tame Machine.call sampleTarget sampleWorld := tame_of_inert sampleTarget_isInert
  have hrelies : Injection.Relies Machine.call (some sampleSpec) sampleWorld :=
    Injection.relies_of_text fun s hs => ⟨"pass", by cases hs; rfl⟩
  refine ⟨x.plan, x.text, x.id, w₁, hready, madeBy_of_isSampleFunction hfunction hold,
    silent_of_areIdle hidle, ?_, ?_, ?_⟩
  · intro d hd
    obtain rfl := Except.ok.inj (he.symm.trans (htext ▸ hd))
    exact isIdle_alike he' hnew
  · obtain ⟨b, w₂', hsetting, -⟩ := Attempt.gives_bind.1 hmade
    exact ⟨b, (registers_gives hsetting).2⟩
  · -- The replacement is the one that has been made, and the target has taken it.
    intro v w₂' hv
    obtain ⟨rfl, rfl⟩ := Attempt.gives_unique hmade hv
    have hends := Member.assign_ends htame (Injection.prepare_gives hprepared).1
      ((Injection.prepare_quiet htame hrelies).of_gives hprepared) x.replacement
    exact ⟨w₃, hassign, hends.of_gives hassign⟩

end Graft
