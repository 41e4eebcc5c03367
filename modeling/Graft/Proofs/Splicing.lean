import Graft.Machine.Call
import Graft.Proofs.Injection
import Graft.Proofs.Reach.Engines

set_option autoImplicit false

/-! # Injections are splices

The function that an injection puts in place is the old one with the new statements somewhere in its
body and with nothing else changed, and so is the text that is recorded.  Where one injection
follows another on the same member, each reads the text that the one before has registered, so that
over any number of them no statement of the first function is lost, moved or doubled.

What is relied on is that the printed text of a definition reads as the same definition. -/

namespace Graft.Injection

open Machine Code Splice

/-! ## One injection -/

/-- The printed text of the new definition reads as that definition, both as it is compiled and as
    it is found again among the registered texts. -/
structure Success.ReadsBack (s : Success) : Prop where
  compiled : ∀ d, parseDefinition s.text.toList = .ok d → d.Alike s.plan.definition
  firstLine : s.code.info.firstLine = 1
  registered : ∃ text d, definitionText (SourceEntry.ofText s.text).lines 0 = some text ∧
    parseDefinition text.toList = .ok d ∧ d.Alike s.plan.definition

/-- A function that was made by a definition, which has a name. -/
def IsDefined (f : Function) : Prop := f.codeName ∉ anonymousNames

/-- Where the new definition of an injection is compiled. -/
def Success.context (s : Success) (scope : Scope) : Context :=
  surroundingContext (fileName s.id) scope (ownerName? s.plan.function.qualname)

/-- What is put in place and recorded is the old definition with the new statements in its body. -/
structure Success.IsSplice (s : Success) : Prop where
  /-- The new definition has the old one's name, parameters and decorators, and its body is the old
      one with the new statements at the index. -/
  definition_eq : s.plan.definition = { s.plan.old with
    body := s.plan.old.body.take s.plan.index ++ s.plan.new ++ s.plan.old.body.drop s.plan.index }
  /-- The index is that of the line among the statements of the old body. -/
  index_eq : s.plan.index =
    insertionIndex (s.plan.old.body.map rangeOf) s.plan.line s.plan.loc
  /-- Statements that end before the line come before the new ones, and those that begin behind it
      come behind them. -/
  placed : InSourceOrder (s.plan.old.body.map rangeOf) → ∀ j st, s.plan.old.body[j]? = some st →
    ((st.span.endLine : Int) < s.plan.line → j < s.plan.index) ∧
      (s.plan.line < (st.span.line : Int) → s.plan.index ≤ j)
  /-- What is compiled is the new definition. -/
  compiled : IsDefined s.plan.function → s.ReadsBack →
    ∃ (d : Definition) (scope : Scope) (is : List Instr), d.Alike s.plan.definition ∧
      stmts ((s.context scope).ofFunction d.span d.name d.isAsync) d.body = .ok is ∧
      s.code = functionCode (s.context scope) d.span d.isAsync d.name d.params d.body d.decorators
        is

theorem Plan.sides (p : Plan) (h : InSourceOrder (p.old.body.map rangeOf)) {j : Nat}
    {st : Syntax.Stmt} (hst : p.old.body[j]? = some st) :
    ((st.span.endLine : Int) < p.line → j < p.index) ∧
      (p.line < (st.span.line : Int) → p.index ≤ j) := by
  have hrange : (p.old.body.map rangeOf)[j]? = some (rangeOf st) := by
    rw [List.getElem?_map, hst]
    rfl
  exact insertionIndex_sides p.line p.loc h hrange

section

variable {call : Caller} {target member : Value} {spec : Option Spec} {w w' : World} {s t : Success}

theorem Succeeds.isSplice (h : Succeeds call target member spec w s w') : s.IsSplice where
  definition_eq := rfl
  index_eq := rfl
  placed := fun horder _ _ hst => s.plan.sides horder hst
  compiled := by
    intro hdefined hback
    obtain ⟨d, scope, is, hd, -, his, hcode, -⟩ := compile_ok hdefined h.compiled
    exact ⟨d, scope, is, hback.compiled d hd, his, hcode⟩

/-! ## One injection after another -/

/-- An injection finds what another one has put in place: a function that came from the text which
    the other one has registered, and that text. -/
structure Success.Follows (s t : Success) : Prop where
  found : ∃ code, t.plan.function.behaviour = .code code ∧ code.info.file = fileName s.id ∧
    code.info.firstLine = s.code.info.firstLine
  kept : t.reading.sources.get? (fileName s.id) = s.writing.sources.get? (fileName s.id)

/-- An injection that follows another one reads what that one has printed. -/
theorem Succeeds.old_alike (hs : Succeeds call target member spec w s w')
    (hregisters : s.registers = true) (hback : s.ReadsBack) {spec' : Option Spec} {v v' : World}
    (ht : Succeeds call target member spec' v t v') (hfollows : s.Follows t) :
    t.plan.old.Alike s.plan.definition := by
  obtain ⟨code, hcode, hfile, hline⟩ := hfollows.found
  obtain ⟨text, htext, hparsed⟩ := ht.planned.old_eq
  obtain ⟨again, d, hagain, hd, halike⟩ := hback.registered
  unfold sourceOf at htext
  rw [hcode] at htext
  simp only [hfile, hfollows.kept, hs.registered hregisters, hline, hback.firstLine,
    Nat.sub_self, hagain, Except.ok.injEq] at htext
  rw [← htext, hd] at hparsed
  cases hparsed
  exact halike

end

/-- Injections into one member, each of which finds what the one before has put in place. -/
structure Series (call : Caller) (target member : Value) (ss : List Success) : Prop where
  succeeded : ∀ s ∈ ss, ∃ spec w w', Succeeds call target member spec w s w'
  registered : ∀ s ∈ ss, s.registers = true
  readsBack : ∀ s ∈ ss, s.ReadsBack
  chained : ss.IsChain Success.Follows

/-- The statements of the new definition of an injection, without their spans. -/
def Success.statements (s : Success) : List Syntax.Stmt :=
  s.plan.definition.body.map Syntax.Stmt.erase

/-- The statements of the definition that an injection has found, without their spans. -/
def Success.found (s : Success) : List Syntax.Stmt := s.plan.old.body.map Syntax.Stmt.erase

/-- The statements that an injection puts in, without their spans. -/
def Success.added (s : Success) : List Syntax.Stmt := s.plan.new.map Syntax.Stmt.erase

theorem Success.statements_eq (s : Success) :
    s.statements = insertAt s.found s.plan.index s.added :=
  map_insertAt _ _ _ _

variable {call : Caller} {target member : Value}

/-- **Nothing is lost over a series of injections.**  The statements of the first function are all
    there in the end and in their order, and besides them only what has been put in. -/
theorem Series.keeps {s : Success} {ss : List Success}
    (h : Series call target member (s :: ss)) :
    s.found.Sublist ((s :: ss).getLast (by simp)).statements ∧
      ((s :: ss).getLast (by simp)).statements.Perm
        (s.found ++ (s :: ss).flatMap Success.added) := by
  induction ss generalizing s with
  | nil =>
    simp only [List.getLast_singleton, List.flatMap_cons, List.flatMap_nil, List.append_nil,
      s.statements_eq]
    exact ⟨insertAt_sublist _ _ _, insertAt_perm _ _ _⟩
  | cons t ss ih =>
    have hfollows : s.Follows t := (List.isChain_cons_cons.1 h.chained).1
    -- What the second injection finds is what the first one has left.
    obtain ⟨hsublist, hperm⟩ := ih (s := t) {
      succeeded := fun u hu => h.succeeded u (List.mem_cons_of_mem _ hu)
      registered := fun u hu => h.registered u (List.mem_cons_of_mem _ hu)
      readsBack := fun u hu => h.readsBack u (List.mem_cons_of_mem _ hu)
      chained := (List.isChain_cons_cons.1 h.chained).2 }
    obtain ⟨spec, w, w', hs⟩ := h.succeeded s List.mem_cons_self
    obtain ⟨spec', v, v', ht⟩ := h.succeeded t (by simp)
    have halike := hs.old_alike (h.registered s List.mem_cons_self)
      (h.readsBack s List.mem_cons_self) ht hfollows
    have hfound : t.found = insertAt s.found s.plan.index s.added :=
      halike.body.trans s.statements_eq
    rw [List.getLast_cons (by simp)]
    refine ⟨(insertAt_sublist _ _ _).trans (hfound ▸ hsublist), hperm.trans ?_⟩
    have hadded : (s :: t :: ss).flatMap Success.added
        = s.added ++ (t :: ss).flatMap Success.added := List.flatMap_cons
    rw [hfound, hadded, ← List.append_assoc]
    exact (insertAt_perm _ _ _).append_right _

/-- Whether all statements are `pass`. -/
def areIdle (ss : List Syntax.Stmt) : Bool :=
  ss.all fun
    | .pass _ => true
    | _ => false

theorem erase_of_areIdle {ss : List Syntax.Stmt} (h : areIdle ss = true) :
    ss.map Syntax.Stmt.erase = List.replicate ss.length (.pass default) := by
  induction ss with
  | nil => rfl
  | cons s ss ih =>
    rw [areIdle, List.all_cons, Bool.and_eq_true] at h
    rw [List.map_cons, ih h.2, List.length_cons, List.replicate_succ]
    cases s with
    | pass sp => rfl
    | _ => cases h.1

/-- Whether a definition is that of a function without parameters whose body is so many `pass`. -/
def isIdle (n : Nat) (d : Definition) : Bool :=
  match d.params, d.decorators, d.returns with
  | .mk [] [] none [] none, [], none =>
    !d.isAsync && d.name == "idle" && d.body.length == n && d.body.all fun
      | .pass _ => true
      | _ => false
  | _, _, _ => false

theorem isIdle_alike {n : Nat} {d e : Definition} (hd : isIdle n d = true)
    (he : isIdle n e = true) : d.Alike e := by
  unfold isIdle at hd he
  split at hd
  · rename_i hdparams hddecorators hdreturns
    split at he
    · rename_i heparams hedecorators hereturns
      simp only [Bool.and_eq_true, Bool.not_eq_true', beq_iff_eq] at hd he
      obtain ⟨⟨⟨hdasync, hdname⟩, hdlength⟩, hdbody⟩ := hd
      obtain ⟨⟨⟨heasync, hename⟩, helength⟩, hebody⟩ := he
      exact {
        isAsync := hdasync.trans heasync.symm
        name := hdname.trans hename.symm
        params := by rw [hdparams, heparams]
        body := by rw [erase_of_areIdle hdbody, erase_of_areIdle hebody, hdlength, helength]
        decorators := by rw [hddecorators, hedecorators]
        returns := by rw [hdreturns, hereturns] }
    · cases he
  · cases hd

/-- The text of the sample function. -/
def sampleText : String := "def idle():\n    pass"

/-- The sample function. -/
def sampleFunction : Function :=
  { behaviour := .code (.mk {
      kind := .function, name := "idle", qualname := "idle", file := "<world>", firstLine := 1 }
      returnNone)
    name := "idle", qualname := "idle", module := .str "world", globals := ⟨0⟩ }

/-- A world in which a thing holds the sample function, whose text is registered. -/
def sampleWorld : World :=
  { things := #[{ body := .module "world" }, { body := .function sampleFunction },
      { body := .namespace, table := [("idle", .thing ⟨1⟩)] }]
    sources := ({} : SourceCache).register "<world>" sampleText }

/-- The thing that holds the sample function. -/
def sampleTarget : Value := .thing ⟨2⟩

/-- The sample injection. -/
def sampleSpec : Spec := { code := .str "pass", line := .int 2 }

/-- What the sample injection prints. -/
def sampleResult : String := "def idle():\n    pass\n    pass"

/-- The identifier that the sample injection gets. -/
def sampleId : String := "inj_0cgd67pd"

/-- Whether a function is made as the sample function is. -/
def isSampleFunction (f : Function) : Bool :=
  match f.behaviour with
  | .code (.mk ⟨.function, "idle", "idle", "<world>", 1, false, false, ⟨[], [], none, [], none⟩, [],
      [], none⟩ [.push .none, .ret]) => f.closure.isEmpty
  | _ => false

theorem isSampleFunction_isDefined {f : Function} (h : isSampleFunction f = true) :
    IsDefined f := by
  unfold isSampleFunction at h
  split at h
  · rename_i hcode
    rw [IsDefined, Function.codeName, hcode]
    decide
  · cases h

/-- Whether a text reads as the definition that the sample injection makes, from its first line
    on. -/
def readsAsResult (text : String) : Bool :=
  match parseDefinition text.toList with
  | .ok d => isIdle 2 d && firstLineOf d.span d.decorators == 1
  | .error _ => false

theorem readsAsResult_iff {text : String} : readsAsResult text = true ↔
    ∃ d, parseDefinition text.toList = .ok d ∧ isIdle 2 d = true ∧
      firstLineOf d.span d.decorators = 1 := by
  unfold readsAsResult
  cases parseDefinition text.toList <;> simp

/-- Whether a plan puts another `pass` into the sample function. -/
def isSamplePlan (p : Plan) : Bool :=
  isSampleFunction p.function && isIdle 1 p.old && isIdle 2 p.definition && areIdle p.new

/-- Whether what is ready is what the sample injection makes. -/
def isSample (x : Prepared) : Bool :=
  isSamplePlan x.plan && x.text == sampleResult && x.id == sampleId

/-- The sample injection makes what it should, and what it prints reads as the definition that it
    makes, also as it is found again among the registered texts. -/
theorem sample_checks :
    Attempt.givesThat isSample (applied Machine.call sampleTarget (.str "idle") (some sampleSpec))
        sampleWorld = true ∧
      readsAsResult sampleResult = true ∧
      (definitionText (SourceEntry.ofText sampleResult).lines 0).any readsAsResult = true := by
  decide +kernel

theorem isSamplePlan_iff {p : Plan} : isSamplePlan p = true ↔ isSampleFunction p.function = true ∧
    isIdle 1 p.old = true ∧ isIdle 2 p.definition = true ∧ areIdle p.new = true := by
  simp only [isSamplePlan, Bool.and_eq_true, and_assoc]

theorem isSample_iff {x : Prepared} :
    isSample x = true ↔ isSamplePlan x.plan = true ∧ x.text = sampleResult ∧ x.id = sampleId := by
  simp only [isSample, Bool.and_eq_true, beq_iff_eq, and_assoc]

theorem sample_applied : ∃ x w', Attempt.Gives (applied Machine.call sampleTarget (.str "idle")
    (some sampleSpec)) sampleWorld x w' ∧ isSample x = true :=
  Attempt.givesThat_iff.1 sample_checks.1

theorem sample_gives : ∃ w', Attempt.Gives (apply Machine.call sampleTarget (.str "idle")
    (some sampleSpec)) sampleWorld sampleId w' := by
  obtain ⟨x, w', happlied, hsample⟩ := sample_applied
  obtain ⟨-, -, -, -, hgiven⟩ := applied_gives happlied
  obtain ⟨-, -, hid⟩ := isSample_iff.1 hsample
  exact ⟨w', hid ▸ hgiven⟩

/-- Whatever is known of how the sample injection succeeds, it is the one that has been checked. -/
theorem sample_succeeds {s : Success} {w' : World}
    (h : Succeeds Machine.call sampleTarget (.str "idle") (some sampleSpec) sampleWorld s w') :
    isSamplePlan s.plan = true ∧ s.text = sampleResult ∧ s.registers = true := by
  obtain ⟨x, w₂, happlied, hsample⟩ := sample_applied
  obtain ⟨w₁, -, hprepared, -⟩ := applied_gives happlied
  obtain ⟨w₃, -, hplan, -, -, hprinted, -⟩ := prepare_stages hprepared
  obtain ⟨w₄, hplan', hsetting⟩ := h.setting
  obtain ⟨hsame, rfl⟩ := Attempt.gives_unique hplan hplan'
  obtain ⟨hsampled, htext, -⟩ := isSample_iff.1 hsample
  refine ⟨hsame ▸ hsampled, ?_, ?_⟩
  · rw [hsame] at hprinted
    exact (Except.ok.inj (h.printed.symm.trans hprinted)).trans htext
  · have hreaches := ((plan_confined Machine.call_confined _ _ _).ends sampleWorld).of_gives hplan
    have hregisters : Settings.bool sampleWorld.around registerKeys (.bool true) none = .ok true := by
      decide +kernel
    rw [hreaches.reaches.around, hregisters] at hsetting
    exact (Except.ok.inj hsetting).symm

theorem sample_readsBack {s : Success} {w' : World}
    (h : Succeeds Machine.call sampleTarget (.str "idle") (some sampleSpec) sampleWorld s w') :
    s.registers = true ∧ s.ReadsBack := by
  obtain ⟨hplan, htext, hregisters⟩ := sample_succeeds h
  obtain ⟨-, hreads, hagain⟩ := sample_checks
  obtain ⟨d, hd, hd', hline⟩ := readsAsResult_iff.1 hreads
  obtain ⟨hfunction, -, hnew, -⟩ := isSamplePlan_iff.1 hplan
  obtain ⟨text, hfound, hreads⟩ := (Option.any_eq_true _ _).1 hagain
  obtain ⟨e, he, he', -⟩ := readsAsResult_iff.1 hreads
  rw [← htext] at hd hfound
  refine ⟨hregisters, ?_, ?_, text, e, hfound, he, isIdle_alike he' hnew⟩
  · rintro _ hd₁
    obtain rfl := Except.ok.inj (hd.symm.trans hd₁)
    exact isIdle_alike hd' hnew
  · obtain ⟨d₁, scope, is, hd₁, -, -, hcode, -⟩ :=
      compile_ok (isSampleFunction_isDefined hfunction) h.compiled
    obtain rfl := Except.ok.inj (hd.symm.trans hd₁)
    rw [hcode]
    exact hline

end Graft.Injection
