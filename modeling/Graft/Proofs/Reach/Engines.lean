import Graft.Machine.Call
import Graft.Injection.Apply
import Graft.Patch.Apply
import Graft.Proofs.Journal
import Graft.Proofs.Reach.Calls

set_option autoImplicit false

/-! # How far patches and injections reach

Finding a member of a target and writing to it are confined, and so is what an injection does until
it takes an identifier.  Records, registered texts, random numbers and the clock are beyond what
programs reach, but marks are kept there as well: patches and injections make none, so the only new
ones are those of the programs that they run. -/

namespace Graft

open Machine Data

variable {α : Type} {call : Caller}

/-- An attempt that stays within reach, however it ends. -/
def Attempt.Confined (x : Attempt α) : Prop := Attempt.Leads World.Becomes x

namespace Attempt.Confined

variable {β : Type}

theorem pure (a : α) : Attempt.Confined (Pure.pure a) := Attempt.Leads.pure World.Becomes.isWay a

theorem refuse (r : Refusal) : Attempt.Confined (Attempt.refuse r : Attempt α) :=
  Attempt.Leads.refuse World.Becomes.isWay r

theorem mk (e : Except Refusal α) : Attempt.Confined (ExceptT.mk (Pure.pure e)) :=
  Attempt.Leads.mk World.Becomes.isWay e

theorem lift {x : Run α} (hx : x.Confined) : Attempt.Confined (liftM x) := Attempt.Leads.lift hx

theorem bind {x : Attempt α} {f : α → Attempt β} (hx : Attempt.Confined x)
    (hf : ∀ a, Attempt.Confined (f a)) : Attempt.Confined (x >>= f) :=
  Attempt.Leads.bind World.Becomes.isWay hx hf

end Attempt.Confined

namespace Member

/-! ## Members -/

theorem lookup_confined (hcall : call.Confined) (target : Value) (name : String) :
    (lookup call target name).Confined := by
  unfold lookup
  grind

theorem resolve_confined (hcall : call.Confined) (target name : Value) :
    Attempt.Confined (resolve call target name) := by
  unfold resolve
  split
  · exact .refuse _
  split
  · exact .refuse _
  refine .bind (.lift .world) fun w => .bind (.lift (lookup_confined hcall _ _)) fun found => ?_
  split
  · exact .refuse _
  · refine .bind (.lift .world) fun w => ?_
    split
    · exact .pure _
    · exact .refuse _

theorem put_confined (hcall : call.Confined) (m : Member) (v : Value) :
    (m.put call v).Confined := by
  unfold put
  grind

theorem assign_confined (hcall : call.Confined) (m : Member) (v : Value) :
    Attempt.Confined (m.assign call v) := by
  unfold assign rewrap
  refine .bind (.lift ?_) fun v => .bind (.lift ?_) fun refusal => ?_
  · split
    · exact .pure _
    · exact .newValue _ _
    · exact .newValue _ _
  · refine .tryCatch (.bind (put_confined hcall m v) fun _ => .pure _) fun e => ?_
    split
    · refine .bind .world fun w => ?_
      split
      · exact .pure _
      · exact .throw _
    · exact .throw _
  · split
    · exact .refuse _
    · exact .pure _

end Member

namespace Injection

/-! ## What an injection does before it takes an identifier -/

theorem isBlank_confined (hcall : call.Confined) (code : Value) :
    (isBlank call code).Confined := by
  unfold isBlank
  grind

theorem check_confined (hcall : call.Confined) (spec : Option Spec) :
    Attempt.Confined (check call spec) := by
  unfold check
  cases spec with
  | none => exact .refuse _
  | some s =>
    dsimp only
    split
    · exact .refuse _
    split
    · exact .refuse _
    refine .bind (.lift .world) fun w => ?_
    split
    · exact .refuse _
    refine .bind (.lift (isBlank_confined hcall _)) fun blank => ?_
    split
    · exact .refuse _
    refine .bind (.lift .world) fun w => ?_
    split
    · split
      · exact .refuse _
      · split
        · exact .pure _
        · exact .refuse _
    · exact .refuse _

theorem statementsOf_confined (code : Value) : Attempt.Confined (statementsOf code) := by
  unfold statementsOf
  split
  · split
    · exact .pure _
    · exact .refuse _
  · exact .lift (.raise _ _)

theorem definitionIn_confined (source : String) : Attempt.Confined (
    match Splice.parseDefinition source.toList with
    | .ok d => return d
    | .error fault => Attempt.refuse (.fragment fault)) := by
  split
  · exact .pure _
  · exact .refuse _

theorem definitionOf_confined (m : Member) (f : Function) (code : Value) :
    Attempt.Confined (definitionOf m f code) := by
  unfold definitionOf refuseUnavailable
  refine .bind (.lift .world) fun w => ?_
  dsimp only
  split
  · exact .bind (.pure _) definitionIn_confined
  · refine .bind ?_ definitionIn_confined
    split
    · exact .bind (statementsOf_confined code) fun _ => .refuse _
    · exact .refuse _

theorem plan_confined (hcall : call.Confined) (target member : Value) (spec : Option Spec) :
    Attempt.Confined (plan call target member spec) := by
  unfold plan
  refine .bind (Member.resolve_confined hcall target member) fun m => ?_
  refine .bind (check_confined hcall spec) fun checked => .bind (.lift .world) fun w => ?_
  dsimp only
  split
  · exact .refuse _
  refine .bind (.mk _) fun found => .bind (definitionOf_confined _ _ _) fun old => ?_
  refine .bind (statementsOf_confined _) fun new => ?_
  exact .bind (.lift (.log _ _ _)) fun _ => .pure _

end Injection

/-! ## Marks -/

/-- Every mark is still there; there may be newer ones. -/
def World.KeepsMarks (w w' : World) : Prop := w.flags <:+ w'.flags

theorem World.keepsMarks_isWay : World.IsWay World.KeepsMarks where
  refl _ := List.suffix_rfl
  trans h h' := h.trans h'

/-- What is confined keeps the marks. -/
theorem Run.Confined.keepsMarks {x : Run α} (hx : x.Confined) : Run.Leads World.KeepsMarks x :=
  hx.leads fun h => h.reaches.flags

/-- What is confined stays on every way that programs can not leave. -/
theorem Attempt.Confined.leads {R : World → World → Prop}
    (hR : ∀ {w w'}, World.Becomes w w' → R w w') {x : Attempt α} (hx : Attempt.Confined x) :
    Attempt.Leads R x := Run.Confined.leads hR hx

/-- An attempt stays on a way if it does so from every world. -/
theorem Attempt.leads_of_ends {R : World → World → Prop} {x : Attempt α}
    (h : ∀ w, Attempt.Ends x w (fun _ => R w) (R w)) : Attempt.Leads R x := by
  intro w
  have hw := h w
  unfold Attempt.Ends Run.Ends at hw
  rcases hx : Run.result x.run w with ⟨e | r | a, w'⟩ <;> rw [hx] at hw <;> exact hw

theorem Attempt.Leads.ends {R : World → World → Prop} {x : Attempt α} (h : Attempt.Leads R x)
    (w : World) : Attempt.Ends x w (fun _ => R w) (R w) := by
  have hw := h w
  unfold Attempt.Ends Run.Ends
  rcases hx : Run.result x.run w with ⟨e | r | a, w'⟩ <;> rw [hx] at hw <;> exact hw

/-! ## Patches -/

/-- A way that patches follow.  Other than the programs that they run, they keep records, draw
    random numbers and look at the clock. -/
structure World.IsPatchWay (R : World → World → Prop) : Prop where
  isWay : World.IsWay R
  becomes : ∀ {w w'}, w.Becomes w' → R w w'
  records : ∀ w patches dice clock, R w { w with patches, dice, clock }

theorem World.keepsMarks_isPatchWay : World.IsPatchWay World.KeepsMarks where
  isWay := World.keepsMarks_isWay
  becomes h := h.reaches.flags
  records _ _ _ _ := List.suffix_rfl

namespace Patch

theorem copyAttributes_confined (hcall : call.Confined) (wrapper wrapped : Value)
    (names : List String) : Run.Confined (forIn names PUnit.unit fun name _ => do
      copyAttribute call wrapper wrapped name
      return .yield PUnit.unit) := by
  refine .forIn (fun name _ => .bind ?_ fun _ => .pure _) _ _
  unfold copyAttribute
  grind

theorem copyOwn_confined (hcall : call.Confined) (r : Ref) (wrapped : Value) :
    (copyOwn call r wrapped).Confined := by
  unfold copyOwn
  grind

theorem displayName_confined (hcall : call.Confined) (wrapped : Value) (member : String) :
    (displayName call wrapped member).Confined := by
  unfold displayName
  grind

/-- Building a wrapper is confined. -/
theorem build_confined (hcall : call.Confined) (spec : Ref) (id wrapped : Value)
    (member : String) : (build call spec id wrapped member).Confined := by
  unfold build
  refine .bind (World.dictOfTable_confined _) fun annotations => ?_
  split
  · refine .bind .world fun w => .bind (.new _ _) fun r => ?_
    refine .bind (copyAttributes_confined hcall _ wrapped _) fun _ => ?_
    refine .bind (copyOwn_confined hcall r wrapped) fun _ => ?_
    refine .bind (World.setAttr_confined hcall _ _ _) fun _ => ?_
    refine .bind (displayName_confined hcall wrapped member) fun name => ?_
    exact .bind (World.setAttr_confined hcall _ _ _) fun _ => .pure _
  · exact .pure _

section

variable {R : World → World → Prop} (hR : World.IsPatchWay R)

include hR

theorem chooseId_leads (wanted : Value) : Attempt.Leads R (chooseId wanted) := by
  refine Attempt.leads_of_ends fun w => ?_
  unfold chooseId
  rw [Attempt.ends_bind, Attempt.ends_lift, Run.ends_world]
  split
  · have hconfined : ∀ k, Attempt.Confined (if w.patches.journal.contains k then
        Attempt.refuse (.duplicateId (w.literal wanted)) else return wanted) := by
      intro k
      split
      · exact .refuse _
      · exact .pure _
    have hchosen := (Attempt.Confined.bind (.lift (World.hashOf_confined wanted)) hconfined).ends w
    exact hchosen.imp (fun _ _ => hR.becomes) fun _ => hR.becomes
  · split
    · exact hR.records w _ _ w.clock
    · exact hR.isWay.refl w

theorem keep_leads (k : Key) (record : PatchRecord) : Run.Leads R (keep k record) := by
  intro w
  unfold keep
  rw [Run.result_bind, Run.result_world]
  dsimp only
  split
  · exact hR.records w _ w.dice w.clock
  · exact (Run.Confined.raise (α := Unit) _ _).leads hR.becomes w

theorem conclude_leads (x : Prepared) : Run.Leads R (conclude x) := by
  have hconfined : ∀ {β : Type} {y : Run β}, y.Confined → Run.Leads R y :=
    fun hy => hy.leads hR.becomes
  unfold conclude
  refine .bind hR.isWay (hconfined (World.hashOf_confined _)) fun k => ?_
  refine .bind hR.isWay (fun w => hR.records w w.patches w.dice _) fun timestamp => ?_
  refine .bind hR.isWay (keep_leads hR _ _) fun _ => ?_
  exact hconfined (.bind .world fun w => .log _ _ _)

theorem apply_leads (hcall : call.Confined) (target member : Value) (spec : Option Spec) :
    Attempt.Leads R (apply call target member spec) := by
  have hway := hR.isWay
  have hconfined : ∀ {β : Type} {y : Attempt β}, Attempt.Confined y → Attempt.Leads R y :=
    fun hy => hy.leads hR.becomes
  unfold apply prepare
  refine .bind hway (.bind hway (hconfined (Member.resolve_confined hcall _ _)) fun m => ?_)
    fun x => ?_
  · split
    · exact .refuse hway _
    · refine .bind hway (hconfined (.lift .world)) fun w => ?_
      split
      · exact .refuse hway _
      · refine .bind hway (chooseId_leads hR _) fun id => ?_
        refine .bind hway (hconfined (.lift (.new _ _))) fun patch => ?_
        refine .bind hway (hconfined (.lift (build_confined hcall _ _ _ _))) fun wrapper => ?_
        exact .pure hway _
  · refine .bind hway (hconfined (Member.assign_confined hcall _ _)) fun _ => ?_
    exact .bind hway (.lift (conclude_leads hR x)) fun _ => .pure hway _

end

theorem apply_keepsMarks (hcall : call.Confined) (target member : Value) (spec : Option Spec) :
    Attempt.Leads World.KeepsMarks (apply call target member spec) :=
  apply_leads World.keepsMarks_isPatchWay hcall target member spec

end Patch

/-! ## Injections -/

/-- A way that injections follow.  Other than the programs that they run, they register texts, keep
    records, draw random numbers and look at the clock. -/
structure World.IsInjectionWay (R : World → World → Prop) : Prop where
  isWay : World.IsWay R
  becomes : ∀ {w w'}, w.Becomes w' → R w w'
  texts : ∀ w sources clock, R w { w with sources, clock }
  draws : ∀ w injections dice, injections.journal = w.injections.journal →
    R w { w with injections, dice }
  records : ∀ w k r journal, w.injections.journal.add? k r = some journal →
    R w { w with injections := { w.injections with journal } }

theorem World.keepsMarks_isInjectionWay : World.IsInjectionWay World.KeepsMarks where
  isWay := World.keepsMarks_isWay
  becomes h := h.reaches.flags
  texts _ _ _ := List.suffix_rfl
  draws _ _ _ _ := List.suffix_rfl
  records _ _ _ _ _ := List.suffix_rfl

namespace Injection

theorem replica_confined (hcall : call.Confined) (old : Value) (r : Ref) (f : Function)
    (code : Code) (closure : List (String × Ref)) :
    (replica call old r f code closure).Confined := by
  unfold replica annotationEntries
  grind

theorem registers_confined : Attempt.Confined registers := by
  unfold registers
  refine .bind (.lift .world) fun w => ?_
  split
  · exact .pure _
  · exact .refuse _

theorem rebound_confined (m : Member) (v : Value) : (rebound m v).Confined := by
  unfold rebound
  grind

theorem textOf_confined (d : Splice.Definition) : Attempt.Confined (textOf d) := by
  unfold textOf
  split
  · exact .pure _
  · exact .refuse _

section

variable {R : World → World → Prop} (hR : World.IsInjectionWay R)

include hR

theorem newId_leads : Attempt.Leads R newId := by
  refine Attempt.leads_of_ends fun w => ?_
  unfold newId
  rw [Attempt.ends_bind, Attempt.ends_lift, Run.ends_world]
  split
  · rename_i id injections dice hreserve
    exact hR.draws w _ _ (Register.reserve_spec hreserve).1
  · exact hR.isWay.refl w

theorem replacementFor_leads (hcall : call.Confined) (p : Plan) (text id : String) :
    Attempt.Leads R (replacementFor call p text id) := by
  have hway := hR.isWay
  have hconfined : ∀ {β : Type} {y : Attempt β}, Attempt.Confined y → Attempt.Leads R y :=
    fun hy => hy.leads hR.becomes
  have hregister : ∀ wanted file source, Run.Leads R (registerText wanted file source) := by
    intro wanted file source w
    unfold registerText
    split
    · exact hR.texts w _ w.clock
    · exact hway.refl w
  unfold replacementFor materialize
  refine .bind hway (hconfined registers_confined) fun register => ?_
  refine .bind hway ?_ fun v => hconfined (.lift (rebound_confined _ _))
  refine .bind hway (.mk hway _) fun code => .bind hway (.mk hway _) fun closure => ?_
  refine .bind hway (hconfined (.lift (replica_confined hcall _ _ _ _ _))) fun v => ?_
  refine .bind hway (.lift (hregister _ _ _)) fun _ => ?_
  exact .bind hway (hconfined (.lift (.log _ _ _))) fun _ => .pure hway _

theorem keep_leads (record : InjectionRecord) : Run.Leads R (keep record) := by
  intro w
  unfold keep
  rw [Run.result_bind, Run.result_world]
  dsimp only
  split
  · exact hR.records w _ _ _ ‹_›
  · exact (Run.Confined.raise (α := Unit) _ _).leads hR.becomes w

theorem conclude_leads (x : Prepared) : Run.Leads R (conclude x) := by
  have hway := hR.isWay
  unfold conclude
  refine .bind hway (fun w => hR.texts w w.sources _) fun timestamp => ?_
  refine .bind hway (keep_leads hR _) fun _ => ?_
  exact (Run.Confined.log _ _ _).leads hR.becomes

theorem apply_leads (hcall : call.Confined) (target member : Value) (spec : Option Spec) :
    Attempt.Leads R (apply call target member spec) := by
  have hway := hR.isWay
  have hconfined : ∀ {β : Type} {y : Attempt β}, Attempt.Confined y → Attempt.Leads R y :=
    fun hy => hy.leads hR.becomes
  unfold apply prepare
  refine .bind hway (.bind hway (hconfined (plan_confined hcall _ _ _)) fun p => ?_) fun x => ?_
  · refine .bind hway (hconfined (textOf_confined _)) fun text => ?_
    refine .bind hway (hconfined (.lift (.log _ _ _))) fun _ => ?_
    refine .bind hway (newId_leads hR) fun id => ?_
    exact .bind hway (replacementFor_leads hR hcall _ _ _) fun v => .pure hway _
  · refine .bind hway (hconfined (Member.assign_confined hcall _ _)) fun _ => ?_
    exact .bind hway (.lift (conclude_leads hR x)) fun _ => .pure hway _

end

theorem apply_keepsMarks (hcall : call.Confined) (target member : Value) (spec : Option Spec) :
    Attempt.Leads World.KeepsMarks (apply call target member spec) :=
  apply_leads World.keepsMarks_isInjectionWay hcall target member spec

end Injection

end Graft
