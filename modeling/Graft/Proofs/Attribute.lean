import Graft.Machine.Attribute
import Graft.Proofs.Undisturbed

set_option autoImplicit false

/-! # Reading attributes

Functions and classes have no code of their own that runs when their attributes are read, so that
reading one leaves the world undisturbed, whichever way calls are made.  Setting an attribute of a
function changes that function only. -/

namespace Graft

open Machine

namespace World

variable {w : World}

/-- Classes that the language supplies have no members that programs have made. -/
theorem findMade_supplied (cls name : String) : w.findMade (.cls cls) name = none := by
  have hnone : ∀ order : List String, w.findInOrder name (order.map .cls) = none := by
    intro order
    induction order with
    | nil => rfl
    | cons c order ih => exact ih
  simp only [findMade, classOrder, hnone, Option.map_none]

variable {call : Caller} {r : Ref} {f : Function} {table : Table} {name : String}

theorem functionAttr_quiet (hr : w.thing? r = some { body := .function f, table }) :
    (functionAttr r f name).Quiet w := by
  unfold functionAttr
  split
  case h_10 =>
    split
    · exact .pure _
    · rename_i hmissing
      have hquiet := Undisturbed.annotate hr (g := fun t => { t with
        body := .function { f with annotations := some (w.alloc { body := .dict [] }).1 } })
        fun w₁ hdict => .function f table _ hmissing thing?_alloc_new hdict
      unfold Run.Quiet
      simp only [Run.ends_bind, Run.ends_new, Run.ends_setBody, Run.ends_pure]
      exact hquiet
  case h_7 | h_8 => exact .bind (.newValue _ _) fun _ _ _ _ => .pure _
  all_goals exact .pure _

theorem callableAttr_quiet (v : Value) : (callableAttr v name).Quiet w := by
  unfold callableAttr
  refine .bind_world ?_
  split
  case h_4 r =>
    split
    · rename_i f hbody
      obtain ⟨⟨body, table⟩, hr, rfl⟩ := Option.map_eq_some_iff.1 hbody
      refine .bind (functionAttr_quiet hr) ?_
      intro found w₁ _ _
      cases found <;> exact .pure _
    · exact .pure _
  all_goals exact .pure _

/-- What a thing has by what it is can be read quietly. -/
theorem bodyAttr_quiet {body : Body} (hr : w.thing? r = some { body, table }) :
    (bodyAttr r body name).Quiet w := by
  unfold bodyAttr
  split
  -- An attribute is at hand, or is made for the reader, which adds to the heap and changes nothing.
  case h_1 => exact functionAttr_quiet hr
  case h_2 => split <;> first | exact .pure _ | exact callableAttr_quiet _
  case h_3 | h_4 =>
    split
    · exact .pure _
    · exact .pure _
    · exact .bind (.newValue _ _) fun _ _ _ _ => .pure _
    · split
      · exact callableAttr_quiet _
      · exact .pure _
  case h_5 => split <;> first | exact .pure _ | exact callableAttr_quiet _
  case h_6 =>
    split
    · exact .bind (.newValue _ _) fun _ _ _ _ => .pure _
    · exact .bind (.read _) fun _ _ _ _ => .pure _
    · exact .pure _
  case h_7 =>
    split
    · exact .bind (.newValue _ _) fun _ _ _ _ => .pure _
    · exact .pure _
  case h_8 =>
    refine .bind_world ?_
    dsimp only
    split
    · exact .bind (.newValue _ _) fun _ _ _ _ => .pure _
    · exact .pure _
  all_goals first
    | exact .pure _
    | split <;> first
      | exact .pure _
      | exact .bind (.newValue _ _) fun _ _ _ _ => .pure _

/-- A value of which the language supplies the class, and that looks up its attributes itself. -/
structure IsPlain (w : World) (v : Value) : Prop where
  supplied : ∃ cls, w.classOf v = .cls cls
  isNoSuper : ∀ cls self, w.body? v ≠ some (.super cls self)
  isNoClass : w.isClass v = false

/-- What an attribute of a value that supplies its members turns out to be runs no code. -/
theorem supplied_quiet (own : Option Value) (cls v : Value) (otherwise : Option Value) :
    Run.Quiet (do
      match own, (none : Option Value) with
      | some v, _ => return some v
      | none, some member => return some (← bindMember cls v member)
      | none, none => return otherwise) w := by
  cases own <;> exact .pure _

theorem plainAttr_quiet {v : Value} (hv : w.IsPlain v) : (plainAttr call v name).Quiet w := by
  obtain ⟨⟨cls, hcls⟩, hsuper, hclass⟩ := hv
  unfold plainAttr
  refine .bind_world ?_
  simp only [hclass, hcls, findMade_supplied, Option.bind_none, Bool.false_eq_true, if_false]
  split
  · split
    · rename_i hr
      exact absurd (by rw [body?, hr]; rfl) (hsuper _ _)
    · rename_i r t _ hr
      refine .bind (bodyAttr_quiet hr) ?_
      intro own w₁ _ _
      cases own <;> exact .bind (.pure _) fun _ _ _ _ => supplied_quiet _ _ _ _
    · exact .bind (.pure _) fun _ _ _ _ => supplied_quiet _ _ _ _
  · exact .bind (callableAttr_quiet v) fun _ _ _ _ => supplied_quiet _ _ _ _

/-- Reading an attribute of a plain value is quiet. -/
theorem getAttr_quiet {v : Value} (hv : w.IsPlain v) : (getAttr call v name).Quiet w := by
  unfold getAttr
  refine .bind_world ?_
  obtain ⟨cls, hcls⟩ := hv.supplied
  simp only [hv.isNoClass, hcls, findMade_supplied, Bool.false_eq_true, if_false]
  refine .bind (plainAttr_quiet hv) ?_
  intro found w₁ _ _
  cases found with
  | none => exact .bind .world fun _ _ _ _ => .raise _ _
  | some v => exact .pure v

theorem isPlain_function {f : Function} {v : Value} (hv : w.body? v = some (.function f)) :
    w.IsPlain v := by
  cases v with
  | thing r =>
    obtain ⟨t, hr, hbody⟩ := Option.map_eq_some_iff.1 hv
    exact {
      supplied := ⟨"function", by simp [classOf, hr, hbody, classOfBody]⟩
      isNoSuper := by simp [hv]
      isNoClass := by simp [isClass, madeClass?, hv] }
  | _ => cases hv

theorem classOf_namespace (hr : w.body? (.thing r) = some .namespace) :
    w.classOf (.thing r) = .cls "SimpleNamespace" := by
  obtain ⟨t, ht, hbody⟩ := Option.map_eq_some_iff.1 hr
  simp only [classOf, ht, hbody, classOfBody]

theorem isPlain_namespace (hr : w.body? (.thing r) = some .namespace) : w.IsPlain (.thing r) where
  supplied := ⟨_, classOf_namespace hr⟩
  isNoSuper := by simp [hr]
  isNoClass := by simp [isClass, madeClass?, hr]

/-- Every function has annotations. -/
theorem functionAttr_annotations (r : Ref) (f : Function) :
    (functionAttr r f annotationsName).Ends w (fun a _ => a.isSome = true) fun _ _ => False := by
  unfold functionAttr annotationsName
  cases hf : f.annotations with
  | some d => simp
  | none => simp [Run.ends_bind, Run.ends_map]

/-- The annotations of a function can be read. -/
theorem getAttr_annotations {f : Function} {v : Value} (hv : w.body? v = some (.function f)) :
    (getAttr call v annotationsName).Ends w (fun _ _ => True) fun _ _ => False := by
  have hplain := isPlain_function hv
  obtain ⟨cls, hcls⟩ := hplain.supplied
  cases v with
  | thing r =>
    obtain ⟨⟨body, table⟩, hr, rfl⟩ := Option.map_eq_some_iff.1 hv
    unfold getAttr plainAttr
    rw [Run.ends_bind, Run.ends_world]
    simp only [hplain.isNoClass, hcls, findMade_supplied, Bool.false_eq_true, if_false,
      Run.ends_bind, Run.ends_world, Option.bind_none, hr]
    unfold bodyAttr
    refine (functionAttr_annotations r f).imp ?_ fun _ _ h => h
    rintro (_ | a) w₁ ha
    · cases ha
    · simp
  | _ => cases hv

/-! ## Classes -/

/-- What every class has can be read quietly. -/
theorem typeAttr_quiet (v : Value) : (typeAttr v name).Quiet w := by
  unfold typeAttr
  refine .bind_world ?_
  split
  case h_5 =>
    exact .bind (.new _ _) fun _ _ _ _ => .bind (.newValue _ _) fun _ _ _ _ => .pure _
  case h_6 r _ =>
    split
    · rename_i c hbody
      split
      case h_4 =>
        exact .bind (.new _ _) fun _ _ _ _ => .bind (.newValue _ _) fun _ _ _ _ => .pure _
      case h_7 =>
        split
        · exact .pure _
        · rename_i hmissing
          obtain ⟨⟨body, table⟩, hr, rfl⟩ := Option.map_eq_some_iff.1 hbody
          simp only [World.table, hr, Option.map_some, Option.getD_some] at hmissing
          have hquiet := Undisturbed.annotate hr (g := fun t => { t with
            table := t.table.set annotationsName (.thing (w.alloc { body := .dict [] }).1) })
            fun w₁ hdict => .cls c table _ hmissing thing?_alloc_new hdict
          unfold Run.Quiet
          simp only [Run.ends_bind, Run.ends_newValue, Run.ends_changeTable, Run.ends_pure]
          exact hquiet
      all_goals exact .pure _
    · exact .pure _
  all_goals exact .pure _

theorem classMember_quiet (cls member : Value) : (classMember cls member).Quiet w := by
  unfold classMember
  refine .bind (.bodyOf _) ?_
  intro body w₁ _ _
  split
  · exact .pure _
  · exact .newValue _ _
  · exact .pure _

theorem classAttr_quiet (v : Value) : (classAttr v name).Quiet w := by
  unfold classAttr
  refine .bind .world fun w₁ _ _ _ => .bind (typeAttr_quiet v) fun found _ _ _ => ?_
  split
  · exact .pure _
  split
  · exact .bind (classMember_quiet _ _) fun _ _ _ _ => .pure _
  split
  · split <;> exact .pure _
  · split <;> exact .pure _
  · exact .pure _
  · split
    all_goals first
      | exact .pure _
      | split <;> exact .pure _

/-- Reading an attribute of a class is quiet. -/
theorem getAttr_class_quiet {v : Value} (hv : w.isClass v = true) :
    (getAttr call v name).Quiet w := by
  unfold getAttr plainAttr
  refine .bind_world ?_
  simp only [hv, if_true]
  refine .bind (.bind_world ?_) ?_
  · rw [if_pos hv]
    exact classAttr_quiet v
  · intro found w₁ _ _
    cases found with
    | none => exact .bind .world fun _ _ _ _ => .raise _ _
    | some v => exact .pure v

/-- Looking whether there is an attribute is as quiet as reading it. -/
theorem getAttr?_quiet {v : Value} (h : (getAttr call v name).Quiet w) :
    (getAttr? call v name).Quiet w := by
  unfold getAttr? Run.orMissing Run.recover
  refine .tryCatch (.map _ h) ?_
  intro e w₁ _
  cases e with
  | raised e =>
    refine .bind (.read _) fun isMissing _ _ _ => ?_
    cases isMissing with
    | true => exact .pure _
    | false => exact .throw _
  | exhausted => exact .throw _

end World

/-! ## Attributes that can not be set -/

/-- An error has been raised, which is all that is new. -/
def World.Raised (w : World) (h : Halt) (w' : World) : Prop :=
  ∃ cls args, h = .raised (.thing (w.alloc { body := .exception cls args }).1) ∧
    w' = (w.alloc { body := .exception cls args }).2

namespace World

variable {w w' : World} {h : Halt}

theorem Raised.undisturbed (hraised : w.Raised h w') : Undisturbed w w' := by
  obtain ⟨cls, args, -, rfl⟩ := hraised
  exact .alloc w _

/-- What raises an error at once does nothing else. -/
theorem raise_raises {α : Type} (cls message : String) (good : α → World → Prop) :
    (Run.raise cls message : Run α).Ends w good w.Raised :=
  Run.ends_raise.2 ⟨_, _, rfl, rfl⟩

theorem refuseClass_raises (x : Value) (good : Unit → World → Prop) :
    (refuseClass x).Ends w good w.Raised := by
  unfold refuseClass
  rw [Run.ends_bind, Run.ends_read]
  exact raise_raises _ _ good

theorem refuseReadOnly_raises (good : Unit → World → Prop) :
    refuseReadOnly.Ends w good w.Raised := raise_raises _ _ _

theorem refuseDict_raises (x : Value) (good : Unit → World → Prop) :
    (refuseDict x).Ends w good w.Raised := by
  unfold refuseDict
  rw [Run.ends_bind, Run.ends_read]
  exact raise_raises _ _ good

theorem refuseAttr_raises (v : Value) (name : String) (good : Unit → World → Prop) :
    (refuseAttr v name).Ends w good w.Raised := by
  unfold refuseAttr
  rw [Run.ends_bind, Run.ends_world]
  dsimp only
  split
  · exact raise_raises _ _ _
  · split <;> exact raise_raises _ _ _

/-- An attribute that a value has by what it is can be set or can not, which is found out without
    changing anything. -/
theorem refuseGiven_raises (v : Value) (name : String) (x : Value) :
    (refuseGiven v name x).Ends w (fun _ w' => w' = w) w.Raised := by
  unfold refuseGiven
  rw [Run.ends_bind, Run.ends_world]
  split
  · split
    · exact rfl
    · exact refuseClass_raises _ _
  · exact refuseReadOnly_raises _
  · exact refuseReadOnly_raises _
  · exact rfl
  · exact refuseDict_raises _ _
  · exact refuseDict_raises _ _
  · split
    · exact refuseDict_raises _ _
    · exact rfl
  · exact rfl

/-- Where nothing in a class has the name of an attribute, it is tried first whether it is one that
    the value has by what it is. -/
theorem ends_unlessGiven {v x : Value} {name : String} {among : Bool} {rest : Run Unit}
    {good : Unit → World → Prop} {bad : Halt → World → Prop}
    (hbad : ∀ e w', w.Raised e w' → bad e w') (hrest : rest.Ends w good bad) :
    Run.Ends (do
      if among then refuseGiven v name x
      rest) w good bad := by
  cases among with
  | false => exact hrest
  | true =>
    simp only [if_true, Run.ends_bind]
    refine (refuseGiven_raises v name x).imp ?_ hbad
    rintro _ w' rfl
    exact hrest

end World

/-! ## Setting attributes of new functions -/

/-- A function has been made since a world, and nothing that was there has been disturbed. -/
structure Fresh (w₀ : World) (r : Ref) (w : World) : Prop where
  undisturbed : Undisturbed w₀ w
  isNew : w₀.thing? r = none
  isFunction : ∃ f table, w.thing? r = some { body := .function f, table }

namespace Fresh

variable {w₀ w w' : World} {r : Ref}

theorem quiet (h : Fresh w₀ r w) (hquiet : Undisturbed w w') : Fresh w₀ r w' where
  undisturbed := h.undisturbed.trans hquiet
  isNew := h.isNew
  isFunction := by
    obtain ⟨f, table, hr⟩ := h.isFunction
    obtain ⟨t', hr', ht⟩ := hquiet.things r _ hr
    cases ht with
    | same => exact ⟨f, table, hr'⟩
    | function f table d => exact ⟨_, table, hr'⟩

theorem new (h : Undisturbed w₀ w) (f : Function) (table : Table) :
    Fresh w₀ (w.alloc { body := .function f, table }).1
      (w.alloc { body := .function f, table }).2 where
  undisturbed := h.trans (.alloc w _)
  isNew := h.missing World.thing?_alloc_new
  isFunction := ⟨f, table, World.thing?_alloc_self⟩

theorem setBody (h : Fresh w₀ r w) (f : Function) :
    Fresh w₀ r (w.change r fun t => { t with body := .function f }) := by
  obtain ⟨g, table, hr⟩ := h.isFunction
  exact {
    undisturbed := h.undisturbed.change h.isNew hr _
    isNew := h.isNew
    isFunction := ⟨f, table, by rw [World.thing?_change, if_pos rfl, hr]; rfl⟩ }

theorem changeTable (h : Fresh w₀ r w) (g : Table → Table) :
    Fresh w₀ r (w.change r fun t => { t with table := g t.table }) := by
  obtain ⟨f, table, hr⟩ := h.isFunction
  exact {
    undisturbed := h.undisturbed.change h.isNew hr _
    isNew := h.isNew
    isFunction := ⟨f, g table, by rw [World.thing?_change, if_pos rfl, hr]; rfl⟩ }

theorem setFunctionAttr (h : Fresh w₀ r w) (f : Function) (name : String) (v : Value) :
    (World.setFunctionAttr r f name v).Ends w (fun _ w' => Fresh w₀ r w')
      fun _ w' => Undisturbed w₀ w' := by
  have hraise : ∀ cls message, (Run.raise cls message : Run Bool).Ends w
      (fun _ w' => Fresh w₀ r w') fun _ w' => Undisturbed w₀ w' :=
    fun cls message => h.undisturbed.trans (Run.Quiet.raise (α := Bool) cls message)
  unfold World.setFunctionAttr
  split
  case h_10 | h_11 =>
    simp only [Run.ends_bind, Run.ends_bodyOf]
    split
    · exact h.setBody _
    · exact h.setBody _
    · exact hraise _ _
  case h_14 => exact h
  all_goals first
    | exact h.setBody _
    | exact hraise _ _

/-- Setting an attribute of a new function disturbs nothing that was there before. -/
theorem setAttr (h : Fresh w₀ r w) (call : Caller) (name : String) (v : Value) :
    (World.setAttr call (.thing r) name v).Ends w (fun _ w' => Fresh w₀ r w')
      fun _ w' => Undisturbed w₀ w' := by
  obtain ⟨f, table, hr⟩ := h.isFunction
  have hplain : w.IsPlain (.thing r) := World.isPlain_function (f := f) (by simp [World.body?, hr])
  obtain ⟨cls, hcls⟩ := hplain.supplied
  have hsupplied : w.madeClass? (.cls cls) = none := rfl
  unfold World.setAttr World.setPlainAttr
  simp only [Run.ends_bind, Run.ends_world, hplain.isNoClass, hcls, hsupplied,
    World.findMade_supplied, Option.map_none, Option.bind_none, Option.getD_none,
    Bool.false_eq_true, if_false]
  refine World.ends_unlessGiven (fun _ _ hraised => h.undisturbed.trans hraised.undisturbed) ?_
  unfold World.setOwnAttr
  simp only [Run.ends_bind, Run.ends_world, hr, Option.map_some]
  refine (h.setFunctionAttr f name v).imp ?_ fun _ _ h => h
  intro isSet w₁ h₁
  cases isSet with
  | true => exact h₁
  | false => exact h₁.changeTable _

end Fresh

/-! ## Setting attributes of values without code of their own -/

/-- Two worlds have the same records of patches and injections. -/
structure SameRecords (w w' : World) : Prop where
  patches : w'.patches.journal = w.patches.journal
  injections : w'.injections.journal = w.injections.journal

/-- A run changes no records if it succeeds, and nothing at all if it does not. -/
def Run.Writes (x : Run Unit) (w : World) : Prop :=
  x.Ends w (fun _ w' => SameRecords w w') fun _ w' => Undisturbed w w'

namespace World

variable {w : World} {call : Caller} {v : Value}

/-- A run that only raises an error writes nothing. -/
theorem writes_of_raises {x : Run Unit} (h : x.Ends w (fun _ _ => False) w.Raised) : x.Writes w :=
  h.imp (fun _ _ h => h.elim) fun _ _ h => h.undisturbed

theorem setFunctionAttr_writes (r : Ref) (f : Function) (name : String) (x : Value) :
    (setFunctionAttr r f name x).Ends w (fun _ w' => SameRecords w w')
      fun _ w' => Undisturbed w w' := by
  unfold setFunctionAttr
  split
  case h_10 | h_11 =>
    simp only [Run.ends_bind, Run.ends_bodyOf]
    split
    · exact ⟨rfl, rfl⟩
    · exact ⟨rfl, rfl⟩
    · exact Run.Quiet.raise (α := Bool) _ _
  all_goals first
    | exact ⟨rfl, rfl⟩
    | exact Run.Quiet.raise (α := Bool) _ _

theorem setClassAttr_writes (name : String) (x : Value) : (setClassAttr v name x).Writes w := by
  have hraise : ∀ cls message, (Run.raise cls message : Run Unit).Writes w :=
    fun cls message => writes_of_raises (raise_raises cls message _)
  unfold setClassAttr
  split
  · unfold Run.Writes
    rw [Run.ends_bind, Run.ends_world]
    dsimp only
    split
    case h_10 =>
      split
      · exact ⟨rfl, rfl⟩
      · exact writes_of_raises (refuseClass_raises _ _)
    all_goals first
      | exact ⟨rfl, rfl⟩
      | exact hraise _ _
  · unfold Run.Writes
    rw [Run.ends_bind, Run.ends_read]
    exact hraise _ _

theorem setOwnAttr_writes (name : String) (x : Value) : (setOwnAttr v name x).Writes w := by
  unfold setOwnAttr Run.Writes
  rw [Run.ends_bind, Run.ends_world]
  split
  · split
    · rw [Run.ends_bind]
      refine (setFunctionAttr_writes _ _ name x).imp ?_ fun _ _ h => h
      intro isSet w₁ h
      cases isSet with
      | true => exact h
      | false => exact ⟨h.patches, h.injections⟩
    · split
      · exact ⟨rfl, rfl⟩
      · exact writes_of_raises (refuseAttr_raises _ name _)
  · exact writes_of_raises (refuseAttr_raises _ name _)

/-- Setting an attribute of a plain value or of a class runs no code. -/
theorem setAttr_writes (hv : w.IsPlain v ∨ w.isClass v = true) (name : String) (x : Value) :
    (setAttr call v name x).Writes w := by
  have hcls : ∃ cls, w.classOf v = .cls cls := by
    obtain hplain | hclass := hv
    · exact hplain.supplied
    · cases v with
      | cls name => exact ⟨_, rfl⟩
      | thing r =>
        refine ⟨"type", ?_⟩
        unfold classOf
        unfold isClass madeClass? body? at hclass
        cases hr : w.thing? r with
        | none => simp [hr] at hclass
        | some t =>
          obtain ⟨body, table⟩ := t
          cases body <;> simp_all [classOfBody]
      | _ => cases hclass
  obtain ⟨cls, hcls⟩ := hcls
  have hsupplied : w.madeClass? (.cls cls) = none := rfl
  unfold setAttr setPlainAttr Run.Writes
  simp only [Run.ends_bind, Run.ends_world, hcls, hsupplied, findMade_supplied, Option.map_none,
    Option.bind_none, Option.getD_none, Bool.false_eq_true, if_false, ite_self]
  split
  · exact setClassAttr_writes name x
  · exact ends_unlessGiven (fun _ _ h => h.undisturbed) (setOwnAttr_writes name x)

end World

end Graft
