import Graft.Proofs.Signature
import Graft.Proofs.Slots

set_option autoImplicit false

/-! # Calling conventions

What an injection puts in place is called as what was there before, and described as it: the new
function has the names, the documentation, the defaults and the attributes of the old one and
annotations with the same entries, and it is bound to the same receiver.  None of these is made anew
from the text, so that no code of the program runs for it.  Over any number of injections into one
member each finds what the one before has put in place, and so the last function stands in for the
first one.  The names of the parameters alone come from the text, and they are the same exactly if
no private one among them gets another class in front. -/

namespace Graft

open Machine Data Code

/-! ## Functions that stand in for others -/

/-- Functions that differ in their code, their cells and their annotations at most. -/
structure Machine.Function.SameFace (f f' : Function) : Prop where
  name : f'.name = f.name
  qualname : f'.qualname = f.qualname
  module : f'.module = f.module
  doc : f'.doc = f.doc
  globals : f'.globals = f.globals
  defaults : f'.defaults = f.defaults
  keywordDefaults : f'.keywordDefaults = f.keywordDefaults

namespace Machine.Function.SameFace

variable {f f₁ f₂ : Function}

theorem trans (h : f.SameFace f₁) (h' : f₁.SameFace f₂) : f.SameFace f₂ where
  name := h'.name.trans h.name
  qualname := h'.qualname.trans h.qualname
  module := h'.module.trans h.module
  doc := h'.doc.trans h.doc
  globals := h'.globals.trans h.globals
  defaults := h'.defaults.trans h.defaults
  keywordDefaults := h'.keywordDefaults.trans h.keywordDefaults

/-- Functions with the same face bind the arguments of a call to the same parameters alike, and
    complain about them alike. -/
theorem bind_eq (h : f.SameFace f₁) (s : Signature) (args : Args) :
    f₁.bind s args = f.bind s args := by
  unfold bind keywordDefaultTable
  rw [h.defaults, h.keywordDefaults, h.qualname]

end Machine.Function.SameFace

namespace World

variable {w w' w₁ w₂ : World} {r r₁ r₂ : Ref} {v : Value}

/-- The entries of the annotations of a function. -/
def annotationsOf (w : World) (f : Function) : List Entry :=
  match f.annotations with
  | some d => w.entriesOf d
  | none => []

/-- A function stands in for another one: it has the same face, annotations with the same entries
    and the same attributes. -/
structure StandsIn (w : World) (r : Ref) (w' : World) (r' : Ref) : Prop where
  face : ∃ f f', w.body? (.thing r) = some (.function f) ∧
    w'.body? (.thing r') = some (.function f') ∧ f.SameFace f' ∧
    w'.annotationsOf f' = w.annotationsOf f
  table : w'.table r' = w.table r

theorem StandsIn.trans (h : w.StandsIn r w₁ r₁) (h' : w₁.StandsIn r₁ w₂ r₂) :
    w.StandsIn r w₂ r₂ where
  face := by
    obtain ⟨f, f₁, hf, hf₁, hface, hannotations⟩ := h.face
    obtain ⟨g, f₂, hg, hf₂, hface', hannotations'⟩ := h'.face
    rw [hf₁] at hg
    cases hg
    exact ⟨f, f₂, hf, hf₂, hface.trans hface', hannotations'.trans hannotations⟩
  table := h'.table.trans h.table

/-- What binds arguments in a call of one function does so in a call of the other. -/
theorem StandsIn.bind_eq (h : w.StandsIn r w' r₁) {f f' : Function}
    (hf : w.body? (.thing r) = some (.function f))
    (hf' : w'.body? (.thing r₁) = some (.function f')) (s : Signature) (args : Args) :
    f'.bind s args = f.bind s args := by
  obtain ⟨g, g', hg, hg', hface, -⟩ := h.face
  rw [hf] at hg
  rw [hf'] at hg'
  cases hg
  cases hg'
  exact hface.bind_eq s args

/-- A value is a function, bound to a receiver if there is one. -/
def IsBound (w : World) (v : Value) (r : Ref) : Option Value → Prop
  | none => v = .thing r
  | some self => w.body? v = some (.method (.thing r) self)

/-- What a value is bound from, and to what, is fixed. -/
theorem IsBound.unique {f f₁ : Function} {receiver receiver₁ : Option Value}
    (h : w.IsBound v r receiver) (hf : w.body? (.thing r) = some (.function f))
    (h₁ : w.IsBound v r₁ receiver₁) (hf₁ : w.body? (.thing r₁) = some (.function f₁)) :
    r₁ = r ∧ receiver₁ = receiver := by
  cases receiver with
  | none =>
    obtain rfl : v = .thing r := h
    cases receiver₁ with
    | none =>
      cases h₁
      exact ⟨rfl, rfl⟩
    | some self => cases hf.symm.trans h₁
  | some self =>
    have hv : w.body? v = some (.method (.thing r) self) := h
    cases receiver₁ with
    | none =>
      obtain rfl : v = .thing r₁ := h₁
      cases hv.symm.trans hf₁
    | some self₁ =>
      cases hv.symm.trans h₁
      exact ⟨rfl, rfl⟩

theorem IsBound.isRoutine {f : Function} {receiver : Option Value} (h : w.IsBound v r receiver)
    (hf : w.body? (.thing r) = some (.function f)) : w.IsRoutine v := by
  cases receiver with
  | none =>
    obtain rfl : v = .thing r := h
    exact .inl ⟨f, hf⟩
  | some self => exact .inr ⟨_, _, h⟩

end World

namespace Injection

variable {call : Caller} {since w w' w₁ : World} {r r' : Ref} {f : Function} {code : Code}
  {table : Table}

/-- A function that has been made since a world has the face of another one that was there, its
    attributes, annotations with the same entries, and the given code. -/
structure IsReplica (since : World) (r : Ref) (f : Function) (code : Code) (w : World) (r' : Ref) :
    Prop where
  isNew : since.thing? r' = none
  made : ∃ f' d, w.thing? r' = some { body := .function f', table := since.table r } ∧
    f.SameFace f' ∧ f'.behaviour = .code code ∧ f'.annotations = some d ∧
    since.thing? d = none ∧ w.thing? d = some { body := .dict (since.annotationsOf f) }

theorem IsReplica.later (h : IsReplica since r f code w r') (hkeeps : World.KeepsNew since w w') :
    IsReplica since r f code w' r' where
  isNew := h.isNew
  made := by
    obtain ⟨f', d, hf', hface, hcode, hd, hnew, hdict⟩ := h.made
    exact ⟨f', d, hkeeps r' _ h.isNew hf', hface, hcode, hd, hnew, hkeeps d _ hnew hdict⟩

theorem IsReplica.function (h : IsReplica since r f code w r') :
    ∃ f', w.body? (.thing r') = some (.function f') ∧ f.SameFace f' ∧
      f'.behaviour = .code code := by
  obtain ⟨f', d, hf', hface, hcode, -⟩ := h.made
  exact ⟨f', by rw [World.body?, hf']; rfl, hface, hcode⟩

theorem IsReplica.standsIn (h : IsReplica since r f code w r')
    (hf : since.body? (.thing r) = some (.function f)) : since.StandsIn r w r' := by
  obtain ⟨f', d, hf', hface, -, hd, -, hdict⟩ := h.made
  refine ⟨⟨f, f', hf, by rw [World.body?, hf']; rfl, hface, ?_⟩, by rw [World.table, hf']; rfl⟩
  rw [World.annotationsOf, hd]
  simp only [World.entriesOf, hdict, Option.map_some]

/-! ## Making the new function -/

/-- Reading the annotations of a function runs no code, and it changes nothing but that there are
    annotations afterwards. -/
theorem annotations_read (hr : w.thing? r = some { body := .function f, table }) :
    ∃ d w₁, (∀ call, (World.getAttr call (.thing r) "__annotations__").Gives w (.thing d) w₁) ∧
      w₁.entriesOf d = w.annotationsOf f ∧ w₁.table r = table ∧
      ∀ s, w₁.thing? s = none → w.thing? s = none := by
  have hbody : w.body? (.thing r) = some (.function f) := by rw [World.body?, hr]; rfl
  have hplain := World.isPlain_function hbody
  obtain ⟨cls, hcls⟩ := hplain.supplied
  have hproperty : w.HasNoProperty (.thing r) "__annotations__" := by
    intro g s
    rw [hcls, World.findMade_supplied]
    rintro ⟨⟩
  have hread : ∀ {d w₁}, (World.functionAttr r f "__annotations__").Gives w (some (.thing d)) w₁ →
      ∀ call, (World.getAttr call (.thing r) "__annotations__").Gives w (.thing d) w₁ :=
    fun h _ => World.getAttr_of_plainAttr
      (World.plainAttr_gives hr hplain.isNoClass hproperty (by rintro _ _ ⟨⟩) h rfl)
  cases hd : f.annotations with
  | some d =>
    refine ⟨d, w, hread ?_, ?_, ?_, fun _ hs => hs⟩
    · unfold World.functionAttr
      simp only [hd]
      exact Run.gives_pure.2 ⟨rfl, rfl⟩
    · rw [World.annotationsOf, hd]
    · rw [World.table, hr]
      rfl
  | none =>
    -- A dictionary without entries is made for them, which is none of the things that are there.
    let d := (w.alloc { body := .dict [] }).1
    let w₁ := (w.alloc { body := .dict [] }).2.change r fun t => { t with
      body := .function { f with annotations := some d } }
    have hne : d ≠ r := by
      intro hd
      have hnone : w.thing? d = none := World.thing?_alloc_new
      rw [hd, hr] at hnone
      cases hnone
    have hdict : w₁.thing? d = some { body := .dict [] } := by
      rw [World.thing?_change, if_neg hne]
      exact World.thing?_alloc_self
    refine ⟨d, w₁, hread ?_, ?_, ?_, ?_⟩
    · unfold World.functionAttr
      simp only [hd]
      exact Run.gives_bind.2 ⟨d, _, Run.gives_new.2 rfl, Run.gives_bind.2
        ⟨⟨⟩, w₁, Run.gives_modify.2 rfl, Run.gives_pure.2 ⟨rfl, rfl⟩⟩⟩
    · simp only [World.annotationsOf, hd, World.entriesOf, hdict, Option.map_some]
    · rw [World.table, World.thing?_change, if_pos rfl, World.thing?_alloc hr]
      rfl
    · intro s hs
      cases ht : w.thing? s with
      | none => rfl
      | some t =>
        rw [World.thing?_change] at hs
        split at hs
        · rw [World.thing?_alloc hr] at hs
          cases hs
        · rw [World.thing?_alloc ht] at hs
          cases hs

/-- **No code runs for the new function**: whichever way calls are made, it is the same replica of
    the old one. -/
theorem replica_isReplica (hr : w.thing? r = some { body := .function f, table })
    {closure : List (String × Ref)} {v : Value}
    (h : (replica call (.thing r) r f code closure).Gives w v w') :
    (∀ call', (replica call' (.thing r) r f code closure).Gives w v w') ∧
      ∃ r', v = .thing r' ∧ IsReplica w r f code w' r' := by
  obtain ⟨d, w₁, hread, hentries, htable, hnew⟩ := annotations_read hr
  let w₂ := (w₁.alloc { body := .dict (w.annotationsOf f) }).2
  let d' := (w₁.alloc { body := .dict (w.annotationsOf f) }).1
  let f' : Function := { f with behaviour := .code code, closure, annotations := some d' }
  have hgives : ∀ call, (replica call (.thing r) r f code closure).Gives w v w' ↔
      (Run.newValue (.function f') (w₂.table r)).Gives w₂ v w' := by
    intro call
    have hcollected : (annotationEntries call (.thing r)).Gives w (w.annotationsOf f) w₁ := by
      unfold annotationEntries
      exact Run.gives_bind.2 ⟨_, w₁, hread call, Run.gives_read.2 ⟨hentries, rfl⟩⟩
    unfold replica
    rw [Run.Gives.bind_iff hcollected, Run.Gives.bind_iff (Run.gives_new.2 rfl)]
    exact Run.Gives.bind_iff (Run.gives_read.2 ⟨rfl, rfl⟩)
  refine ⟨fun call' => (hgives call').2 ((hgives call).1 h), ?_⟩
  -- The replica comes after the annotations and their dictionary, and meets none of them.
  obtain ⟨rfl, rfl⟩ := Run.gives_newValue.1 ((hgives call).1 h)
  have hmissing : ∀ s, w₂.thing? s = none → w₁.thing? s = none := by
    intro s hs
    cases ht : w₁.thing? s with
    | none => rfl
    | some t => cases (World.thing?_alloc ht).symm.trans hs
  have htables : w₂.table r = w.table r := by
    cases hr₁ : w₁.thing? r with
    | none => cases hr.symm.trans (hnew r hr₁)
    | some t =>
      have hr₂ : w₂.thing? r = some t := World.thing?_alloc hr₁
      rw [World.table, hr₁] at htable
      rw [World.table, World.table, hr₂, hr]
      exact htable
  refine ⟨_, rfl, hnew _ (hmissing _ World.thing?_alloc_new), f', d', ?_, ?_, rfl, rfl,
    hnew d' World.thing?_alloc_new, World.thing?_alloc World.thing?_alloc_self⟩
  · rw [← htables]
    exact World.thing?_alloc_self
  · exact ⟨rfl, rfl, rfl, rfl, rfl, rfl, rfl⟩

/-! ## Replacements -/

/-- What an injection puts in place: a replica of the function that the plan is for, bound to what
    the member is bound to. -/
structure Replaces (p : Plan) (code : Code) (since w : World) (v : Value) (r : Ref) : Prop where
  replica : IsReplica since p.ref p.function code w r
  bound : ∃ receiver, since.IsBound p.member.value p.ref receiver ∧ w.IsBound v r receiver
  isNew : ∀ s, v = .thing s → since.thing? s = none

theorem Replaces.later {p : Plan} {v : Value} (h : Replaces p code since w v r)
    (hkeeps : World.KeepsNew since w w') : Replaces p code since w' v r where
  replica := h.replica.later hkeeps
  bound := by
    obtain ⟨receiver, hold, hbound⟩ := h.bound
    refine ⟨receiver, hold, ?_⟩
    cases receiver with
    | none => exact hbound
    | some self =>
      have hbody : w.body? v = some (.method (.thing r) self) := hbound
      cases v with
      | thing s => exact hkeeps.body? (h.isNew s rfl) hbody
      | _ => cases hbody
  isNew := h.isNew

/-- The function behind a member is what the member's value is, or is bound from. -/
theorem functionOf_isBound {m : Member} {v : Value} (h : functionOf w m = .ok (r, v, f)) :
    ∃ receiver, w.IsBound m.value r receiver ∧ v = .thing r ∧
      w.body? (.thing r) = some (.function f) := by
  unfold functionOf at h
  dsimp only at h
  split at h
  · rename_i hvalue hbody
    split at h
    · cases h
    · cases h
      rw [hvalue] at hbody
      split at hvalue
      · rename_i g self hmethod
        subst hvalue
        exact ⟨some self, hmethod, rfl, hbody⟩
      · exact ⟨none, hvalue, hvalue, hbody⟩
  · cases h

theorem registerText_things {wanted : Bool} {file source : String}
    (h : (registerText wanted file source).Gives w () w') : w'.things = w.things := by
  unfold registerText at h
  split at h
  · rw [← Run.gives_modify.1 h]
  · obtain ⟨-, rfl⟩ := Run.gives_pure.1 h
    rfl

theorem materialize_isReplica (hr : w.thing? r = some { body := .function f, table })
    {source file : String} {register : Bool} {v : Value}
    (h : Attempt.Gives (materialize call source (.thing r) r f file register) w v w') :
    (∀ call', Attempt.Gives (materialize call' source (.thing r) r f file register) w v w') ∧
      ∃ code r', compile source.toList f.frees (ownerName? f.qualname) f.codeName file = .ok code ∧
        v = .thing r' ∧ IsReplica w r f code w' r' := by
  unfold materialize at h ⊢
  simp only [Attempt.gives_bind, Attempt.gives_mk, Attempt.gives_lift, Attempt.gives_pure] at h ⊢
  obtain ⟨code, _, ⟨hcode, rfl⟩, closure, _, ⟨hclosure, rfl⟩, v, w₁, hv, _, w₂, hregister, _, w₃,
    hlog, rfl, rfl⟩ := h
  obtain ⟨hcallless, r', rfl, hreplica⟩ := replica_isReplica hr hv
  have hregistered : w₂.things = w₁.things := registerText_things hregister
  have hthings : w₃.things = w₁.things := by
    rw [← Run.gives_log.1 hlog]
    exact hregistered
  refine ⟨fun call' => ?_, code, r', hcode, rfl, hreplica.later (.of_things hthings)⟩
  exact ⟨code, w, ⟨hcode, rfl⟩, closure, w, ⟨hclosure, rfl⟩, _, w₁, hcallless call', _, w₂,
    hregister, _, w₃, hlog, rfl, rfl⟩

/-- What is made is bound to the receiver that the member is bound to. -/
theorem rebound_isBound {m : Member} {v' : Value} {receiver : Option Value} {f f' : Function}
    (hquiet : Undisturbed since w) (hreplica : IsReplica since r f code w r')
    (hbound : since.IsBound m.value r receiver) (hf : since.body? (.thing r) = some (.function f'))
    (h : (rebound m (.thing r')).Gives w v' w') :
    w.AddsOne w' ∧ w'.IsBound v' r' receiver ∧ ∀ s, v' = .thing s → since.thing? s = none := by
  unfold rebound at h
  rw [Run.gives_bind] at h
  obtain ⟨_, _, hread, h⟩ := h
  obtain ⟨rfl, rfl⟩ := Run.gives_bodyOf.1 hread
  -- A function is handed on as it is; a method is bound anew to the receiver that it had.
  cases receiver with
  | none =>
    have hvalue : m.value = .thing r := hbound
    obtain ⟨g, hg⟩ := hquiet.function hf
    rw [hvalue, hg] at h
    obtain ⟨rfl, rfl⟩ := Run.gives_pure.1 h
    refine ⟨.inl rfl, rfl, ?_⟩
    rintro s ⟨⟩
    exact hreplica.isNew
  | some self =>
    have hvalue : w.body? m.value = some (.method (.thing r) self) := by
      have hmethod : since.body? m.value = some (.method (.thing r) self) := hbound
      cases hv : m.value with
      | thing s =>
        rw [hv] at hmethod
        obtain ⟨t, ht, hbody⟩ := Option.map_eq_some_iff.1 hmethod
        rw [World.body?, hquiet.dict ht (by simp [hbody]) (by simp [hbody])]
        exact congrArg some hbody
      | _ => rw [hv] at hmethod; cases hmethod
    rw [hvalue] at h
    obtain ⟨rfl, rfl⟩ := Run.gives_newValue.1 h
    refine ⟨.inr ⟨_, rfl⟩, World.body?_alloc_self, ?_⟩
    rintro s ⟨⟩
    exact hquiet.missing World.thing?_alloc_new

/-- **What is made for a plan** replaces the member, and it is the same whichever way calls are
    made. -/
theorem replacementFor_replaces {p : Plan} {text id : String} {v : Value} {receiver : Option Value}
    (hbound : w.IsBound p.member.value p.ref receiver) (hvalue : p.value = .thing p.ref)
    (hbody : w.body? (.thing p.ref) = some (.function p.function))
    (h : Attempt.Gives (replacementFor call p text id) w v w') :
    (∀ call', Attempt.Gives (replacementFor call' p text id) w v w') ∧
      ∃ code r, compile text.toList p.function.frees (ownerName? p.function.qualname)
          p.function.codeName (fileName id) = .ok code ∧ Replaces p code w w' v r := by
  obtain ⟨⟨body, table⟩, hr, rfl⟩ := Option.map_eq_some_iff.1 hbody
  unfold replacementFor at h ⊢
  simp only [hvalue, Attempt.gives_bind, Attempt.gives_lift] at h ⊢
  obtain ⟨register, _, hregister, v₁, w₁, hmade, hrebound⟩ := h
  obtain ⟨rfl, -⟩ := registers_gives hregister
  obtain ⟨hcallless, code, r, hcode, rfl, hreplica⟩ := materialize_isReplica hr hmade
  have hquiet := (materialize_quiet hbody _ _ _ _ _).of_gives hmade
  obtain ⟨hadds, hnowBound, hnew⟩ := rebound_isBound hquiet hreplica hbound hbody hrebound
  refine ⟨?_, code, r, hcode, ?_⟩
  · exact fun call' => ⟨register, w, hregister, _, w₁, hcallless call', hrebound⟩
  · exact ⟨hreplica.later (.addsOne hadds), ⟨receiver, hbound, hnowBound⟩, hnew⟩

/-! ## One injection -/

/-- Keeping the record puts nothing on the heap and registers no text. -/
theorem conclude_leaves {x : Prepared} (h : (conclude x).Gives w () w') :
    w'.things = w.things ∧ w'.sources = w.sources := by
  unfold conclude keep at h
  simp only [Run.gives_bind, Run.gives_tick, Run.gives_world, Run.gives_log] at h
  obtain ⟨_, _, ⟨rfl, rfl⟩, _, w₁, ⟨_, _, ⟨rfl, rfl⟩, hkept⟩, rfl⟩ := h
  split at hkept
  · rw [← Run.gives_set.1 hkept]
    exact ⟨rfl, rfl⟩
  · exact absurd hkept Run.not_gives_raise

/-- An injection that has been carried out, and what it has put in place. -/
structure Step where
  how : Success
  /-- The world before anything of the replacement was there. -/
  making : World
  /-- What has taken the place of the member. -/
  value : Value
  /-- The new function. -/
  ref : Ref

/-- An injection that gives an identifier has put a replacement in place, which was made without
    running any code. -/
structure Installs (call : Caller) (target member : Value) (spec : Option Spec) (w : World)
    (a : Step) (w' : World) : Prop where
  succeeds : Succeeds call target member spec w a.how w'
  read : a.making.things = a.how.reading.things
  made : ∀ call', Attempt.Gives (replacementFor call' a.how.plan a.how.text a.how.id) a.making
    a.value a.how.writing
  replaces : Replaces a.how.plan a.how.code a.making a.how.writing a.value a.ref
  written : ∃ w₁, Attempt.Gives (a.how.plan.member.assign call a.value) a.how.writing () w₁ ∧
    w'.things = w₁.things ∧ w'.sources = w₁.sources

variable {target member : Value} {spec : Option Spec} {a b : Step}

/-- The function that is replaced is what the member is, or is bound from. -/
theorem Succeeds.old {s : Success} (h : Succeeds call target member spec w s w')
    (hread : since.things = s.reading.things) :
    ∃ receiver, since.IsBound s.plan.member.value s.plan.ref receiver ∧
      s.plan.value = .thing s.plan.ref ∧
      since.body? (.thing s.plan.ref) = some (.function s.plan.function) := by
  obtain ⟨receiver, hbound, hvalue, hbody⟩ := functionOf_isBound h.planned.function_eq
  refine ⟨receiver, ?_, hvalue, (World.body?_congr hread _).trans hbody⟩
  cases receiver with
  | none => exact hbound
  | some self => exact (World.body?_congr hread _).trans hbound

theorem apply_installs {id : String}
    (h : Attempt.Gives (apply call target member spec) w id w') :
    ∃ a, a.how.id = id ∧ Installs call target member spec w a w' := by
  obtain ⟨p, text, v, making, writing, hstaged⟩ := apply_staged h
  obtain ⟨s, hs, rfl, rfl, rfl, rfl, hread⟩ := hstaged.succeeds
  obtain ⟨receiver, hbound, hvalue, hbody⟩ := hs.old hread
  obtain ⟨hcallless, code, r, hcode, hreplaces⟩ :=
    replacementFor_replaces hbound hvalue hbody hstaged.made
  obtain rfl : code = s.code := Except.ok.inj (hcode.symm.trans hs.compiled)
  obtain ⟨w₁, hassign, hconclude⟩ := hstaged.concluded
  exact ⟨⟨s, making, v, r⟩, rfl, hs, hread, hcallless, hreplaces, w₁, hassign,
    conclude_leaves hconclude⟩

/-! ## Writing to an ordinary slot -/

theorem Installs.undisturbed (h : Installs call target member spec w a w') :
    Undisturbed a.making a.how.writing := by
  obtain ⟨receiver, -, hvalue, hbody⟩ := h.succeeds.old h.read
  rw [← hvalue] at hbody
  exact (replacementFor_quiet hbody _ _).of_gives (h.made call)

/-- The world in which the member was looked up, where it was checked that the snippet is text, is
    that in which its text was read. -/
theorem Installs.looked {name : String} {s : Spec} {text : String}
    (h : Installs Machine.call target (.str name) (some s) w a w') (htext : s.code = .str text) :
    Attempt.Gives (Member.resolve Machine.call target (.str name)) w a.how.plan.member
      a.how.reading := by
  obtain ⟨w₁, hresolve, hcheck⟩ := h.succeeds.planned.resolved
  rw [check_same hcheck (by rintro _ ⟨⟩; exact ⟨text, htext⟩)]
  exact hresolve

/-- **What an injection has written is there**: the slot keeps the replacement in the member's
    wrapping. -/
theorem Installs.puts {name : String} {s : Spec} {text : String}
    (h : Installs Machine.call target (.str name) (some s) w a w') (htext : s.code = .str text)
    (hordinary : World.IsOrdinary a.making a.how.writing name target) :
    ∃ x, w'.Keeps name x target ∧
      w'.member target x = (a.how.plan.member.convention, a.value) ∧
      World.KeepsNew a.making a.how.writing w' ∧ a.how.writing.KeepsCode w' ∧
      w'.sources = a.how.writing.sources := by
  obtain ⟨w₁, hassign, hthings, hsources⟩ := h.written
  obtain ⟨htarget, hname, hlookup⟩ := Member.resolve_gives (h.looked htext)
  have hquiet := h.undisturbed
  -- A member that is not kept by a class is wrapped in nothing.
  have hconvention : a.how.writing.isClass target = false →
      a.how.plan.member.convention = .plain := by
    intro hclass
    refine Member.lookup_convention hlookup ?_
    obtain ⟨r, rfl⟩ : ∃ r, target = .thing r := by
      cases hordinary <;> exact ⟨_, rfl⟩
    have hmaking : a.making.isClass (.thing r) = false := Undisturbed.isClass_thing hquiet hclass
    have hbody := World.body?_congr h.read (.thing r)
    simpa only [World.isClass, World.madeClass?, hbody] using hmaking
  have hroutine : a.how.writing.IsRoutine a.value := by
    obtain ⟨receiver, -, hbound⟩ := h.replaces.bound
    obtain ⟨f, hf, -⟩ := h.replaces.replica.function
    exact hbound.isRoutine hf
  subst htarget hname
  obtain ⟨x, hmember, hputs⟩ := hordinary.assign hconvention hroutine h.replaces.isNew
    (fun s hs => hquiet.missing hs) hassign
  exact ⟨x, hputs.keeps.congr hthings, (World.member_congr hthings _ _).trans hmember,
    hputs.new.trans (.of_things hthings), hputs.code.trans (.of_things hthings),
    hsources.trans hputs.sources⟩

/-! ## One injection after another -/

/-- An injection finds what the one before has put in place, and finds that it is called alike. -/
theorem Installs.next {name : String} {s t : Spec} {text text' : String} {w₁ w₂ : World}
    (ha : Installs Machine.call target (.str name) (some s) w a w₁) (htext : s.code = .str text)
    (hordinary : World.IsOrdinary a.making a.how.writing name target)
    (hb : Installs Machine.call target (.str name) (some t) w₁ b w₂)
    (htext' : t.code = .str text') :
    b.how.plan.member.value = a.value ∧
      b.how.plan.member.convention = a.how.plan.member.convention ∧ w₁.AddsOne b.how.reading ∧
      Replaces a.how.plan a.how.code a.making b.making a.value a.ref := by
  obtain ⟨x, hkeeps, hmember, hnew, -, -⟩ := ha.puts htext hordinary
  have hroutine : w₁.IsRoutine a.value := by
    obtain ⟨receiver, -, hbound⟩ := (ha.replaces.later hnew).bound
    obtain ⟨f, hf, -⟩ := (ha.replaces.later hnew).replica.function
    exact hbound.isRoutine hf
  obtain ⟨w₃, hresolve, hadds⟩ := hkeeps.resolve hmember hroutine Machine.call
  obtain ⟨hmember', rfl⟩ := Attempt.gives_unique (hb.looked htext') hresolve
  refine ⟨by rw [hmember'], by rw [hmember'], hadds, ?_⟩
  exact ha.replaces.later (hnew.trans ((World.KeepsNew.addsOne hadds).trans (.of_things hb.read)))

/-- The function that the next injection replaces is the one that has been put in place. -/
theorem Replaces.found {p q : Plan} {v : Value} {receiver : Option Value}
    (h : Replaces p code since w v r) (hvalue : q.member.value = v)
    (hbound : w.IsBound q.member.value q.ref receiver)
    (hbody : w.body? (.thing q.ref) = some (.function q.function)) :
    q.ref = r ∧ p.function.SameFace q.function ∧ q.function.behaviour = .code code ∧
      since.IsBound p.member.value p.ref receiver := by
  obtain ⟨receiver', hold, hnow⟩ := h.bound
  obtain ⟨f, hf, hface, hcode⟩ := h.replica.function
  rw [hvalue] at hbound
  obtain ⟨href, rfl⟩ := hnow.unique hf hbound hbody
  rw [href, hf] at hbody
  cases hbody
  exact ⟨href, hface, hcode, hold⟩

/-- **The next injection** replaces a function that is defined as well, reads the text that has been
    registered, and leaves the parameters as they are. -/
theorem Installs.next_signature {name : String} {s t : Spec} {text text' : String} {w₁ w₂ : World}
    (ha : Installs Machine.call target (.str name) (some s) w a w₁) (htext : s.code = .str text)
    (hordinary : World.IsOrdinary a.making a.how.writing name target)
    (hregisters : a.how.registers = true) (hback : a.how.ReadsBack)
    (hdefined : IsDefined a.how.plan.function)
    (hb : Installs Machine.call target (.str name) (some t) w₁ b w₂) (htext' : t.code = .str text')
    (hback' : b.how.ReadsBack) :
    IsDefined b.how.plan.function ∧ b.how.code.info.signature = a.how.code.info.signature := by
  obtain ⟨hvalue, -, hadds, hreplaces⟩ := ha.next htext hordinary hb htext'
  obtain ⟨receiver, hbound, -, hbody⟩ := hb.succeeds.old hb.read
  obtain ⟨href, hface, hcode, -⟩ := hreplaces.found hvalue hbound hbody
  obtain ⟨hfile, hcodeName⟩ := compile_info hdefined ha.succeeds.compiled
  have hdefined' : IsDefined b.how.plan.function := by
    unfold IsDefined Function.codeName at *
    rw [hcode]
    dsimp only
    rw [hcodeName]
    exact hdefined
  have hsources : b.how.reading.sources = a.how.writing.sources := by
    obtain ⟨-, -, -, -, -, hsources⟩ := ha.puts htext hordinary
    rw [← hsources]
    rcases hadds with hsame | ⟨u, hsame⟩ <;> rw [hsame]
    rfl
  have hfollows : a.how.Follows b.how := {
    found := ⟨a.how.code, hcode, hfile, rfl⟩
    kept := by rw [hsources] }
  have halike := ha.succeeds.old_alike hregisters hback hb.succeeds hfollows
  have howner : a.how.plan.owner = b.how.plan.owner := by
    rw [Plan.owner, Plan.owner, hface.qualname]
  -- Both are compiled in the class that the qualified name tells.
  obtain ⟨d, inner, around, -, -, hinner, -⟩ := compile_madeFrom hdefined ha.succeeds.compiled
  have hsignature := ha.succeeds.signature_eq hdefined hback.compiled (c := inner) hinner
  have hsignature' := hb.succeeds.signature_eq hdefined' hback'.compiled (c := inner)
    (hinner.trans howner)
  refine ⟨hdefined', ?_⟩
  rw [hsignature, hsignature', signatureOf_alike halike]
  rfl

/-! ## Any number of injections -/

/-- Injections into one member, one right after the other, whose snippets are text and whose printed
    texts are registered and read back; the slot is an ordinary one each time it is written to. -/
inductive Injected (target : Value) (name : String) : World → List Step → World → Prop
  | nil (w : World) : Injected target name w [] w
  | cons {w w₁ w' : World} {s : Spec} {text : String} {a : Step} {as : List Step}
      (installs : Installs Machine.call target (.str name) (some s) w a w₁)
      (isText : s.code = .str text)
      (ordinary : World.IsOrdinary a.making a.how.writing name target)
      (registers : a.how.registers = true) (readsBack : a.how.ReadsBack)
      (rest : Injected target name w₁ as w') : Injected target name w (a :: as) w'

/-- What a step has put in place stands, in a world, for what another step has found: it is bound to
    the same receiver, and the target has it under the name and calls it the same way. -/
structure StandsFor (target : Value) (name : String) (a b : Step) (w : World) : Prop where
  standsIn : a.making.StandsIn a.how.plan.ref w b.ref
  receiver : ∃ receiver, a.making.IsBound a.how.plan.member.value a.how.plan.ref receiver ∧
    w.IsBound b.value b.ref receiver
  found : ∃ w₁, Attempt.Gives (Member.resolve Machine.call target (.str name)) w
    { target, name, value := b.value, convention := a.how.plan.member.convention } w₁

/-- What has just been put in place stands for what it has replaced. -/
theorem Installs.standsFor {name : String} {s : Spec} {text : String}
    (h : Installs Machine.call target (.str name) (some s) w a w') (htext : s.code = .str text)
    (hordinary : World.IsOrdinary a.making a.how.writing name target) :
    StandsFor target name a a w' := by
  obtain ⟨x, hkeeps, hmember, hnew, -, -⟩ := h.puts htext hordinary
  obtain ⟨-, -, -, hold⟩ := h.succeeds.old h.read
  have hreplaces := h.replaces.later hnew
  obtain ⟨f, hf, -⟩ := hreplaces.replica.function
  obtain ⟨receiver, -, hbound⟩ := hreplaces.bound
  obtain ⟨w₁, hresolve, -⟩ := hkeeps.resolve hmember (hbound.isRoutine hf) Machine.call
  exact {
    standsIn := hreplaces.replica.standsIn hold
    receiver := hreplaces.bound
    found := ⟨w₁, hresolve⟩ }

/-- What stands for what the next injection has found stands for what the one before has found. -/
theorem Installs.standsFor_next {name : String} {s t : Spec} {text text' : String} {w₁ w₂ : World}
    {c : Step} (ha : Installs Machine.call target (.str name) (some s) w a w₁)
    (htext : s.code = .str text) (hordinary : World.IsOrdinary a.making a.how.writing name target)
    (hb : Installs Machine.call target (.str name) (some t) w₁ b w₂) (htext' : t.code = .str text')
    (h : StandsFor target name b c w') : StandsFor target name a c w' := by
  obtain ⟨hvalue, hconvention, -, hreplaces⟩ := ha.next htext hordinary hb htext'
  obtain ⟨-, -, -, hold⟩ := ha.succeeds.old ha.read
  obtain ⟨receiver, hbound, -, hbody⟩ := hb.succeeds.old hb.read
  obtain ⟨href, -, -, hbefore⟩ := hreplaces.found hvalue hbound hbody
  obtain ⟨receiver', hbound', hnow⟩ := h.receiver
  obtain ⟨-, rfl⟩ := hbound.unique hbody hbound' hbody
  have hstands := hreplaces.replica.standsIn hold
  rw [← href] at hstands
  exact {
    standsIn := hstands.trans h.standsIn
    receiver := ⟨receiver', hbefore, hnow⟩
    found := by
      rw [← hconvention]
      exact h.found }

/-- **A run of injections**: what the last one has put in place stands for what the first one has
    found. -/
theorem Injected.last {name : String} {as : List Step}
    (h : Injected target name w (a :: as) w') :
    StandsFor target name a ((a :: as).getLast (by simp)) w' := by
  induction as generalizing a w with
  | nil =>
    cases h with
    | cons installs isText ordinary registers readsBack rest =>
      cases rest
      exact installs.standsFor isText ordinary
  | cons b as ih =>
    cases h with
    | cons installs isText ordinary registers readsBack rest =>
      have hlast := ih rest
      cases rest with
      | cons installs' isText' ordinary' registers' readsBack' rest' =>
        exact installs.standsFor_next isText ordinary installs' isText' hlast

/-- No injection after the first one changes the names of the parameters. -/
theorem Injected.signature {name : String} {as : List Step}
    (h : Injected target name w (a :: as) w') (hdefined : IsDefined a.how.plan.function) :
    ∀ b ∈ as, b.how.code.info.signature = a.how.code.info.signature := by
  induction as generalizing a w with
  | nil => exact List.forall_mem_nil _
  | cons b as ih =>
    cases h with
    | cons installs isText ordinary registers readsBack rest =>
      have hrest := ih rest
      cases rest with
      | cons installs' isText' ordinary' registers' readsBack' rest' =>
        obtain ⟨hdefined', hsame⟩ := installs.next_signature isText ordinary registers readsBack
          hdefined installs' isText' readsBack'
        refine List.forall_mem_cons.2 ⟨hsame, fun c hc => ?_⟩
        exact (hrest hdefined' c hc).trans hsame

/-- No call runs for what a run of injections makes. -/
theorem Injected.made {name : String} {as : List Step} (h : Injected target name w as w') :
    ∀ b ∈ as, ∀ call', Attempt.Gives (replacementFor call' b.how.plan b.how.text b.how.id) b.making
      b.value b.how.writing := by
  induction h with
  | nil => exact List.forall_mem_nil _
  | cons installs isText ordinary registers readsBack rest ih =>
    exact List.forall_mem_cons.2 ⟨installs.made, ih⟩

/-! ### Functions that are held elsewhere -/

/-- An injection leaves functions their code, if looking the member up does, and then looking it up
    again does. -/
theorem Installs.keepsCode {name : String} {s : Spec} {text : String}
    (h : Installs Machine.call target (.str name) (some s) w a w') (htext : s.code = .str text)
    (hordinary : World.IsOrdinary a.making a.how.writing name target) :
    (Run.KeepsCode (Member.lookup Machine.call target name) w → w.KeepsCode w') ∧
      Run.KeepsCode (Member.lookup Machine.call target name) w' := by
  obtain ⟨x, hkeeps, -, -, hcode, -⟩ := h.puts htext hordinary
  constructor
  · intro hlookup
    obtain ⟨-, -, hlooked⟩ := Member.resolve_gives (h.looked htext)
    have hmaking : w.KeepsCode a.making := (hlookup.of_gives hlooked).trans (.of_things h.read)
    exact (hmaking.trans (.of_undisturbed h.undisturbed)).trans hcode
  · obtain ⟨w₁, hlookup, hadds⟩ := hkeeps.lookup Machine.call
    refine Run.KeepsCode.gives hlookup ?_
    rcases hadds with rfl | ⟨t, rfl⟩
    · exact .refl _
    · exact .alloc _ t

/-- **Functions that are held elsewhere** keep their code over a run of injections. -/
theorem Injected.keepsCode {name : String} {as : List Step} (h : Injected target name w as w')
    (hlookup : Run.KeepsCode (Member.lookup Machine.call target name) w) : w.KeepsCode w' := by
  induction h with
  | nil w => exact .refl w
  | cons installs isText ordinary registers readsBack rest ih =>
    obtain ⟨hkeeps, hagain⟩ := installs.keepsCode isText ordinary
    exact (hkeeps hlookup).trans (ih hagain)

/-- The new functions of all injections of a run are still there with their code when it is over. -/
theorem Injected.runs {name : String} {as : List Step} (h : Injected target name w as w') :
    ∀ b ∈ as, ∃ f, w'.body? (.thing b.ref) = some (.function f) ∧
      f.behaviour = .code b.how.code := by
  induction h with
  | nil => exact List.forall_mem_nil _
  | cons installs isText ordinary registers readsBack rest ih =>
    refine List.forall_mem_cons.2 ⟨?_, ih⟩
    obtain ⟨x, -, -, hnew, -, -⟩ := installs.puts isText ordinary
    obtain ⟨f, hf, -, hcode⟩ := (installs.replaces.later hnew).replica.function
    have hkeeps := rest.keepsCode (installs.keepsCode isText ordinary).2
    obtain ⟨f', hf', hsame⟩ := hkeeps _ f hf
    exact ⟨f', hf', hsame.behaviour.trans hcode⟩

end Injection

open Injection

theorem isIdle_hasNoPrivateParameter {n : Nat} {d : Splice.Definition} (h : isIdle n d = true) :
    ¬HasPrivateParameter d := by
  unfold isIdle at h
  split at h
  · rename_i hparams _ _
    rintro ⟨m, hm, -⟩
    rw [hparams] at hm
    cases hm
  · cases h

theorem sample_isOrdinary {a : Step} {w' : World}
    (h : Installs Machine.call sampleTarget (.str "idle") (some sampleSpec) sampleWorld a w') :
    World.IsOrdinary a.making a.how.writing "idle" sampleTarget := by
  have htame : Tame Machine.call sampleTarget sampleWorld := tame_of_inert sampleTarget_isInert
  have htext : sampleSpec.code = .str "pass" := rfl
  obtain ⟨-, -, hlooked⟩ := Member.resolve_gives (h.looked htext)
  have hquiet := (htame.read "idle").of_gives hlooked
  have hreading := hquiet.dict (r := ⟨2⟩) rfl nofun nofun
  have hmaking : a.making.thing? ⟨2⟩ = a.how.reading.thing? ⟨2⟩ := by
    rw [World.thing?, World.thing?, h.read]
  exact World.isOrdinary_namespace (hmaking.trans hreading) rfl (by decide) h.undisturbed

end Graft
