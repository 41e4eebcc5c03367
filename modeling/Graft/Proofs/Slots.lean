import Graft.Proofs.Behaviour
import Graft.Proofs.Target

set_option autoImplicit false

/-! # Ordinary slots

Most callables are entries of dictionaries, attributes of objects and modules, or members of
classes.  Writing to such a slot runs no code and changes nothing else, and what has been written is
found there again: a static or class method without its wrapping, and everything else as it is. -/

namespace Graft

open Machine Data

/-! ## Changing tables -/

namespace World

variable {w w' : World} {r : Ref} {g : Table → Table}

theorem body?_changeTable (v : Value) :
    (w.change r fun t => { t with table := g t.table }).body? v = w.body? v := by
  cases v with
  | thing s =>
    rw [body?, thing?_change]
    by_cases hs : s = r
    · rw [if_pos hs, hs, Option.map_map]
      rfl
    · rw [if_neg hs]
      rfl
  | _ => rfl

theorem table_change {t : Thing} (hr : w.thing? r = some t) :
    (w.change r fun t => { t with table := g t.table }).table r = g t.table := by
  rw [table, thing?_change, if_pos rfl, hr]
  rfl

theorem classOf_changeTable (v : Value) :
    (w.change r fun t => { t with table := g t.table }).classOf v = w.classOf v := by
  cases v with
  | thing s =>
    simp only [classOf, thing?_change]
    by_cases hs : s = r
    · rw [if_pos hs, hs]
      cases w.thing? r <;> rfl
    · rw [if_neg hs]
  | _ => rfl

theorem classOrder_changeTable (v : Value) :
    (w.change r fun t => { t with table := g t.table }).classOrder v = w.classOrder v := by
  unfold classOrder madeClass?
  simp only [body?_changeTable]

theorem findInOrder_changeTable (name : String) {order : List Value} (h : .thing r ∉ order) :
    (w.change r fun t => { t with table := g t.table }).findInOrder name order =
      w.findInOrder name order := by
  induction order with
  | nil => rfl
  | cons c order ih =>
    have hrest := ih fun hmem => h (List.mem_cons_of_mem _ hmem)
    cases c with
    | thing s =>
      have hs : s ≠ r := by
        rintro rfl
        exact h List.mem_cons_self
      have htable : (w.change r fun t => { t with table := g t.table }).table s = w.table s := by
        rw [table, thing?_change, if_neg hs, table]
      unfold findInOrder
      simp only [htable, hrest]
    | _ => exact hrest

/-- What is found in a class stays the same if the table of a thing changes that is none of the
    class and those it inherits from. -/
theorem findMade_changeTable {cls : Value} (name : String) (h : .thing r ∉ w.classOrder cls) :
    (w.change r fun t => { t with table := g t.table }).findMade cls name =
      w.findMade cls name := by
  unfold findMade
  rw [classOrder_changeTable, findInOrder_changeTable name h]

/-! ## Worlds with the same things -/

theorem body?_congr (h : w'.things = w.things) (v : Value) : w'.body? v = w.body? v := by
  cases v with
  | thing r => rw [body?, body?, thing?, thing?, h]
  | _ => rfl

theorem table_congr (h : w'.things = w.things) (r : Ref) : w'.table r = w.table r := by
  rw [table, table, thing?, thing?, h]

theorem classOf_congr (h : w'.things = w.things) (v : Value) : w'.classOf v = w.classOf v := by
  cases v with
  | thing r => simp only [classOf, thing?, h]
  | _ => rfl

theorem entriesOf_congr (h : w'.things = w.things) (r : Ref) : w'.entriesOf r = w.entriesOf r := by
  simp only [entriesOf, thing?, table_congr h, h]

theorem findMade_congr (h : w'.things = w.things) (cls : Value) (name : String) :
    w'.findMade cls name = w.findMade cls name := by
  have hfind : ∀ order, w'.findInOrder name order = w.findInOrder name order := by
    intro order
    induction order with
    | nil => rfl
    | cons c order ih =>
      cases c with
      | thing r =>
        unfold findInOrder
        simp only [table_congr h, ih]
      | _ => exact ih
  have horder : w'.classOrder cls = w.classOrder cls := by
    simp only [classOrder, madeClass?, body?_congr h]
  rw [findMade, findMade, hfind, horder]

end World

/-! ## What a slot holds -/

/-- Whether a thing leaves a name to its own attributes. -/
def Machine.Body.leaves : Body → String → Bool
  | .namespace, name | .instance _, name => name != "__dict__"
  | .module _, name => name != "__dict__" && name != "__name__"
  | _, _ => false

/-- The names that every class answers to itself. -/
def classNames : List String :=
  ["__name__", "__qualname__", "__doc__", "__dict__", "__bases__", "__mro__", "__annotations__"]

namespace World

variable {w w' : World} {call : Caller} {r : Ref} {name : String} {x v : Value}

theorem bodyAttr_leaves {b : Body} (h : b.leaves name = true) :
    (bodyAttr r b name).Gives w none w := by
  unfold Body.leaves at h
  unfold bodyAttr
  split at h
  · simp only [bne_iff_ne] at h
    simp [h]
  · simp only [bne_iff_ne] at h
    simp [h, Run.gives_map]
  · simp only [Bool.and_eq_true, bne_iff_ne] at h
    dsimp only
    split
    · exact absurd rfl h.1
    · exact absurd rfl h.2
    · exact Run.gives_pure.2 ⟨rfl, rfl⟩
  · cases h

theorem leaves_isObject {b : Body} (hbody : w.body? (.thing r) = some b)
    (h : b.leaves name = true) :
    w.isClass (.thing r) = false ∧ w.isMutableMapping (.thing r) = false := by
  simp only [isClass, madeClass?, isMutableMapping, hbody]
  unfold Body.leaves at h
  split at h
  · exact ⟨rfl, rfl⟩
  · exact ⟨rfl, rfl⟩
  · exact ⟨rfl, rfl⟩
  · cases h

theorem isClass_mapping (h : w.isMutableMapping (.thing r) = true) :
    w.isClass (.thing r) = false := by
  simp only [isClass, madeClass?]
  unfold isMutableMapping at h
  split at h
  · rename_i hbody
    rw [hbody]
    rfl
  · rename_i hbody
    rw [hbody]
    rfl
  · rename_i hbody
    rw [hbody]
    rfl
  · cases h

/-- No getter and no setter answers to a name of a value. -/
def HasNoProperty (w : World) (v : Value) (name : String) : Prop :=
  ∀ g s, (w.findMade (w.classOf v) name).bind w.body? ≠ some (.property g s)

/-- What is kept under a name in a dictionary, in an object or in a class. -/
inductive Keeps (w : World) (name : String) (x : Value) : Value → Prop
  | entry {r : Ref} (mapping : w.isMutableMapping (.thing r) = true)
      (found : ((w.entriesOf r).find? (·.hash == .ofText name)).map Entry.value = some x) :
      Keeps w name x (.thing r)
  | own {r : Ref} {b : Body} (body : w.body? (.thing r) = some b)
      (leaves : b.leaves name = true) (plain : w.HasNoProperty (.thing r) name)
      (found : (w.table r).get? name = some x) : Keeps w name x (.thing r)
  | ofClass {r : Ref} {c : MadeClass} (body : w.body? (.thing r) = some (.cls c))
      (first : c.order.head? = some (.thing r)) (ordinary : name ∉ classNames)
      (found : (w.table r).get? name = some x) : Keeps w name x (.thing r)

theorem Keeps.congr (h : w.Keeps name x v) (hthings : w'.things = w.things) :
    w'.Keeps name x v := by
  cases h with
  | entry mapping found =>
    refine .entry ?_ ?_
    · rw [isMutableMapping, body?_congr hthings]
      exact mapping
    · rw [entriesOf_congr hthings]
      exact found
  | own body leaves plain found =>
    refine .own ((body?_congr hthings _).trans body) leaves ?_ ?_
    · intro g s
      have hbody : w'.body? = w.body? := funext (body?_congr hthings)
      rw [classOf_congr hthings, findMade_congr hthings, hbody]
      exact plain g s
    · rw [table_congr hthings]
      exact found
  | ofClass body first ordinary found =>
    refine .ofClass ((body?_congr hthings _).trans body) first ordinary ?_
    rw [table_congr hthings]
    exact found

/-! ### Reading it -/

theorem getEntry?_keeps
    (h : ((w.entriesOf r).find? (·.hash == .ofText name)).map Entry.value = some x) :
    Run.Gives ( getEntry? r (.str name)) w (some x) w := by
  have hkey : w.keyOf (.str name) = .ok (.ofText name) := rfl
  unfold getEntry? hashOf
  simp only [Run.gives_bind, Run.gives_world, Run.gives_pure]
  exact ⟨_, w, ⟨w, w, ⟨rfl, rfl⟩, by rw [hkey]; exact Run.gives_pure.2 ⟨rfl, rfl⟩⟩, w, w,
    ⟨rfl, rfl⟩, h, rfl⟩

theorem recover_gives {α : Type} {run : Run α} {a : α} (h : run.Gives w a w') (cls : String)
    (otherwise : Value → Run α) : (Run.recover cls run otherwise).Gives w a w' := by
  unfold Run.recover Run.Gives
  unfold Run.Gives at h
  rw [Run.result_tryCatch, h]

/-- What is read is found without asking for a last resort. -/
theorem getAttr_of_plainAttr (h : (plainAttr call v name).Gives w (some x) w') :
    (getAttr call v name).Gives w x w' := by
  unfold getAttr
  refine Run.gives_bind_world.2 ?_
  extract_lets plain
  have hplain : plain.Gives w x w' :=
    Run.gives_bind.2 ⟨some x, w', h, Run.gives_pure.2 ⟨rfl, rfl⟩⟩
  split
  · exact hplain
  · exact recover_gives hplain _ _

theorem getAttr?_of_getAttr (h : (getAttr call v name).Gives w x w') :
    Run.Gives (getAttr? call v name) w (some x) w' := by
  unfold getAttr? Run.orMissing
  exact recover_gives (Run.gives_map.2 ⟨x, h, rfl⟩) _ _

/-- What a thing has itself is found without running code. -/
theorem plainAttr_gives {t : Thing} {own : Option Value} (ht : w.thing? r = some t)
    (hclass : w.isClass (.thing r) = false) (hplain : w.HasNoProperty (.thing r) name)
    (hsuper : ∀ cls self, t.body ≠ .super cls self)
    (hbody : (bodyAttr r t.body name).Gives w own w')
    (hfound : (own <|> t.table.get? name) = some x) :
    (plainAttr call (.thing r) name).Gives w (some x) w' := by
  unfold plainAttr
  refine Run.gives_bind_world.2 ?_
  rw [if_neg (by simp [hclass])]
  dsimp only
  split
  · rename_i hproperty
    exact absurd hproperty (hplain _ _)
  · rename_i hproperty
    exact absurd hproperty (hplain _ _)
  · rw [ht]
    split
    · rename_i heq
      cases heq
      exact absurd rfl (hsuper _ _)
    · rename_i heq
      cases heq
      refine Run.gives_bind.2 ⟨own, w', hbody, ?_⟩
      -- What the body does not answer is found in the table.
      cases own with
      | some v =>
        cases hfound
        exact Run.gives_bind.2
          ⟨some x, w', Run.gives_pure.2 ⟨rfl, rfl⟩, Run.gives_pure.2 ⟨rfl, rfl⟩⟩
      | none =>
        exact Run.gives_bind.2
          ⟨some x, w', Run.gives_pure.2 ⟨hfound, rfl⟩, Run.gives_pure.2 ⟨rfl, rfl⟩⟩
    · rename_i heq
      cases heq

theorem getAttr_own {b : Body} (hbody : w.body? (.thing r) = some b)
    (hleaves : b.leaves name = true) (hplain : w.HasNoProperty (.thing r) name)
    (hfound : (w.table r).get? name = some x) : (getAttr call (.thing r) name).Gives w x w := by
  obtain ⟨t, ht, rfl⟩ := Option.map_eq_some_iff.1 hbody
  have htable : t.table.get? name = some x := by
    rw [← hfound, table, ht]
    rfl
  have hsuper : ∀ cls self, t.body ≠ .super cls self := by
    intro cls self hbody
    rw [hbody] at hleaves
    cases hleaves
  have hclass := (leaves_isObject hbody hleaves).1
  exact getAttr_of_plainAttr
    (plainAttr_gives ht hclass hplain hsuper (bodyAttr_leaves hleaves) htable)

theorem findMade_first {c : MadeClass} (hbody : w.body? (.thing r) = some (.cls c))
    (hfirst : c.order.head? = some (.thing r)) (hfound : (w.table r).get? name = some x) :
    w.findMade (.thing r) name = some x := by
  obtain ⟨order, horder⟩ := List.head?_eq_some_iff.1 hfirst
  simp only [findMade, classOrder, madeClass?, hbody, Option.map_some, Option.getD_some, horder,
    findInOrder, hfound]

theorem typeAttr_ordinary {c : MadeClass} (hbody : w.body? (.thing r) = some (.cls c))
    (hname : name ∉ classNames) : (typeAttr (.thing r) name).Gives w none w := by
  have hthing : (w.thing? r).map Thing.body = some (.cls c) := hbody
  unfold typeAttr
  refine Run.gives_bind_world.2 ?_
  simp only [hthing]
  split
  case h_8 => exact Run.gives_pure.2 ⟨rfl, rfl⟩
  all_goals exact absurd (by decide) hname

/-- How a member of a class is called, and what it is without its wrapping. -/
def unwrap (w : World) (x : Value) : Convention × Value :=
  match w.body? x with
  | some (.staticMethod f) => (.static, f)
  | some (.classMethod f) => (.ofClass, f)
  | _ => (.plain, x)

/-- At most one thing has been put on the heap. -/
def AddsOne (w w' : World) : Prop := w' = w ∨ ∃ t, w' = (w.alloc t).2

theorem AddsOne.body? (h : w.AddsOne w') {b : Body} (hbody : w.body? v = some b) :
    w'.body? v = some b := by
  rcases h with rfl | ⟨t, rfl⟩
  · exact hbody
  · exact body?_alloc hbody

theorem AddsOne.table (h : w.AddsOne w') {t : Thing} (hr : w.thing? r = some t) :
    w'.table r = w.table r := by
  rcases h with rfl | ⟨u, rfl⟩
  · rfl
  · rw [World.table, World.table, thing?_alloc hr, hr]

theorem unwrap_cases (w : World) (x : Value) :
    (∃ f, w.body? x = some (.staticMethod f) ∧ w.unwrap x = (.static, f)) ∨
      (∃ f, w.body? x = some (.classMethod f) ∧ w.unwrap x = (.ofClass, f)) ∨
      (w.unwrap x = (.plain, x) ∧ (∀ f, w.body? x ≠ some (.staticMethod f)) ∧
        ∀ f, w.body? x ≠ some (.classMethod f)) := by
  unfold unwrap
  split
  · rename_i f hbody
    exact .inl ⟨f, hbody, rfl⟩
  · rename_i f hbody
    exact .inr (.inl ⟨f, hbody, rfl⟩)
  · rename_i hstatic hclass
    exact .inr (.inr ⟨rfl, hstatic, hclass⟩)

/-- Reading a member of a class gives the member itself if it is not wrapped. -/
theorem classMember_gives (cls x : Value) :
    ∃ y w₁, (classMember cls x).Gives w y w₁ ∧ w.AddsOne w₁ ∧ w₁.unwrap x = w.unwrap x ∧
      (∀ v, w.unwrap x = (.plain, v) → y = v) := by
  obtain ⟨f, hbody, hunwrap⟩ | ⟨f, hbody, hunwrap⟩ | ⟨hunwrap, hstatic, hclass⟩ := w.unwrap_cases x
  · refine ⟨f, w, ?_, .inl rfl, rfl, by simp [hunwrap]⟩
    exact Run.gives_bind.2 ⟨_, w, Run.gives_bodyOf.2 ⟨hbody, rfl⟩, Run.gives_pure.2 ⟨rfl, rfl⟩⟩
  · have hbinds : (classMember cls x).Gives w (.thing (w.alloc { body := .method f cls }).1)
        (w.alloc { body := .method f cls }).2 :=
      Run.gives_bind.2 ⟨_, w, Run.gives_bodyOf.2 ⟨hbody, rfl⟩, Run.gives_newValue.2 ⟨rfl, rfl⟩⟩
    refine ⟨_, _, hbinds, .inr ⟨_, rfl⟩, ?_, by simp [hunwrap]⟩
    rw [unwrap, unwrap, hbody, body?_alloc hbody]
  · refine ⟨x, w, Run.gives_bind.2 ⟨_, w, Run.gives_bodyOf.2 ⟨rfl, rfl⟩, ?_⟩, .inl rfl, rfl, ?_⟩
    · split
      · rename_i f hbody
        exact absurd hbody (hstatic f)
      · rename_i f hbody
        exact absurd hbody (hclass f)
      · exact Run.gives_pure.2 ⟨rfl, rfl⟩
    · intro v hv
      rw [hunwrap] at hv
      exact (Prod.mk.inj hv).2

theorem getAttr_member (call : Caller) {c : MadeClass} (hbody : w.body? (.thing r) = some (.cls c))
    (hfirst : c.order.head? = some (.thing r)) (hname : name ∉ classNames)
    (hfound : (w.table r).get? name = some x) :
    ∃ y w₁, (getAttr call (.thing r) name).Gives w y w₁ ∧ w.AddsOne w₁ ∧
      w₁.unwrap x = w.unwrap x ∧ (∀ v, w.unwrap x = (.plain, v) → y = v) := by
  obtain ⟨y, w₁, hmember, hadds, hunwrap, hplain⟩ := classMember_gives (w := w) (.thing r) x
  refine ⟨y, w₁, getAttr_of_plainAttr ?_, hadds, hunwrap, hplain⟩
  have hclass : w.isClass (.thing r) = true := by simp [isClass, madeClass?, hbody]
  unfold plainAttr
  refine Run.gives_bind_world.2 ?_
  rw [if_pos hclass]
  unfold classAttr
  refine Run.gives_bind_world.2 ?_
  refine Run.gives_bind.2 ⟨none, w, typeAttr_ordinary hbody hname, ?_⟩
  simp only [findMade_first hbody hfirst hfound]
  exact Run.gives_bind.2 ⟨y, w₁, hmember, Run.gives_pure.2 ⟨rfl, rfl⟩⟩

/-- How a member of a target is called that keeps it in a certain way, and what the member is. -/
def member (w : World) (target x : Value) : Convention × Value :=
  if w.isClass target then w.unwrap x else (.plain, x)

theorem member_congr (h : w'.things = w.things) (target x : Value) :
    w'.member target x = w.member target x := by
  have hclass : w'.isClass target = w.isClass target := by
    simp only [isClass, madeClass?, body?_congr h]
  have hunwrap : w'.unwrap x = w.unwrap x := by
    simp only [unwrap, body?_congr h]
  rw [member, member, hclass, hunwrap]

theorem unwrapped?_or {cls y : Value} (hfound : w.findMade cls name = some x)
    (hplain : ∀ v, w.unwrap x = (.plain, v) → y = v) :
    (Member.unwrapped? w cls name <|> some (.plain, y)) = some (w.unwrap x) := by
  unfold Member.unwrapped?
  simp only [hfound]
  obtain ⟨f, hbody, hunwrap⟩ | ⟨f, hbody, hunwrap⟩ | ⟨hunwrap, hstatic, hclass⟩ := w.unwrap_cases x
  · rw [hbody, hunwrap]
    rfl
  · rw [hbody, hunwrap]
    rfl
  · rw [hunwrap, hplain x hunwrap]
    split
    · rename_i f hbody
      exact absurd hbody (hstatic f)
    · rename_i f hbody
      exact absurd hbody (hclass f)
    · rfl

/-- What a target keeps is found there. -/
theorem Keeps.lookup {target : Value} (h : w.Keeps name x target) (call : Caller) :
    ∃ w₁, Run.Gives (Member.lookup call target name) w (some (w.member target x)) w₁ ∧
      w.AddsOne w₁ := by
  cases h with
  | @entry r mapping found =>
    refine ⟨w, (Member.gives_lookup_entry mapping).2 ⟨some x, getEntry?_keeps found, ?_⟩, .inl rfl⟩
    rw [member, isClass_mapping mapping, if_neg (by simp)]
    rfl
  | @own r b body leaves plain found =>
    obtain ⟨hclass, hmapping⟩ := leaves_isObject body leaves
    refine ⟨w, (Member.gives_lookup_attr hmapping).2
      ⟨some x, getAttr?_of_getAttr (getAttr_own body leaves plain found), ?_⟩, .inl rfl⟩
    rw [member, hclass, if_neg (by simp), if_neg (by simp)]
    rfl
  | @ofClass r c body first ordinary found =>
    -- What is read from a class is bound anew, but unwrapping it gives what the class keeps.
    obtain ⟨y, w₁, hread, hadds, hunwrap, hplain⟩ :=
      getAttr_member call body first ordinary found
    obtain ⟨t, ht, hcls⟩ := Option.map_eq_some_iff.1 body
    have body₁ := hadds.body? body
    have hclass : w.isClass (.thing r) = true ∧ w.isMutableMapping (.thing r) = false := by
      simp [isClass, madeClass?, isMutableMapping, body]
    have hclass₁ : w₁.isClass (.thing r) = true := by simp [isClass, madeClass?, body₁]
    have hmade := findMade_first body₁ first ((congrArg (·.get? name) (hadds.table ht)).trans found)
    refine ⟨w₁, (Member.gives_lookup_attr hclass.2).2 ⟨some y, getAttr?_of_getAttr hread, ?_⟩, hadds⟩
    rw [if_pos hclass₁, member, if_pos hclass.1, ← hunwrap]
    refine (unwrapped?_or hmade fun v hv => hplain v ?_).symm
    rw [← hunwrap]
    exact hv

/-- A value is a function, or is bound from something. -/
def IsRoutine (w : World) (v : Value) : Prop :=
  (∃ f, w.body? v = some (.function f)) ∨ ∃ g self, w.body? v = some (.method g self)

theorem IsRoutine.isCallable (h : w.IsRoutine v) : w.isCallable v = true := by
  obtain ⟨b, hbody, hcallable⟩ : ∃ b, w.body? v = some b ∧
      ((∃ f, b = .function f) ∨ ∃ g self, b = .method g self) := by
    rcases h with ⟨f, hf⟩ | ⟨g, self, hm⟩
    · exact ⟨_, hf, .inl ⟨f, rfl⟩⟩
    · exact ⟨_, hm, .inr ⟨g, self, rfl⟩⟩
  cases v with
  | thing r =>
    rw [body?_thing] at hbody
    simp only [World.isCallable, hbody]
    rcases hcallable with ⟨f, rfl⟩ | ⟨g, self, rfl⟩ <;> rfl
  | _ => cases hbody

theorem IsRoutine.addsOne (h : w.IsRoutine v) (hadds : w.AddsOne w') : w'.IsRoutine v := by
  rcases h with ⟨f, hf⟩ | ⟨g, self, hm⟩
  · exact .inl ⟨f, hadds.body? hf⟩
  · exact .inr ⟨g, self, hadds.body? hm⟩

/-- **What is kept is found again**: the member of a target is what the target keeps. -/
theorem Keeps.resolve {target : Value} {convention : Convention} (h : w.Keeps name x target)
    (hmember : w.member target x = (convention, v)) (hv : w.IsRoutine v) (call : Caller) :
    ∃ w₁, Attempt.Gives (Member.resolve call target (.str name)) w
        { target, name, value := v, convention } w₁ ∧ w.AddsOne w₁ := by
  obtain ⟨w₁, hlookup, hadds⟩ := h.lookup call
  have htarget : target.isNone = false := by cases h <;> rfl
  rw [hmember] at hlookup
  exact ⟨w₁, Member.gives_resolve.2 ⟨htarget, rfl, rfl, rfl, hlookup, (hv.addsOne hadds).isCallable⟩,
    hadds⟩

/-! ### Writing it -/

/-- A slot of a target is ordinary when it is written to, and what it is in has been there since a
    world. -/
inductive IsOrdinary (since w : World) (name : String) : Value → Prop
  | entry {r : Ref} {es : List Entry} (mapping : w.isMutableMapping (.thing r) = true)
      (store : w.body? (.thing (w.store r)) = some (.dict es))
      (there : since.thing? (w.store r) ≠ none) : IsOrdinary since w name (.thing r)
  | own {r : Ref} {b : Body} (body : w.body? (.thing r) = some b) (leaves : b.leaves name = true)
      (plain : w.SetsPlainly (.thing r) name)
      (apart : .thing r ∉ w.classOrder (w.classOf (.thing r)))
      (there : since.thing? r ≠ none) : IsOrdinary since w name (.thing r)
  | ofClass {r : Ref} {c : MadeClass} (body : w.body? (.thing r) = some (.cls c))
      (first : c.order.head? = some (.thing r)) (ordinary : name ∉ classNames)
      (there : since.thing? r ≠ none) : IsOrdinary since w name (.thing r)

/-- A run that only raises an error gives nothing. -/
theorem not_gives_of_raises {α : Type} {run : Run α} {a : α}
    (h : run.Ends w (fun _ _ => False) w.Raised) : ¬run.Gives w a w' := h.of_gives

/-- What has been set is none of what can not be set. -/
theorem gives_unlessGiven {among : Bool} {rest : Run Unit}
    (h : Run.Gives (do
      if among then refuseGiven v name x
      rest) w () w') : rest.Gives w () w' := by
  cases among with
  | false => exact h
  | true =>
    simp only [if_true, Run.gives_bind] at h
    obtain ⟨⟨⟩, w₁, hgiven, h⟩ := h
    obtain rfl := (refuseGiven_raises v name x).of_gives hgiven
    exact h

/-- An attribute that is set plainly has been set the ordinary way. -/
theorem setAttr_gives (hset : w.SetsPlainly v name) (h : (setAttr call v name x).Gives w () w') :
    (setPlainAttr call v name x).Gives w () w' := by
  unfold setAttr at h
  replace h := Run.gives_bind_world.1 h
  dsimp only at h
  rw [hset.noSetter] at h
  split at h
  · exact absurd h Run.not_gives_raise
  · exact h

theorem setAttr_own_gives {b : Body} (hbody : w.body? (.thing r) = some b)
    (hleaves : b.leaves name = true) (hset : w.SetsPlainly (.thing r) name)
    (h : (setAttr call (.thing r) name x).Gives w () w') :
    w.change r (fun t => { t with table := t.table.set name x }) = w' := by
  have hclass := (leaves_isObject hbody hleaves).1
  have hproperty := hset.property.resolve_left (by simp [hclass])
  have hthing : (w.thing? r).map Thing.body = some b := hbody
  -- No class intercepts the name, so that it is kept with the thing itself or refused.
  replace h := setAttr_gives hset h
  unfold setPlainAttr at h
  replace h := Run.gives_bind_world.1 h
  rw [if_neg (by simp [hclass])] at h
  dsimp only at h
  split at h
  · rename_i hp
    exact absurd hp (hproperty _ _)
  · rename_i hp
    exact absurd hp (hproperty _ _)
  replace h := gives_unlessGiven h
  unfold setOwnAttr at h
  replace h := Run.gives_bind_world.1 h
  simp only [hthing] at h
  split at h
  · rename_i hfunction
    cases hfunction
    cases hleaves
  · split at h
    · exact Run.gives_modify.1 h
    · exact absurd h (not_gives_of_raises (refuseAttr_raises _ name _))

theorem setAttr_ofClass_gives {c : MadeClass} (hbody : w.body? (.thing r) = some (.cls c))
    (hname : name ∉ classNames) (h : (setAttr call (.thing r) name x).Gives w () w') :
    w.change r (fun t => { t with table := t.table.set name x }) = w' := by
  have hclass : w.isClass (.thing r) = true := by simp [isClass, madeClass?, hbody]
  replace h := setAttr_gives ⟨.inl hclass, .inl hclass⟩ h
  unfold setPlainAttr at h
  replace h := Run.gives_bind_world.1 h
  rw [if_pos hclass] at h
  unfold setClassAttr at h
  replace h := Run.gives_bind_world.1 h
  split at h
  case h_7 | h_8 => exact absurd h (not_gives_of_raises (refuseReadOnly_raises _))
  case h_10 =>
    split at h
    · exact Run.gives_modify.1 h
    · exact absurd h (not_gives_of_raises (refuseClass_raises _ _))
  case h_5 | h_11 => exact Run.gives_modify.1 h
  case h_1 | h_2 => exact absurd (by decide) hname
  all_goals exact absurd h Run.not_gives_raise

theorem putEntry_gives {es : List Entry} (hstore : w.body? (.thing (w.store r)) = some (.dict es))
    (h : (putEntry r (.str name) x).Gives w () w') :
    w.change (w.store r) (fun t => { t with
      body := .dict (setEntry (.ofText name) (.str name) x es) }) = w' := by
  have hkey : w.keyOf (.str name) = .ok (.ofText name) := rfl
  have hthing : (w.thing? (w.store r)).map Thing.body = some (.dict es) := hstore
  unfold putEntry hashOf at h
  replace h := Run.gives_bind_world.1 h
  split at h
  · exact absurd h Run.not_gives_raise
  · simp only [Run.gives_bind, Run.gives_world] at h
    obtain ⟨_, _, ⟨_, _, ⟨rfl, rfl⟩, hkeyed⟩, h⟩ := h
    rw [hkey] at hkeyed
    obtain ⟨rfl, rfl⟩ := Run.gives_pure.1 hkeyed
    rw [hthing] at h
    exact Run.gives_modify.1 h

theorem find?_setEntry (k : Key) (key v : Value) (es : List Entry) :
    ((setEntry k key v es).find? (·.hash == k)).map Entry.value = some v := by
  induction es with
  | nil => simp [setEntry]
  | cons e es ih =>
    unfold setEntry
    by_cases hk : (e.hash == k) = true
    · rw [if_pos hk]
      simp [hk]
    · rw [if_neg hk]
      simpa [hk] using ih

theorem entriesOf_store {es : List Entry} (hmapping : w.isMutableMapping (.thing r) = true)
    (hstore : w.body? (.thing (w.store r)) = some (.dict es)) : w.entriesOf r = es := by
  have hthing : (w.thing? (w.store r)).map Thing.body = some (.dict es) := hstore
  unfold isMutableMapping at hmapping
  rw [body?_thing] at hmapping
  unfold store at hthing
  unfold entriesOf
  split at hmapping
  · rename_i hbody
    rw [hbody] at hthing
    simp only [hthing] at hbody ⊢
  · rename_i hbody
    rw [hbody] at hthing
    simp only [hbody] at hthing
    cases hthing
  · rename_i hbody
    rw [hbody] at hthing
    simp only [hbody, hthing]
  · cases hmapping

theorem change_new {since : World} {f : Thing → Thing} {s : Ref} {t : Thing}
    (there : since.thing? r ≠ none) (hs : since.thing? s = none) (ht : w.thing? s = some t) :
    (w.change r f).thing? s = some t := by
  rw [thing?_change, if_neg, ht]
  rintro rfl
  exact there hs

/-- A mapping stays one, and its entries stay where they are, when they change. -/
theorem store_setBody {es : List Entry} (hmapping : w.isMutableMapping (.thing r) = true)
    (hstore : w.body? (.thing (w.store r)) = some (.dict es)) (es' : List Entry) :
    (w.change (w.store r) fun t => { t with body := .dict es' }).isMutableMapping (.thing r) =
        true ∧
      (w.change (w.store r) fun t => { t with body := .dict es' }).body?
        (.thing ((w.change (w.store r) fun t => { t with body := .dict es' }).store r)) =
          some (.dict es') := by
  obtain ⟨t, ht, hdict⟩ := Option.map_eq_some_iff.1 hstore
  let w' := w.change (w.store r) fun t => { t with body := .dict es' }
  have hstored : w'.body? (.thing (w.store r)) = some (.dict es') := by
    rw [body?, thing?_change, if_pos rfl, ht]
    rfl
  change w'.isMutableMapping (.thing r) = true ∧ w'.body? (.thing (w'.store r)) = some (.dict es')
  by_cases hr : r = w.store r
  · rw [← hr] at hstored
    have hthing : (w'.thing? r).map Thing.body = some (.dict es') := hstored
    have hsame : w'.store r = r := by rw [store, hthing]
    rw [hsame, isMutableMapping, hstored]
    exact ⟨rfl, rfl⟩
  · have hthing : w'.thing? r = w.thing? r := by rw [thing?_change, if_neg hr]
    have hsame : w'.store r = w.store r := by rw [store, hthing, store]
    rw [hsame, isMutableMapping, body?, hthing]
    exact ⟨hmapping, hstored⟩

theorem keeps_setOwn {b : Body} (hbody : w.body? (.thing r) = some b)
    (hleaves : b.leaves name = true) (hset : w.SetsPlainly (.thing r) name)
    (hapart : .thing r ∉ w.classOrder (w.classOf (.thing r))) :
    (w.change r fun t => { t with table := t.table.set name x }).Keeps name x (.thing r) := by
  obtain ⟨t, ht, rfl⟩ := Option.map_eq_some_iff.1 hbody
  have hproperty := hset.property.resolve_left (by simp [(leaves_isObject hbody hleaves).1])
  refine .own ((body?_changeTable (g := (·.set name x)) _).trans hbody) hleaves ?_ ?_
  · intro g s
    have hsame : (w.change r fun t => { t with table := t.table.set name x }).body? = w.body? :=
      funext (body?_changeTable (g := (·.set name x)))
    rw [classOf_changeTable, findMade_changeTable name hapart, hsame]
    exact hproperty g s
  · rw [table_change ht, Table.get?_set_self]

theorem keeps_setOfClass {c : MadeClass} (hbody : w.body? (.thing r) = some (.cls c))
    (hfirst : c.order.head? = some (.thing r)) (hname : name ∉ classNames) :
    (w.change r fun t => { t with table := t.table.set name x }).Keeps name x (.thing r) := by
  obtain ⟨t, ht, -⟩ := Option.map_eq_some_iff.1 hbody
  refine .ofClass ((body?_changeTable (g := (·.set name x)) _).trans hbody) hfirst hname ?_
  rw [table_change ht, Table.get?_set_self]

section

variable {since : World}

/-! ### Things that are new -/

/-- What is new since a world stays as it is. -/
def KeepsNew (since w w' : World) : Prop :=
  ∀ s t, since.thing? s = none → w.thing? s = some t → w'.thing? s = some t

theorem KeepsNew.trans {w₁ : World} (h : KeepsNew since w w₁) (h' : KeepsNew since w₁ w') :
    KeepsNew since w w' :=
  fun s t hs ht => h' s t hs (h s t hs ht)

theorem KeepsNew.of_things (h : w'.things = w.things) : KeepsNew since w w' := by
  intro s t _ ht
  rw [thing?, h]
  exact ht

theorem KeepsNew.addsOne (h : w.AddsOne w') : KeepsNew since w w' := by
  rcases h with rfl | ⟨u, rfl⟩
  · exact fun s t _ ht => ht
  · exact fun s t _ ht => thing?_alloc ht

theorem KeepsNew.body? (h : KeepsNew since w w') {s : Ref}
    (hs : since.thing? s = none) {b : Body} (hbody : w.body? (.thing s) = some b) :
    w'.body? (.thing s) = some b := by
  obtain ⟨t, ht, rfl⟩ := Option.map_eq_some_iff.1 hbody
  rw [World.body?, h s t hs ht]
  rfl

end

/-- What a write to an ordinary slot leads to: the slot keeps what is written, what is new stays as
    it is, and functions keep their code. -/
structure Puts (since w : World) (name : String) (x target : Value) (w' : World) : Prop where
  keeps : w'.Keeps name x target
  code : w.KeepsCode w'
  new : KeepsNew since w w'
  sources : w'.sources = w.sources
  isClass : w'.isClass target = w.isClass target

theorem IsOrdinary.put {since : World} {m : Member} (h : IsOrdinary since w m.name m.target)
    (hput : (m.put call x).Gives w () w') : Puts since w m.name x m.target w' := by
  obtain ⟨target, name, value, convention⟩ := m
  dsimp only at h
  unfold Member.put at hput
  replace hput := Run.gives_bind_world.1 hput
  -- Each kind of target is written in its own way, and nothing but the slot changes.
  cases h with
  | @entry r es mapping store there =>
    simp only [mapping] at hput
    obtain rfl := putEntry_gives store hput
    have hstored := store_setBody mapping store (setEntry (.ofText name) (.str name) x es)
    obtain ⟨mapping', store'⟩ := hstored
    exact {
      keeps := .entry mapping' (by
        rw [entriesOf_store mapping' store']
        exact find?_setEntry _ _ _ _)
      code := .setBody (fun f hf => by rw [store] at hf; cases hf) _
      new := fun s t hs ht => change_new there hs ht
      sources := rfl
      isClass := (isClass_mapping mapping').trans (isClass_mapping mapping).symm }
  | @own r b body leaves plain apart there =>
    obtain ⟨hclass, hmapping⟩ := leaves_isObject body leaves
    simp only [hmapping] at hput
    obtain rfl := setAttr_own_gives body leaves plain hput
    exact {
      keeps := keeps_setOwn body leaves plain apart
      code := .changeTable r (·.set name x)
      new := fun s t hs ht => change_new there hs ht
      sources := rfl
      isClass := by simp only [isClass, madeClass?, body?_changeTable (g := (·.set name x))] }
  | @ofClass r c body first ordinary there =>
    have hmapping : w.isMutableMapping (.thing r) = false := by rw [isMutableMapping, body]
    simp only [hmapping] at hput
    obtain rfl := setAttr_ofClass_gives body ordinary hput
    exact {
      keeps := keeps_setOfClass body first ordinary
      code := .changeTable r (·.set name x)
      new := fun s t hs ht => change_new there hs ht
      sources := rfl
      isClass := by simp only [isClass, madeClass?, body?_changeTable (g := (·.set name x))] }

end World

/-! ### Replacing a member -/

namespace Member

/-- What is found in a target that is no class is not wrapped. -/
theorem lookup_convention {call : Caller} {target : Value} {w w' : World} {name : String}
    {convention : Convention} {v : Value}
    (h : Run.Gives (lookup call target name) w (some (convention, v)) w')
    (hclass : w'.isClass target = false) : convention = .plain := by
  have hplain : ∀ found : Option Value,
      some (convention, v) = found.map (Convention.plain, ·) → convention = .plain := by
    intro found hfound
    obtain ⟨x, -, hx⟩ := Option.map_eq_some_iff.1 hfound.symm
    cases hx
    rfl
  cases hmapping : w.isMutableMapping target with
  | true =>
    obtain ⟨r, rfl⟩ := exists_thing_of_mapping hmapping
    obtain ⟨found, -, hfound⟩ := (gives_lookup_entry hmapping).1 h
    exact hplain found hfound
  | false =>
    obtain ⟨found, -, hfound⟩ := (gives_lookup_attr hmapping).1 h
    rw [hclass, if_neg (by simp)] at hfound
    exact hplain found hfound

end Member

namespace World

variable {since w w' : World} {call : Caller} {v : Value}

theorem Puts.isRoutine {name : String} {x target : Value} (h : Puts since w name x target w')
    (hnew : ∀ s, v = .thing s → since.thing? s = none) (hv : w.IsRoutine v) : w'.IsRoutine v := by
  have hthing : ∀ {b}, w.body? v = some b → w'.body? v = some b := by
    intro b hbody
    cases v with
    | thing s => exact h.new.body? (hnew s rfl) hbody
    | _ => cases hbody
  rcases hv with ⟨f, hf⟩ | ⟨g, self, hm⟩
  · exact .inl ⟨f, hthing hf⟩
  · exact .inr ⟨g, self, hthing hm⟩

theorem IsRoutine.unwrap (h : w.IsRoutine v) : w.unwrap v = (.plain, v) := by
  rcases h with ⟨f, hf⟩ | ⟨g, self, hm⟩
  · rw [World.unwrap, hf]
  · rw [World.unwrap, hm]

/-- What is put into a class in a wrapping is there in its wrapping. -/
theorem IsOrdinary.putWrapped {m : Member} {b : Body} (h : IsOrdinary since w m.name m.target)
    (hclass : w.isClass m.target = true) (hsince : ∀ s, w.thing? s = none → since.thing? s = none)
    (hput : (m.put call (.thing (w.alloc { body := b }).1)).Gives (w.alloc { body := b }).2 () w') :
    Puts since w m.name (.thing (w.alloc { body := b }).1) m.target w' ∧
      w'.isClass m.target = true ∧ w'.body? (.thing (w.alloc { body := b }).1) = some b := by
  have hlater : IsOrdinary since (w.alloc { body := b }).2 m.name m.target ∧
      (w.alloc { body := b }).2.isClass m.target = true := by
    generalize m.target = target at h hclass
    cases h with
    | entry mapping => simp [isClass_mapping mapping] at hclass
    | own body leaves => simp [(leaves_isObject body leaves).1] at hclass
    | ofClass body first ordinary there =>
      have hbody := body?_alloc (t := { body := b }) body
      exact ⟨.ofClass hbody first ordinary there, by simp [isClass, madeClass?, hbody]⟩
  have hputs := hlater.1.put hput
  refine ⟨{
    keeps := hputs.keeps
    code := (KeepsCode.alloc w _).trans hputs.code
    new := fun s t hs ht => hputs.new s t hs (thing?_alloc ht)
    sources := hputs.sources
    isClass := hputs.isClass.trans (hlater.2.trans hclass.symm) }, hputs.isClass.trans hlater.2, ?_⟩
  exact hputs.new.body? (hsince _ thing?_alloc_new) body?_alloc_self

/-- **Replacing a member in an ordinary slot** puts the replacement where the member is found, and
    changes nothing that is new. -/
theorem IsOrdinary.assign {m : Member} (h : IsOrdinary since w m.name m.target)
    (hconvention : w.isClass m.target = false → m.convention = .plain) (hv : w.IsRoutine v)
    (hnew : ∀ s, v = .thing s → since.thing? s = none)
    (hsince : ∀ s, w.thing? s = none → since.thing? s = none)
    (hassign : Attempt.Gives (m.assign call v) w () w') :
    ∃ x, w'.member m.target x = (m.convention, v) ∧ Puts since w m.name x m.target w' := by
  obtain ⟨x, w₁, hwrap, hput⟩ := Member.assign_gives hassign
  have hclass : m.convention ≠ .plain → w.isClass m.target = true := by
    intro hwrapped
    by_contra hno
    exact hwrapped (hconvention (by simpa using hno))
  obtain ⟨hplain, rfl, rfl⟩ | ⟨b, hb, rfl, rfl⟩ := Member.gives_rewrap hwrap
  · have hputs := h.put hput
    refine ⟨x, ?_, hputs⟩
    rw [member, hplain, (hputs.isRoutine hnew hv).unwrap, ite_self]
  · have hwrapped : m.convention ≠ .plain := by rcases hb with ⟨hb, -⟩ | ⟨hb, -⟩ <;> simp [hb]
    obtain ⟨hputs, hclass', hbody⟩ := h.putWrapped (hclass hwrapped) hsince hput
    refine ⟨_, ?_, hputs⟩
    rw [member, if_pos hclass', unwrap, hbody]
    rcases hb with ⟨hb, rfl⟩ | ⟨hb, rfl⟩ <;> rw [hb]

/-- An object that keeps its attributes for itself has ordinary slots. -/
theorem isOrdinary_of_namespace {since w : World} {r : Ref} {name : String}
    (hbody : w.body? (.thing r) = some .namespace) (hname : name ≠ "__dict__")
    (there : since.thing? r ≠ none) : IsOrdinary since w name (.thing r) := by
  have hcls := classOf_namespace hbody
  refine .own hbody (by simpa [Machine.Body.leaves] using hname) ⟨?_, ?_⟩ ?_ there
  · exact .inr (by rw [hcls, findMade_supplied])
  · refine .inr ?_
    rw [hcls, findMade_supplied]
    nofun
  · rw [hcls]
    simp [classOrder]

theorem isOrdinary_namespace {since w : World} {r : Ref} {name : String} {t : Thing}
    (hr : since.thing? r = some t) (hbody : t.body = .namespace) (hname : name ≠ "__dict__")
    (h : Undisturbed since w) : IsOrdinary since w name (.thing r) := by
  have hthing : w.thing? r = some t := h.dict hr (by simp [hbody]) (by simp [hbody])
  refine isOrdinary_of_namespace ?_ hname (by simp [hr])
  rw [body?, hthing, Option.map_some, hbody]

end World

/-! ### Patching a member -/

namespace Patch

variable {call : Caller} {target member : Value} {spec : Option Spec} {w w₁ w₂ w' : World}
  {x : Prepared}

theorem Wraps.isRoutine {v id wrapped : Value} {patch : Ref} {hooks : Hooks}
    (h : Wraps w v patch id wrapped hooks) : w.IsRoutine v := by
  obtain ⟨f, hbody, -⟩ := h.wrapper
  exact .inl ⟨f, hbody⟩

/-- A wrapper that a target keeps is found there. -/
theorem Wraps.lookup {v id wrapped : Value} {patch : Ref} {hooks : Hooks} {name : String}
    (h : Wraps w v patch id wrapped hooks) (hkeeps : w.Keeps name v target) (call : Caller) :
    ∃ w₁, (Member.lookup call target name).Gives w (some (.plain, v)) w₁ ∧ w.AddsOne w₁ := by
  have hmember : w.member target v = (.plain, v) := by
    rw [World.member, h.isRoutine.unwrap, ite_self]
  obtain ⟨w₁, hfound, hadds⟩ := hkeeps.lookup call
  rw [hmember] at hfound
  exact ⟨w₁, hfound, hadds⟩

/-- A patched member in an ordinary slot of what is no class is the wrapper. -/
theorem Applies.keeps (hcall : call.Confined) (h : Applies call target member spec w x w₁ w₂ w')
    (hordinary : World.IsOrdinary w w₁ x.member.name x.member.target)
    (hclass : w₁.isClass x.member.target = false) :
    w'.Keeps x.member.name x.wrapper x.member.target := by
  have hready := prepare_readies hcall h.prepared
  obtain ⟨w₀, hresolve, hlasts⟩ := hready.found
  obtain ⟨htarget, -, hlookup⟩ := Member.resolve_looks hresolve
  -- What is found in a target that is no class is not wrapped.
  have hplain : x.member.convention = .plain := by
    refine Member.lookup_convention hlookup ?_
    by_contra hno
    rw [hlasts.isClass (by simpa [htarget] using hno)] at hclass
    cases hclass
  obtain ⟨r, hwrapper, hnew⟩ := hready.newWrapper
  have hfresh : ∀ s, x.wrapper = .thing s → w.thing? s = none := by
    intro s hs
    rw [hwrapper] at hs
    cases hs
    exact hnew
  obtain ⟨y, hmember, hputs⟩ := hordinary.assign (fun _ => hplain) hready.wraps.isRoutine hfresh
    (fun s => hready.lasts.missing) h.assigned
  rw [World.member, if_neg (by simp [hputs.isClass, hclass])] at hmember
  obtain rfl : y = x.wrapper := (Prod.mk.inj hmember).2
  exact hputs.keeps.congr (conclude_things h.concluded)

end Patch

end Graft
