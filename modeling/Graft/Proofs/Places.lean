import Graft.Proofs.Slots

set_option autoImplicit false

/-! # Places

What a target has itself under a name is in one place of the heap: an item of a dictionary, or an
attribute of a thing.  It is found when the target is looked at under that name, whatever the classes
of the target have, and it is there as long as nothing else is put into that place. -/

namespace Graft

open Machine Data

/-! ## One place of the heap -/

namespace Machine

theorem Table.filter_set (t : Table) (name : String) (v : Value) :
    (t.set name v).filter (·.1 != name) = List.filter (·.1 != name) t := by
  induction t with
  | nil => simp [Table.set]
  | cons e t ih =>
    obtain ⟨n, u⟩ := e
    unfold Table.set
    by_cases hn : n = name
    · simp [hn]
    · rw [if_neg (by simpa using hn), List.filter_cons, List.filter_cons, ih]

/-- A thing before and after its attribute of a name, or the item of a dictionary, has become another
    one: the other ones are the same and in the same order. -/
inductive Thing.DiffersAt (name : String) : Thing → Thing → Prop
  | ofTable (body : Body) {table table' : Table}
      (others : table'.filter (·.1 != name) = table.filter (·.1 != name)) :
      DiffersAt name { body, table } { body, table := table' }
  | ofEntries (table : Table) {es es' : List Entry}
      (others : es'.filter (·.hash != .ofText name) = es.filter (·.hash != .ofText name)) :
      DiffersAt name { body := .dict es, table } { body := .dict es', table }

/-- A thing before and after something has been put into it under a name. -/
inductive Thing.PutAt (name : String) (x : Value) : Thing → Thing → Prop
  | inTable (t : Thing) : PutAt name x t { t with table := t.table.set name x }
  | inEntries (es : List Entry) (table : Table) : PutAt name x { body := .dict es, table }
      { body := .dict (World.setEntry (.ofText name) (.str name) x es), table }

end Machine

namespace World

theorem filter_setEntry (k : Key) (key v : Value) (es : List Entry) :
    (setEntry k key v es).filter (·.hash != k) = es.filter (·.hash != k) := by
  induction es with
  | nil => simp [setEntry]
  | cons e es ih =>
    unfold setEntry
    by_cases hk : e.hash = k
    · simp [hk]
    · rw [if_neg (by simpa using hk), List.filter_cons, List.filter_cons, ih]

theorem putAt_differsAt {name : String} {x : Value} {t t' : Thing} (h : t.PutAt name x t') :
    t.DiffersAt name t' := by
  cases h with
  | inTable => exact .ofTable t.body (Table.filter_set t.table name x)
  | inEntries es table => exact .ofEntries table (filter_setEntry _ _ _ es)

/-- Everything is as it was, and there may be new things. -/
structure Grown (w w' : World) : Prop where
  things : ∀ r t, w.thing? r = some t → w'.thing? r = some t
  rest : { w' with things := w.things } = w

/-- Everything is as it was but for what a thing has under a name, and there may be new things. -/
structure DiffersAt (w : World) (s : Ref) (name : String) (w' : World) : Prop where
  others : ∀ r t, r ≠ s → w.thing? r = some t → w'.thing? r = some t
  place : ∀ t, w.thing? s = some t → ∃ t', w'.thing? s = some t' ∧ t.DiffersAt name t'
  rest : { w' with things := w.things } = w

variable {w w₁ w₂ w' : World} {r s : Ref} {name : String}

namespace Grown

theorem refl (w : World) : w.Grown w := ⟨fun _ _ ht => ht, rfl⟩

theorem trans (h : w.Grown w₁) (h' : w₁.Grown w₂) : w.Grown w₂ where
  things r t ht := h'.things r t (h.things r t ht)
  rest := by
    have hfirst := h.rest
    rw [← h'.rest] at hfirst
    exact hfirst

theorem alloc (w : World) (t : Thing) : w.Grown (w.alloc t).2 :=
  ⟨fun _ _ => thing?_alloc, rfl⟩

theorem of_raised {h : Halt} (hraised : w.Raised h w') : w.Grown w' := by
  obtain ⟨cls, args, -, rfl⟩ := hraised
  exact alloc w _

theorem differsAt (h : w.Grown w₁) (h' : w₁.DiffersAt s name w₂) : w.DiffersAt s name w₂ where
  others r t hr ht := h'.others r t hr (h.things r t ht)
  place t ht := h'.place t (h.things s t ht)
  rest := by
    have hfirst := h.rest
    rw [← h'.rest] at hfirst
    exact hfirst

end Grown

/-- Something has been put into a thing under a name, which is all that has changed. -/
def PutAt (w : World) (s : Ref) (name : String) (x : Value) (w' : World) : Prop :=
  ∃ f, w' = w.change s f ∧ ∀ t, w.thing? s = some t → t.PutAt name x (f t)

theorem putAt_attribute (w : World) (s : Ref) (name : String) (x : Value) :
    w.PutAt s name x (w.change s fun t => { t with table := t.table.set name x }) :=
  ⟨_, rfl, fun t _ => .inTable t⟩

theorem putAt_item {es : List Entry} (hdict : w.body? (.thing s) = some (.dict es)) (x : Value) :
    w.PutAt s name x (w.change s fun t =>
      { t with body := .dict (setEntry (.ofText name) (.str name) x es) }) := by
  refine ⟨_, rfl, fun t ht => ?_⟩
  obtain ⟨body, table⟩ := t
  rw [body?, ht] at hdict
  obtain rfl : body = .dict es := Option.some.inj hdict
  exact .inEntries es table

theorem PutAt.differsAt {x : Value} (h : w.PutAt s name x w') : w.DiffersAt s name w' := by
  obtain ⟨f, rfl, hf⟩ := h
  exact {
    others := fun r t hr ht => by rw [thing?_change, if_neg hr, ht]
    place := fun t ht => ⟨f t, by rw [thing?_change, if_pos rfl, ht]; rfl, putAt_differsAt (hf t ht)⟩
    rest := rfl }

namespace DiffersAt

/-- A thing that is no dictionary is what it was, whatever attributes it has. -/
theorem body?_eq {v : Value} {b : Body} (h : w.DiffersAt s name w') (hb : w.body? v = some b)
    (hdict : ∀ es, b ≠ .dict es) : w'.body? v = some b := by
  cases v with
  | thing r =>
    obtain ⟨t, ht, rfl⟩ := Option.map_eq_some_iff.1 hb
    by_cases hr : r = s
    · subst hr
      obtain ⟨t', ht', hdiffers⟩ := h.place t ht
      rw [body?, ht']
      cases hdiffers with
      | ofTable => rfl
      | ofEntries => exact absurd rfl (hdict _)
    · rw [body?, h.others r t hr ht]
      rfl
  | _ => cases hb

theorem isClass {v : Value} (h : w.DiffersAt s name w') (hthere : ∀ r, v = .thing r →
    w.thing? r ≠ none) : w'.isClass v = w.isClass v := by
  cases v with
  | thing r =>
    obtain ⟨t, ht⟩ := Option.ne_none_iff_exists'.1 (hthere r rfl)
    by_cases hr : r = s
    · subst hr
      obtain ⟨t', ht', hdiffers⟩ := h.place t ht
      cases hdiffers <;> simp [World.isClass, madeClass?, body?, ht, ht']
    · simp [World.isClass, madeClass?, body?, ht, h.others r t hr ht]
  | _ => rfl

/-- The attributes of every other thing are what they were. -/
theorem table_eq (h : w.DiffersAt s name w') (hr : r ≠ s) (hthere : w.thing? r ≠ none) :
    w'.table r = w.table r := by
  obtain ⟨t, ht⟩ := Option.ne_none_iff_exists'.1 hthere
  rw [table, table, h.others r t hr ht, ht]

end DiffersAt

end World

/-- Whether a thing keeps its attributes for itself, whatever their names. -/
def Machine.Body.isObject : Body → Bool
  | .namespace | .module _ | .instance _ => true
  | _ => false

theorem Machine.Body.isObject_cases {b : Body} (h : b.isObject = true) :
    b = .namespace ∨ (∃ n, b = .module n) ∨ ∃ c, b = .instance c := by
  unfold isObject at h
  split at h
  · exact .inl rfl
  · exact .inr (.inl ⟨_, rfl⟩)
  · exact .inr (.inr ⟨_, rfl⟩)
  · cases h

namespace World

variable {w w' : World} {r : Ref} {name : String} {x v target : Value}

theorem isClass_object {b : Body} (hbody : w.body? (.thing r) = some b)
    (hobject : b.isObject = true) : w.isClass (.thing r) = false := by
  rcases Body.isObject_cases hobject with rfl | ⟨n, rfl⟩ | ⟨c, rfl⟩ <;>
    simp [isClass, madeClass?, hbody]

theorem isMutableMapping_object {b : Body} (hbody : w.body? (.thing r) = some b)
    (hobject : b.isObject = true) : w.isMutableMapping (.thing r) = false := by
  rcases Body.isObject_cases hobject with rfl | ⟨n, rfl⟩ | ⟨c, rfl⟩ <;>
    simp [isMutableMapping, hbody]

/-- A thing does not answer to a name itself, but leaves it to its attributes. -/
def LeavesTo (w : World) (b : Body) (name : String) : Prop :=
  name = "__dict__" → ∃ c, b = .instance c ∧
    (((w.madeClass? c).map MadeClass.hasTable).getD false = false ∨ (w.findMade c name).isSome)

/-- The names under which a class can not have a callable. -/
def fixedNames : List String :=
  ["__name__", "__qualname__", "__dict__", "__bases__", "__base__", "__mro__", "__class__"]

/-! ## What a target has itself -/

/-- A target has something under a name, where it is found first: as an item, as an attribute of an
    object that no getter answers for, or as a member of a class. -/
inductive Owns (w : World) (name : String) (x : Value) : Value → Prop
  | item {r : Ref} (mapping : w.isMutableMapping (.thing r) = true)
      (found : ((w.entriesOf r).find? (·.hash == .ofText name)).map Entry.value = some x) :
      Owns w name x (.thing r)
  | object {r : Ref} {b : Body} (body : w.body? (.thing r) = some b) (isObject : b.isObject = true)
      (plain : w.HasNoProperty (.thing r) name) (leaves : w.LeavesTo b name)
      (found : (w.table r).get? name = some x) : Owns w name x (.thing r)
  | ofClass {r : Ref} {c : MadeClass} (body : w.body? (.thing r) = some (.cls c))
      (first : c.order.head? = some (.thing r)) (free : name ∉ fixedNames)
      (found : (w.table r).get? name = some x) : Owns w name x (.thing r)

/-- The thing that what is put into a target goes to. -/
def keeper (w : World) (r : Ref) : Ref :=
  if w.isMutableMapping (.thing r) then
    match w.body? (.thing (w.store r)) with
    | some (.attributes owner) => owner
    | _ => w.store r
  else r

theorem keeper_class (hclass : w.isClass (.thing r) = true) : w.keeper r = r := by
  have hmapping : w.isMutableMapping (.thing r) = false := by
    by_contra hmapping
    rw [isClass_mapping (by simpa using hmapping)] at hclass
    cases hclass
  rw [keeper, if_neg (by simp [hmapping])]

/-- A value can be put into a slot as a callable: a function or what is bound, or a static or class
    method. -/
def IsSlotValue (w : World) (x : Value) : Prop :=
  w.IsRoutine x ∨ (∃ f, w.body? x = some (.staticMethod f)) ∨ ∃ f, w.body? x = some (.classMethod f)

variable {call : Caller} {w w' : World} {r : Ref} {name : String} {x v target : Value}

namespace IsSlotValue

theorem isThing (h : w.IsSlotValue x) : ∃ s, x = .thing s := by
  cases x with
  | thing s => exact ⟨s, rfl⟩
  | _ => rcases h with (⟨_, h⟩ | ⟨_, _, h⟩) | ⟨_, h⟩ | ⟨_, h⟩ <;> cases h

theorem no_dict (h : w.IsSlotValue x) (es : List Entry) : w.body? x ≠ some (.dict es) := by
  intro hdict
  rcases h with (⟨f, hf⟩ | ⟨g, self, hm⟩) | ⟨f, hf⟩ | ⟨f, hf⟩ <;> simp_all

theorem no_class (h : w.IsSlotValue x) : w.isClass x = false := by
  obtain ⟨s, rfl⟩ := h.isThing
  rcases h with (⟨f, hf⟩ | ⟨g, self, hm⟩) | ⟨f, hf⟩ | ⟨f, hf⟩ <;> simp_all [isClass, madeClass?]

end IsSlotValue

theorem DiffersAt.isRoutine {s : Ref} (h : w.DiffersAt s name w') (hv : w.IsRoutine v) :
    w'.IsRoutine v := by
  rcases hv with ⟨f, hf⟩ | ⟨g, self, hm⟩
  · exact .inl ⟨f, h.body?_eq hf nofun⟩
  · exact .inr ⟨g, self, h.body?_eq hm nofun⟩

theorem DiffersAt.unwrap {s : Ref} (h : w.DiffersAt s name w') (hx : w.IsSlotValue x) :
    w'.unwrap x = w.unwrap x := by
  rcases hx with (⟨f, hf⟩ | ⟨g, self, hf⟩) | ⟨f, hf⟩ | ⟨f, hf⟩ <;>
    rw [World.unwrap, World.unwrap, hf, h.body?_eq hf (by rintro _ ⟨⟩)]

theorem DiffersAt.isSlotValue {s : Ref} (h : w.DiffersAt s name w') (hx : w.IsSlotValue x) :
    w'.IsSlotValue x := by
  rcases hx with hroutine | ⟨f, hf⟩ | ⟨f, hf⟩
  · exact .inl (h.isRoutine hroutine)
  · exact .inr (.inl ⟨f, h.body?_eq hf nofun⟩)
  · exact .inr (.inr ⟨f, h.body?_eq hf nofun⟩)

/-- What a class has itself is among its attributes. -/
theorem Owns.ofClass_table (h : w.Owns name x target) (hclass : w.isClass target = true) :
    ∃ r, target = .thing r ∧ (w.table r).get? name = some x := by
  cases h with
  | item mapping => simp [isClass_mapping mapping] at hclass
  | object body isObject => simp [isClass_object body isObject] at hclass
  | ofClass body first free found => exact ⟨_, rfl, found⟩

/-! ### Looking it up -/

theorem find?_attributes (t : Table) (name : String) :
    ((t.map fun (n, v) => (⟨.ofText n, .str n, v⟩ : Entry)).find? (·.hash == .ofText name)).map
      Entry.value = t.get? name := by
  have hsame : ∀ n : String, (Key.ofText n == Key.ofText name) = (n == name) := by
    intro n
    rw [Bool.eq_iff_iff]
    simp [Key.ofText, Key.ofPart]
  induction t with
  | nil => rfl
  | cons e t ih =>
    obtain ⟨n, u⟩ := e
    unfold Table.get? at ih ⊢
    rw [List.map_cons, List.find?_cons, List.find?_cons]
    dsimp only
    rw [hsame]
    cases hn : n == name with
    | true => rfl
    | false => exact ih

/-- What an object leaves to its attributes is read from them. -/
theorem bodyAttr_leavesTo {b : Body} (hobject : b.isObject = true) (hleaves : w.LeavesTo b name)
    (hhas : (w.table r).has name = true) : (bodyAttr r b name).Gives w none w := by
  unfold bodyAttr
  rcases Body.isObject_cases hobject with rfl | ⟨n, rfl⟩ | ⟨c, rfl⟩
  · have hname : name ≠ "__dict__" := by
      rintro rfl
      simpa using hleaves rfl
    simp [hname]
  · have hname : name ≠ "__dict__" := by
      rintro rfl
      simpa using hleaves rfl
    dsimp only
    split
    · exact absurd rfl hname
    · simp [Run.gives_map, hhas]
    · simp
  · refine Run.gives_bind_world.2 ?_
    dsimp only
    rw [if_neg]
    · exact Run.gives_pure.2 ⟨rfl, rfl⟩
    · intro hdict
      obtain ⟨⟨hname, htable⟩, hmissing⟩ : (name = "__dict__" ∧
          ((w.madeClass? c).map MadeClass.hasTable).getD false = true) ∧
            (w.findMade c name).isNone = true := by simpa using hdict
      -- The table is read through its own attribute unless the class has none or keeps another
      -- there.
      obtain ⟨_, ⟨⟩, hno | hsome⟩ := hleaves hname
      · rw [hno] at htable
        cases htable
      · simp_all

/-- What an object has among its attributes is looked up there. -/
theorem lookup_object {b : Body} (hbody : w.body? (.thing r) = some b) (hobject : b.isObject = true)
    (hproperty : w.HasNoProperty (.thing r) name) (hleaves : w.LeavesTo b name)
    (hfound : (w.table r).get? name = some x) (call : Caller) :
    (Member.lookup call (.thing r) name).Gives w (some (w.member (.thing r) x)) w := by
  have hclass := isClass_object hbody hobject
  have hmapping := isMutableMapping_object hbody hobject
  obtain ⟨t, ht, rfl⟩ := Option.map_eq_some_iff.1 hbody
  have htable : t.table.get? name = some x := by
    rw [← hfound, table, ht]
    rfl
  have hsuper : ∀ cls self, t.body ≠ .super cls self := by
    rcases Body.isObject_cases hobject with hb | ⟨n, hb⟩ | ⟨c, hb⟩ <;> simp [hb]
  have hhas : (w.table r).has name = true := by
    obtain ⟨e, he, -⟩ := Option.map_eq_some_iff.1 hfound
    exact List.any_eq_true.2 ⟨e, List.mem_of_find?_eq_some he, by simpa using List.find?_some he⟩
  have hread : (getAttr call (.thing r) name).Gives w x w :=
    getAttr_of_plainAttr (plainAttr_gives ht hclass hproperty hsuper
      (bodyAttr_leavesTo hobject hleaves hhas) htable)
  refine (Member.gives_lookup_attr hmapping).2 ⟨some x, getAttr?_of_getAttr hread, ?_⟩
  rw [member, hclass, if_neg (by simp), if_neg (by simp)]
  rfl

/-- Two names of every class are those of attributes that the class has itself. -/
theorem typeAttr_own {c : MadeClass} (hbody : w.body? (.thing r) = some (.cls c))
    (hname : name = "__doc__" ∨ name = "__annotations__")
    (hfound : (w.table r).get? name = some x) :
    (typeAttr (.thing r) name).Gives w (some x) w := by
  have hthing : (w.thing? r).map Thing.body = some (.cls c) := hbody
  unfold typeAttr
  refine Run.gives_bind_world.2 ?_
  rcases hname with rfl | rfl
  · simp [hthing, hfound]
  · simp [hthing, hfound]

/-- What is not wrapped is the value itself. -/
theorem eq_of_unwrap (h : w.unwrap x = (.plain, v)) : x = v := by
  obtain ⟨f, -, hunwrap⟩ | ⟨f, -, hunwrap⟩ | ⟨hunwrap, -⟩ := w.unwrap_cases x <;>
    rw [hunwrap] at h <;> cases h
  rfl

/-- What a class has itself is looked up in the class. -/
theorem lookup_class {c : MadeClass} (hbody : w.body? (.thing r) = some (.cls c))
    (hfirst : c.order.head? = some (.thing r)) (hname : name ∉ fixedNames)
    (hfound : (w.table r).get? name = some x) (call : Caller) :
    ∃ w₁, (Member.lookup call (.thing r) name).Gives w (some (w.member (.thing r) x)) w₁ ∧
      w.AddsOne w₁ := by
  by_cases hordinary : name ∉ classNames
  · exact (Keeps.ofClass hbody hfirst hordinary hfound).lookup call
  have hown : name = "__doc__" ∨ name = "__annotations__" := by
    simp only [fixedNames, classNames, List.mem_cons, List.not_mem_nil, or_false] at hname hordinary
    tauto
  have hclass : w.isClass (.thing r) = true ∧ w.isMutableMapping (.thing r) = false := by
    simp [isClass, madeClass?, isMutableMapping, hbody]
  have hread : (getAttr call (.thing r) name).Gives w x w := by
    refine getAttr_of_plainAttr ?_
    unfold plainAttr
    refine Run.gives_bind_world.2 ?_
    rw [if_pos hclass.1]
    unfold classAttr
    refine Run.gives_bind_world.2 (Run.gives_bind.2 ⟨some x, w, typeAttr_own hbody hown hfound, ?_⟩)
    exact Run.gives_pure.2 ⟨rfl, rfl⟩
  refine ⟨w, (Member.gives_lookup_attr hclass.2).2 ⟨some x, getAttr?_of_getAttr hread, ?_⟩, .inl rfl⟩
  rw [if_pos hclass.1, member, if_pos hclass.1]
  exact (unwrapped?_or (findMade_first hbody hfirst hfound) fun _ => eq_of_unwrap).symm

/-- **What a target has itself is found**, without the wrapping if the target is a class. -/
theorem Owns.lookup (h : w.Owns name x target) (call : Caller) :
    ∃ w₁, (Member.lookup call target name).Gives w (some (w.member target x)) w₁ ∧
      w.AddsOne w₁ := by
  cases h with
  | item mapping found => exact (Keeps.entry mapping found).lookup call
  | object body isObject plain leaves found =>
    exact ⟨w, lookup_object body isObject plain leaves found call, .inl rfl⟩
  | ofClass body first free found => exact lookup_class body first free found call

theorem Owns.congr (h : w.Owns name x target) (hthings : w'.things = w.things) :
    w'.Owns name x target := by
  have hbody : w'.body? = w.body? := funext (body?_congr hthings)
  cases h with
  | item mapping found =>
    refine .item ?_ (by rw [entriesOf_congr hthings, found])
    rw [isMutableMapping, hbody]
    exact mapping
  | object body isObject plain leaves found =>
    refine .object (by rw [hbody, body]) isObject ?_ ?_ (by rw [table_congr hthings, found])
    · intro g s
      rw [classOf_congr hthings, findMade_congr hthings, hbody]
      exact plain g s
    · intro hname
      obtain ⟨c, rfl, hleft⟩ := leaves hname
      exact ⟨c, rfl, by rwa [madeClass?, hbody, findMade_congr hthings]⟩
  | ofClass body first free found =>
    exact .ofClass (by rw [hbody, body]) first free (by rw [table_congr hthings, found])

/-- What a target has itself is resolved if it can be called. -/
theorem Owns.resolve {member : Value} {convention : Convention} (h : w.Owns name x target)
    (hmember : w.member target x = (convention, v)) (hv : w.IsRoutine v)
    (hname : member.isNone = false) (htext : w.text member = name) (call : Caller) :
    ∃ w₁, Attempt.Gives (Member.resolve call target member) w
        { target, name, value := v, convention } w₁ ∧ w.AddsOne w₁ := by
  obtain ⟨w₁, hlookup, hadds⟩ := h.lookup call
  have htarget : target.isNone = false := by cases h <;> rfl
  rw [hmember, ← htext] at hlookup
  have hresolve := Member.gives_resolve (m := ⟨target, w.text member, v, convention⟩) |>.2
    ⟨htarget, hname, rfl, rfl, hlookup, (hv.addsOne hadds).isCallable⟩
  rw [htext] at hresolve
  exact ⟨w₁, hresolve, hadds⟩

end World

end Graft
