import Graft.Proofs.Places

set_option autoImplicit false

/-! # Writing members back

Looking a member up goes through what classes inherit, through bindings and through the wrapping of
static and class methods; replacing it goes to the target itself.  The two fit together: what has
been put in the place of a member is found there again, wrapped as the member was, and nothing but
that one place has changed.  A target that refuses leaves everything as it was.

This is so for mappings, namespaces, modules, instances and classes, as long as code of the target
that takes part when attributes are set does so only to refuse. -/

namespace Graft

open Machine Data

namespace World

/-! ## Targets -/

/-- A function only refuses: calling it raises something and leaves everything as it was. -/
def OnlyRefuses (call : Caller) (w : World) (f : Value) : Prop :=
  ∀ args w₁, w.Grown w₁ → (call f args).Ends w₁ (fun _ _ => False) fun _ w₂ => w₁.Grown w₂

/-- Code of a value that takes part when an attribute of it is set does so only to refuse. -/
structure SettersRefuse (call : Caller) (w : World) (v : Value) (name : String) : Prop where
  setter : ∀ f, w.findMade (w.classOf v) "__setattr__" = some f → w.OnlyRefuses call f
  property : ∀ g s, (w.findMade (w.classOf v) name).bind w.body? = some (.property g s) →
    s ≠ .none → w.OnlyRefuses call s

/-- What can hold callables: a mapping that can be changed, an object, the classes of which are
    classes, and a class. -/
inductive IsTarget (call : Caller) (w : World) (name : String) : Value → Prop
  | items {r : Ref} {es : List Entry} (mapping : w.isMutableMapping (.thing r) = true)
      (store : w.body? (.thing (w.store r)) = some (.dict es)) : IsTarget call w name (.thing r)
  | attributes {r owner : Ref} {t : Thing} (mapping : w.isMutableMapping (.thing r) = true)
      (store : w.body? (.thing (w.store r)) = some (.attributes owner))
      (there : w.thing? owner = some t) : IsTarget call w name (.thing r)
  | object {r : Ref} {b : Body} (body : w.body? (.thing r) = some b) (isObject : b.isObject = true)
      (classes : ∀ s, .thing s ∈ w.classOrder (w.classOf (.thing r)) → w.isClass (.thing s) = true)
      (setters : w.SettersRefuse call (.thing r) name) : IsTarget call w name (.thing r)
  | cls {r : Ref} {c : MadeClass} (body : w.body? (.thing r) = some (.cls c))
      (first : c.order.head? = some (.thing r)) : IsTarget call w name (.thing r)
  | supplied (cls : String) : IsTarget call w name (.cls cls)

variable {call : Caller} {w w' : World} {r : Ref} {name : String} {x v target : Value}

/-! ## What a write does -/

/-- A write has put something into a target, which has it itself from then on; nothing else has
    changed. -/
structure Written (w : World) (name : String) (x target : Value) (w' : World) : Prop where
  owns : w'.Owns name x target
  puts : ∃ r, target = .thing r ∧ w.PutAt (w.keeper r) name x w'

/-! ### Mappings -/

/-- A mapping has the entries of the thing that what is put into it goes to. -/
theorem entriesOf_attributes {owner : Ref} (hmapping : w.isMutableMapping (.thing r) = true)
    (hstore : w.body? (.thing (w.store r)) = some (.attributes owner)) :
    w.entriesOf r = (w.table owner).map fun (n, v) => ⟨.ofText n, .str n, v⟩ := by
  have hthing : (w.thing? (w.store r)).map Thing.body = some (.attributes owner) := hstore
  unfold isMutableMapping at hmapping
  rw [body?_thing] at hmapping
  unfold store at hthing
  unfold entriesOf
  split at hmapping
  · rename_i hbody
    rw [hbody] at hthing
    simp only [hbody] at hthing
    cases hthing
  · rename_i hbody
    rw [hbody] at hthing
    simp only [hthing] at hbody ⊢
  · rename_i hbody
    rw [hbody] at hthing
    simp only [hbody, hthing]
  · cases hmapping

theorem putEntry_written {es : List Entry} (hmapping : w.isMutableMapping (.thing r) = true)
    (hstore : w.body? (.thing (w.store r)) = some (.dict es)) :
    Written w name x (.thing r) (w.change (w.store r) fun t =>
      { t with body := .dict (setEntry (.ofText name) (.str name) x es) }) := by
  obtain ⟨hmapping', hstore'⟩ :=
    store_setBody hmapping hstore (setEntry (.ofText name) (.str name) x es)
  have hkeeper : w.keeper r = w.store r := by
    rw [keeper, if_pos hmapping, hstore]
  refine ⟨.item hmapping' ?_, r, rfl, ?_⟩
  · rw [entriesOf_store hmapping' hstore']
    exact find?_setEntry _ _ _ _
  · rw [hkeeper]
    exact putAt_item hstore x

theorem putAttribute_written {owner : Ref} {t : Thing}
    (hmapping : w.isMutableMapping (.thing r) = true)
    (hstore : w.body? (.thing (w.store r)) = some (.attributes owner))
    (howner : w.thing? owner = some t) :
    Written w name x (.thing r)
      (w.change owner fun t => { t with table := t.table.set name x }) := by
  have hbody := body?_changeTable (w := w) (r := owner) (g := (·.set name x))
  have hkeeper : w.keeper r = owner := by
    rw [keeper, if_pos hmapping, hstore]
  have hthing : ∀ s, ((w.change owner fun t => { t with table := t.table.set name x }).thing? s).map
      Thing.body = (w.thing? s).map Thing.body := fun s => hbody (.thing s)
  have hmapping' : (w.change owner fun t =>
      { t with table := t.table.set name x }).isMutableMapping (.thing r) = true := by
    rw [isMutableMapping, hbody]
    exact hmapping
  have hsame : (w.change owner fun t => { t with table := t.table.set name x }).store r =
      w.store r := by
    rw [store, hthing, store]
  refine ⟨.item hmapping' ?_, r, rfl, ?_⟩
  · rw [entriesOf_attributes hmapping' (by rw [hsame, hbody, hstore]), find?_attributes,
      table_change howner, Table.get?_set_self]
  · rw [hkeeper]
    exact putAt_attribute w owner name x

/-- Putting something into a mapping changes where its entries are kept, or raises an error. -/
theorem putEntry_ends {b : Body} {good : Unit → World → Prop}
    (hstore : w.body? (.thing (w.store r)) = some b)
    (hgood : match b with
      | .dict es => good () (w.change (w.store r) fun t =>
          { t with body := .dict (setEntry (.ofText name) (.str name) x es) })
      | .attributes owner =>
        good () (w.change owner fun t => { t with table := t.table.set name x })
      | _ => good () w) :
    (putEntry r (.str name) x).Ends w good w.Raised := by
  have hkey : w.keyOf (.str name) = .ok (.ofText name) := rfl
  have hthing : (w.thing? (w.store r)).map Thing.body = some b := hstore
  unfold putEntry hashOf
  rw [Run.ends_bind, Run.ends_world]
  split
  · exact raise_raises _ _ _
  · simp only [Run.ends_bind, Run.ends_world, hkey, Run.ends_pure, hthing]
    cases b <;> exact hgood

/-! ### Objects -/

/-- An object that can be given an attribute leaves it to its attributes. -/
theorem ends_unlessGiven_object {b : Body} {rest : Run Unit} {good : Unit → World → Prop}
    {bad : Halt → World → Prop} (hbody : w.body? (.thing r) = some b) (hobject : b.isObject = true)
    (hx : w.IsSlotValue x) (hbad : ∀ e w', w.Raised e w' → bad e w')
    (hrest : w.LeavesTo b name → rest.Ends w good bad) :
    Run.Ends (do
      if (w.findMade (w.classOf (.thing r)) name).isNone then refuseGiven (.thing r) name x
      rest) w good bad := by
  by_cases hleaves : w.LeavesTo b name
  · exact ends_unlessGiven hbad (hrest hleaves)
  -- The name is that of the dictionary of an object, which can not be replaced by a callable.
  obtain ⟨rfl, hnone⟩ := Classical.not_imp.1 hleaves
  obtain ⟨t, ht, htb⟩ := Option.map_eq_some_iff.1 hbody
  have hcls : w.classOf (.thing r) = classOfBody b := by simp only [classOf, ht, htb]
  have hrefuses : (w.findMade (w.classOf (.thing r)) "__dict__").isNone = true ∧
      (refuseGiven (.thing r) "__dict__" x).Ends w (fun _ _ => False) w.Raised := by
    rw [hcls]
    unfold refuseGiven
    rw [Run.ends_bind, Run.ends_world, hbody]
    rcases Body.isObject_cases hobject with rfl | ⟨n, rfl⟩ | ⟨c, rfl⟩
    · exact ⟨by simp [classOfBody, findMade_supplied], refuseReadOnly_raises _⟩
    · exact ⟨by simp [classOfBody, findMade_supplied], refuseReadOnly_raises _⟩
    · obtain ⟨htable, hmissing⟩ : ((w.madeClass? c).map MadeClass.hasTable).getD false = true ∧
          w.findMade c "__dict__" = none := by simpa using hnone
      refine ⟨by simp [classOfBody, hmissing], ?_⟩
      split
      case h_4 => exact absurd ‹_› (hx.no_dict _)
      case h_7 _ hinstance _ =>
        cases hinstance
        rw [if_pos htable]
        exact refuseDict_raises _ _
      all_goals simp_all
  rw [if_pos hrefuses.1, Run.ends_bind]
  exact hrefuses.2.imp (fun _ _ h => h.elim) hbad

/-- Setting an attribute of an object puts it into the attributes of that object, or changes
    nothing. -/
theorem setAttr_object_ends {b : Body} (hbody : w.body? (.thing r) = some b)
    (hobject : b.isObject = true) (hsetters : w.SettersRefuse call (.thing r) name)
    (hx : w.IsSlotValue x) :
    (setAttr call (.thing r) name x).Ends w
      (fun _ w' => w' = w.change r (fun t => { t with table := t.table.set name x }) ∧
        w.HasNoProperty (.thing r) name ∧ w.LeavesTo b name)
      fun _ w' => w.Grown w' := by
  have hclass := isClass_object hbody hobject
  have hthing : (w.thing? r).map Thing.body = some b := hbody
  have hraised : ∀ e w', w.Raised e w' → w.Grown w' := fun _ _ => .of_raised
  -- What a setter of the target's class does is to refuse.
  have hcalls : ∀ f args {good : Unit → World → Prop}, w.OnlyRefuses call f →
      Run.Ends (do let _ ← Run.apply call f args) w good fun _ w' => w.Grown w' := by
    intro f args good hf
    rw [Run.ends_bind]
    exact (hf _ w (.refl w)).imp (fun _ _ h => h.elim) fun _ _ h => h
  unfold setAttr
  rw [Run.ends_bind, Run.ends_world]
  dsimp only
  split
  · exact (raise_raises _ _ _).imp (fun _ _ h => h) hraised
  simp only [hclass, Bool.false_eq_true, if_false]
  split
  · exact hcalls _ _ (hsetters.setter _ ‹_›)
  unfold setPlainAttr
  rw [Run.ends_bind, Run.ends_world, if_neg (by simp [hclass])]
  dsimp only
  split
  · exact (raise_raises _ _ _).imp (fun _ _ h => h) hraised
  · rename_i g s hnone hproperty
    exact hcalls _ _ (hsetters.property _ _ hproperty hnone)
  · rename_i hreadOnly hsetter
    have hproperty : w.HasNoProperty (.thing r) name := hsetter
    refine ends_unlessGiven_object hbody hobject hx hraised fun hleaves => ?_
    unfold setOwnAttr
    rw [Run.ends_bind, Run.ends_world]
    dsimp only
    rw [hthing]
    split
    · rename_i hfunction
      cases hfunction
      cases hobject
    · split
      · exact ⟨rfl, hproperty, hleaves⟩
      · exact (refuseAttr_raises _ _ _).imp (fun _ _ h => h) hraised

theorem setAttr_object_written {b : Body} (hbody : w.body? (.thing r) = some b)
    (hobject : b.isObject = true) (hapart : .thing r ∉ w.classOrder (w.classOf (.thing r)))
    (hproperty : w.HasNoProperty (.thing r) name) (hleaves : w.LeavesTo b name) :
    Written w name x (.thing r) (w.change r fun t => { t with table := t.table.set name x }) := by
  obtain ⟨t, ht, -⟩ := Option.map_eq_some_iff.1 hbody
  have hsame := body?_changeTable (w := w) (r := r) (g := (·.set name x))
  have hmade : ∀ c, (w.change r fun t => { t with table := t.table.set name x }).madeClass? c =
      w.madeClass? c := fun c => by rw [madeClass?, madeClass?, hsame]
  have hfind := findMade_changeTable (g := (·.set name x)) name hapart
  refine ⟨.object ((hsame _).trans hbody) hobject ?_ ?_ ?_, r, rfl, ?_⟩
  · intro g s
    rw [classOf_changeTable, hfind, funext hsame]
    exact hproperty g s
  · intro hname
    obtain ⟨c, rfl, hleft⟩ := hleaves hname
    have hcls : w.classOf (.thing r) = c := by
      rw [body?, ht] at hbody
      simp only [classOf, ht, Option.some.inj hbody, classOfBody]
    rw [hcls] at hfind
    exact ⟨c, rfl, by rwa [hmade, hfind]⟩
  · rw [table_change ht, Table.get?_set_self]
  · rw [keeper, if_neg (by simp [isMutableMapping_object hbody hobject])]
    exact putAt_attribute w r name x

/-! ### Classes -/

/-- What is set of a class runs no code of a program. -/
theorem setAttr_class_ends {good : Unit → World → Prop} (hclass : w.isClass v = true)
    (h : (setClassAttr v name x).Ends w good w.Raised) :
    (setAttr call v name x).Ends w good w.Raised := by
  unfold setAttr
  rw [Run.ends_bind, Run.ends_world]
  simp only [hclass, if_true]
  split
  · exact raise_raises _ _ _
  · unfold setPlainAttr
    rw [Run.ends_bind, Run.ends_world, if_pos hclass]
    exact h

/-- Setting an attribute of a class puts it into the attributes of that class, or changes nothing. -/
theorem setClassAttr_ends (hx : w.IsSlotValue x) :
    (setClassAttr (.thing r) name x).Ends w
      (fun _ w' => w' = w.change r (fun t => { t with table := t.table.set name x }) ∧
        name ∉ fixedNames) w.Raised := by
  obtain ⟨s, rfl⟩ := hx.isThing
  unfold setClassAttr
  rw [Run.ends_bind, Run.ends_world]
  dsimp only
  split
  case h_1 | h_2 | h_5 => cases ‹Value.thing s = _›
  case h_3 | h_4 | h_6 | h_9 => exact raise_raises _ _ _
  case h_7 | h_8 => exact refuseReadOnly_raises _
  case h_10 =>
    rw [if_neg (by simp [hx.no_class])]
    exact refuseClass_raises _ _
  case h_11 => exact ⟨rfl, by simp_all [fixedNames]⟩

theorem setClassAttr_written {c : MadeClass} (hbody : w.body? (.thing r) = some (.cls c))
    (hfirst : c.order.head? = some (.thing r)) (hname : name ∉ fixedNames) :
    Written w name x (.thing r) (w.change r fun t => { t with table := t.table.set name x }) := by
  obtain ⟨t, ht, -⟩ := Option.map_eq_some_iff.1 hbody
  have hbody' := (body?_changeTable (w := w) (r := r) (g := (·.set name x)) (.thing r)).trans hbody
  refine ⟨.ofClass hbody' hfirst hname ?_, r, rfl, ?_⟩
  · rw [table_change ht, Table.get?_set_self]
  · rw [keeper_class (by simp [isClass, madeClass?, hbody])]
    exact putAt_attribute w r name x

/-! ### Any target -/

/-- A write to a target is done, or changes nothing. -/
theorem IsTarget.put {m : Member} (h : w.IsTarget call m.name m.target) (hx : w.IsSlotValue x) :
    (m.put call x).Ends w (fun _ w' => Written w m.name x m.target w')
      fun _ w' => w.Grown w' := by
  obtain ⟨target, name, value, convention⟩ := m
  have hraised : ∀ e w', w.Raised e w' → w.Grown w' := fun _ _ => .of_raised
  unfold Member.put
  rw [Run.ends_bind, Run.ends_world]
  dsimp only at h ⊢
  -- Each kind of target is written in its own way; whatever raises has changed nothing.
  cases h with
  | items mapping store =>
    rw [mapping]
    exact (putEntry_ends store (putEntry_written mapping store)).imp (fun _ _ h => h) hraised
  | attributes mapping store there =>
    rw [mapping]
    exact (putEntry_ends store (putAttribute_written mapping store there)).imp (fun _ _ h => h)
      hraised
  | object body isObject classes setters =>
    rw [isMutableMapping_object body isObject]
    refine (setAttr_object_ends body isObject setters hx).imp ?_ fun _ _ h => h
    rintro _ _ ⟨rfl, hproperty, hleaves⟩
    refine setAttr_object_written body isObject (fun hmem => ?_) hproperty hleaves
    simpa [isClass_object body isObject] using classes _ hmem
  | @cls r c body first =>
    have hkind : w.isClass (.thing r) = true ∧ w.isMutableMapping (.thing r) = false := by
      simp [isClass, madeClass?, isMutableMapping, body]
    rw [hkind.2]
    refine (setAttr_class_ends hkind.1 (setClassAttr_ends hx)).imp ?_ hraised
    rintro _ _ ⟨rfl, hname⟩
    exact setClassAttr_written body first hname
  | supplied cls =>
    have hrefuses : (setClassAttr (.cls cls) name x).Ends w (fun _ _ => False) w.Raised := by
      unfold setClassAttr
      rw [Run.ends_bind, Run.ends_read]
      exact raise_raises _ _ _
    exact (setAttr_class_ends rfl hrefuses).imp (fun _ _ h => h.elim) hraised

theorem IsTarget.there (h : w.IsTarget call name target) (htarget : target = .thing r) :
    w.thing? r ≠ none := by
  subst htarget
  intro hnone
  cases h with
  | items mapping => simp [isMutableMapping, body?, hnone] at mapping
  | attributes mapping => simp [isMutableMapping, body?, hnone] at mapping
  | object body => simp [body?, hnone] at body
  | cls body => simp [body?, hnone] at body

theorem IsTarget.alloc {t : Thing} (h : w.IsTarget call name target)
    (hclass : w.isClass target = true) : (w.alloc t).2.IsTarget call name target := by
  cases h with
  | items mapping => simp [isClass_mapping mapping] at hclass
  | attributes mapping => simp [isClass_mapping mapping] at hclass
  | object body isObject => simp [isClass_object body isObject] at hclass
  | cls body first => exact .cls (body?_alloc body) first
  | supplied cls => exact .supplied cls

end World

/-! ## Replacing a member -/

namespace Member

variable {call : Caller} {w w₁ w' : World} {m : Member} {g x : Value}

/-- A member of a target has been replaced: it is found again as the replacement, called in the same
    way; a class has the replacement itself, in the same wrapping, and what other classes have is as it
    was; and nothing else has changed. -/
structure Replaced (call : Caller) (m : Member) (g : Value) (w w' : World) : Prop where
  found : ∀ name, name.isNone = false → w'.text name = m.name → ∃ w₂,
    Attempt.Gives (resolve call m.target name) w' { m with value := g } w₂ ∧ w'.AddsOne w₂
  own : w.isClass m.target = true → ∃ r x, m.target = .thing r ∧
    (w'.table r).get? m.name = some x ∧ w'.unwrap x = (m.convention, g) ∧
    ∀ old, w.findMade m.target m.name = some old → (w.unwrap old).1 = m.convention
  inherited : w.isClass m.target = true → ∀ s, .thing s ≠ m.target → w.thing? s ≠ none →
    w'.table s = w.table s
  differs : ∃ r, m.target = .thing r ∧ w.DiffersAt (w.keeper r) m.name w'

/-- A target has refused a replacement by raising something, which is told; nothing has changed. -/
structure Refused (call : Caller) (m : Member) (g : Value) (w : World) (r : Refusal) (w' : World) :
    Prop where
  cls : r.cls? = some .assignment
  cause : ∃ x w₁ e, (m.rewrap g).Gives w x w₁ ∧
    (m.put call x).result w₁ = (.error (.raised e), w') ∧ w'.isException e = true ∧
    r = .writeRefused m.name (w'.text e) (w'.typeName e)
  same : w.Grown w'

theorem getEntry?_same {r : Ref} {name : String} {found : Option Value}
    (h : (World.getEntry? r (.str name)).Gives w found w') : w = w' := by
  have hkey : w.keyOf (.str name) = .ok (.ofText name) := rfl
  unfold World.getEntry? World.hashOf at h
  simp only [Run.gives_bind, Run.gives_world, Run.gives_pure] at h
  obtain ⟨k, w₁, ⟨_, _, ⟨rfl, rfl⟩, hk⟩, _, _, ⟨-, rfl⟩, -, rfl⟩ := h
  rw [hkey] at hk
  exact (Run.gives_pure.1 hk).2

/-- What has been looked up in a class is called in the way in which the class keeps it. -/
theorem lookup_unwraps {target : Value} {name : String} {convention : Convention} {v old : Value}
    (h : Run.Gives (lookup call target name) w (some (convention, v)) w')
    (hclass : w'.isClass target = true) (hold : w'.findMade target name = some old) :
    (w'.unwrap old).1 = convention := by
  -- A class is no mapping, and so its own members go before what reading it gives.
  cases hmapping : w.isMutableMapping target with
  | true =>
    obtain ⟨r, rfl⟩ := exists_thing_of_mapping hmapping
    obtain ⟨found, hentry, -⟩ := (gives_lookup_entry hmapping).1 h
    obtain rfl := getEntry?_same hentry
    simp [World.isClass_mapping hmapping] at hclass
  | false =>
    obtain ⟨found, -, hfound⟩ := (gives_lookup_attr hmapping).1 h
    rw [if_pos hclass] at hfound
    unfold unwrapped? at hfound
    rw [hold] at hfound
    obtain ⟨f, hbody, hunwrap⟩ | ⟨f, hbody, hunwrap⟩ | ⟨hunwrap, hstatic, hofClass⟩ :=
      w'.unwrap_cases old
    · simp_all
    · simp_all
    · rw [hunwrap]
      dsimp only at hfound
      split at hfound
      · exact absurd ‹_› (hstatic _)
      · exact absurd ‹_› (hofClass _)
      · cases found <;> cases hfound
        rfl

/-- What a replacement is wrapped in: it is a callable in the wrapping of the member, which is new if
    there is one. -/
structure Rewrapped (call : Caller) (m : Member) (g : Value) (w : World) (x : Value) (w' : World) :
    Prop where
  grown : w.Grown w'
  isTarget : w'.IsTarget call m.name m.target
  isClass : w'.isClass m.target = w.isClass m.target
  same : w.isClass m.target = false → w' = w
  isSlotValue : w'.IsSlotValue x
  unwrap : w'.unwrap x = (m.convention, g)
  isRoutine : w'.IsRoutine g

theorem Rewrapped.new {b : Body} (hclass : w.isClass m.target = true)
    (htarget : w.IsTarget call m.name m.target) (hg : w.IsRoutine g)
    (hb : b = .staticMethod g ∧ m.convention = .static ∨
      b = .classMethod g ∧ m.convention = .ofClass) :
    Rewrapped call m g w (.thing (w.alloc { body := b }).1) (w.alloc { body := b }).2 where
  grown := .alloc w _
  isTarget := htarget.alloc hclass
  isClass := by
    rw [hclass]
    generalize m.target = target at hclass htarget
    cases htarget with
    | items mapping => simp [World.isClass_mapping mapping] at hclass
    | attributes mapping => simp [World.isClass_mapping mapping] at hclass
    | object body isObject => simp [World.isClass_object body isObject] at hclass
    | cls body => simp [World.isClass, World.madeClass?, World.body?_alloc body]
    | supplied => rfl
  same hno := by simp [hno] at hclass
  isSlotValue := by
    rcases hb with ⟨rfl, -⟩ | ⟨rfl, -⟩
    · exact .inr (.inl ⟨g, World.body?_alloc_self⟩)
    · exact .inr (.inr ⟨g, World.body?_alloc_self⟩)
  unwrap := by
    rcases hb with ⟨rfl, hconvention⟩ | ⟨rfl, hconvention⟩ <;>
      rw [World.unwrap, World.body?_alloc_self, hconvention]
  isRoutine := hg.addsOne (.inr ⟨_, rfl⟩)

theorem rewrap_gives (hconvention : w.isClass m.target = false → m.convention = .plain)
    (htarget : w.IsTarget call m.name m.target) (hg : w.IsRoutine g)
    (h : (m.rewrap g).Gives w x w') : Rewrapped call m g w x w' := by
  have hclass : m.convention ≠ .plain → w.isClass m.target = true := by
    intro hwrapped
    by_contra hno
    exact hwrapped (hconvention (by simpa using hno))
  obtain ⟨hplain, rfl, rfl⟩ | ⟨b, hb, rfl, rfl⟩ := gives_rewrap h
  · exact ⟨.refl _, htarget, rfl, fun _ => rfl, .inl hg, by rw [hg.unwrap, hplain], hg⟩
  · have hwrapped : m.convention ≠ .plain := by rcases hb with ⟨hb, -⟩ | ⟨hb, -⟩ <;> simp [hb]
    exact .new (hclass hwrapped) htarget hg (hb.imp And.symm And.symm)

/-- A callable has taken the place of a member: the target has it itself, in the wrapping that the
    member had, and nothing else has changed but that the wrapping is new. -/
structure Placed (m : Member) (g : Value) (w : World) (x : Value) (w' : World) : Prop where
  owns : w'.Owns m.name x m.target
  isSlotValue : w'.IsSlotValue x
  unwrap : w'.unwrap x = (m.convention, g)
  member : w'.member m.target x = (m.convention, g)
  isRoutine : w'.IsRoutine g
  puts : ∃ r w₁, m.target = .thing r ∧ w.Grown w₁ ∧ w₁.IsSlotValue x ∧
    w₁.PutAt (w.keeper r) m.name x w'

theorem assign_places (hconvention : w.isClass m.target = false → m.convention = .plain)
    (htarget : w.IsTarget call m.name m.target) (hg : w.IsRoutine g)
    (h : Attempt.Gives (m.assign call g) w () w') : ∃ x, Placed m g w x w' := by
  obtain ⟨x, w₁, hrewrap, hput⟩ := assign_gives h
  have hwrapped := rewrap_gives hconvention htarget hg hrewrap
  obtain ⟨howns, r, hr, hputs⟩ := (hwrapped.isTarget.put hwrapped.isSlotValue).of_gives hput
  have hdiffers := hputs.differsAt
  -- Writing to one place does not change what the wrapper holds.
  have hunwrap : w'.unwrap x = (m.convention, g) :=
    (hdiffers.unwrap hwrapped.isSlotValue).trans hwrapped.unwrap
  have hclass : w'.isClass m.target = w.isClass m.target :=
    (hdiffers.isClass fun s hs => hwrapped.isTarget.there hs).trans hwrapped.isClass
  refine ⟨x, {
    owns := howns
    isSlotValue := hdiffers.isSlotValue hwrapped.isSlotValue
    unwrap := hunwrap
    member := ?_
    isRoutine := hdiffers.isRoutine hwrapped.isRoutine
    puts := ⟨r, w₁, hr, hwrapped.grown, hwrapped.isSlotValue, ?_⟩ }⟩
  · rw [World.member, hclass]
    cases hyes : w.isClass m.target with
    | true => exact hunwrap
    | false =>
      rw [hconvention hyes] at hunwrap ⊢
      rw [World.eq_of_unwrap hunwrap, if_neg (by simp)]
  · cases hyes : w.isClass m.target with
    | true =>
      have hyes₁ := hwrapped.isClass.trans hyes
      rw [hr] at hyes hyes₁
      rwa [World.keeper_class hyes, ← World.keeper_class hyes₁]
    | false => rwa [← hwrapped.same hyes]

/-- What has been placed replaces the member. -/
theorem Placed.replaced (h : Placed m g w x w')
    (hold : w.isClass m.target = true → ∀ old, w.findMade m.target m.name = some old →
      (w.unwrap old).1 = m.convention) : Replaced call m g w w' := by
  obtain ⟨r, w₁, hr, hgrown, -, hputs⟩ := h.puts
  have hchange := hgrown.differsAt hputs.differsAt
  refine {
    found := fun name hname htext => h.owns.resolve h.member h.isRoutine hname htext call
    own := fun hyes => ?_
    inherited := fun hyes s hs hthere => ?_
    differs := ⟨r, hr, hchange⟩ }
  · have hkeeps := hchange.isClass (v := m.target) fun s hs hnone => by
      simp [hs, World.isClass, World.madeClass?, World.body?, hnone] at hyes
    obtain ⟨s, hs, hfound⟩ := h.owns.ofClass_table (hkeeps.trans hyes)
    exact ⟨s, x, hs, hfound, h.unwrap, hold hyes⟩
  · rw [World.keeper_class (hr ▸ hyes)] at hchange
    exact hchange.table_eq (fun heq => hs (by rw [hr, heq])) hthere

/-- A function without parameters that gives a number. -/
def counter (n : Int) : Function where
  behaviour := .described { name := "count", does := .gives (.value (.int n)) }
  name := "count"
  qualname := "count"
  module := .str "native"
  globals := ⟨0⟩

/-- The class that has the static method. -/
def elderClass : MadeClass where
  name := "Elder"
  qualname := "Elder"
  bases := [.cls "object"]
  order := [.thing ⟨0⟩, .cls "object"]

/-- The class that inherits it. -/
def heirClass : MadeClass where
  name := "Heir"
  qualname := "Heir"
  bases := [.thing ⟨0⟩]
  order := [.thing ⟨1⟩, .thing ⟨0⟩, .cls "object"]

def heir : Value := .thing ⟨1⟩

/-- Both classes, the function of the static method, and another function. -/
def heirWorld : World where
  things := #[
    { body := .cls elderClass, table := [("count", .thing ⟨3⟩)] },
    { body := .cls heirClass },
    { body := .function (counter 1) },
    { body := .staticMethod (.thing ⟨2⟩) },
    { body := .function (counter 2) }]

/-- What the class finds. -/
def inherited : Member where
  target := heir
  name := "count"
  value := .thing ⟨2⟩
  convention := .static

theorem inherited_is_found :
    Attempt.Gives (resolve Machine.call heir (.str "count")) heirWorld inherited heirWorld := rfl

end Member

end Graft
