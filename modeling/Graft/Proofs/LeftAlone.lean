import Graft.Proofs.WriteBack

set_option autoImplicit false

/-! # Places that are left alone

What a target has itself under a name stays there as long as two things are so: nothing else is put
into its place, and no getter comes to answer for the name in one of the target's classes.  Reading
annotations does neither, and writing a callable to another place does neither.  So neither do
patches and injections that fail, or that are for other places. -/

namespace Graft

open Machine Data

/-! ## Putting something into a thing -/

theorem World.find?_setEntry_of_ne {k k' : Key} (h : k' ≠ k) (key v : Value) (es : List Entry) :
    (setEntry k key v es).find? (·.hash == k') = es.find? (·.hash == k') := by
  induction es with
  | nil => simp [setEntry, h.symm]
  | cons e es ih =>
    unfold setEntry
    by_cases hk : e.hash = k
    · simp [hk, h.symm]
    · rw [if_neg (by simpa using hk), List.find?_cons, List.find?_cons, ih]

namespace Machine.Thing.PutAt

variable {t t' : Thing} {name other : String} {y : Value}

theorem lasting (h : t.PutAt other y t') : t'.body.lasting = t.body.lasting := by
  cases h <;> rfl

/-- The attributes of other names are what they were. -/
theorem get?_of_ne (h : t.PutAt other y t') (hname : name ≠ other) :
    t'.table.get? name = t.table.get? name := by
  cases h with
  | inTable => exact Table.get?_set_of_ne _ hname _
  | inEntries => rfl

theorem get?_self (h : t.PutAt name y t') :
    t'.table.get? name = t.table.get? name ∨ t'.table.get? name = some y := by
  cases h with
  | inTable => exact .inr (Table.get?_set_self _ _ _)
  | inEntries => exact .inl rfl

/-- The items of other names are what they were. -/
theorem find?_of_ne (h : t.PutAt other y t') (hname : name ≠ other) {es : List Entry}
    (hes : t.body = .dict es) : ∃ es', t'.body = .dict es' ∧
      es'.find? (·.hash == .ofText name) = es.find? (·.hash == .ofText name) := by
  cases h with
  | inTable => exact ⟨es, hes, rfl⟩
  | inEntries es₀ table =>
    cases hes
    refine ⟨_, rfl, World.find?_setEntry_of_ne ?_ _ _ _⟩
    simpa [Key.ofText, Key.ofPart] using hname

end Machine.Thing.PutAt

/-! ## What lasts -/

theorem Undisturbed.lasts {w w' : World} (h : Undisturbed w w') : w.Lasts w' := by
  intro r b hb
  obtain ⟨t, ht, rfl⟩ := Option.map_eq_some_iff.1 hb
  obtain ⟨t', ht', hannotated⟩ := h.things r t ht
  refine ⟨t'.body, by rw [World.body?, ht']; rfl, ?_⟩
  cases hannotated <;> rfl

namespace World

variable {w w₁ w' : World} {r s : Ref} {name other : String} {x y v target : Value}

theorem Lasts.isRoutine (h : w.Lasts w') (hv : w.IsRoutine v) : w'.IsRoutine v := by
  rcases hv with ⟨f, hf⟩ | ⟨g, self, hm⟩
  · obtain ⟨f', hf', -⟩ := h.function hf
    exact .inl ⟨f', hf'⟩
  · exact .inr ⟨g, self, h.fixed hm rfl⟩

theorem Lasts.isSlotValue (h : w.Lasts w') (hx : w.IsSlotValue x) : w'.IsSlotValue x := by
  rcases hx with hroutine | ⟨f, hf⟩ | ⟨f, hf⟩
  · exact .inl (h.isRoutine hroutine)
  · exact .inr (.inl ⟨f, h.fixed hf rfl⟩)
  · exact .inr (.inr ⟨f, h.fixed hf rfl⟩)

theorem Lasts.unwrap (h : w.Lasts w') (hx : w.IsSlotValue x) : w'.unwrap x = w.unwrap x := by
  rcases hx with hroutine | ⟨f, hf⟩ | ⟨f, hf⟩
  · rw [hroutine.unwrap, (h.isRoutine hroutine).unwrap]
  · rw [World.unwrap, World.unwrap, hf, h.fixed hf rfl]
  · rw [World.unwrap, World.unwrap, hf, h.fixed hf rfl]

/-- Where things last, nothing becomes a class or ceases to be one. -/
theorem Lasts.isClass_eq (h : w.Lasts w') {b : Body} (hb : w.body? v = some b) :
    w'.isClass v = w.isClass v := by
  cases v with
  | thing r =>
    obtain ⟨b', hb', hsame⟩ := h r b hb
    simp only [World.isClass, madeClass?, hb, hb']
    cases b <;> cases b' <;> first | rfl | cases hsame
  | _ => cases hb

theorem classOfBody_lasting (b : Body) : classOfBody b.lasting = classOfBody b := by
  cases b <;> rfl

/-- Where things last, a plain value is plain. -/
theorem Lasts.isPlain (h : w.Lasts w') (hthere : w.Holds v) (hv : w.IsPlain v) : w'.IsPlain v := by
  obtain ⟨⟨cls, hcls⟩, hsuper, hclass⟩ := hv
  cases hthere with
  | thing r b hb _ =>
    obtain ⟨b', hb', hsame⟩ := h r b hb
    refine ⟨⟨cls, ?_⟩, ?_, (h.isClass_eq hb).trans hclass⟩
    · obtain ⟨t, ht, rfl⟩ := Option.map_eq_some_iff.1 hb
      obtain ⟨t', ht', rfl⟩ := Option.map_eq_some_iff.1 hb'
      rw [← hcls, classOf, classOf, ht, ht']
      dsimp only
      rw [← classOfBody_lasting, hsame, classOfBody_lasting]
    · intro c self hbody
      obtain rfl := Option.some.inj (hb'.symm.trans hbody)
      have hbody := Body.eq_of_lasting (b := .super c self) rfl hsame.symm
      exact hsuper c self (hb.trans (congrArg some hbody))
  | atom v hatom =>
    cases v <;> first | exact ⟨⟨cls, hcls⟩, by rintro _ _ ⟨⟩, hclass⟩ | cases hatom
  | tuple xs _ => exact ⟨⟨cls, hcls⟩, by rintro _ _ ⟨⟩, hclass⟩
  | bound self n _ => exact ⟨⟨cls, hcls⟩, by rintro _ _ ⟨⟩, hclass⟩

/-- Functions and what is bound are plain. -/
theorem IsRoutine.isPlain (hv : w.IsRoutine v) : w.IsPlain v := by
  rcases hv with ⟨f, hf⟩ | ⟨g, self, hm⟩
  · exact isPlain_function hf
  · cases v with
    | thing r =>
      obtain ⟨t, hr, hbody⟩ := Option.map_eq_some_iff.1 hm
      exact {
        supplied := ⟨"method", by simp [classOf, hr, hbody, classOfBody]⟩
        isNoSuper := by simp [hm]
        isNoClass := by simp [World.isClass, madeClass?, hm] }
    | _ => cases hm

theorem Owns.thing (h : w.Owns name x target) :
    ∃ r b, target = .thing r ∧ w.body? target = some b := by
  cases h with
  | @item r mapping found =>
    cases hb : w.body? (.thing r) with
    | none => simp [isMutableMapping, hb] at mapping
    | some b => exact ⟨r, b, rfl, rfl⟩
  | object body => exact ⟨_, _, rfl, body⟩
  | ofClass body => exact ⟨_, _, rfl, body⟩

/-- Where things last, what a target has is a member in the same way. -/
theorem Lasts.member (h : w.Lasts w') (howns : w.Owns name x target) (hx : w.IsSlotValue x) :
    w'.member target x = w.member target x := by
  obtain ⟨r, b, -, hb⟩ := howns.thing
  rw [World.member, World.member, h.isClass_eq hb, h.unwrap hx]

theorem Grown.undisturbed (h : w.Grown w') : Undisturbed w w' where
  things r t ht := ⟨t, h.things r t ht, .same t⟩
  flags := by rw [← h.rest]
  names := by rw [← h.rest]
  home := by rw [← h.rest]
  patches := by rw [← h.rest]
  injections := by rw [← h.rest]

theorem PutAt.lasts (h : w.PutAt s name x w') : w.Lasts w' := by
  obtain ⟨f, rfl, hf⟩ := h
  exact .change fun t ht => (hf t ht).lasting

theorem IsSlotValue.noProperty (h : w.IsSlotValue x) :
    ∃ b, w.body? x = some b ∧ ∀ g s, b ≠ .property g s := by
  rcases h with (⟨f, hf⟩ | ⟨g, self, hf⟩) | ⟨f, hf⟩ | ⟨f, hf⟩ <;> exact ⟨_, hf, nofun⟩

/-! ## Leaving a place alone -/

/-- What a thing has under a name is the same.  Nothing has come to be under that name anywhere
    else but what is no property. -/
structure LeavesAlone (w : World) (s : Ref) (name : String) (w' : World) : Prop where
  lasts : w.Lasts w'
  item : ∀ es, w.body? (.thing s) = some (.dict es) → ∃ es', w'.body? (.thing s) = some (.dict es') ∧
    es'.find? (·.hash == .ofText name) = es.find? (·.hash == .ofText name)
  own : ∀ x, (w.table s).get? name = some x → (w'.table s).get? name = some x
  elsewhere : ∀ r, w.thing? r ≠ none → (w'.table r).get? name = (w.table r).get? name ∨
    ∃ v b, (w'.table r).get? name = some v ∧ w'.body? v = some b ∧ ∀ g s, b ≠ .property g s

namespace LeavesAlone

theorem trans (h : w.LeavesAlone s name w₁) (h' : w₁.LeavesAlone s name w') :
    w.LeavesAlone s name w' where
  lasts := h.lasts.trans h'.lasts
  item es hes := by
    obtain ⟨es₁, hes₁, hsame⟩ := h.item es hes
    obtain ⟨es', hes', hsame'⟩ := h'.item es₁ hes₁
    exact ⟨es', hes', hsame'.trans hsame⟩
  own x hx := h'.own x (h.own x hx)
  elsewhere r hr := by
    have hr₁ : w₁.thing? r ≠ none := fun hnone => hr (h.lasts.missing hnone)
    rcases h'.elsewhere r hr₁ with hsame' | hchanged
    · rcases h.elsewhere r hr with hsame | ⟨v, b, hv, hb, hproperty⟩
      · exact .inl (hsame'.trans hsame)
      · refine .inr ⟨v, ?_⟩
        cases v with
        | thing q =>
          obtain ⟨b', hb', hlasting⟩ := h'.lasts q b hb
          refine ⟨b', hsame'.trans hv, hb', ?_⟩
          rintro g s rfl
          exact hproperty g s (Body.eq_of_lasting (b := .property g s) rfl hlasting.symm)
        | _ => cases hb
    · exact .inr hchanged

theorem of_things (h : w'.things = w.things) : w.LeavesAlone s name w' where
  lasts := .of_things h
  item es hes := ⟨es, (body?_congr h _).trans hes, rfl⟩
  own x hx := by rw [table_congr h, hx]
  elsewhere r _ := .inl (by rw [table_congr h])

theorem of_undisturbed (h : Undisturbed w w') : w.LeavesAlone s name w' where
  lasts := h.lasts
  item es hes := by
    obtain ⟨t, ht, hdict⟩ := Option.map_eq_some_iff.1 hes
    refine ⟨es, ?_, rfl⟩
    rw [body?, h.dict ht (by simp [hdict]) (by simp [hdict])]
    exact congrArg some hdict
  own x hx := by
    cases ht : w.thing? s with
    | none => simp [table, ht, Table.get?] at hx
    | some t =>
      obtain ⟨t', ht', hannotated⟩ := h.things s t ht
      rw [table, ht] at hx
      rw [table, ht']
      cases hannotated with
      | same => exact hx
      | function => exact hx
      | cls c table d hmissing =>
        -- A class is given annotations only if it has none.
        have hname : name ≠ annotationsName := by
          rintro rfl
          cases hx.symm.trans hmissing
        exact (Table.get?_set_of_ne _ hname _).trans hx
  elsewhere r hr := by
    obtain ⟨t, ht⟩ := Option.ne_none_iff_exists'.1 hr
    obtain ⟨t', ht', hannotated⟩ := h.things r t ht
    rw [table, table, ht, ht']
    cases hannotated with
    | same => exact .inl rfl
    | function => exact .inl rfl
    | cls c table d hmissing hnew hempty =>
      by_cases hname : name = annotationsName
      · refine .inr ⟨.thing d, .dict [], ?_, by rw [body?, hempty]; rfl, by rintro _ _ ⟨⟩⟩
        rw [hname]
        exact Table.get?_set_self _ _ _
      · exact .inl (Table.get?_set_of_ne _ hname _)

/-- What is put into one place leaves the other ones alone. -/
theorem of_putAt (h : w.PutAt r other y w') (hy : w'.IsSlotValue y)
    (hapart : s = r → name ≠ other) : w.LeavesAlone s name w' := by
  have hlasts := h.lasts
  obtain ⟨f, rfl, hf⟩ := h
  -- Only the thing that has been written to is another one than before.
  have hthing : ∀ q t, w.thing? q = some t →
      q = r ∧ (w.change r f).thing? q = some (f t) ∧ t.PutAt other y (f t) ∨
        q ≠ r ∧ (w.change r f).thing? q = some t := by
    intro q t ht
    rw [thing?_change]
    by_cases hq : q = r
    · subst hq
      exact .inl ⟨rfl, by rw [if_pos rfl, ht]; rfl, hf t ht⟩
    · exact .inr ⟨hq, by rw [if_neg hq, ht]⟩
  refine ⟨hlasts, fun es hes => ?_, fun x hx => ?_, fun q hq => ?_⟩
  · obtain ⟨t, ht, hdict⟩ := Option.map_eq_some_iff.1 hes
    obtain ⟨hs, ht', hput⟩ | ⟨-, ht'⟩ := hthing s t ht
    · obtain ⟨es', hes', hsame⟩ := hput.find?_of_ne (hapart hs) hdict
      exact ⟨es', by rw [body?, ht', ← hes']; rfl, hsame⟩
    · exact ⟨es, by rw [body?, ht', ← hdict]; rfl, rfl⟩
  · cases ht : w.thing? s with
    | none => simp [table, ht, Table.get?] at hx
    | some t =>
      rw [table, ht] at hx
      obtain ⟨hs, ht', hput⟩ | ⟨-, ht'⟩ := hthing s t ht
      · rw [table, ht']
        exact (hput.get?_of_ne (hapart hs)).trans hx
      · rw [table, ht']
        exact hx
  · obtain ⟨t, ht⟩ := Option.ne_none_iff_exists'.1 hq
    obtain ⟨-, ht', hput⟩ | ⟨-, ht'⟩ := hthing q t ht
    · rw [table, table, ht, ht']
      by_cases hname : name = other
      · subst hname
        obtain hsame | hnew := hput.get?_self
        · exact .inl hsame
        · obtain ⟨b, hb, hproperty⟩ := hy.noProperty
          exact .inr ⟨y, b, hnew, hb, hproperty⟩
      · exact .inl (hput.get?_of_ne hname)
    · exact .inl (by rw [table, table, ht, ht'])

end LeavesAlone

/-! ## What a target has stays there -/

/-- The classes of a value are there, and so is what they have under a name. -/
structure Rooted (w : World) (name : String) (v : Value) : Prop where
  isClass : w.isClass (w.classOf v) = true
  order : ∀ s, .thing s ∈ w.classOrder (w.classOf v) → w.thing? s ≠ none
  member : ∀ s, w.findMade (w.classOf v) name = some (.thing s) → w.thing? s ≠ none

/-- Where things last, the instances of a class have attributes of their own if they did. -/
theorem Lasts.hasTable (h : w.Lasts w') (hclass : w.isClass v = true) :
    (w'.madeClass? v).map MadeClass.hasTable = (w.madeClass? v).map MadeClass.hasTable := by
  cases v with
  | thing r =>
    obtain ⟨c, hc⟩ := isClass_thing_iff.1 hclass
    obtain ⟨b, hb, hsame⟩ := h r _ hc
    cases b with
    | cls c' =>
      simp only [Body.lasting, Body.cls.injEq, MadeClass.mk.injEq] at hsame
      simp [madeClass?, hc, hb, hsame]
    | _ => cases hsame
  | _ => rfl

namespace LeavesAlone

/-- What classes have under the name is the same, or has come to be there and is no property. -/
theorem findInOrder (h : w.LeavesAlone s name w') {order : List Value}
    (hthere : ∀ r, .thing r ∈ order → w.thing? r ≠ none) :
    w'.findInOrder name order = w.findInOrder name order ∨
      ∃ c v b, w'.findInOrder name order = some (c, v) ∧ w'.body? v = some b ∧
        ∀ g s, b ≠ .property g s := by
  induction order with
  | nil => exact .inl rfl
  | cons c order ih =>
    have hrest := ih fun r hr => hthere r (List.mem_cons_of_mem _ hr)
    cases c with
    | thing r =>
      unfold World.findInOrder
      dsimp only
      rcases h.elsewhere r (hthere r List.mem_cons_self) with hsame | ⟨v, b, hv, hb, hproperty⟩
      · rw [hsame]
        cases (w.table r).get? name with
        | some v => exact .inl rfl
        | none => exact hrest
      · rw [hv]
        exact .inr ⟨_, v, b, rfl, hb, hproperty⟩
    | _ => exact hrest

theorem findMade (h : w.LeavesAlone s name w') {cls : Value} (hclass : w.isClass cls = true)
    (hthere : ∀ r, .thing r ∈ w.classOrder cls → w.thing? r ≠ none) :
    w'.findMade cls name = w.findMade cls name ∨
      ∃ v b, w'.findMade cls name = some v ∧ w'.body? v = some b ∧ ∀ g s, b ≠ .property g s := by
  rw [World.findMade, World.findMade, h.lasts.classOrder hclass]
  rcases h.findInOrder hthere with hsame | ⟨c, v, b, hv, hb, hproperty⟩
  · exact .inl (by rw [hsame])
  · exact .inr ⟨v, b, by rw [hv]; rfl, hb, hproperty⟩

theorem hasNoProperty (h : w.LeavesAlone s name w') (hrooted : w.Rooted name v)
    (hcls : w'.classOf v = w.classOf v) (hno : w.HasNoProperty v name) :
    w'.HasNoProperty v name := by
  intro g t hproperty
  rw [hcls] at hproperty
  rcases h.findMade hrooted.isClass hrooted.order with hsame | ⟨x, b, hx, hb, hother⟩
  · rw [hsame] at hproperty
    obtain ⟨x, hx, hbody⟩ := Option.bind_eq_some_iff.1 hproperty
    cases x with
    | thing q =>
      obtain ⟨u, hu⟩ := Option.ne_none_iff_exists'.1 (hrooted.member q hx)
      obtain ⟨b, hb, hlasting⟩ := h.lasts q u.body (by rw [World.body?, hu]; rfl)
      obtain rfl := Option.some.inj (hb.symm.trans hbody)
      refine hno g t ?_
      rw [hx, Option.bind_some, World.body?, hu,
        ← Body.eq_of_lasting (b := .property g t) rfl hlasting.symm]
      rfl
    | _ => cases hbody
  · rw [hx, Option.bind_some, hb] at hproperty
    exact hother g t (Option.some.inj hproperty)

/-- A member of a class that is there is not lost. -/
theorem findMade_isSome (h : w.LeavesAlone s name w') {cls : Value} (hclass : w.isClass cls = true)
    (hthere : ∀ r, .thing r ∈ w.classOrder cls → w.thing? r ≠ none)
    (hsome : (w.findMade cls name).isSome) : (w'.findMade cls name).isSome := by
  rcases h.findMade hclass hthere with hsame | ⟨x, b, hx, -⟩
  · rw [hsame, hsome]
  · rw [hx]
    rfl

end LeavesAlone

/-! ### Mappings -/

/-- Where the items are that a mapping has. -/
theorem store_cases (hfound : w.entriesOf r ≠ []) (hmapping : w.isMutableMapping (.thing r) = true) :
    (∃ es, w.body? (.thing (w.store r)) = some (.dict es)) ∨
      ∃ owner, w.body? (.thing (w.store r)) = some (.attributes owner) := by
  unfold isMutableMapping at hmapping
  unfold store
  unfold entriesOf at hfound
  simp only [body?_thing] at hmapping ⊢
  split at hmapping
  · rename_i es hbody
    simp only [hbody]
    exact .inl ⟨es, rfl⟩
  · rename_i owner hbody
    simp only [hbody]
    exact .inr ⟨owner, rfl⟩
  · rename_i frozen d hbody
    simp only [hbody] at hfound ⊢
    split at hfound
    · exact .inl ⟨_, ‹_›⟩
    · exact .inr ⟨_, ‹_›⟩
    · exact absurd rfl hfound
  · cases hmapping

/-- Where things last, mappings stay mappings and keep their items where they did. -/
theorem Lasts.mapping (h : w.Lasts w') (hmapping : w.isMutableMapping (.thing r) = true) :
    w'.isMutableMapping (.thing r) = true ∧ w'.store r = w.store r := by
  cases hb : w.body? (.thing r) with
  | none => simp [isMutableMapping, hb] at hmapping
  | some b =>
    obtain ⟨b', hb', hsame⟩ := h r b hb
    have hthing : (w.thing? r).map Thing.body = some b := hb
    have hthing' : (w'.thing? r).map Thing.body = some b' := hb'
    simp only [isMutableMapping, store, hb, hb', hthing, hthing'] at hmapping ⊢
    cases b with
    | dict es => cases b' <;> first | exact ⟨rfl, rfl⟩ | cases hsame
    | attributes owner =>
      obtain rfl := Body.eq_of_lasting (b := .attributes owner) rfl hsame
      exact ⟨rfl, rfl⟩
    | userDict frozen d =>
      obtain rfl := Body.eq_of_lasting (b := .userDict frozen d) rfl hsame
      exact ⟨rfl, rfl⟩
    | _ => cases hmapping

/-! ### Any target -/

/-- **What a target has itself** under a name stays there while its place is left alone. -/
theorem Owns.leftAlone (h : w.Owns name x target) (hrooted : w.Rooted name target)
    (halone : ∀ r, target = .thing r → w.LeavesAlone (w.keeper r) name w') :
    w'.Owns name x target := by
  cases h with
  | @item r mapping found =>
    have halone := halone r rfl
    obtain ⟨mapping', hstore⟩ := halone.lasts.mapping mapping
    have hentries : w.entriesOf r ≠ [] := by
      intro hnil
      rw [hnil] at found
      cases found
    refine .item mapping' ?_
    -- A mapping keeps its entries itself or in the attributes of the thing that it belongs to.
    rw [keeper, if_pos mapping] at halone
    rcases store_cases hentries mapping with ⟨es, hes⟩ | ⟨owner, howner⟩
    · rw [hes] at halone
      obtain ⟨es', hes', hsame⟩ := halone.item es hes
      rw [entriesOf_store mapping hes] at found
      rw [entriesOf_store mapping' (by rw [hstore, hes']), hsame, found]
    · rw [howner] at halone
      have howner' := halone.lasts.fixed howner rfl
      rw [entriesOf_attributes mapping howner, find?_attributes] at found
      rw [entriesOf_attributes mapping' (by rw [hstore, howner']), find?_attributes]
      exact halone.own x found
  | @object r b body isObject plain leaves found =>
    have halone := halone r rfl
    rw [keeper, if_neg (by simp [isMutableMapping_object body isObject])] at halone
    have hfixed : b.isFixed = true := by
      rcases Body.isObject_cases isObject with rfl | ⟨n, rfl⟩ | ⟨c, rfl⟩ <;> rfl
    have body' := halone.lasts.fixed body hfixed
    have hclassOf : ∀ {v : World}, v.body? (.thing r) = some b →
        v.classOf (.thing r) = classOfBody b := by
      intro v hv
      obtain ⟨t, ht, rfl⟩ := Option.map_eq_some_iff.1 hv
      simp only [classOf, ht]
    have hcls := (hclassOf body').trans (hclassOf body).symm
    refine .object body' isObject (halone.hasNoProperty hrooted hcls plain) ?_ (halone.own x found)
    intro hname
    obtain ⟨c, rfl, hleft⟩ := leaves hname
    refine ⟨c, rfl, ?_⟩
    have hc : w.classOf (.thing r) = c := hclassOf body
    have hisClass := hrooted.isClass
    have horder := hrooted.order
    rw [hc] at hisClass horder
    rw [halone.lasts.hasTable hisClass]
    exact hleft.imp_right (halone.findMade_isSome hisClass horder)
  | @ofClass r c body first free found =>
    have halone := halone r rfl
    rw [keeper_class (by simp [World.isClass, madeClass?, body])] at halone
    obtain ⟨c', body', horder⟩ := halone.lasts.madeClass body
    exact .ofClass body' (by rw [horder, first]) free (halone.own x found)

end World

end Graft
