import Graft.Flag
import Graft.Proofs.Undisturbed

set_option autoImplicit false

/-! # What stays true of values

In a world that has been left undisturbed every value is what it was: it has the same key, and a
callable accepts injections exactly if it did before. -/

namespace Graft

open Machine Data

/-- The values that the key of a thing or the mark of a callable depends on. -/
def Machine.Body.parts : Body → List Value
  | .method f _ | .staticMethod f | .classMethod f => [f]
  | .instance c | .exception c _ => [c]
  | _ => []

/-- Whether a value is neither made up of other ones nor a thing. -/
def Machine.Value.isAtom : Value → Bool
  | .tuple _ | .bound _ _ | .thing _ => false
  | _ => true

/-- A value is there, with all that its key and its mark depend on. -/
inductive World.Holds (w : World) : Value → Prop
  | atom (v : Value) (h : v.isAtom = true) : Holds w v
  | tuple (xs : List Value) (h : ∀ x ∈ xs, Holds w x) : Holds w (.tuple xs)
  | bound (self : Value) (name : String) (h : Holds w self) : Holds w (.bound self name)
  | thing (r : Ref) (b : Body) (h : w.body? (.thing r) = some b)
      (hparts : ∀ v ∈ b.parts, Holds w v) : Holds w (.thing r)

theorem World.Holds.function {w : World} {v : Value} {f : Function}
    (hb : w.body? v = some (.function f)) : w.Holds v := by
  cases v with
  | thing r => exact .thing r _ hb (by simp [Body.parts])
  | _ => cases hb

theorem World.Holds.cls {w : World} {v : Value} {c : MadeClass}
    (hb : w.body? v = some (.cls c)) : w.Holds v := by
  cases v with
  | thing r => exact .thing r _ hb (by simp [Body.parts])
  | _ => cases hb

namespace Undisturbed

variable {w w' : World} {v : Value}

/-- What a value is stays as it is, but for annotations that a function may get. -/
theorem kind (h : Undisturbed w w') (hv : w.Holds v) :
    w'.body? v = w.body? v ∨
      (∃ f, w.body? v = some (.function f)) ∧ ∃ f', w'.body? v = some (.function f') := by
  cases hv with
  | thing r b hb _ =>
    obtain ⟨t, ht, rfl⟩ := Option.map_eq_some_iff.1 hb
    obtain ⟨t', ht', hannotated⟩ := h.things r t ht
    simp only [World.body?, ht, ht', Option.map_some]
    cases hannotated with
    | same => exact .inl rfl
    | function f table d => exact .inr ⟨⟨f, rfl⟩, _, rfl⟩
    | cls c table d => exact .inl rfl
  | atom v hatom => cases v <;> first | exact .inl rfl | cases hatom
  | tuple xs _ => exact .inl rfl
  | bound self name _ => exact .inl rfl

/-- A function stays one. -/
theorem function (h : Undisturbed w w') {f : Function} (hb : w.body? v = some (.function f)) :
    ∃ f', w'.body? v = some (.function f') := by
  obtain hb' | ⟨-, hb'⟩ := h.kind (.function hb)
  · exact ⟨f, hb' ▸ hb⟩
  · exact hb'

theorem madeClass? (h : Undisturbed w w') (hv : w.Holds v) :
    w'.madeClass? v = w.madeClass? v := by
  unfold World.madeClass?
  obtain hb | ⟨⟨f, hb⟩, f', hb'⟩ := h.kind hv
  · rw [hb]
  · rw [hb, hb']

theorem isClass (h : Undisturbed w w') (hv : w.Holds v) : w'.isClass v = w.isClass v := by
  have hmade := h.madeClass? hv
  cases v <;> simp_all [World.isClass]

/-- What is no class was none. -/
theorem isClass_thing {r : Ref} (h : Undisturbed w w') (hclass : w'.isClass (.thing r) = false) :
    w.isClass (.thing r) = false := by
  cases hold : w.isClass (.thing r) with
  | false => rfl
  | true =>
    -- A class that was there is one still.
    obtain ⟨c, hc⟩ := World.isClass_thing_iff.1 hold
    rw [h.isClass (.cls hc), hold] at hclass
    cases hclass

theorem classOf (h : Undisturbed w w') (hv : w.Holds v) : w'.classOf v = w.classOf v := by
  cases hv with
  | thing r b hb _ =>
    obtain ⟨t, ht, rfl⟩ := Option.map_eq_some_iff.1 hb
    obtain ⟨t', ht', hannotated⟩ := h.things r t ht
    simp only [World.classOf, ht, ht']
    cases hannotated <;> rfl
  | atom v hatom => cases v <;> first | rfl | cases hatom
  | tuple xs _ => rfl
  | bound self name _ => rfl

/-- What a thing other than a method is equal by stays the same, and so does what keeps it from
    having a key. -/
theorem own (h : Undisturbed w w') {r : Ref} (hv : w.Holds (.thing r)) :
    w'.ownPart r = w.ownPart r ∧ w'.ownUnhashable? r = w.ownUnhashable? r := by
  have hkind := h.kind hv
  cases hv with
  | atom _ hatom => cases hatom
  | thing _ b hb hparts =>
    have hpart : ∀ c ∈ b.parts, w'.madeClass? c = w.madeClass? c :=
      fun c hc => h.madeClass? (hparts c hc)
    rw [World.body?_thing] at hb
    simp only [World.body?_thing] at hkind
    unfold World.ownPart World.ownUnhashable?
    obtain hb' | ⟨⟨f, hf⟩, f', hf'⟩ := hkind
    · rw [hb', hb]
      cases b <;> simp_all [Body.parts]
    · rw [hf, hf']
      exact ⟨rfl, rfl⟩

/-- What a thing is equal by stays the same, and so does what keeps it from having a key. -/
theorem equalityParts (h : Undisturbed w w') {r : Ref} (hv : w.Holds (.thing r)) :
    w'.equalityParts r = w.equalityParts r ∧ w'.unhashable? r = w.unhashable? r := by
  obtain ⟨hown, hunhashable⟩ := h.own hv
  have hkind := h.kind hv
  cases hv with
  | atom _ hatom => cases hatom
  | thing _ b hb hparts =>
    rw [World.body?_thing] at hb
    simp only [World.body?_thing] at hkind
    unfold World.equalityParts World.unhashable?
    rw [hown, hunhashable]
    -- A body has stayed as it was, or it is a function's, which compares by what it is.
    obtain hb' | ⟨⟨f, hf⟩, f', hf'⟩ := hkind
    · rw [hb', hb]
      cases b with
      | method f self =>
        have hf : w.Holds f := hparts f (by simp [Body.parts])
        cases f with
        | thing s =>
          obtain ⟨hpart, hnone⟩ := h.own hf
          simp only [hpart, hnone, and_self]
        | _ => exact ⟨rfl, rfl⟩
      | _ => exact ⟨rfl, rfl⟩
    · rw [hf, hf']
      exact ⟨rfl, rfl⟩

theorem thingKeyParts (h : Undisturbed w w') {r : Ref} (hv : w.Holds (.thing r)) :
    w'.thingKeyParts r = w.thingKeyParts r := by
  obtain ⟨hequality, hunhashable⟩ := h.equalityParts hv
  simp only [World.thingKeyParts, hequality, hunhashable]

/-- The keys of values stay the same. -/
theorem keyParts (h : Undisturbed w w') (hv : w.Holds v) : w'.keyParts v = w.keyParts v := by
  induction hv with
  | atom v hatom => cases v <;> first | rfl | cases hatom
  | tuple xs _ ih =>
    have hall : w'.keyPartsOfAll xs = w.keyPartsOfAll xs := by
      induction xs with
      | nil => rfl
      | cons x xs ihxs =>
        simp only [World.keyPartsOfAll]
        rw [ih x (by simp), ihxs _ fun y hy => ih y (List.mem_cons_of_mem _ hy)]
        rename_i hxs
        exact fun y hy => hxs y (List.mem_cons_of_mem _ hy)
    simp only [World.keyParts, hall]
  | bound self name _ _ => rfl
  | thing r b hb hparts _ =>
    simp only [World.keyParts]
    exact h.thingKeyParts (.thing r b hb hparts)

/-- What a mark of a value is for stays the same. -/
theorem underlying (h : Undisturbed w w') (hv : w.Holds v) :
    w'.underlying v = w.underlying v := by
  unfold World.underlying
  obtain hb | ⟨⟨f, hb⟩, f', hb'⟩ := h.kind hv
  · rw [hb]
  · rw [hb, hb']

theorem isWeak (h : Undisturbed w w') (hv : w.Holds v) : w'.isWeak v = w.isWeak v := by
  have hkind := h.kind hv
  cases hv with
  | thing r b hb hparts =>
    have hpart : ∀ c ∈ b.parts, w'.madeClass? c = w.madeClass? c :=
      fun c hc => h.madeClass? (hparts c hc)
    rw [World.body?_thing] at hb
    simp only [World.body?_thing] at hkind
    unfold World.isWeak
    obtain hb' | ⟨⟨f, hf⟩, f', hf'⟩ := hkind
    · simp only [hb', hb]
      cases b <;> simp_all [Body.parts]
    · simp only [hf, hf']
  | atom v hatom => cases v <;> first | rfl | cases hatom
  | tuple xs _ => rfl
  | bound self name _ => rfl

/-- Whether a callable counts as true stays the same. -/
theorem truth (h : Undisturbed w w') (hv : w.Holds v) (hcallable : w.isCallable v = true) :
    w'.truth v = w.truth v := by
  have hkind := h.kind hv
  cases hv with
  | thing r b hb hparts =>
    have hpart : ∀ c ∈ b.parts, w'.madeClass? c = w.madeClass? c :=
      fun c hc => h.madeClass? (hparts c hc)
    rw [World.body?_thing] at hb
    simp only [World.body?_thing] at hkind
    simp only [World.isCallable, hb] at hcallable
    unfold World.truth
    obtain hb' | ⟨⟨f, hf⟩, f', hf'⟩ := hkind
    · simp only [hb', hb]
      cases b <;> simp_all [Body.parts]
    · simp only [hf, hf']
  | atom v hatom => cases v <;> first | rfl | cases hatom
  | tuple xs _ => rfl
  | bound self name _ => rfl

end Undisturbed

variable {w w' : World} {v : Value}

/-- What a mark of a value is for is there if the value is. -/
theorem World.Holds.underlying (hv : w.Holds v) : w.Holds (w.underlying v) := by
  have hself := hv
  cases hv with
  | thing r b hb hparts =>
    unfold World.underlying
    rw [hb]
    cases b <;> first | exact hself | exact hparts _ (by simp [Body.parts])
  | atom v hatom => cases v <;> first | exact hself | cases hatom
  | tuple xs _ => exact hself
  | bound self name _ => exact hself

/-- **Whether a callable accepts injections stays the same.** -/
theorem Undisturbed.flag? (h : Undisturbed w w') (hv : w.Holds v)
    (hcallable : w.isCallable v = true) : w'.flag? v = w.flag? v := by
  have hkey : w'.flagKey? v = w.flagKey? v := by
    simp only [World.flagKey?, h.underlying hv, h.isWeak hv.underlying, World.keyOf,
      h.keyParts hv.underlying]
  simp only [World.flag?, World.accepts, h.truth hv hcallable, hkey, h.flags]

end Graft
