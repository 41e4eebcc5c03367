import Mathlib.Data.List.Forall2
import Graft.Proofs.Marks

set_option autoImplicit false

/-! # The last mark counts

A mark is kept for what a callable is equal by, so a mark that is made through one handle is found
through every other one whose function is equal.  Between marks programs may do whatever they like:
what they can not change about things includes all that a key is made of.  So among the marks that
have been made so far, the last one whose function is equal to that of a callable is the one that
counts for it. -/

namespace Graft

open Machine Data

namespace World

variable {w w' : World} {v x y : Value}

/-! ## What can be marked -/

/-- Whether a value can be marked: what is behind it can be referred to weakly and has a key. -/
def canBeMarked (w : World) (v : Value) : Bool :=
  w.isWeak (w.underlying v) && (w.keyOf (w.underlying v)).isOk

theorem flagKey?_eq_some_iff {k : Key} :
    w.flagKey? v = some k ↔
      w.isWeak (w.underlying v) = true ∧ w.keyOf (w.underlying v) = .ok k := by
  unfold flagKey?
  dsimp only
  cases w.isWeak (w.underlying v) <;> cases w.keyOf (w.underlying v) <;> simp [Except.toOption]

theorem canBeMarked_iff : w.canBeMarked v = true ↔ ∃ k, w.flagKey? v = some k := by
  simp only [canBeMarked, flagKey?_eq_some_iff]
  cases w.isWeak (w.underlying v) <;> cases w.keyOf (w.underlying v) <;>
    simp [Except.isOk, Except.toBool]

theorem flagKey?_eq_none_iff : w.flagKey? v = none ↔ w.canBeMarked v = false := by
  rw [← Bool.not_eq_true, canBeMarked_iff, Option.eq_none_iff_forall_ne_some, not_exists]

/-! ## Keys and equality -/

theorem keyOf_thing {r : Ref} {k : Key} (h : w.keyOf (.thing r) = .ok k) :
    w.unhashable? r = none ∧ k = ⟨w.equalityParts r⟩ := by
  unfold keyOf keyParts thingKeyParts at h
  cases hnone : w.unhashable? r with
  | some c =>
    rw [hnone] at h
    cases h
  | none =>
    rw [hnone] at h
    cases h
    exact ⟨rfl, rfl⟩

/-- What can be referred to weakly and has a key is not compared part by part. -/
theorem comparable_of_isWeak {k : Key} (hweak : w.isWeak x = true) (hkey : w.keyOf x = .ok k) :
    w.comparable x = .other := by
  cases x with
  | thing r =>
    obtain ⟨hnone, -⟩ := keyOf_thing hkey
    unfold unhashable? ownUnhashable? at hnone
    unfold isWeak at hweak
    unfold comparable
    dsimp only at hweak ⊢
    generalize (w.thing? r).map Thing.body = b at hnone hweak ⊢
    cases b with
    | none => rfl
    | some b => cases b <;> simp_all
  | tuple xs => cases hweak
  | _ => rfl

/-- Things that can be marked are equal if they are so by what they go by. -/
theorem atomEqual_things {r s : Ref} (hweak : w.isWeak (.thing r) = true)
    (hnone : w.unhashable? r = none) :
    w.atomEqual (.thing r) (.thing s) = (w.equalityParts r == w.equalityParts s) := by
  unfold unhashable? ownUnhashable? at hnone
  unfold isWeak at hweak
  unfold atomEqual
  rw [body?_thing]
  dsimp only at hweak ⊢
  generalize (w.thing? r).map Thing.body = b at hnone hweak ⊢
  cases b with
  | none => rfl
  | some b => cases b <;> simp_all

/-- **Values that can be marked are equal exactly if they have the same key.** -/
theorem equal_eq {k l : Key} (hx : w.isWeak x = true) (hy : w.isWeak y = true)
    (hk : w.keyOf x = .ok k) (hl : w.keyOf y = .ok l) : w.equal x y = (k == l) := by
  have hequal : w.equal x y = w.atomEqual x y := by
    unfold equal maxDepth equalTo
    rw [comparable_of_isWeak hx hk, comparable_of_isWeak hy hl]
  have hkeys : atomEqual.keysEqual w x y = (k == l) := by
    rw [atomEqual.keysEqual, hk, hl]
  rw [hequal]
  cases x with
  | thing r =>
    cases y with
    | thing s =>
      obtain ⟨hr, rfl⟩ := keyOf_thing hk
      obtain ⟨hs, rfl⟩ := keyOf_thing hl
      rw [atomEqual_things hx hr, Bool.eq_iff_iff, beq_iff_eq, beq_iff_eq, Key.mk.injEq]
    | _ => exact hkeys
  | float z => cases hx
  | _ => exact hkeys

/-- Where values can be marked, they are equal behind their handles exactly if their marks are kept
    in one place. -/
theorem flagKey?_eq_iff (hx : w.canBeMarked x = true) (hy : w.canBeMarked y = true) :
    w.flagKey? x = w.flagKey? y ↔ w.equal (w.underlying x) (w.underlying y) = true := by
  obtain ⟨k, hk⟩ := canBeMarked_iff.1 hx
  obtain ⟨l, hl⟩ := canBeMarked_iff.1 hy
  obtain ⟨hweak, hkey⟩ := flagKey?_eq_some_iff.1 hk
  obtain ⟨hweak', hkey'⟩ := flagKey?_eq_some_iff.1 hl
  rw [hk, hl, equal_eq hweak hweak' hkey hkey', Option.some.injEq, beq_iff_eq]

/-! ## What lasts of a key -/

end World

namespace Machine

/-- What lasts of a class. -/
def MadeClass.unnamed (c : MadeClass) : MadeClass := { c with name := "", qualname := "" }

/-- What programs can make of a thing. -/
inductive Body.CanBecome : Body → Body → Prop
  | same (b : Body) : CanBecome b b
  | function (f f' : Function) : CanBecome (.function f) (.function f')
  | cls (c c' : MadeClass) (h : c'.unnamed = c.unnamed) : CanBecome (.cls c) (.cls c')
  | exception (c : Value) (args args' : List Value) :
    CanBecome (.exception c args) (.exception c args')
  | list (xs xs' : List Value) : CanBecome (.list xs) (.list xs')
  | set (xs xs' : List (Key × Value)) : CanBecome (.set xs) (.set xs')
  | dict (es es' : List Entry) : CanBecome (.dict es) (.dict es')
  | series (kind : String) (xs xs' : List Value) : CanBecome (.series kind xs) (.series kind xs')
  | listIterator (items : Ref) (n n' : Nat) :
    CanBecome (.listIterator items n) (.listIterator items n')
  | cell (v v' : Option Value) : CanBecome (.cell v) (.cell v')
  | suspended (s s' : Suspended) : CanBecome (.suspended s) (.suspended s')

theorem Body.canBecome_of_lasting {b b' : Body} (h : b'.lasting = b.lasting) :
    b.CanBecome b' := by
  cases hfixed : b.isFixed with
  | true =>
    obtain rfl := eq_of_lasting hfixed h
    exact .same b'
  | false =>
    cases b <;> try cases hfixed
    all_goals cases b' <;> try (simp [lasting] at h; done)
    case false.exception.refl.exception =>
      obtain ⟨rfl, -⟩ := Body.exception.inj h
      exact .exception ..
    case false.series.refl.series =>
      obtain ⟨rfl, -⟩ := Body.series.inj h
      exact .series ..
    case false.listIterator.refl.listIterator =>
      obtain ⟨rfl, -⟩ := Body.listIterator.inj h
      exact .listIterator ..
    case false.cls.refl.cls => exact .cls _ _ (Body.cls.inj h)
    all_goals constructor

end Machine

namespace World

variable {w w' : World} {v x y : Value}

/-- A value that is there is no thing, or one that can have become what it is later. -/
theorem Lasts.canBecome (h : w.Lasts w') (hv : w.Holds v) :
    (w.body? v = none ∧ w'.body? v = none) ∨ ∃ b b', w.body? v = some b ∧ w'.body? v = some b' ∧
      b.CanBecome b' ∧ ∀ u ∈ b.parts, w.Holds u := by
  cases hv with
  | thing r b hb hparts =>
    obtain ⟨b', hb', hsame⟩ := h r b hb
    exact .inr ⟨b, b', hb, hb', Body.canBecome_of_lasting hsame, hparts⟩
  | atom v hatom => cases v <;> first | exact .inl ⟨rfl, rfl⟩ | cases hatom
  | tuple xs _ => exact .inl ⟨rfl, rfl⟩
  | bound self name _ => exact .inl ⟨rfl, rfl⟩

/-- What lasts of a class stays the same. -/
theorem Lasts.map_madeClass? {α : Type} (h : w.Lasts w') (hv : w.Holds v) (g : MadeClass → α)
    (hg : ∀ c, g c.unnamed = g c) : (w'.madeClass? v).map g = (w.madeClass? v).map g := by
  unfold World.madeClass?
  obtain ⟨hb, hb'⟩ | ⟨b, b', hb, hb', hbecome, -⟩ := h.canBecome hv
  · rw [hb, hb']
  · rw [hb, hb']
    cases hbecome with
    | cls c c' hsame => exact congrArg some (by rw [← hg c', hsame, hg c])
    | _ => rfl

theorem Lasts.underlying (h : w.Lasts w') (hv : w.Holds v) : w'.underlying v = w.underlying v := by
  unfold World.underlying
  obtain ⟨hb, hb'⟩ | ⟨b, b', hb, hb', hbecome, -⟩ := h.canBecome hv
  · rw [hb, hb']
  · rw [hb, hb']
    cases hbecome <;> rfl

theorem Lasts.isWeak (h : w.Lasts w') (hv : w.Holds v) : w'.isWeak v = w.isWeak v := by
  have hbody := h.canBecome hv
  cases v with
  | thing r =>
    obtain ⟨hb, hb'⟩ | ⟨b, b', hb, hb', hbecome, hparts⟩ := hbody
    · rw [body?_thing] at hb hb'
      simp only [World.isWeak, hb, hb']
    · have hweak := fun c hc => h.map_madeClass? (hparts c hc) MadeClass.isWeak fun _ => rfl
      have hsome : ∀ c ∈ b.parts, (w'.madeClass? c).isSome = (w.madeClass? c).isSome := by
        intro c hc
        rw [← Option.isSome_map, hweak c hc, Option.isSome_map]
      rw [body?_thing] at hb hb'
      simp only [World.isWeak, hb, hb']
      -- Only an instance and an exception ask their class, which they keep.
      cases hbecome with
      | exception c args args' => exact hsome c (by simp [Body.parts])
      | same =>
        cases b with
        | «instance» c => exact congrArg (Option.getD · false) (hweak c (by simp [Body.parts]))
        | exception c args => exact hsome c (by simp [Body.parts])
        | _ => rfl
      | _ => rfl
  | _ => rfl

/-- What a thing other than a method is equal by stays the same, and so does whether it has a
    key. -/
theorem Lasts.own (h : w.Lasts w') {r : Ref} (hv : w.Holds (.thing r)) :
    w'.ownPart r = w.ownPart r ∧ (w'.ownUnhashable? r = none ↔ w.ownUnhashable? r = none) := by
  obtain ⟨hb, hb'⟩ | ⟨b, b', hb, hb', hbecome, hparts⟩ := h.canBecome hv
  · rw [body?_thing] at hb hb'
    simp only [ownPart, ownUnhashable?, hb, hb', and_self]
  · have hmade := fun c hc =>
      h.map_madeClass? (hparts c hc) (fun c => (c.equalBy, c.isHashable)) fun _ => rfl
    rw [body?_thing] at hb hb'
    simp only [ownPart, ownUnhashable?, hb, hb']
    -- Only an instance asks its class; the other bodies compare by what they are.
    cases hbecome with
    | same =>
      cases b with
      | «instance» c =>
        have hc := hmade c (by simp [Body.parts])
        dsimp only
        cases hold : w.madeClass? c <;> cases hnew : w'.madeClass? c <;> rw [hold, hnew] at hc
        · simp
        · cases hc
        · cases hc
        · simp at hc
          simp [hc]
      | _ => simp
    | _ => simp

/-- What a thing is equal by stays the same, and so does whether it has a key. -/
theorem Lasts.equalityParts (h : w.Lasts w') {r : Ref} (hv : w.Holds (.thing r)) :
    w'.equalityParts r = w.equalityParts r ∧
      (w'.unhashable? r = none ↔ w.unhashable? r = none) := by
  obtain ⟨hown, hnone⟩ := h.own hv
  obtain ⟨hb, hb'⟩ | ⟨b, b', hb, hb', hbecome, hparts⟩ := h.canBecome hv
  · rw [body?_thing] at hb hb'
    simp only [World.equalityParts, unhashable?, hb, hb', hown, hnone, and_self]
  · rw [body?_thing] at hb hb'
    simp only [World.equalityParts, unhashable?, hb, hb', hown]
    cases hbecome with
    | same =>
      cases b with
      | method f self =>
        cases f with
        | thing s =>
          obtain ⟨hinner, hinnerNone⟩ := h.own (hparts (.thing s) (by simp [Body.parts]))
          exact ⟨by simp only [hinner], hinnerNone⟩
        | _ => exact ⟨rfl, hnone⟩
      | _ => exact ⟨rfl, hnone⟩
    | _ => exact ⟨rfl, hnone⟩

/-- **What a mark is kept under stays the same**, whatever is done. -/
theorem Lasts.flagKey? (h : w.Lasts w') (hv : w.Holds v) : w'.flagKey? v = w.flagKey? v := by
  have hunder := hv.underlying
  have hweak := h.isWeak hunder
  unfold World.flagKey?
  rw [h.underlying hv]
  generalize w.underlying v = u at hunder hweak
  dsimp only
  rw [hweak]
  cases hold : w.isWeak u with
  | false => rfl
  | true =>
    rw [if_pos rfl, if_pos rfl]
    cases u with
    | thing r =>
      obtain ⟨hparts, hnone⟩ := h.equalityParts hunder
      simp only [keyOf, keyParts, thingKeyParts, hparts]
      cases ho : w.unhashable? r <;> cases hn : w'.unhashable? r <;>
        simp_all [Except.map, Except.toOption]
    | tuple xs => cases hold
    | _ => rfl

end World

/-! ## Marks -/

/-- A mark that somebody makes: what it says, and the handle through which it is made. -/
structure Mark where
  allowed : Bool
  handle : Value

namespace Mark

variable {w w' : World} {m : Mark} {v : Value}

/-- Makes the mark. -/
def run (m : Mark) : Run Value := Run.mark m.allowed m.handle

/-- The message that a mark is refused with. -/
def refusal (m : Mark) (w : World) : String :=
  "cannot flag " ++ w.typeName m.handle ++ " object: it does not support weak references"

/-- A mark of what can be marked gives the handle back and does nothing else than to mark. -/
theorem result_of_key {k : Key} (h : w.flagKey? m.handle = some k) :
    m.run.result w = (.ok m.handle, { w with flags := (k, m.allowed) :: w.flags }) := by
  unfold run Run.mark
  rw [Run.result_bind, Run.result_world]
  dsimp only
  rw [h]
  rfl

/-- A mark of anything else raises an exception and does nothing else than to make it. -/
theorem result_of_none (h : w.flagKey? m.handle = none) :
    m.run.result w = (Run.raise "TypeError" (m.refusal w) : Run Value).result w := by
  unfold run Run.mark
  rw [Run.result_bind, Run.result_world]
  dsimp only
  rw [h]
  rfl

/-- Marks succeed exactly for what can be marked. -/
theorem gives_iff : m.run.Gives w v w' ↔ v = m.handle ∧ ∃ k, w.flagKey? m.handle = some k ∧
    w' = { w with flags := (k, m.allowed) :: w.flags } := by
  cases hkey : w.flagKey? m.handle with
  | some k =>
    unfold Run.Gives
    rw [result_of_key hkey]
    constructor
    · rintro ⟨⟩
      exact ⟨rfl, k, rfl, rfl⟩
    · rintro ⟨rfl, _, ⟨⟩, rfl⟩
      rfl
  | none =>
    refine iff_of_false (fun hgives => ?_) (by rintro ⟨-, k, ⟨⟩, -⟩)
    unfold Run.Gives at hgives
    rw [result_of_none hkey] at hgives
    exact Run.not_gives_raise hgives

end Mark

namespace World

variable {w w' : World} {v x : Value}

/-! ## Marks that are refused -/

/-- The world in which an exception has been made. -/
def withException (w : World) (cls message : String) : World :=
  (w.alloc { body := .exception (.cls cls) [.str message] }).2

theorem thing?_withException (w : World) (cls message : String) (r : Ref) :
    (w.withException cls message).thing? r = w.thing? r ∨
      w.thing? r = none ∧ (w.withException cls message).thing? r =
        some { body := .exception (.cls cls) [.str message] } := by
  cases hr : w.thing? r with
  | some t => exact .inl (thing?_alloc hr)
  | none =>
    have hsize : w.things.size ≤ r.index := Array.getElem?_eq_none_iff.1 hr
    simp only [withException, alloc, thing?]
    by_cases heq : r.index = w.things.size
    · right
      simp [heq]
    · left
      simp
      omega

/-- An exception that has been made changes nothing about what counts as true. -/
theorem truth_withException (w : World) (cls message : String) (v : Value) :
    (w.withException cls message).truth v = w.truth v := by
  -- The exception is one more thing on the heap, at most, and what was there is as it was.
  have htable : ∀ r, (w.withException cls message).table r = w.table r := by
    intro r
    unfold table
    obtain hr | ⟨hr, hr'⟩ := w.thing?_withException cls message r
    · rw [hr]
    · rw [hr, hr']
      rfl
  have hmade : ∀ c, (w.withException cls message).madeClass? c = w.madeClass? c := by
    intro c
    cases c with
    | thing r =>
      unfold madeClass?
      rw [body?_thing, body?_thing]
      obtain hr | ⟨hr, hr'⟩ := w.thing?_withException cls message r
      · rw [hr]
      · rw [hr, hr']
        rfl
    | _ => rfl
  cases v with
  | thing r =>
    obtain hr | ⟨hr, hr'⟩ := w.thing?_withException cls message r
    · simp only [truth, hr]
      generalize (w.thing? r).map Thing.body = b
      cases b with
      | none => rfl
      | some b =>
        cases b with
        | attributes o => exact congrArg (fun t => !List.isEmpty t) (htable o)
        | userDict _ d | proxy d =>
          obtain hd | ⟨hd, hd'⟩ := w.thing?_withException cls message d
          · simp only [hd]
          · simp [hd, hd']
        | «instance» c =>
          exact congrArg (fun c => !(Option.map MadeClass.isFalsy c).getD false) (hmade c)
        | _ => rfl
    · simp [truth, hr, hr']
  | _ => rfl

theorem lasts_withException (w : World) (cls message : String) :
    w.Lasts (w.withException cls message) := .alloc w _

theorem flag?_withException (cls message : String) (hv : w.Holds v) :
    (w.withException cls message).flag? v = w.flag? v := by
  unfold flag? accepts
  rw [truth_withException, (w.lasts_withException cls message).flagKey? hv]
  rfl

/-- **A mark that is refused** raises a `TypeError` and changes the answer for nothing that is
    there. -/
theorem mark_refused {m : Mark} (h : w.canBeMarked m.handle = false) :
    ∃ e, m.run.result w = (.error (.raised e), w.withException "TypeError" (m.refusal w)) ∧
      (w.withException "TypeError" (m.refusal w)).typeName e = "TypeError" ∧
      ∀ x, w.Holds x → (w.withException "TypeError" (m.refusal w)).flag? x = w.flag? x := by
  refine ⟨.thing (w.alloc { body := .exception (.cls "TypeError") [.str (m.refusal w)] }).1, ?_, ?_,
    fun x hx => flag?_withException _ _ hx⟩
  · rw [Mark.result_of_none (flagKey?_eq_none_iff.2 h)]
    rfl
  · have hthing := thing?_alloc_self (w := w)
      (t := { body := .exception (.cls "TypeError") [.str (m.refusal w)] })
    unfold typeName classOf withException
    simp only [hthing]
    rfl

/-! ## What a mark does -/

/-- Whether a mark is for a value: what is behind its handle equals what is behind the value. -/
def isFor (w : World) (m : Mark) (x : Value) : Bool :=
  w.equal (w.underlying m.handle) (w.underlying x)

theorem flagKey?_flags (w : World) (flags : List (Key × Bool)) (v : Value) :
    World.flagKey? { w with flags } v = w.flagKey? v := by
  have hunder : World.underlying { w with flags } v = w.underlying v := rfl
  unfold flagKey?
  rw [hunder]
  cases w.underlying v <;> rfl

/-- A mark that is made answers for everything that it is for, and for nothing else. -/
theorem flag?_mark {m : Mark} (h : m.run.Gives w v w') (x : Value) : w'.flag? x =
    if w.truth x && (w.canBeMarked x && w.isFor m x) then some m.allowed else w.flag? x := by
  obtain ⟨-, k, hkey, rfl⟩ := Mark.gives_iff.1 h
  have htruth : World.truth { w with flags := (k, m.allowed) :: w.flags } x = w.truth x := rfl
  unfold flag? accepts
  rw [htruth, flagKey?_flags]
  cases w.truth x with
  | false => rfl
  | true =>
    cases hx : w.flagKey? x with
    | none =>
      rw [flagKey?_eq_none_iff.1 hx]
      rfl
    | some l =>
      have hcan : w.canBeMarked x = true := canBeMarked_iff.2 ⟨l, hx⟩
      -- A mark is for a value if and only if the two have one key.
      have hequal := flagKey?_eq_iff (canBeMarked_iff.2 ⟨k, hkey⟩) hcan
      rw [hkey, hx, Option.some.injEq] at hequal
      by_cases hkl : k = l
      · have hfor : w.isFor m x = true := hequal.1 hkl
        simp [hcan, hfor, hkl]
      · have hfor : w.isFor m x = false := Bool.eq_false_iff.2 fun hfor => hkl (hequal.2 hfor)
        simp [hfor, hkl]

/-! ## Histories -/

/-- What has happened between two worlds, with the marks that have been made and not been refused.
    In between programs have done anything, as long as it has made no marks of its own. -/
inductive Undergoes (w : World) : List Mark → World → Prop
  | nothing : Undergoes w [] w
  | change {ms : List Mark} {w₁ w₂ : World} (h : Undergoes w ms w₁) (hlasts : w₁.Lasts w₂)
    (hflags : w₂.flags = w₁.flags) : Undergoes w ms w₂
  | marked {ms : List Mark} {m : Mark} {v : Value} {w₁ w₂ : World} (h : Undergoes w ms w₁)
    (hheld : w₁.Holds m.handle) (hgives : m.run.Gives w₁ v w₂) : Undergoes w (ms ++ [m]) w₂
  | refused {ms : List Mark} (m : Mark) {e : Halt} {w₁ w₂ : World} (h : Undergoes w ms w₁)
    (hresult : m.run.result w₁ = (.error e, w₂)) : Undergoes w ms w₂

/-- What was there is there still. -/
theorem Lasts.holds (h : w.Lasts w') (hv : w.Holds v) : w'.Holds v := by
  induction hv with
  | atom v hatom => exact .atom v hatom
  | tuple xs _ ih => exact .tuple xs ih
  | bound self name _ ih => exact .bound self name ih
  | thing r b hb hparts ih =>
    obtain ⟨b', hb', hsame⟩ := h r b hb
    refine .thing r b' hb' fun u hu => ih u ?_
    cases Body.canBecome_of_lasting hsame <;> exact hu

/-- A mark that is refused is a change like any other. -/
theorem lasts_of_refused {m : Mark} {e : Halt} (h : m.run.result w = (.error e, w')) :
    w.Lasts w' ∧ w'.flags = w.flags := by
  cases hkey : w.flagKey? m.handle with
  | some k =>
    rw [Mark.result_of_key hkey] at h
    cases h
  | none =>
    rw [Mark.result_of_none hkey] at h
    obtain ⟨-, rfl⟩ := Prod.mk.inj h
    exact ⟨w.lasts_withException _ _, rfl⟩

theorem Undergoes.lasts {ms : List Mark} (h : w.Undergoes ms w') : w.Lasts w' := by
  induction h with
  | nothing => exact .refl w
  | change _ hlasts _ ih => exact ih.trans hlasts
  | refused m _ hresult ih => exact ih.trans (lasts_of_refused hresult).1
  | marked _ _ hgives ih =>
    obtain ⟨-, k, -, rfl⟩ := Mark.gives_iff.1 hgives
    exact ih.trans fun r b hb => .of_body? hb

/-- What is kept of a mark whose handle is there. -/
structure KeptAs (w : World) (m : Mark) (e : Key × Bool) : Prop where
  held : w.Holds m.handle
  key : w.flagKey? m.handle = some e.1
  allowed : e.2 = m.allowed

theorem KeptAs.lasts {m : Mark} {e : Key × Bool} (hkept : w.KeptAs m e) (h : w.Lasts w') :
    w'.KeptAs m e where
  held := h.holds hkept.held
  key := (h.flagKey? hkept.held).trans hkept.key
  allowed := hkept.allowed

/-- **What is kept of a history** are its marks, the last one first. -/
theorem Undergoes.kept {ms : List Mark} (h : w.Undergoes ms w') (hnone : w.flags = []) :
    List.Forall₂ w'.KeptAs ms.reverse w'.flags := by
  induction h with
  | nothing =>
    rw [hnone]
    exact .nil
  | change h hlasts hflags ih =>
    rw [hflags]
    exact ih.imp fun _ _ hkept => hkept.lasts hlasts
  | refused m h hresult ih =>
    obtain ⟨hlasts, hflags⟩ := lasts_of_refused hresult
    rw [hflags]
    exact ih.imp fun _ _ hkept => hkept.lasts hlasts
  | @marked ms m v w₁ w₂ h hheld hgives ih =>
    obtain ⟨-, k, hkey, rfl⟩ := Mark.gives_iff.1 hgives
    have hlasts : w₁.Lasts { w₁ with flags := (k, m.allowed) :: w₁.flags } :=
      fun r b hb => .of_body? hb
    rw [List.reverse_append]
    refine .cons ⟨hlasts.holds hheld, ?_, rfl⟩ (ih.imp fun _ _ hkept => hkept.lasts hlasts)
    rw [flagKey?_flags, hkey]

/-- The mark that counts for a value: the last one that is for it. -/
def lastFor? (w : World) (ms : List Mark) (x : Value) : Option Bool :=
  ((ms.filter (w.isFor · x)).getLast?).map Mark.allowed

/-- **The last mark counts.** -/
theorem Undergoes.accepts {ms : List Mark} (h : w.Undergoes ms w') (hnone : w.flags = [])
    (x : Value) (hx : w'.canBeMarked x = true) : w'.accepts x = (w'.lastFor? ms x).getD true := by
  obtain ⟨k, hk⟩ := canBeMarked_iff.1 hx
  -- The newest flag with the key of the callable comes from the newest mark that is for it.
  have hfind : ∀ {ms flags}, List.Forall₂ w'.KeptAs ms flags →
      (flags.find? (·.1 == k)).map Prod.snd = (ms.find? (w'.isFor · x)).map Mark.allowed := by
    intro ms flags hkept
    induction hkept with
    | nil => rfl
    | @cons m e ms flags hm hrest ih =>
      have hfor := flagKey?_eq_iff (canBeMarked_iff.2 ⟨_, hm.key⟩) hx
      rw [hm.key, hk, Option.some.injEq] at hfor
      rw [List.find?_cons, List.find?_cons]
      by_cases he : e.1 = k
      · have hyes : w'.isFor m x = true := hfor.1 he
        simp [he, hyes, hm.allowed]
      · have hno : w'.isFor m x = false := Bool.eq_false_iff.2 fun hyes => he (hfor.2 hyes)
        rw [hno, beq_eq_false_iff_ne.2 he]
        exact ih
  unfold World.accepts lastFor?
  rw [hk]
  dsimp only
  rw [hfind (h.kept hnone), ← List.head?_filter, List.filter_reverse, List.head?_reverse]

/-- A thing is equal to nothing else: it is neither a method nor an instance of a class that says
    what its instances are equal by. -/
structure GoesByIdentity (w : World) (r : Ref) : Prop where
  notMethod : ∀ f self, w.body? (.thing r) ≠ some (.method f self)
  notAlike : ∀ c k, w.body? (.thing r) = some (.instance c) →
    (w.madeClass? c).bind MadeClass.equalBy ≠ some k

theorem GoesByIdentity.equalityParts {r : Ref} (h : w.GoesByIdentity r) :
    w.equalityParts r = [.thing r.index] := by
  have hown : w.ownPart r = .thing r.index := by
    unfold ownPart
    split
    · rename_i c hbody
      cases hequal : (w.madeClass? c).bind MadeClass.equalBy with
      | none => rfl
      | some k => exact absurd hequal (h.notAlike c k hbody)
    · rfl
  unfold World.equalityParts
  split
  · rename_i s self hbody
    exact absurd hbody (h.notMethod _ _)
  · rename_i f self _ hbody
    exact absurd hbody (h.notMethod _ _)
  · rw [hown]

/-- What goes by identity has the marks that have been made for itself only. -/
theorem GoesByIdentity.isFor {m : Mark} {b : Value} {r : Ref} (h : w.GoesByIdentity r)
    (hb : w.underlying b = .thing r) (hmark : w.canBeMarked m.handle = true)
    (hcan : w.canBeMarked b = true) (hfor : w.isFor m b = true) :
    w.underlying m.handle = .thing r := by
  obtain ⟨k, hk⟩ := canBeMarked_iff.1 hcan
  have hsame := (flagKey?_eq_iff hmark hcan).2 hfor
  obtain ⟨-, hkey⟩ := flagKey?_eq_some_iff.1 hk
  rw [hb] at hkey
  obtain ⟨-, rfl⟩ := keyOf_thing hkey
  rw [h.equalityParts] at hk
  exact underlying_of_flagKey? (hsame.trans hk)

/-- A world with a function, handles of it, and two instances of a class that are equal. -/
def twinWorld : World :=
  { things := #[{ body := .module "world" },
      { body := .cls { name := "Twin", qualname := "Twin", bases := [.cls "object"],
                       order := [.thing ⟨1⟩, .cls "object"], equalBy := some "twin" } },
      { body := .instance (.thing ⟨1⟩) }, { body := .instance (.thing ⟨1⟩) },
      { body := .function Injection.sampleFunction }, { body := .method (.thing ⟨4⟩) (.thing ⟨0⟩) },
      { body := .staticMethod (.thing ⟨4⟩) }, { body := .list [.none] }] }

/-- Everything that is marked in the world is there. -/
theorem twinWorld_holds : twinWorld.Holds (.thing ⟨2⟩) ∧ twinWorld.Holds (.thing ⟨5⟩) := by
  have hcls : twinWorld.Holds (.thing ⟨1⟩) := .thing ⟨1⟩ _ rfl nofun
  have hfunction : twinWorld.Holds (.thing ⟨4⟩) := .thing ⟨4⟩ _ rfl nofun
  refine ⟨.thing ⟨2⟩ _ rfl fun u hu => ?_, .thing ⟨5⟩ _ rfl fun u hu => ?_⟩
  · rw [List.mem_singleton.1 hu]
    exact hcls
  · rw [List.mem_singleton.1 hu]
    exact hfunction

/-- The mark of the world with a list. -/
def listMark : Mark := ⟨false, .thing ⟨7⟩⟩

/-- The world after the function has been forbidden through the method. -/
def forbiddenWorld : World := { twinWorld with flags := [(markKey ⟨4⟩, false)] }

end World

end Graft
