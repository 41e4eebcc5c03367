import Mathlib.Data.List.Nodup
import Graft.Proofs.Journal

set_option autoImplicit false

/-! # Registers only grow

A journal goes on from one state to a later one by records that are added behind the ones that are
there, each under an identifier that is in use by no other record.  So whatever has been found under
an identifier is found there from then on.  A register takes such steps only: what is not accepted
changes nothing, and neither does drawing an identifier or looking one up.

An iteration takes the records as they are when it is begun.  What it gives is settled by then,
whatever is added before it comes to its end. -/

namespace Graft

open Data

namespace Journal

variable {R : Type} {j j₁ j₂ : Journal R} {k : Key} {r : R}

/-! ## What is found in a journal -/

/-- A record is found exactly under the identifier that it is kept under. -/
theorem get?_eq_some_iff : j.get? k = some r ↔ (k, r) ∈ j.entries := by
  constructor
  · intro h
    obtain ⟨⟨k', r'⟩, hfound, rfl⟩ := Option.map_eq_some_iff.1 h
    obtain rfl : k' = k := by simpa using List.find?_some hfound
    exact List.mem_of_find?_eq_some hfound
  · intro h
    cases hfound : j.entries.find? (fun e => decide (e.1 = k)) with
    | none =>
      have hnone := List.find?_eq_none.1 hfound (k, r) h
      simp at hnone
    | some e =>
      have hkey : e.1 = k := by simpa using List.find?_some hfound
      have hsame := List.inj_on_of_nodup_map j.nodup (List.mem_of_find?_eq_some hfound) h hkey
      simp only [get?, hfound, hsame, Option.map_some]

theorem contains_iff : j.contains k = true ↔ ∃ r, (k, r) ∈ j.entries := by
  simp [contains]

/-- A record is found exactly under identifiers that are in use. -/
theorem get?_eq_none_iff : j.get? k = none ↔ j.contains k = false := by
  rw [Option.eq_none_iff_forall_ne_some, Bool.eq_false_iff, Ne, contains_iff, not_exists]
  exact forall_congr' fun r => not_congr get?_eq_some_iff

/-- A record is added exactly if its identifier can be one and is in use by no record. -/
theorem add_cases (j : Journal R) (id : Datum) (r : R) :
    (∃ k j', keyOf id = .ok k ∧ j.contains k = false ∧ j.add? k r = some j' ∧ j.add id r = .ok j') ∨
      ∃ f, j.add id r = .error f ∧ (keyOf id = .error f ∨
        ∃ k, keyOf id = .ok k ∧ j.contains k = true ∧ f = .taken id.repr) := by
  unfold add
  cases hkey : keyOf id with
  | error f => exact .inr ⟨f, rfl, .inl rfl⟩
  | ok k =>
    have hfree := add?_isSome (j := j) (k := k) (r := r)
    cases hadd : j.add? k r with
    | none =>
      rw [hadd] at hfree
      refine .inr ⟨.taken id.repr, ?_, .inr ⟨k, rfl, by simpa using hfree.symm, rfl⟩⟩
      simp only [bind, Except.bind, hadd]
    | some j' =>
      rw [hadd] at hfree
      refine .inl ⟨k, j', rfl, by simpa using hfree.symm, hadd, ?_⟩
      simp only [bind, Except.bind, hadd]

/-! ## Going on -/

/-- A journal goes on with some records: they come behind the ones that were there, in this order
    and under identifiers of their own, and all that was found before is found still. -/
structure GoesOn (j : Journal R) (new : List (Key × R)) (j' : Journal R) : Prop where
  entries : j'.entries = j.entries ++ new
  listed : j'.toList = j.toList ++ new.map Prod.snd
  distinct : (j'.entries.map Prod.fst).Nodup
  kept : ∀ k r, j.get? k = some r → j'.get? k = some r
  found : ∀ k r, (k, r) ∈ new → j.get? k = none ∧ j'.get? k = some r

theorem goesOn_of_entries {new : List (Key × R)} (h : j₁.entries = j.entries ++ new) :
    j.GoesOn new j₁ where
  entries := h
  listed := by simp [toList, h]
  distinct := j₁.nodup
  kept k r hr := by
    rw [get?_eq_some_iff] at hr ⊢
    exact h ▸ List.mem_append_left _ hr
  found k r hr := by
    refine ⟨?_, get?_eq_some_iff.2 (h ▸ List.mem_append_right _ hr)⟩
    rw [get?_eq_none_iff, Bool.eq_false_iff, Ne, contains_iff]
    rintro ⟨s, hs⟩
    -- An identifier that was in use is in use by no record that has been added.
    have hnodup := j₁.nodup
    rw [h, List.map_append] at hnodup
    exact List.disjoint_of_nodup_append hnodup (List.mem_map_of_mem hs)
      (List.mem_map.2 ⟨_, hr, rfl⟩)

namespace GoesOn

variable {new new' : List (Key × R)}

theorem refl (j : Journal R) : j.GoesOn [] j := goesOn_of_entries (List.append_nil _).symm

theorem trans (h : j.GoesOn new j₁) (h' : j₁.GoesOn new' j₂) : j.GoesOn (new ++ new') j₂ :=
  goesOn_of_entries (by rw [h'.entries, h.entries, List.append_assoc])

/-- The records that have been added are kept under different keys. -/
theorem distinct_new (h : j.GoesOn new j₁) : (new.map Prod.fst).Nodup := by
  have hdistinct := h.distinct
  rw [h.entries, List.map_append] at hdistinct
  exact hdistinct.of_append_right

/-- What a journal goes on with can be told from how it is before and after. -/
theorem unique (h : j.GoesOn new j₁) (h' : j.GoesOn new' j₁) : new = new' :=
  List.append_cancel_left (h.entries.symm.trans h'.entries)

/-- The record that is added is the only new one. -/
theorem add? (h : j.add? k r = some j₁) : j.GoesOn [(k, r)] j₁ :=
  goesOn_of_entries (add?_eq_some h).2

end GoesOn

/-! ## Iterations -/

/-- Something that is done while records are iterated over: something that records may come of, or
    a new iteration, or a look at the next record of one that has been begun. -/
inductive Turn (A : Type)
  | act (a : A)
  | iterate
  | next (i : Nat)

/-- Whether an iteration is asked for its next record. -/
def Turn.asks {A : Type} (i : Nat) : Turn A → Bool
  | .next i' => i' == i
  | _ => false

/-- A state with the iterations that have been begun, the first one first. -/
structure Visited (S R : Type) where
  state : S
  iterations : List (Iteration R) := []

namespace Visited

variable {S A : Type} (step : S → A → S) (journal : S → Journal R)

/-- What comes of a turn, and the record that it gives. -/
def turn (v : Visited S R) : Turn A → Option R × Visited S R
  | .act a => (none, { v with state := step v.state a })
  | .iterate => (none, { v with iterations := v.iterations ++ [(journal v.state).iterate] })
  | .next i =>
    match v.iterations[i]? with
    | none => (none, v)
    | some it => (it.next.1, { v with iterations := v.iterations.set i it.next.2 })

/-- The records that an iteration gives during some turns. -/
def given (i : Nat) : Visited S R → List (Turn A) → List R
  | _, [] => []
  | v, t :: ts =>
    (if t.asks i then (turn step journal v t).1.toList else [])
      ++ given i (turn step journal v t).2 ts

variable {step journal}

theorem iteration_next (it : Iteration R) (n : Nat) :
    it.next.1.toList ++ it.next.2.left.take n = it.left.take (n + 1) := by
  obtain ⟨left⟩ := it
  cases left <;> simp [Iteration.next]

/-- **One turn.**  What an iteration has to give is changed by asking it for a record only. -/
theorem turn_left {v : Visited S R} {i : Nat} {it : Iteration R} (hi : v.iterations[i]? = some it)
    (t : Turn A) :
    (turn step journal v t).2.iterations[i]? = some (if t.asks i then it.next.2 else it) := by
  have hlt : i < v.iterations.length := (List.getElem?_eq_some_iff.1 hi).1
  cases t with
  | act a => exact hi
  | iterate =>
    simp only [turn, Turn.asks, Bool.false_eq_true, if_false]
    rw [List.getElem?_append_left hlt, hi]
  | next i' =>
    simp only [turn, Turn.asks, beq_iff_eq]
    by_cases hsame : i' = i
    · subst hsame
      simp only [hi, if_true]
      rw [List.getElem?_set_self hlt]
    · simp only [if_neg hsame]
      cases v.iterations[i']? with
      | none => exact hi
      | some it' => rw [List.getElem?_set_ne hsame, hi]

/-- What an iteration gives is the beginning of what it has had to give, as far as it is asked. -/
theorem given_eq_take (i : Nat) (ts : List (Turn A)) (v : Visited S R) (it : Iteration R)
    (hi : v.iterations[i]? = some it) :
    given step journal i v ts = it.left.take (ts.countP (Turn.asks i)) := by
  induction ts generalizing v it with
  | nil => simp [given]
  | cons t ts ih =>
    have hleft : (turn step journal v t).2.iterations[i]? = some (if t.asks i then it.next.2 else it) :=
      turn_left hi t
    have hrest := ih _ _ hleft
    simp only [given, hrest, List.countP_cons]
    cases hasks : t.asks i with
    | false => simp
    | true =>
      have hnext : (turn step journal v t).1 = it.next.1 := by
        cases t with
        | next i' =>
          obtain rfl : i' = i := by simpa [Turn.asks] using hasks
          simp only [turn, hi]
        | _ => cases hasks
      simp only [if_true, hnext]
      exact iteration_next it _

/-- **An iteration gives the records that were there when it was begun**, in their order, and no
    other ones, whatever is done in the meantime. -/
theorem given_begun (v : Visited S R) (ts : List (Turn A)) :
    given step journal v.iterations.length (turn step journal v .iterate).2 ts =
      (journal v.state).toList.take (ts.countP (Turn.asks v.iterations.length)) :=
  given_eq_take _ ts _ (journal v.state).iterate (by simp [turn])

end Visited

end Journal

/-! ## Steps of a register -/

namespace Register

variable {R : Type}

/-- What can be done with a register: an identifier is handed out, a record is added, or one is
    looked up. -/
inductive Step (R : Type)
  | reserve (around : Surroundings) (dice : Dice)
  | add (id : Datum) (r : R)
  | get (id : Datum)

/-- What is answered. -/
inductive Answer (R : Type)
  | reserved (id : Except ReserveFault String)
  | added (done : Except Journal.AddFault Unit)
  | got (found : Except Journal.AddFault (Option R))

/-- What comes of a step, and what is answered. -/
def perform (reg : Register R) : Step R → Answer R × Register R
  | .reserve around dice =>
    let (id, reg, _) := reg.reserve around dice
    (.reserved id, reg)
  | .add id r =>
    match reg.journal.add id r with
    | .ok journal => (.added (.ok ()), { reg with journal })
    | .error f => (.added (.error f), reg)
  | .get id => (.got ((Journal.keyOf id).map reg.journal.get?), reg)

/-- The register that a step leaves. -/
def next (reg : Register R) (s : Step R) : Register R := (reg.perform s).2

/-- The record that a step adds, if it adds one. -/
def accepted? (reg : Register R) : Step R → Option (Key × R)
  | .add id r =>
    match Journal.keyOf id with
    | .ok k => if reg.journal.contains k then none else some (k, r)
    | .error _ => none
  | _ => none

/-- The records that are added by some steps, in their order. -/
def accepted : Register R → List (Step R) → List (Key × R)
  | _, [] => []
  | reg, s :: ss => (reg.accepted? s).toList ++ accepted (reg.next s) ss

variable {reg : Register R}

/-- What is not accepted changes nothing. -/
theorem perform_add_error {id : Datum} {r : R} {f : Journal.AddFault} {reg' : Register R}
    (h : reg.perform (.add id r) = (.added (.error f), reg')) : reg' = reg := by
  unfold perform at h
  dsimp only at h
  split at h
  · cases h
  · cases h
    rfl

/-- A record is accepted exactly if its identifier can be one and none is found under it. -/
theorem perform_add_iff (reg : Register R) (id : Datum) (r : R) :
    (∃ reg', reg.perform (.add id r) = (.added (.ok ()), reg')) ↔
      ∃ k, Journal.keyOf id = .ok k ∧ reg.journal.get? k = none := by
  unfold perform
  obtain ⟨k, j, hkey, hfree, -, hdone⟩ | ⟨f, hfails, hwhy⟩ := reg.journal.add_cases id r
  · simp [hdone, hkey, Journal.get?_eq_none_iff, hfree]
  · obtain hkey | ⟨k, hkey, htaken, -⟩ := hwhy
    · simp [hfails, hkey]
    · simp [hfails, hkey, Journal.get?_eq_none_iff, htaken]

/-- **One step** of a register adds the record that is accepted, and no other one. -/
theorem next_goesOn (reg : Register R) (s : Step R) :
    reg.journal.GoesOn (reg.accepted? s).toList (reg.next s).journal := by
  cases s with
  | reserve around dice =>
    rcases hreserve : reg.reserve around dice with ⟨id, reg', dice'⟩
    have hsame : (reg.next (.reserve around dice)).journal = reg.journal := by
      simp only [next, perform, hreserve]
      exact (reserve_spec hreserve).1
    rw [hsame]
    exact .refl _
  | get id => exact .refl _
  | add id r =>
    obtain ⟨k, j, hkey, hfree, hadd, hdone⟩ | ⟨f, hfails, hwhy⟩ := reg.journal.add_cases id r
    · simp only [next, perform, hdone, accepted?, hkey, hfree]
      exact .add? hadd
    · have hnone : reg.accepted? (.add id r) = none := by
        obtain hkey | ⟨k, hkey, htaken, -⟩ := hwhy
        · simp only [accepted?, hkey]
        · simp only [accepted?, hkey, htaken, if_true]
      simp only [next, perform, hfails, hnone]
      exact .refl _

/-- **A run of steps** adds the records that are accepted, in their order. -/
theorem run_goesOn (reg : Register R) (ss : List (Step R)) :
    reg.journal.GoesOn (reg.accepted ss) (ss.foldl next reg).journal := by
  induction ss generalizing reg with
  | nil => exact .refl _
  | cons s ss ih => exact (reg.next_goesOn s).trans (ih _)

/-- An identifier that is handed out is in use by no record. -/
theorem perform_reserve {around : Surroundings} {dice : Dice} {id : String} {reg' : Register R}
    (h : reg.perform (.reserve around dice) = (.reserved (.ok id), reg')) :
    reg'.journal = reg.journal ∧ reg.journal.get? (.ofText id) = none := by
  rcases hreserve : reg.reserve around dice with ⟨x, reg₁, dice₁⟩
  simp only [perform, hreserve, Prod.mk.injEq, Answer.reserved.injEq] at h
  obtain ⟨rfl, rfl⟩ := h
  obtain ⟨hsame, -, hfree⟩ := reserve_spec hreserve
  refine ⟨hsame, ?_⟩
  rw [Journal.get?_eq_none_iff, ← hsame]
  exact hfree id rfl

end Register

end Graft
