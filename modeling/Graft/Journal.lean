import Graft.Identifier

set_option autoImplicit false

/-! # Journals

A journal keeps records in the order in which they were added, each under an identifier of its own.
Records are never replaced or removed. -/

namespace Graft

open Data

/-- Records by identifier, in the order in which they were added. -/
structure Journal (R : Type) where
  entries : List (Key × R) := []
  /-- No two records have the same identifier. -/
  nodup : (entries.map Prod.fst).Nodup := by exact List.nodup_nil

namespace Journal

variable {R : Type}

/-- The journal without records. -/
def empty : Journal R := {}

/-- Whether there is a record under an identifier. -/
def contains (j : Journal R) (k : Key) : Bool := k ∈ j.entries.map Prod.fst

/-- The record under an identifier. -/
def get? (j : Journal R) (k : Key) : Option R := (j.entries.find? (·.1 = k)).map Prod.snd

/-- The records in the order in which they were added. -/
def toList (j : Journal R) : List R := j.entries.map Prod.snd

/-- What an iteration over records has still to give. -/
structure Iteration (R : Type) where
  left : List R

/-- Begins an iteration over the records as they are now. -/
def iterate (j : Journal R) : Iteration R := ⟨j.toList⟩

/-- The next record of an iteration, if there is one, and what it has to give after that. -/
def Iteration.next : Iteration R → Option R × Iteration R
  | ⟨[]⟩ => (none, ⟨[]⟩)
  | ⟨r :: rs⟩ => (some r, ⟨rs⟩)

/-- The number of records. -/
def size (j : Journal R) : Nat := j.entries.length

/-- Adds a record, unless there is one under its identifier already. -/
def add? (j : Journal R) (k : Key) (r : R) : Option (Journal R) :=
  if h : k ∈ j.entries.map Prod.fst then none
  else some {
    entries := j.entries ++ [(k, r)]
    nodup := by
      have hn := j.nodup
      simp only [List.map_append, List.map_cons, List.map_nil]
      exact List.nodup_append.2 ⟨hn, by simp, by
        intro a ha b hb e
        simp only [List.mem_singleton] at hb
        exact h (hb ▸ e ▸ ha)⟩ }

/-- Why a record can not be added. -/
inductive AddFault
  /-- Data of the named type can not be identifiers. -/
  | unhashable (typeName : String)
  /-- There is a record under the identifier, which is given as a literal. -/
  | taken (literal : String)
deriving DecidableEq, Repr

/-- Says that there is a record under an identifier, which is given as a literal. -/
def takenText (literal : String) : String := "record id " ++ literal ++ " already registered"

/-- The key that an identifier is. -/
def keyOf (id : Datum) : Except AddFault Key := (Key.ofDatum id).mapError .unhashable

/-- Adds a record under any identifier. -/
def add (j : Journal R) (id : Datum) (r : R) : Except AddFault (Journal R) := do
  match j.add? (← keyOf id) r with
  | some j => .ok j
  | none => .error (.taken id.repr)

end Journal

/-- A journal that also hands out identifiers. -/
structure Register (R : Type) where
  /-- What its identifiers begin with. -/
  lead : String
  /-- The length of suffixes, once it is known. -/
  suffixLength : Datum := .none
  journal : Journal R := .empty

namespace Register

variable {R : Type}

/-- Draws identifiers from a source until one is free, so many of them at most. -/
def drawFree {σ : Type} (draw : σ → Nat × σ) (j : Journal R) (lead : String) (length : Int) :
    Nat → σ → Option (String × σ)
  | 0, _ => none
  | n + 1, d =>
    let (id, d) := mintFrom draw lead length d
    if j.contains (.ofText id) then drawFree draw j lead length n d else some (id, d)

/-- Why no identifier can be handed out. -/
inductive ReserveFault
  | mint (f : MintFault)
  /-- No free one has been drawn. -/
  | exhausted
deriving DecidableEq, Repr

/-- Hands out an identifier that no record has, where so many are drawn from a source at most.  The
    length of suffixes is read from the settings when it is first needed, and kept. -/
def reserveFrom {σ : Type} (draw : σ → Nat × σ) (tries : Nat) (r : Register R) (s : Surroundings)
    (d : σ) : Except ReserveFault String × Register R × σ :=
  match lengthFor r.suffixLength s with
  | .error f => (.error (.mint f), r, d)
  | .ok n =>
    let r := if r.suffixLength.isNone then { r with suffixLength := .int n } else r
    match drawFree draw r.journal r.lead n tries d with
    | some (id, d) => (.ok id, r, d)
    | none => (.error .exhausted, r, d)

/-- After so many identifiers that are in use, dice give no other ones: the picks are used up, and
    the congruence has come round. -/
def allTries (d : Dice) : Nat := 0x80000001 + d.picks.length

/-- Hands out an identifier that no record has. -/
def reserve (r : Register R) (s : Surroundings) (d : Dice) :
    Except ReserveFault String × Register R × Dice := r.reserveFrom Dice.draw (allTries d) s d

end Register

end Graft
