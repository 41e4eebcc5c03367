import Mathlib.Data.List.Basic
import Graft.Journal
import Graft.SourceCache

set_option autoImplicit false

/-! # Journals and registered texts

What is found in a journal after a record has been added, which identifiers are handed out, and what
is found in the source cache after a text has been registered. -/

namespace Graft

open Data

namespace Journal

variable {R : Type} {j j' : Journal R} {k : Key} {r : R}

theorem add?_eq_some (h : j.add? k r = some j') :
    j.contains k = false ∧ j'.entries = j.entries ++ [(k, r)] := by
  unfold add? at h
  split at h
  · cases h
  · rename_i hk
    cases h
    exact ⟨by simpa [contains] using hk, rfl⟩

/-- A record can be added exactly if there is none under its identifier. -/
theorem add?_isSome : (j.add? k r).isSome = !j.contains k := by
  unfold add? contains
  split <;> simp_all

/-- The record that has been added is found under its identifier. -/
theorem get?_add? (h : j.add? k r = some j') : j'.get? k = some r := by
  obtain ⟨hfree, hentries⟩ := add?_eq_some h
  have hnone : j.entries.find? (fun e => decide (e.1 = k)) = none := by
    rw [List.find?_eq_none]
    intro e he hk
    rw [decide_eq_true_eq] at hk
    have hmem : k ∈ j.entries.map Prod.fst := hk ▸ List.mem_map_of_mem he
    simp [contains, hmem] at hfree
  simp [get?, hentries, List.find?_append, hnone]

end Journal

namespace Register

variable {R : Type}

/-- Whatever is drawn in the end is in use by no record. -/
theorem drawFree_free {σ : Type} {draw : σ → Nat × σ} {j : Journal R} {lead : String} {length : Int}
    {n : Nat} {d d' : σ} {id : String} (h : drawFree draw j lead length n d = some (id, d')) :
    j.contains (.ofText id) = false := by
  induction n generalizing d with
  | zero => cases h
  | succ n ih =>
    simp only [drawFree] at h
    split at h
    · exact ih h
    · rename_i hfree
      cases h
      simpa using hfree

/-- **An identifier that is handed out is in use by no record**, and the records stay as they are
    while it is drawn. -/
theorem reserve_spec {r r' : Register R} {s : Surroundings} {d d' : Dice}
    {x : Except ReserveFault String} (h : r.reserve s d = (x, r', d')) :
    r'.journal = r.journal ∧ r'.lead = r.lead ∧
      ∀ id, x = .ok id → r'.journal.contains (.ofText id) = false := by
  unfold reserve reserveFrom at h
  cases hlength : lengthFor r.suffixLength s with
  | error f =>
    rw [hlength] at h
    cases h
    exact ⟨rfl, rfl, by simp⟩
  | ok n =>
    simp only [hlength] at h
    split at h
    · rename_i id d₁ hdraw
      cases h
      refine ⟨by split <;> rfl, by split <;> rfl, ?_⟩
      rintro _ ⟨⟩
      exact drawFree_free hdraw
    · cases h
      exact ⟨by split <;> rfl, by split <;> rfl, by simp⟩

end Register

namespace SourceCache

/-- A text that has been registered is found under its name. -/
theorem get?_register (c : SourceCache) (name source : String) :
    (c.register name source).get? name = some (.ofText source) := by
  simp [get?, register]

/-- What is registered under other names stays. -/
theorem get?_register_of_ne (c : SourceCache) {name other : String} (source : String)
    (h : other ≠ name) : (c.register name source).get? other = c.get? other := by
  have hother : ∀ e : String × SourceEntry,
      (!decide (e.1 = name) && decide (e.1 = other)) = (e.1 == other) := by
    intro e
    by_cases he : e.1 = other
    · simp [he, h]
    · simp [he]
  simp [get?, register, Ne.symm h, List.find?_filter, hother]

end SourceCache

end Graft
