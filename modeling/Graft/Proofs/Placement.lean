import Mathlib.Data.List.Basic
import Graft.Splice.Placement

set_option autoImplicit false

/-! # Where new statements end up

The scan for a line passes over the statements that end before the line, and stops at the first one
that does not.  If the statements stand one behind the other, this decides for all of them on which
side of the new ones they are left.  Putting elements in keeps those that are there. -/

namespace Graft.Splice

/-- Lines of statements that stand one behind the other: none ends before it begins or behind the
    beginning of a later one. -/
structure InSourceOrder (ranges : List LineRange) : Prop where
  valid : ∀ r ∈ ranges, r.first ≤ r.last
  ordered : ranges.Pairwise fun a b => a.last ≤ b.first

/-! ## The scan -/

/-- What the scan for a line has found among the ranges behind those that it has passed over. -/
inductive Placement.Found (line : Int) (passed : Nat) : List LineRange → Placement → Prop
  | past : Found line passed [] (.past passed)
  | matched (r : LineRange) (rest : List LineRange)
      (h : r.last = line ∨ r.first ≤ line ∧ line ≤ r.last) :
      Found line passed (r :: rest) (.matched passed r)
  | gap (r : LineRange) (rest : List LineRange) (h : line < r.first) :
      Found line passed (r :: rest) (.gap passed r.first)

/-- A range is passed over only if it begins and ends before the line. -/
theorem scan_cons (line : Int) (i : Nat) (r : LineRange) (rs : List LineRange) :
    Placement.Found line i (r :: rs)
        (Placement.scan (fun n => some (compare n line)) i (r :: rs)) ∨
      r.first ≤ line ∧ r.last < line ∧
        Placement.scan (fun n => some (compare n line)) i (r :: rs)
          = Placement.scan (fun n => some (compare n line)) (i + 1) rs := by
  have hcompare (n : Int) :
      compare n line = if n < line then .lt else if n = line then .eq else .gt := rfl
  have hfirst := hcompare r.first
  have hlast := hcompare r.last
  rw [Placement.scan]
  split_ifs with hmatch hgap
  · left
    refine .matched r rs ?_
    rw [hfirst, hlast] at hmatch
    split_ifs at hmatch <;> first | omega | simp at hmatch
  · left
    refine .gap r rs ?_
    rw [hfirst] at hgap
    split_ifs at hgap <;> first | omega | simp at hgap
  · right
    rw [hfirst] at hmatch hgap
    rw [hlast] at hmatch
    refine ⟨?_, ?_, rfl⟩ <;> split_ifs at hmatch hgap <;> first | omega | simp at hmatch hgap

/-- The scan passes over ranges that begin and end before the line, and stops at what is behind. -/
theorem scan_spec (line : Int) (ranges : List LineRange) (i : Nat) :
    ∃ before behind, ranges = before ++ behind ∧
      (∀ r ∈ before, r.first ≤ line ∧ r.last < line) ∧
      Placement.Found line (i + before.length) behind
        (Placement.scan (fun n => some (compare n line)) i ranges) := by
  induction ranges generalizing i with
  | nil => exact ⟨[], [], rfl, by simp, .past⟩
  | cons r rs ih =>
    rcases scan_cons line i r rs with hfound | ⟨hfirst, hlast, hscan⟩
    · exact ⟨[], r :: rs, rfl, by simp, hfound⟩
    · obtain ⟨before, behind, rfl, hbefore, hfound⟩ := ih (i + 1)
      refine ⟨r :: before, behind, rfl, ?_, ?_⟩
      · intro s hs
        rcases List.mem_cons.1 hs with rfl | hs
        · exact ⟨hfirst, hlast⟩
        · exact hbefore s hs
      · rw [hscan, List.length_cons, Nat.add_comm before.length, ← Nat.add_assoc]
        exact hfound

/-! ## The index -/

/-- **The index divides the statements at the line.**  What is left before the new statements begins
    at the line or before it, and what comes behind them ends at the line or behind it. -/
theorem insertionIndex_divides {ranges : List LineRange} (line : Int) (loc : InsertLocation)
    (h : InSourceOrder ranges) :
    insertionIndex ranges line loc ≤ ranges.length ∧
      (∀ r ∈ ranges.take (insertionIndex ranges line loc), r.first ≤ line) ∧
      ∀ r ∈ ranges.drop (insertionIndex ranges line loc), line ≤ r.last := by
  obtain ⟨before, behind, rfl, hbefore, hfound⟩ := scan_spec line ranges 0
  rw [Nat.zero_add] at hfound
  unfold insertionIndex
  -- What stands behind a range that does not end before the line does not either.
  have later : ∀ r rest, behind = r :: rest → line ≤ r.last → ∀ s ∈ r :: rest, line ≤ s.last := by
    intro r rest hr hline s hs
    subst hr
    rcases List.mem_cons.1 hs with rfl | hs
    · exact hline
    · have hvalid := h.valid s (by simp [hs])
      have hordered := (List.pairwise_cons.1 (List.pairwise_append.1 h.ordered).2.1).1 s hs
      omega
  generalize Placement.scan (fun n => some (compare n line)) 0 (before ++ behind) = found at hfound
  cases hfound with
  | past => simpa [Placement.index] using fun r hr => (hbefore r hr).1
  | gap r rest hr =>
    have hline : line ≤ r.last := by
      have := h.valid r (by simp)
      omega
    simp only [Placement.index, List.take_left, List.drop_left]
    exact ⟨by simp, fun s hs => (hbefore s hs).1, later r rest rfl hline⟩
  | matched r rest hr =>
    have hvalid := h.valid r (by simp)
    cases loc with
    | before =>
      simp only [Placement.index, List.take_left, List.drop_left]
      exact ⟨by simp, fun s hs => (hbefore s hs).1, later r rest rfl (by omega)⟩
    | after =>
      have hsplit : before ++ r :: rest = (before ++ [r]) ++ rest := by simp
      have hlength : before.length + 1 = (before ++ [r]).length := by simp
      simp only [Placement.index]
      rw [hsplit, hlength, List.take_left, List.drop_left]
      refine ⟨by simp, ?_, fun s hs => later r rest rfl (by omega) s (by simp [hs])⟩
      intro s hs
      rcases List.mem_append.1 hs with hs | hs
      · exact (hbefore s hs).1
      · rw [List.mem_singleton.1 hs]
        omega

/-- A statement that ends before the line is left before the new ones, and one that begins behind
    it comes behind them. -/
theorem insertionIndex_sides {ranges : List LineRange} (line : Int) (loc : InsertLocation)
    (h : InSourceOrder ranges) {j : Nat} {r : LineRange} (hr : ranges[j]? = some r) :
    (r.last < line → j < insertionIndex ranges line loc) ∧
      (line < r.first → insertionIndex ranges line loc ≤ j) := by
  obtain ⟨-, htake, hdrop⟩ := insertionIndex_divides line loc h
  constructor
  · intro hlast
    by_contra hj
    have hmem : r ∈ ranges.drop (insertionIndex ranges line loc) := by
      rw [List.mem_iff_getElem?]
      exact ⟨j - insertionIndex ranges line loc, by
        rw [List.getElem?_drop, Nat.add_sub_cancel' (by omega), hr]⟩
    have := hdrop r hmem
    omega
  · intro hfirst
    by_contra hj
    have hmem : r ∈ ranges.take (insertionIndex ranges line loc) := by
      rw [List.mem_iff_getElem?]
      exact ⟨j, by rw [List.getElem?_take_of_lt (by omega), hr]⟩
    have := htake r hmem
    omega

/-! ## Putting elements in -/

section Insert

variable {α β : Type} (xs new : List α) (i : Nat)

theorem insertAt_sublist : xs.Sublist (insertAt xs i new) := by
  unfold insertAt
  conv => lhs; rw [← List.take_append_drop i xs]
  exact (List.sublist_append_left _ _).append_right _

theorem insertAt_perm : (insertAt xs i new).Perm (xs ++ new) := by
  unfold insertAt
  conv => rhs; rw [← List.take_append_drop i xs]
  rw [List.append_assoc, List.append_assoc]
  exact List.perm_append_comm.append_left _

theorem map_insertAt (f : α → β) :
    (insertAt xs i new).map f = insertAt (xs.map f) i (new.map f) := by
  simp [insertAt, List.map_take, List.map_drop]

end Insert

end Graft.Splice
