import Mathlib.Data.List.Chain
import Graft.Proofs.Placement

set_option autoImplicit false

/-! # The scan and the rules

The scan looks at all rules for one statement before it goes on to the next.  The rules as they are
told are tried one after the other over all statements: one that ends on the line, one that contains
it, the first that begins behind it.  Where the statements stand one behind the other both find the
same place, which is known from the number of statements that end before the line. -/

namespace Graft.Splice

variable {ranges : List LineRange} {line : Int}

/-! ## Trying the rules one after the other -/

/-- The first range that passes a test, and its index. -/
def firstRange (p : LineRange → Bool) (ranges : List LineRange) : Option (LineRange × Nat) :=
  ranges.zipIdx.find? fun r => p r.1

/-- The place of a line as the rules give it when each is tried for all ranges before the next. -/
def Placement.byRules (line : Int) (ranges : List LineRange) : Placement :=
  match firstRange (fun r => r.last == line) ranges with
  | some (r, i) => .matched i r
  | none =>
    match firstRange (fun r => decide (r.first ≤ line) && decide (line ≤ r.last)) ranges with
    | some (r, i) => .matched i r
    | none =>
      match firstRange (fun r => decide (line < r.first)) ranges with
      | some (r, i) => .gap i r.first
      | none => .past ranges.length

theorem find?_zipIdx_none {p : LineRange → Bool} {rs : List LineRange} (i : Nat)
    (h : ∀ r ∈ rs, p r = false) : (rs.zipIdx i).find? (fun r => p r.1) = none := by
  rw [List.find?_eq_none]
  rintro ⟨r, j⟩ hr
  have hmem : r ∈ rs := List.fst_mem_of_mem_zipIdx hr
  simp [h r hmem]

theorem firstRange_none {p : LineRange → Bool} (h : ∀ r ∈ ranges, p r = false) :
    firstRange p ranges = none :=
  find?_zipIdx_none 0 h

theorem firstRange_append {p : LineRange → Bool} {before rest : List LineRange} {r : LineRange}
    (hbefore : ∀ s ∈ before, p s = false) (hr : p r = true) :
    firstRange p (before ++ r :: rest) = some (r, before.length) := by
  unfold firstRange
  rw [List.zipIdx_append, List.find?_append, find?_zipIdx_none 0 hbefore]
  simp [hr]

/-! ## Where the scan stops -/

/-- Ranges of which none ends behind the beginning of the next stand one behind the other. -/
theorem InSourceOrder.of_isChain (hvalid : ∀ r ∈ ranges, r.first ≤ r.last)
    (hchain : ranges.IsChain fun a b => a.last ≤ b.first) : InSourceOrder ranges where
  valid := hvalid
  ordered := by
    induction ranges with
    | nil => exact .nil
    | cons r rs ih =>
      have htail := ih (fun s hs => hvalid s (List.mem_cons_of_mem _ hs)) hchain.tail
      refine List.pairwise_cons.2 ⟨fun s hs => ?_, htail⟩
      cases rs with
      | nil => cases hs
      | cons t ts =>
        have hnext : r.last ≤ t.first := (List.isChain_cons_cons.1 hchain).1
        rcases List.mem_cons.1 hs with rfl | hs
        · exact hnext
        · have hmiddle := hvalid t (by simp)
          have hlater := (List.pairwise_cons.1 htail).1 s hs
          omega

/-- What stands behind a range begins where that one ends or later. -/
theorem InSourceOrder.behind {before rest : List LineRange} {r : LineRange}
    (h : InSourceOrder (before ++ r :: rest)) {s : LineRange} (hs : s ∈ rest) :
    r.last ≤ s.first ∧ s.first ≤ s.last :=
  ⟨(List.pairwise_cons.1 (List.pairwise_append.1 h.ordered).2.1).1 s hs, h.valid s (by simp [hs])⟩

/-- How many of the ranges end before a line. -/
def endedBefore (line : Int) (ranges : List LineRange) : Nat :=
  ranges.countP fun r => decide (r.last < line)

/-- The ranges before a line and those from it on, which the scan tells apart. -/
theorem InSourceOrder.split (h : InSourceOrder ranges) (line : Int) :
    ∃ before behind, ranges = before ++ behind ∧ before.length = endedBefore line ranges ∧
      (∀ r ∈ before, r.first ≤ line ∧ r.last < line) ∧ (∀ r ∈ behind, line ≤ r.last) ∧
      Placement.Found line before.length behind
        (Placement.scan (fun n => some (compare n line)) 0 ranges) := by
  obtain ⟨before, behind, rfl, hbefore, hfound⟩ := scan_spec line ranges 0
  rw [Nat.zero_add] at hfound
  -- Behind the first range that has not ended all others come later still.
  have hbehind : ∀ r ∈ behind, line ≤ r.last := by
    generalize Placement.scan (fun n => some (compare n line)) 0 (before ++ behind) = found
      at hfound
    cases hfound with
    | past => simp
    | matched r rest hr | gap r rest hr =>
      have hvalid := h.valid r (by simp)
      intro s hs
      rcases List.mem_cons.1 hs with rfl | hs
      · omega
      · have := h.behind hs
        omega
  refine ⟨before, behind, rfl, ?_, hbefore, hbehind, hfound⟩
  have hall : before.countP (fun r => decide (r.last < line)) = before.length :=
    List.countP_eq_length.2 fun r hr => by simpa using (hbefore r hr).2
  have hnone : behind.countP (fun r => decide (r.last < line)) = 0 :=
    List.countP_eq_zero.2 fun r hr => by simpa using hbehind r hr
  rw [endedBefore, List.countP_append, hall, hnone, Nat.add_zero]

/-- Exactly the ranges up to their number end before the line. -/
theorem InSourceOrder.last_lt_iff (h : InSourceOrder ranges) {j : Nat} {r : LineRange}
    (hr : ranges[j]? = some r) : r.last < line ↔ j < endedBefore line ranges := by
  obtain ⟨before, behind, rfl, hlength, hbefore, hbehind, -⟩ := h.split line
  rw [← hlength]
  by_cases hj : j < before.length
  · rw [List.getElem?_append_left hj] at hr
    exact iff_of_true (hbefore r (List.mem_of_getElem? hr)).2 hj
  · rw [List.getElem?_append_right (by omega)] at hr
    have := hbehind r (List.mem_of_getElem? hr)
    exact iff_of_false (by omega) hj

/-- The place that the scan finds is the one that the rules give. -/
theorem InSourceOrder.scan_eq_byRules (h : InSourceOrder ranges) (line : Int) :
    Placement.scan (fun n => some (compare n line)) 0 ranges = .byRules line ranges := by
  obtain ⟨before, behind, rfl, -, hbefore, hbehind, hfound⟩ := h.split line
  -- None of the rules applies to a range before the line.
  have hends : ∀ r ∈ before, (r.last == line) = false := fun r hr => by
    have := hbefore r hr
    simp only [beq_eq_false_iff_ne, ne_eq]
    omega
  have hholds : ∀ r ∈ before, (decide (r.first ≤ line) && decide (line ≤ r.last)) = false :=
    fun r hr => by
      have := hbefore r hr
      simp only [Bool.and_eq_false_iff, decide_eq_false_iff_not]
      omega
  have hbegins : ∀ r ∈ before, decide (line < r.first) = false := fun r hr => by
    have := hbefore r hr
    simp only [decide_eq_false_iff_not]
    omega
  generalize Placement.scan (fun n => some (compare n line)) 0 (before ++ behind) = found at hfound
  unfold Placement.byRules
  cases hfound with
  | past =>
    simp only [List.append_nil]
    rw [firstRange_none hends, firstRange_none hholds, firstRange_none hbegins]
  | matched r rest hr =>
    by_cases hlast : r.last = line
    · rw [firstRange_append hends (by simpa using hlast)]
    · have hnone : ∀ s ∈ before ++ r :: rest, (s.last == line) = false := by
        intro s hs
        simp only [List.mem_append, List.mem_cons] at hs
        simp only [beq_eq_false_iff_ne, ne_eq]
        rcases hs with hs | rfl | hs
        · have := hbefore s hs
          omega
        · exact hlast
        · have := h.behind hs
          omega
      rw [firstRange_none hnone, firstRange_append hholds (by simp; omega)]
  | gap r rest hr =>
    have hvalid := h.valid r (by simp)
    have hafter : ∀ s ∈ r :: rest, line < s.first ∧ line < s.last := by
      intro s hs
      rcases List.mem_cons.1 hs with rfl | hs
      · omega
      · have := h.behind hs
        omega
    have hnoend : ∀ s ∈ before ++ r :: rest, (s.last == line) = false := by
      intro s hs
      rcases List.mem_append.1 hs with hs | hs
      · exact hends s hs
      · have := hafter s hs
        simp only [beq_eq_false_iff_ne, ne_eq]
        omega
    have hnohold : ∀ s ∈ before ++ r :: rest,
        (decide (s.first ≤ line) && decide (line ≤ s.last)) = false := by
      intro s hs
      rcases List.mem_append.1 hs with hs | hs
      · exact hholds s hs
      · have := hafter s hs
        simp only [Bool.and_eq_false_iff, decide_eq_false_iff_not]
        omega
    rw [firstRange_none hnoend, firstRange_none hnohold,
      firstRange_append hbegins (by simpa using hr)]

/-! ## The index -/

/-- Whether the first range that does not end before a line has begun on the line. -/
def HasBegun (line : Int) (ranges : List LineRange) : Prop :=
  ∃ r, ranges[endedBefore line ranges]? = some r ∧ r.first ≤ line

instance : Decidable (HasBegun line ranges) :=
  match h : ranges[endedBefore line ranges]? with
  | none => .isFalse fun ⟨_, hr, _⟩ => by simp [h] at hr
  | some r =>
    if hr : r.first ≤ line then .isTrue ⟨r, h, hr⟩
    else .isFalse fun ⟨s, hs, hle⟩ => hr (by rw [h] at hs; cases hs; exact hle)

theorem InSourceOrder.insertionIndex_eq (h : InSourceOrder ranges) (line : Int)
    (loc : InsertLocation) :
    insertionIndex ranges line loc =
      endedBefore line ranges + if loc = .after ∧ HasBegun line ranges then 1 else 0 := by
  obtain ⟨before, behind, rfl, hlength, -, -, hfound⟩ := h.split line
  have hbegun : HasBegun line (before ++ behind) ↔ ∃ r, behind[0]? = some r ∧ r.first ≤ line := by
    rw [HasBegun, ← hlength, List.getElem?_append_right (Nat.le_refl _), Nat.sub_self]
  simp only [insertionIndex, hbegun, ← hlength]
  generalize Placement.scan (fun n => some (compare n line)) 0 (before ++ behind) = found at hfound
  cases hfound with
  | past => simp [Placement.index]
  | gap r rest hr => simp [Placement.index, Int.not_le.2 hr]
  | matched r rest hr =>
    have hfirst : r.first ≤ line := by
      have := h.valid r (by simp)
      omega
    cases loc <;> simp [Placement.index, hfirst]

/-- A range covers the line if and only if the first one that does not end before it has begun. -/
theorem InSourceOrder.hasBegun_iff (h : InSourceOrder ranges) (line : Int) :
    HasBegun line ranges ↔ ∃ r ∈ ranges, r.first ≤ line ∧ line ≤ r.last := by
  constructor
  · rintro ⟨r, hr, hfirst⟩
    have hlast : r.last < line ↔ endedBefore line ranges < endedBefore line ranges :=
      h.last_lt_iff hr
    exact ⟨r, List.mem_of_getElem? hr, hfirst, by omega⟩
  · rintro ⟨r, hr, hfirst, hlast⟩
    obtain ⟨before, behind, rfl, hlength, hbefore, -, -⟩ := h.split line
    rw [HasBegun, ← hlength]
    cases behind with
    | nil =>
      have := hbefore r (by simpa using hr)
      omega
    | cons s rest =>
      refine ⟨s, by simp, ?_⟩
      simp only [List.mem_append, List.mem_cons] at hr
      rcases hr with hr | rfl | hr
      · have := hbefore r hr
        omega
      · exact hfirst
      · have := h.behind hr
        have := h.valid s (by simp)
        omega

theorem endedBefore_mono {line' : Int} (h : line ≤ line') (ranges : List LineRange) :
    endedBefore line ranges ≤ endedBefore line' ranges :=
  List.countP_mono_left fun r _ hr => by
    simp only [decide_eq_true_eq] at hr ⊢
    omega

/-- **One pass does what the rules say.**  For statements that stand one behind the other, also some
    that share a line, the scan finds what the rules give one after the other.  Its index is the
    number of statements that end before the line, and one more behind a statement that covers the
    line; it lies within the statements and grows with the line. -/
theorem one_pass_follows_rules (ranges : List LineRange) (line : Int)
    (hvalid : ∀ r ∈ ranges, r.first ≤ r.last)
    (hchain : ranges.IsChain fun a b => a.last ≤ b.first) :
    (∀ loc, insertionIndex ranges line loc =
        if loc = .after ∧ HasBegun line ranges then endedBefore line ranges + 1
        else endedBefore line ranges) ∧
      (∀ loc, insertionIndex ranges line loc = (Placement.byRules line ranges).index loc) ∧
      (∀ loc, insertionIndex ranges line loc ≤ ranges.length) ∧
      (∀ loc line', line ≤ line' →
        insertionIndex ranges line loc ≤ insertionIndex ranges line' loc) ∧
      insertionIndex ranges line .after =
        if ∃ r ∈ ranges, r.first ≤ line ∧ line ≤ r.last then insertionIndex ranges line .before + 1
        else insertionIndex ranges line .before := by
  have h : InSourceOrder ranges := .of_isChain hvalid hchain
  refine ⟨fun loc => ?_, fun loc => ?_, fun loc => (insertionIndex_divides line loc h).1,
    fun loc line' hline => ?_, ?_⟩
  · rw [h.insertionIndex_eq]
    split_ifs <;> rfl
  · rw [insertionIndex, h.scan_eq_byRules]
  · have hmono := endedBefore_mono hline ranges
    rw [h.insertionIndex_eq, h.insertionIndex_eq]
    -- Where no more statements have ended, the one at hand has begun for the later line too.
    by_cases hsame : endedBefore line ranges = endedBefore line' ranges
    · have hbegun : HasBegun line ranges → HasBegun line' ranges := fun ⟨r, hr, hfirst⟩ =>
        ⟨r, hsame ▸ hr, Int.le_trans hfirst hline⟩
      split_ifs with h₁ h₂ <;> first | omega | exact absurd ⟨h₁.1, hbegun h₁.2⟩ h₂
    · split_ifs <;> omega
  · have hcovers := h.hasBegun_iff line
    rw [h.insertionIndex_eq, h.insertionIndex_eq]
    simp only [← hcovers, reduceCtorEq, false_and, if_false, true_and, Nat.add_zero]
    split_ifs <;> rfl

/-- Three statements, the first two of which share a line that the second goes on behind. -/
def sharedLine : List LineRange := [⟨2, 2⟩, ⟨2, 4⟩, ⟨6, 6⟩]

theorem one_pass_follows_rules_on_shared_line :
    (∀ r ∈ sharedLine, r.first ≤ r.last) ∧ sharedLine.IsChain (fun a b => a.last ≤ b.first) ∧
      insertionIndex sharedLine 2 .after = 1 ∧ insertionIndex sharedLine 4 .after = 2 ∧
      insertionIndex sharedLine 5 .after = insertionIndex sharedLine 5 .before := by
  have hvalid : ∀ r ∈ sharedLine, r.first ≤ r.last := by decide
  have hchain : sharedLine.IsChain fun a b => a.last ≤ b.first := by simp [sharedLine]
  have h := fun line => one_pass_follows_rules sharedLine line hvalid hchain
  refine ⟨hvalid, hchain, ?_, ?_, ?_⟩
  · exact ((h 2).1 .after).trans (by decide)
  · exact ((h 4).1 .after).trans (by decide)
  · exact (h 5).2.2.2.2.trans (if_neg (by decide))

end Graft.Splice
