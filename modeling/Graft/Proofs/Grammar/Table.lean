import Mathlib.Algebra.Group.Nat.Defs
import Mathlib.Data.Nat.Log
import Graft.Syntax.Parser

set_option autoImplicit false

/-! # Tables of what rules have matched

A table gives for a key what was last put in for it.  What a rule has matched at a place is kept
under a key of its own, so that entries for different rules or places do not meet. -/

namespace Graft.Syntax

namespace Memo

variable {α : Type}

/-- The parts of a table below its root. -/
def parts : Memo α → Memo α × Option α × Memo α
  | .leaf => (.leaf, none, .leaf)
  | .node l v r => (l, v, r)

@[simp] theorem parts_node (l : Memo α) (v : Option α) (r : Memo α) :
    (node l v r).parts = (l, v, r) := rfl

theorem get?_eq_parts (m : Memo α) (k : Nat) :
    m.get? k =
      if k = 0 then m.parts.2.1
      else if k % 2 = 1 then m.parts.1.get? ((k - 1) / 2) else m.parts.2.2.get? ((k - 2) / 2) := by
  cases m with
  | leaf => simp [get?, parts]
  | node l v r => simp [get?, parts]

theorem get?_insertAux {depth k : Nat} (h : k + 1 < 2 ^ depth) (m : Memo α) (x : α) (j : Nat) :
    (insertAux depth m k x).get? j = if j = k then some x else m.get? j := by
  induction depth generalizing k m j with
  | zero => simp at h
  | succ depth ih =>
    have hstep : insertAux (depth + 1) m k x =
        if k = 0 then .node m.parts.1 (some x) m.parts.2.2
        else if k % 2 = 1 then
          .node (insertAux depth m.parts.1 ((k - 1) / 2) x) m.parts.2.1 m.parts.2.2
        else .node m.parts.1 m.parts.2.1 (insertAux depth m.parts.2.2 ((k - 2) / 2) x) := by
      cases m <;> simp [insertAux, parts]
    rw [Nat.pow_succ] at h
    rw [hstep, get?_eq_parts m j, get?_eq_parts _ j]
    -- Keys other than zero go left if they are odd and right if they are even.
    by_cases hk : k = 0
    · subst hk
      by_cases hj : j = 0 <;> simp [hj]
    · by_cases hodd : k % 2 = 1
      · have hleft := ih (k := (k - 1) / 2) (by omega) m.parts.1 ((j - 1) / 2)
        have hsame : j ≠ 0 → j % 2 = 1 → ((j - 1) / 2 = (k - 1) / 2 ↔ j = k) := by omega
        rw [if_neg hk, if_pos hodd]
        simp only [parts_node, hleft]
        split_ifs <;> first | rfl | omega
      · have hright := ih (k := (k - 2) / 2) (by omega) m.parts.2.2 ((j - 2) / 2)
        have hsame : j ≠ 0 → j % 2 ≠ 1 → ((j - 2) / 2 = (k - 2) / 2 ↔ j = k) := by omega
        rw [if_neg hk, if_neg hodd]
        simp only [parts_node, hright]
        split_ifs <;> first | rfl | omega

theorem get?_insert (m : Memo α) (k j : Nat) (x : α) :
    (m.insert k x).get? j = if j = k then some x else m.get? j := by
  refine get?_insertAux ?_ m x j
  have hlog : k + 1 < 2 ^ (Nat.log2 (k + 1) + 1) := Nat.lt_log2_self
  exact hlog.trans_le (Nat.pow_le_pow_right (by decide) (by omega))

@[simp] theorem get?_leaf (k : Nat) : (leaf : Memo α).get? k = none := rfl

end Memo

/-! ## Keys -/

/-- The key of a rule at a place. -/
def Rule.key (r : Rule) (mark : Nat) : Nat := mark * 512 + r.index

theorem Rule.index_lt (r : Rule) : r.index < 512 := by
  cases r <;> decide

theorem Rule.index_inj {r q : Rule} (h : r.index = q.index) : r = q := by
  have hindex : r.ctorIdx = q.ctorIdx := h
  rw [← Rule.ofNat_ctorIdx r, hindex, Rule.ofNat_ctorIdx]

theorem Rule.key_inj {r q : Rule} {i j : Nat} (h : r.key i = q.key j) : r = q ∧ i = j := by
  have hr := r.index_lt
  have hq := q.index_lt
  unfold Rule.key at h
  exact ⟨Rule.index_inj (by omega), by omega⟩

end Graft.Syntax
