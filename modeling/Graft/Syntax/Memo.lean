set_option autoImplicit false

/-! # Tables indexed by numbers

A binary tree whose paths are the digits of the key.  Looking up and inserting take as many steps
as the key has binary digits. -/

namespace Graft.Syntax

/-- A finite table from numbers to values. -/
inductive Memo (α : Type)
  | leaf
  | node (left : Memo α) (value : Option α) (right : Memo α)

namespace Memo

variable {α : Type}

/-- The value at a key. -/
def get? : Memo α → Nat → Option α
  | .leaf, _ => none
  | .node l v r, k =>
    if k == 0 then v else if k % 2 == 1 then l.get? ((k - 1) / 2) else r.get? ((k - 2) / 2)

/-- Sets the value at a key of at most `depth` binary digits. -/
def insertAux : Nat → Memo α → Nat → α → Memo α
  | 0, m, _, _ => m
  | depth + 1, m, k, x =>
    let (l, v, r) := match m with
      | .leaf => (.leaf, none, .leaf)
      | .node l v r => (l, v, r)
    if k == 0 then .node l (some x) r
    else if k % 2 == 1 then .node (insertAux depth l ((k - 1) / 2) x) v r
    else .node l v (insertAux depth r ((k - 2) / 2) x)

/-- Sets the value at a key. -/
def insert (m : Memo α) (k : Nat) (x : α) : Memo α :=
  insertAux (Nat.log2 (k + 1) + 2) m k x

end Memo

end Graft.Syntax
