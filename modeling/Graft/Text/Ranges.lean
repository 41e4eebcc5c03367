set_option autoImplicit false

/-! # Runs of code points

Character properties are kept as increasing lists of runs; membership is one walk that stops at
the first run past the code point. -/

namespace Graft.Text

/-- Whether a code point lies in one of the runs, which have to be in increasing order. -/
def inRuns : List (Nat × Nat) → Nat → Bool
  | [], _ => false
  | (lo, hi) :: rest, n => if n < lo then false else if n ≤ hi then true else inRuns rest n

end Graft.Text
