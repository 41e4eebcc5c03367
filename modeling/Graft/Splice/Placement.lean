import Graft.Data.Datum

set_option autoImplicit false

/-! # Where new statements go

Statements are scanned in order.  The first one that ends on the wanted line or contains it is
matched, and new statements go before or after it.  If one begins behind the line first, the line
falls into a gap and new statements go before that one, whichever side was asked for.  A line behind
all statements means the end. -/

namespace Graft.Splice

open Graft.Data (Datum)

/-- The lines of a statement. -/
structure LineRange where
  first : Int
  last : Int
deriving DecidableEq, Repr

/-- The lines from the first to the last one; a last one that is not known is the first. -/
def LineRange.ofLines (first : Int) (last : Option Int) : LineRange :=
  { first, last := match last with
    | none | some 0 => first
    | some n => n }

/-- How a whole number compares with a datum that stands for a line. -/
def orderWith (line : Datum) (n : Int) : Option Ordering :=
  match line with
  | .int m => some (compare n m)
  | .bool b => some (compare n (if b then 1 else 0))
  | .float x =>
    let y := Float.ofInt n
    if y < x then some .lt else if x < y then some .gt else if x == y then some .eq else none
  | _ => none

/-- What the scan has found. -/
inductive Placement
  /-- The statement of this index, with its lines, is the one at the line. -/
  | matched (statement : Nat) (range : LineRange)
  /-- The statement of this index, with its first line, is the first one behind the line. -/
  | gap (statement : Nat) (first : Int)
  /-- The line is behind all statements, of which there are so many. -/
  | past (count : Nat)
deriving DecidableEq, Repr

/-- Finds the place of a line, which is given by how other lines compare with it. -/
def Placement.scan (order : Int → Option Ordering) : Nat → List LineRange → Placement
  | i, [] => .past i
  | i, r :: rs =>
    if order r.last = some .eq
        || (order r.first != some .gt && order r.first != none
          && order r.last != some .lt && order r.last != none) then .matched i r
    else if order r.first = some .gt then .gap i r.first
    else Placement.scan order (i + 1) rs

/-- The index at which new statements go. -/
def Placement.index (loc : InsertLocation) : Placement → Nat
  | .matched i _ => match loc with
    | .before => i
    | .after => i + 1
  | .gap i _ => i
  | .past n => n

/-- The index at which statements for a line go into statements with the given lines. -/
def insertionIndex (ranges : List LineRange) (line : Int) (loc : InsertLocation) : Nat :=
  (Placement.scan (fun n => some (compare n line)) 0 ranges).index loc

/-- Says what the scan for a line has found. -/
def Placement.describe (line : String) (loc : InsertLocation) : Placement → String
  | .matched i r =>
    "Line " ++ line ++ " matched statement " ++ toString i ++ " (lines " ++ toString r.first ++ "-"
      ++ toString r.last ++ "), index " ++ toString ((Placement.matched i r).index loc)
  | .gap i first =>
    "Line " ++ line ++ " precedes statement " ++ toString i ++ " (line " ++ toString first
      ++ "), index " ++ toString i
  | .past _ => "Line " ++ line ++ " is past the last statement, appending"

/-- Puts new elements before the one with the given index. -/
def insertAt {α : Type} (xs : List α) (i : Nat) (new : List α) : List α :=
  xs.take i ++ new ++ xs.drop i

/-- The index that a whole number means: a negative one counts from the end, and one that is out of
    range means the end it is beyond. -/
def clampIndex (size : Nat) (i : Int) : Nat :=
  if 0 ≤ i then min i.toNat size else size - i.natAbs

end Graft.Splice
