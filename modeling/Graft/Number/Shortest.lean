set_option autoImplicit false

/-! # The shortest decimal of a floating point number

Every finite floating point number is `m · 2^q`.  The numbers that round to it fill an interval
around it, whose ends belong to it when `m` is even.  `shortest` finds the decimal with the fewest
digits in that interval, and of several such the one nearest to the number. -/

namespace Graft.Number

/-- The decimal number `significand · 10^exponent`. -/
structure Decimal where
  significand : Nat
  exponent : Int
deriving DecidableEq, Repr

/-- The interval of numbers that round to a number, as numerators over a common denominator. -/
structure Rounding where
  low : Nat
  value : Nat
  high : Nat
  denominator : Nat
  /-- Whether the ends belong to the interval. -/
  closed : Bool

/-- The interval around `m · 2^q`.  It reaches half way to the next number above and below; the
    latter is nearer at a power of two. -/
def Rounding.around (m : Nat) (q : Int) : Rounding :=
  let below := if m == 0x10000000000000 && -1074 < q then 1 else 2
  let scale := if 0 ≤ q then 1 <<< q.toNat else 1
  { low := (4 * m - below) * scale
    value := 4 * m * scale
    high := (4 * m + 2) * scale
    denominator := if 0 ≤ q then 4 else 4 <<< (-q).toNat
    closed := m % 2 == 0 }

/-- Whether `n` tenth powers of exponent `e` lie in the interval. -/
def Rounding.contains (r : Rounding) (n : Nat) (e : Int) : Bool :=
  let x := if 0 ≤ e then n * Nat.pow 10 e.toNat * r.denominator else n * r.denominator
  let scale := if 0 ≤ e then 1 else Nat.pow 10 (-e).toNat
  let low := r.low * scale
  let high := r.high * scale
  if r.closed then low ≤ x && x ≤ high else low < x && x < high

/-- The number of decimal digits of a number. -/
def digitCount (n : Nat) : Nat := (Nat.toDigits 10 n).length

/-- The exponent of the first digit of `a / b`. -/
def leadingExponent (a b : Nat) : Int :=
  let e : Int := (digitCount a : Int) - digitCount b
  -- the true exponent is this one or the one below
  let atLeast := if 0 ≤ e then b * Nat.pow 10 e.toNat ≤ a else b ≤ a * Nat.pow 10 (-e).toNat
  if atLeast then e else e - 1

/-- The decimal with its last digits taken off as long as they are zero, at most `n` of them. -/
def Decimal.stripped : Nat → Decimal → Decimal
  | 0, d => d
  | n + 1, d =>
    if d.significand % 10 == 0 && d.significand != 0 then
      Decimal.stripped n { significand := d.significand / 10, exponent := d.exponent + 1 }
    else d

/-- The neighbour of a number on the grid of the multiples of a tenth power that lies in the
    interval, if one does; of two the nearer, and in a tie the even one. -/
def Rounding.onGrid (r : Rounding) (e : Int) : Option Nat :=
  let num : Nat := if 0 ≤ e then r.value else r.value * Nat.pow 10 (-e).toNat
  let den : Nat := if 0 ≤ e then r.denominator * Nat.pow 10 e.toNat else r.denominator
  let down : Nat := num / den
  let rest : Nat := 2 * (num % den)
  match r.contains down e, r.contains (down + 1) e with
  | true, true =>
    if rest < den || (rest == den && down % 2 == 0) then some down else some (down + 1)
  | true, false => some down
  | false, true => some (down + 1)
  | false, false => none

/-- Tries one grid after the other, each finer than the one before. -/
def Rounding.scan (r : Rounding) : Nat → Int → Decimal
  | 0, e => { significand := r.value / r.denominator, exponent := e }
  | n + 1, e =>
    match r.onGrid e with
    | some d => Decimal.stripped 20 { significand := d, exponent := e }
    | none => r.scan n (e - 1)

/-- The shortest decimal that rounds to `m · 2^q`, which is not zero.  Seventeen digits always
    suffice. -/
def shortest (m : Nat) (q : Int) : Decimal :=
  let r := Rounding.around m q
  r.scan 18 (leadingExponent r.value r.denominator)

/-- A floating point number taken apart. -/
inductive Parts
  | nan
  | infinite (negative : Bool)
  | finite (negative : Bool) (m : Nat) (q : Int)

/-- Takes a floating point number apart. -/
def Parts.ofFloat (x : Float) : Parts :=
  let bits := x.toBits.toNat
  let negative := bits >>> 63 == 1
  let e : Nat := (bits >>> 52) % 0x800
  let f : Nat := bits % 0x10000000000000
  if e == 2047 then (if f == 0 then .infinite negative else .nan)
  else if e == 0 then .finite negative f (-1074)
  else .finite negative (0x10000000000000 + f) ((e : Int) - 1075)

end Graft.Number
