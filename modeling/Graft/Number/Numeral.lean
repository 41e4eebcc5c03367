set_option autoImplicit false

/-! # Numerals

The values of rows of digits and of decimal fractions. -/

namespace Graft.Number

/-- The value of a hexadecimal digit. -/
def hexValue? (c : Char) : Option Nat :=
  if c.isDigit then some (c.toNat - 48)
  else if 'a' ≤ c && c ≤ 'f' then some (c.toNat - 87)
  else if 'A' ≤ c && c ≤ 'F' then some (c.toNat - 55)
  else none

/-- The value of a row of digits in a radix. -/
def digitsValue (radix : Nat) (cs : List Char) : Nat :=
  cs.foldl (fun acc c => acc * radix + (hexValue? c).getD 0) 0

/-- The longest decimal numeral that is turned into an integer. -/
def maxIntDigits : Nat := 4300

/-- The value of a decimal fraction with exponent. -/
def floatValue (cs : List Char) : Float :=
  let mantissa := cs.takeWhile (fun c => c != 'e' && c != 'E')
  let exponent := (cs.drop (mantissa.length + 1))
  let whole := mantissa.takeWhile (· != '.')
  let frac := mantissa.drop (whole.length + 1)
  let (neg, exponent) := match exponent with
    | '-' :: ds => (true, ds)
    | '+' :: ds => (false, ds)
    | ds => (false, ds)
  let e : Int := digitsValue 10 exponent
  let e := (if neg then -e else e) - frac.length
  let m := digitsValue 10 (whole ++ frac)
  let magnitude := e + (Nat.toDigits 10 m).length
  if m == 0 then 0.0
  else if 400 < magnitude then 1.0 / 0.0
  else if magnitude < -400 then 0.0
  else if e < 0 then Float.ofScientific m true e.natAbs else Float.ofScientific m false e.natAbs

end Graft.Number
