import Graft.Number.Shortest

set_option autoImplicit false

/-! # The text of a floating point number

The fewest digits that read back, written with a point as long as the point falls within or near
the digits, and with an exponent otherwise. -/

namespace Graft.Number

/-- How decimals are written out. -/
structure DecimalFormat where
  /-- The least exponent of the first digit that is written without an exponent. -/
  leastPlain : Int
  /-- The first exponent of the first digit that is written with an exponent again. -/
  firstExponential : Int
  /-- Whether a whole number gets a zero behind its point. -/
  pointZero : Bool
deriving DecidableEq, Repr

/-- Real numbers are plain from `0.0001` to below `10^16` and always show a point or exponent. -/
def realFormat : DecimalFormat := ⟨-4, 16, true⟩

/-- The number in front of an imaginary unit shows no point if it is whole. -/
def imaginaryFormat : DecimalFormat := ⟨-4, 16, false⟩

/-- The digits of a number, at least two. -/
def twoDigits (n : Nat) : String :=
  if n < 10 then "0" ++ toString n else toString n

/-- Writes a decimal that is not negative. -/
def Decimal.text (fmt : DecimalFormat) (d : Decimal) : String :=
  let digits := (toString d.significand).toList
  let count := digits.length
  -- the exponent of the first digit
  let lead : Int := d.exponent + count - 1
  if fmt.leastPlain ≤ lead && lead < fmt.firstExponential then
    if d.exponent ≥ 0 then
      String.ofList (digits ++ List.replicate d.exponent.toNat '0')
        ++ (if fmt.pointZero then ".0" else "")
    else if 0 ≤ lead then
      let whole := lead.toNat + 1
      String.ofList (digits.take whole) ++ "." ++ String.ofList (digits.drop whole)
    else "0." ++ String.ofList (List.replicate (-lead - 1).toNat '0' ++ digits)
  else
    let mantissa := match digits with
      | [c] => c.toString
      | c :: rest => c.toString ++ "." ++ String.ofList rest
      | [] => ""
    mantissa ++ (if lead < 0 then "e-" else "e+") ++ twoDigits lead.natAbs

/-- Writes a floating point number. -/
def textOfFloat (fmt : DecimalFormat) (x : Float) : String :=
  match Parts.ofFloat x with
  | .nan => "nan"
  | .infinite negative => if negative then "-inf" else "inf"
  | .finite negative m q =>
    let zero : Decimal := { significand := 0, exponent := 0 }
    let body := (if m == 0 then zero else shortest m q).text fmt
    if negative then "-" ++ body else body

end Graft.Number
