import Graft.Settings

set_option autoImplicit false

/-! # Identifiers

Identifiers are made of a leading text, an underscore and a suffix that is drawn at random.  The
source of randomness first uses up a list of picks and goes on with a linear congruence. -/

namespace Graft

open Data

/-- A source of randomness. -/
structure Dice where
  picks : List Int := []
  state : Int := 0
deriving DecidableEq, Repr

/-- The characters of suffixes. -/
def suffixAlphabet : List Char := "0123456789abcdefghijklmnopqrstuvwxyz".toList

/-- Draws the index of a character. -/
def Dice.draw (d : Dice) : Nat × Dice :=
  let size : Int := suffixAlphabet.length
  match d.picks with
  | p :: picks => ((p.emod size).toNat, { d with picks })
  | [] =>
    let state := (d.state * 1103515245 + 12345).emod 0x80000000
    (((state / 0x10000).emod size).toNat, { d with state })

/-- Draws a suffix of `n` characters from a source that draws their indices. -/
def drawSuffix {σ : Type} (draw : σ → Nat × σ) : Nat → σ → List Char × σ
  | 0, d => ([], d)
  | n + 1, d =>
    let (i, d) := draw d
    let (cs, d) := drawSuffix draw n d
    ((suffixAlphabet[i]?).getD '0' :: cs, d)

/-- The setting for the length of suffixes. -/
def suffixLengthKeys : List String := ["ids", "suffix_length"]

/-- The length of suffixes if it is not set. -/
def defaultSuffixLength : Int := 8

/-- The length of suffixes that is set. -/
def suffixLength (s : Surroundings) : Except SettingsFault Int := do
  match (← Settings.int s suffixLengthKeys (.int defaultSuffixLength) none) with
  | .int n => .ok n
  | _ => .ok defaultSuffixLength

/-- Why a datum is no length. -/
inductive LengthFault
  /-- Data of the named type have no order with numbers. -/
  | notComparable (typeName : String)
  /-- A number with a fraction part, above one. -/
  | notWhole
deriving DecidableEq, Repr

/-- The length that a datum means.  Whatever is at most one means one. -/
def lengthOf : Datum → Except LengthFault Int
  | .int n => .ok n
  | .bool _ => .ok 1
  | .float x => if 1.0 < x then .error .notWhole else .ok 1
  | d => .error (.notComparable d.typeName)

/-- Why no identifier can be made. -/
inductive MintFault
  | settings (f : SettingsFault)
  | length (f : LengthFault)
deriving DecidableEq, Repr

/-- The length of a suffix: the given one, or else the one that is set. -/
def lengthFor (given : Datum) (s : Surroundings) : Except MintFault Int :=
  match given with
  | .none => (suffixLength s).mapError .settings
  | d => (lengthOf d).mapError .length

/-- How many characters a suffix has, which is at least one. -/
def suffixSize (length : Int) : Nat := (max 1 length).toNat

/-- The identifier with a suffix. -/
def identifierOf (lead : String) (suffix : List Char) : String :=
  lead ++ "_" ++ String.ofList suffix

/-- A new identifier, whose suffix is drawn from a source. -/
def mintFrom {σ : Type} (draw : σ → Nat × σ) (lead : String) (length : Int) (d : σ) : String × σ :=
  let (cs, d) := drawSuffix draw (suffixSize length) d
  (identifierOf lead cs, d)

/-- A new identifier. -/
def mint (lead : String) (length : Int) (d : Dice) : String × Dice :=
  mintFrom Dice.draw lead length d

end Graft
