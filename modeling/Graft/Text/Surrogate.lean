set_option autoImplicit false

/-! # Surrogate code points

Text may name the code points from D800 to DFFF, which are no characters.  They are held as the
last 2048 code points of the last private use plane, which no text uses for anything else. -/

namespace Graft.Text

/-- The character that holds a code point. -/
def charOf (n : Nat) : Char :=
  if 0xd800 ≤ n && n ≤ 0xdfff then Char.ofNat (n - 0xd800 + 0x10f800) else Char.ofNat n

/-- The code point a character stands for. -/
def codePoint (c : Char) : Nat :=
  if 0x10f800 ≤ c.toNat then c.toNat - 0x10f800 + 0xd800 else c.toNat

/-- Whether a character holds a surrogate code point. -/
def isSurrogate (c : Char) : Bool :=
  0x10f800 ≤ c.toNat

end Graft.Text
