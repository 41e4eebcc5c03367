import Graft.Text.Printable
import Graft.Text.Surrogate

set_option autoImplicit false

/-! # Quoted text

Text and bytes as literals that read back.  Apostrophes enclose the text unless it holds some and no
double quotes; what can not be printed is escaped. -/

namespace Graft.Text

/-- A lower case hexadecimal digit. -/
def hexDigit (n : Nat) : Char :=
  if n < 10 then Char.ofNat (48 + n) else Char.ofNat (87 + n)

/-- The last `width` hexadecimal digits of a number. -/
def hexDigits : Nat → Nat → List Char
  | 0, _ => []
  | width + 1, n => hexDigits width (n / 16) ++ [hexDigit (n % 16)]

/-- The escape of a character by its number or, for some, by a letter. -/
def escape (c : Char) : List Char :=
  if c == '\n' then ['\\', 'n']
  else if c == '\r' then ['\\', 'r']
  else if c == '\t' then ['\\', 't']
  else if c == '\\' then ['\\', '\\']
  else
    let n := codePoint c
    if n < 0x100 then '\\' :: 'x' :: hexDigits 2 n
    else if n < 0x10000 then '\\' :: 'u' :: hexDigits 4 n
    else '\\' :: 'U' :: hexDigits 8 n

/-- The quote to enclose text in. -/
def quoteFor (hasApostrophe hasDouble : Bool) : Char :=
  if hasApostrophe && !hasDouble then '"' else '\''

/-- Text between quotes. -/
def quoted (cs : List Char) : List Char :=
  let q := quoteFor (cs.contains '\'') (cs.contains '"')
  let body := cs.flatMap fun c =>
    if c == q then ['\\', c] else if c == '\\' || !isPrintable c then escape c else [c]
  q :: body ++ [q]

/-- Bytes between quotes, with their mark. -/
def quotedBytes (bs : List UInt8) : List Char :=
  let q := quoteFor (bs.contains 39) (bs.contains 34)
  let body := bs.flatMap fun b =>
    let c := Char.ofNat b.toNat
    if c == q then ['\\', c]
    else if c == '\\' || b < 32 || 126 < b then escape c else [c]
  'b' :: q :: body ++ [q]

end Graft.Text
