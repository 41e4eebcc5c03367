set_option autoImplicit false

/-! # Plain scalars

Which texts may stand in a document without quotes, and which of them would be read as something
else than text. -/

namespace Graft.Data.Yaml

/-! ## Reading a text as another type -/

/-- Whether characters are one of some words. -/
def oneOf (words : List String) (cs : List Char) : Bool :=
  words.contains (String.ofList cs)

/-- Characters without a sign at the front. -/
def unsigned : List Char → List Char
  | '+' :: cs | '-' :: cs => cs
  | cs => cs

/-- Whether there are some characters and all of them pass a test. -/
def someAll (p : Char → Bool) (cs : List Char) : Bool :=
  !cs.isEmpty && cs.all p

/-- A digit or an underscore. -/
def digitLike (c : Char) : Bool := c.isDigit || c == '_'

/-- Whether a text reads as a whole number. -/
def readsAsInt (cs : List Char) : Bool :=
  let body := unsigned cs
  (cs.head?.map (· != '_')).getD false && someAll digitLike body ||
    match body with
    | '0' :: 'b' :: ds => someAll (fun c => c == '0' || c == '1' || c == '_') ds
    | '0' :: 'o' :: ds => someAll (fun c => ('0' ≤ c && c ≤ '7') || c == '_') ds
    | '0' :: 'x' :: ds =>
      someAll (fun c => digitLike c || ('a' ≤ c && c ≤ 'f') || ('A' ≤ c && c ≤ 'F')) ds
    | _ => false

/-- Whether characters are an exponent; its sign may be missing only if that is allowed. -/
def isExponent (signMissing : Bool) : List Char → Bool
  | e :: rest =>
    (e == 'e' || e == 'E') &&
      match rest with
      | '+' :: ds | '-' :: ds => someAll Char.isDigit ds
      | ds => signMissing && someAll Char.isDigit ds
  | [] => false

/-- Whether a text reads as a number with a fraction or an exponent. -/
def readsAsFloat (cs : List Char) : Bool :=
  let body := unsigned cs
  match body with
  | '.' :: ds =>
    oneOf [".inf", ".Inf", ".INF"] body || oneOf [".nan", ".NaN", ".NAN"] cs ||
      (let rest := ds.dropWhile digitLike
       !(ds.takeWhile digitLike).isEmpty && (rest.isEmpty || isExponent false rest))
  | c :: _ =>
    c.isDigit &&
      match body.dropWhile digitLike with
      | '.' :: ds =>
        let rest := ds.dropWhile digitLike
        rest.isEmpty || isExponent true rest
      | rest => isExponent true rest
  | [] => false

/-- Takes at least `least` and at most `most` digits. -/
def takeDigits (least most : Nat) (cs : List Char) : Option (List Char) :=
  let n := ((cs.take most).takeWhile Char.isDigit).length
  if least ≤ n then some (cs.drop n) else none

/-- Takes a given character. -/
def takeChar (c : Char) : List Char → Option (List Char)
  | d :: cs => if c == d then some cs else none
  | [] => none

/-- Whether characters are a time zone, with blanks before it, or nothing. -/
def isZone (cs : List Char) : Bool :=
  match cs.dropWhile (fun c => c == ' ' || c == '\t') with
  | [] => cs.isEmpty
  | ['Z'] => true
  | s :: ds =>
    (s == '+' || s == '-') &&
      match takeDigits 1 2 ds with
      | some [] => true
      | some (':' :: ds) => takeDigits 2 2 ds == some []
      | _ => false

/-- Whether characters are a time of day with an optional zone. -/
def isClock (cs : List Char) : Bool :=
  let time? : Option (List Char) := do
    let cs ← takeDigits 1 2 cs
    let cs ← takeChar ':' cs
    let cs ← takeDigits 2 2 cs
    let cs ← takeChar ':' cs
    takeDigits 2 2 cs
  match time? with
  | some ('.' :: rest) => isZone (rest.dropWhile Char.isDigit)
  | some rest => isZone rest
  | none => false

/-- Whether a text reads as a date or a point in time. -/
def readsAsTime (cs : List Char) : Bool :=
  let date? (least : Nat) : Option (List Char) := do
    let cs ← takeDigits 4 4 cs
    let cs ← takeChar '-' cs
    let cs ← takeDigits least 2 cs
    let cs ← takeChar '-' cs
    takeDigits least 2 cs
  date? 2 == some [] ||
    match date? 1 with
    | some (c :: rest) =>
      if c == 'T' || c == 't' then isClock rest
      else (c == ' ' || c == '\t')
        && isClock (rest.dropWhile (fun c => c == ' ' || c == '\t'))
    | _ => false

/-- Whether a text would be read as something else than text. -/
def readsAsOther (cs : List Char) : Bool :=
  oneOf ["true", "True", "TRUE", "false", "False", "FALSE", "", "~", "null", "Null", "NULL", "=",
    "<<", "!", "&", "*"] cs
    || readsAsInt cs || readsAsFloat cs || readsAsTime cs

/-! ## Characters that do not go without quotes -/

/-- Whether a character breaks a line. -/
def isBreak (c : Char) : Bool :=
  c == '\n' || c == '\x85' || c == '\u2028' || c == '\u2029'

/-- Whether a character separates words. -/
def isSpace (c : Char) : Bool :=
  c == ' ' || c == '\t' || c == '\r' || c == '\x00' || isBreak c

/-- Whether a character can only be written by an escape. -/
def isSpecial (c : Char) : Bool :=
  let n := c.toNat
  !(c == '\n' || (0x20 ≤ n && n ≤ 0x7e)
    || ((0xa0 ≤ n && n ≤ 0xfffd || 0x10000 ≤ n && n < 0x10f800) && n != 0xfeff))

/-- What a look at a text tells about how it may be written. -/
structure Analysis where
  plain : Bool
  singleQuoted : Bool
  multiline : Bool
deriving DecidableEq, Repr

/-- Whether a colon before a blank or a hash behind one occurs behind the first character. -/
def hasIndicator : Char → List Char → Bool
  | _, [] => false
  | before, c :: rest =>
    (c == ':' && (rest.head?.map isSpace).getD true) || (c == '#' && isSpace before)
      || hasIndicator c rest

/-- Whether a text begins with something that is no text. -/
def startsOther (cs : List Char) : Bool :=
  "---".toList.isPrefixOf cs || "...".toList.isPrefixOf cs ||
    match cs with
    | [] => false
    | c :: rest =>
      "#,[]\x7b\x7d&*!|>'\"%@`".toList.contains c
        || ((c == '?' || c == ':' || c == '-') && (rest.head?.map isSpace).getD true)

/-- Whether a space stands beside a line break: before it, and behind it. -/
def spaceAtBreak : List Char → Bool × Bool
  | a :: b :: rest =>
    let (x, y) := spaceAtBreak (b :: rest)
    (x || (a == ' ' && isBreak b), y || (isBreak a && b == ' '))
  | _ => (false, false)

/-- Looks at a text. -/
def Analysis.of (cs : List Char) : Analysis :=
  let atEdge (c : Option Char) : Bool := (c.map fun c => c == ' ' || isBreak c).getD false
  let multiline := cs.any isBreak
  let special := cs.any isSpecial
  let (before, behind) := spaceAtBreak cs
  let quotable := !special && !before && !behind
  { plain := quotable && !multiline && !atEdge cs.head? && !atEdge cs.getLast?
      && !startsOther cs && !hasIndicator (cs.headD 'a') (cs.drop 1)
    singleQuoted := quotable
    multiline }

end Graft.Data.Yaml
