set_option autoImplicit false

/-! # Number literals

How far a number literal reaches, and why a piece of text that begins like one is none.  A scan
answers with the number of characters it took and the rest of the text. -/

namespace Graft.Syntax

/-- The result of scanning a number. -/
inductive NumberScan
  /-- A literal of the given number of characters. -/
  | literal (taken : Nat)
  /-- No literal; the message, and how many characters had been read when it was noticed. -/
  | bad (message : String) (taken : Nat)
  /-- A literal with useless leading zeros. -/
  | leadingZeros
deriving DecidableEq, Repr

namespace NumberScan

/-- Whether a character could be part of a name. -/
def nameLike (c : Char) : Bool :=
  c.isAlphanum || c == '_' || c.toNat ≥ 128

/-- The words that may follow a number without a blank. -/
def mayFollow (rest : List Char) : Bool :=
  match rest with
  | 'a' :: 'n' :: 'd' :: _ | 'e' :: 'l' :: 's' :: 'e' :: _ | 'f' :: 'o' :: 'r' :: _
  | 'i' :: 'f' :: _ | 'i' :: 'n' :: _ | 'i' :: 's' :: _ | 'o' :: 'r' :: _
  | 'n' :: 'o' :: 't' :: _ => true
  | _ => false

/-- Checks that a number of the given kind ends here. -/
def finish (kind : String) (taken : Nat) (rest : List Char) : NumberScan :=
  match rest with
  | c :: _ =>
    if mayFollow rest then .literal taken
    else if nameLike c then .bad ("invalid " ++ kind ++ " literal") taken
    else .literal taken
  | [] => .literal taken

/-- Digits of a class with single low lines between them: how many characters, whether a low
    line was followed by something else, and the rest. -/
def digits (p : Char → Bool) : List Char → Nat → Nat × Bool × List Char
  | [], n => (n, false, [])
  | '_' :: rest, n =>
    match rest with
    | d :: _ => if p d then digits p rest (n + 1) else (n + 1, true, rest)
    | [] => (n + 1, true, [])
  | c :: rest, n => if p c then digits p rest (n + 1) else (n, false, c :: rest)

/-- The digits after `0x`, `0o` or `0b`. -/
def radix (kind : String) (p : Char → Bool) (rest : List Char) : NumberScan :=
  let begins := match rest with
    | '_' :: c :: _ => p c
    | c :: _ => p c
    | [] => false
  let stray (n : Nat) (c : Char) : NumberScan :=
    if kind != "hexadecimal" && c.isDigit then
      .bad ("invalid digit '" ++ c.toString ++ "' in " ++ kind ++ " literal") (n + 1)
    else .bad ("invalid " ++ kind ++ " literal") n
  if begins then
    match digits p rest 2 with
    | (n, true, c :: _) => stray n c
    | (n, true, []) => .bad ("invalid " ++ kind ++ " literal") n
    | (n, false, rest) => match rest with
      | c :: _ =>
        if kind != "hexadecimal" && c.isDigit then
          .bad ("invalid digit '" ++ c.toString ++ "' in " ++ kind ++ " literal") (n + 1)
        else finish kind n rest
      | [] => .literal n
  else match rest with
    | '_' :: c :: _ => stray 3 c
    | c :: _ => stray 2 c
    | [] => .bad ("invalid " ++ kind ++ " literal") 2

/-- What may follow the digits of a number that has had its fraction: an imaginary unit. -/
def unit (taken : Nat) (rest : List Char) : NumberScan :=
  match rest with
  | 'j' :: rest | 'J' :: rest => finish "imaginary" (taken + 1) rest
  | _ => finish "decimal" taken rest

/-- The exponent, at its letter, or the end of the number. -/
def exponent (taken : Nat) (rest : List Char) : NumberScan :=
  let powers (n : Nat) (ds : List Char) : NumberScan :=
    match digits Char.isDigit ds n with
    | (n, true, _) => .bad "invalid decimal literal" n
    | (n, false, rest) => unit n rest
  let isLetter := match rest with
    | c :: _ => c == 'e' || c == 'E'
    | [] => false
  if isLetter then
    match rest.drop 1 with
    | s :: ds =>
      if s == '+' || s == '-' then
        match ds with
        | d :: _ =>
          if d.isDigit then powers (taken + 2) ds else .bad "invalid decimal literal" (taken + 2)
        | [] => .bad "invalid decimal literal" (taken + 2)
      else if s.isDigit then powers (taken + 1) (s :: ds)
      else finish "decimal" taken rest
    | [] => finish "decimal" taken rest
  else unit taken rest

/-- The digits of a fraction, after its point. -/
def fraction (taken : Nat) (rest : List Char) : NumberScan :=
  match rest with
  | d :: _ =>
    if d.isDigit then
      match digits Char.isDigit rest taken with
      | (n, true, _) => .bad "invalid decimal literal" n
      | (n, false, rest) => exponent n rest
    else exponent taken rest
  | [] => .literal taken

/-- A number that begins with a zero and is not in another radix. -/
def zeros (cs : List Char) : NumberScan :=
  match digits (· == '0') cs 0 with
  | (n, true, c :: rest) =>
    -- a low line between the zeros and another digit
    if c.isDigit then
      match digits Char.isDigit (c :: rest) n with
      | (n, true, _) => .bad "invalid decimal literal" n
      | (n, false, rest) => tail true n rest
    else .bad "invalid decimal literal" n
  | (n, true, []) => .bad "invalid decimal literal" n
  | (n, false, rest) =>
    match rest with
    | c :: _ =>
      if c.isDigit then
        match digits Char.isDigit rest n with
        | (n, true, _) => .bad "invalid decimal literal" n
        | (n, false, rest) => tail true n rest
      else tail false n rest
    | [] => .literal n
where
  /-- What follows the leading digits; with a digit other than zero among them the number has
      to be a fraction, a power or imaginary. -/
  tail (nonzero : Bool) (n : Nat) (rest : List Char) : NumberScan :=
    match rest with
    | '.' :: rest => fraction (n + 1) rest
    | c :: _ =>
      if c == 'e' || c == 'E' then exponent n rest
      else if c == 'j' || c == 'J' then unit n rest
      else if nonzero then .leadingZeros
      else finish "decimal" n rest
    | [] => if nonzero then .leadingZeros else .literal n

end NumberScan

/-- Scans a number at its first character, a digit or the point before one. -/
def scanNumber : List Char → NumberScan
  | '.' :: rest => NumberScan.fraction 1 rest
  | '0' :: c :: rest =>
    if c == 'x' || c == 'X' then
      NumberScan.radix "hexadecimal"
        (fun d => d.isDigit || ('a' ≤ d && d ≤ 'f') || ('A' ≤ d && d ≤ 'F')) rest
    else if c == 'o' || c == 'O' then NumberScan.radix "octal" (fun d => '0' ≤ d && d ≤ '7') rest
    else if c == 'b' || c == 'B' then NumberScan.radix "binary" (fun d => d == '0' || d == '1') rest
    else NumberScan.zeros ('0' :: c :: rest)
  | cs =>
    match NumberScan.digits Char.isDigit cs 0 with
    | (n, true, _) => .bad "invalid decimal literal" n
    | (n, false, '.' :: rest) => NumberScan.fraction (n + 1) rest
    | (n, false, rest) => NumberScan.exponent n rest

end Graft.Syntax
