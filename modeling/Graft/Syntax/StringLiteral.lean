import Graft.Syntax.Tree
import Graft.Syntax.Fault
import Graft.Syntax.Lexer
import Graft.Text.Surrogate
import Graft.Number.Numeral

set_option autoImplicit false

/-! # The contents of string literals

Prefixes and quotes of a literal, and the characters or bytes that the escapes between the quotes
stand for. -/

namespace Graft.Syntax

open Number

/-- A string literal taken apart. -/
structure StringLiteral where
  isBytes : Bool := false
  isRaw : Bool := false
  isFormatted : Bool := false
  /-- Whether the literal begins with a small `u`. -/
  unicodeMark : Bool := false
  /-- How many characters come before the body. -/
  bodyStart : Nat
  body : List Char

/-- Takes the text of a string token apart. -/
def StringLiteral.ofText (text : List Char) : StringLiteral :=
  let marks := text.takeWhile (fun c => c != '"' && c != '\'')
  let has (c d : Char) : Bool := marks.contains c || marks.contains d
  let quoted := text.drop marks.length
  let quotes := match quoted with
    | a :: b :: c :: _ :: _ => if a == b && b == c then 3 else 1
    | _ => 1
  { isBytes := has 'b' 'B', isRaw := has 'r' 'R', isFormatted := has 'f' 'F',
    unicodeMark := text.head? == some 'u',
    bodyStart := marks.length + quotes,
    body := (quoted.drop quotes).take (quoted.length - 2 * quotes) }

/-- Reads up to `n` hexadecimal digits: the value, how many are missing, and the rest. -/
def readHex : Nat → List Char → Nat → Nat × Nat × List Char
  | 0, cs, acc => (acc, 0, cs)
  | n + 1, [], acc => (acc, n + 1, [])
  | n + 1, c :: cs, acc =>
    match hexValue? c with
    | some d => readHex n cs (acc * 16 + d)
    | none => (acc, n + 1, c :: cs)

/-- Reads up to `n` octal digits: the value and the rest. -/
def readOctal : Nat → List Char → Nat → Nat × List Char
  | 0, cs, acc => (acc, cs)
  | _ + 1, [], acc => (acc, [])
  | n + 1, c :: cs, acc =>
    if '0' ≤ c && c ≤ '7' then readOctal n cs (acc * 8 + (c.toNat - 48)) else (acc, c :: cs)

/-- The characters that single letter escapes stand for. -/
def plainEscape? (c : Char) : Option Char :=
  match c with
  | '\\' => some '\\'
  | '\'' => some '\''
  | '"' => some '"'
  | 'a' => some '\x07'
  | 'b' => some '\x08'
  | 'f' => some '\x0c'
  | 'n' => some '\n'
  | 'r' => some '\r'
  | 't' => some '\t'
  | 'v' => some '\x0b'
  | _ => none

/-- The room a character takes where escapes are counted: ten places above ASCII. -/
def escapeRoom (c : Char) : Nat :=
  if c.toNat < 128 then 1 else 10

/-- The message about an escape at places `a` up to `b`. -/
def badEscape (a b : Nat) (reason : String) : String :=
  "(unicode error) 'unicodeescape' codec can't decode bytes in position " ++ toString a ++ "-"
    ++ toString (b - 1) ++ ": " ++ reason

/-- Replaces the escapes of text; `at` counts the places before it.  Faulty escapes are reported by
    their message. -/
def decodeText : Nat → Nat → List Char → Except String (List Char)
  | 0, _, _ => .ok []
  | _, _, [] => .ok []
  | n + 1, at_, '\\' :: c :: rest =>
    let hex (digits : Nat) (what : String) : Except String (List Char) :=
      match readHex digits rest 0 with
      | (_, missing + 1, _) =>
        .error (badEscape at_ (at_ + 2 + (digits - (missing + 1))) ("truncated \\" ++ what ++ " escape"))
      | (v, 0, rest') =>
        if 0x10ffff < v then .error (badEscape at_ (at_ + 2 + digits) "illegal Unicode character")
        else do .ok (Text.charOf v :: (← decodeText n (at_ + 2 + digits) rest'))
    if c == '\n' then decodeText n (at_ + 2) rest
    else match plainEscape? c with
      | some d => do .ok (d :: (← decodeText n (at_ + 2) rest))
      | none =>
        if '0' ≤ c && c ≤ '7' then
          let (v, rest') := readOctal 3 (c :: rest) 0
          do .ok (Char.ofNat v :: (← decodeText n (at_ + 1 + (rest.length + 1 - rest'.length)) rest'))
        else if c == 'x' then hex 2 "xXX"
        else if c == 'u' then hex 4 "uXXXX"
        else if c == 'U' then hex 8 "UXXXXXXXX"
        else if c == 'N' then
          match rest with
          | '{' :: inner =>
            let name := inner.takeWhile (· != '}')
            if name.length < inner.length && !name.isEmpty then
              .error (badEscape at_ (at_ + 4 + name.length) "unknown Unicode character name")
            else .error (badEscape at_ (at_ + 3 + name.length) "malformed \\N character escape")
          | _ => .error (badEscape at_ (at_ + 2) "malformed \\N character escape")
        else if c.toNat < 128 then do .ok ('\\' :: c :: (← decodeText n (at_ + 2) rest))
        else do .ok ('\\' :: c :: (← decodeText n (at_ + 16) rest))
  | n + 1, at_, c :: rest => do .ok (c :: (← decodeText n (at_ + escapeRoom c) rest))

/-- Replaces the escapes of bytes; `at` counts the characters before them. -/
def decodeBytes : Nat → Nat → List Char → Except String (List UInt8)
  | 0, _, _ => .ok []
  | _, _, [] => .ok []
  | n + 1, at_, '\\' :: c :: rest =>
    if c == '\n' then decodeBytes n (at_ + 2) rest
    else match plainEscape? c with
      | some d => do .ok (d.toNat.toUInt8 :: (← decodeBytes n (at_ + 2) rest))
      | none =>
        if '0' ≤ c && c ≤ '7' then
          let (v, rest') := readOctal 3 (c :: rest) 0
          do .ok (v.toUInt8 :: (← decodeBytes n (at_ + 1 + (rest.length + 1 - rest'.length)) rest'))
        else if c == 'x' then
          match readHex 2 rest 0 with
          | (_, _ + 1, _) =>
            .error ("(value error) invalid \\x escape at position " ++ toString at_)
          | (v, 0, rest') => do .ok (v.toUInt8 :: (← decodeBytes n (at_ + 4) rest'))
        else do .ok (92 :: c.toNat.toUInt8 :: (← decodeBytes n (at_ + 2) rest))
  | n + 1, at_, c :: rest => do .ok (c.toNat.toUInt8 :: (← decodeBytes n (at_ + 1) rest))

/-- The text between the quotes. -/
def StringLiteral.text (l : StringLiteral) : Except String (List Char) :=
  if l.isRaw then .ok l.body else decodeText (l.body.length + 1) 0 l.body

/-- The bytes between the quotes. -/
def StringLiteral.bytes (l : StringLiteral) : Except String (List UInt8) :=
  if l.isRaw then .ok (l.body.map (·.toNat.toUInt8)) else decodeBytes (l.body.length + 1) 0 l.body

/-! ## Numbers -/

/-- The value of a number literal, or the message that it is too long. -/
def numberValue (text : List Char) : Except String Constant :=
  let cs := text.filter (· != '_')
  match cs with
  | '0' :: 'x' :: ds | '0' :: 'X' :: ds => .ok (.int (digitsValue 16 ds))
  | '0' :: 'o' :: ds | '0' :: 'O' :: ds => .ok (.int (digitsValue 8 ds))
  | '0' :: 'b' :: ds | '0' :: 'B' :: ds => .ok (.int (digitsValue 2 ds))
  | _ =>
    match cs.getLast? with
    | some 'j' | some 'J' => .ok (.imaginary (floatValue cs.dropLast))
    | _ =>
      if cs.all Char.isDigit then
        if maxIntDigits < cs.length then
          .error ("Exceeds the limit (4300 digits) for integer string conversion: value has "
            ++ toString cs.length ++ " digits; use sys.set_int_max_str_digits() to increase the "
            ++ "limit - Consider hexadecimal for huge integer literals to avoid decimal "
            ++ "conversion limits.")
        else .ok (.int (digitsValue 10 cs))
      else .ok (.float (floatValue cs))

end Graft.Syntax
