import Graft.Number.Numeral
import Graft.Number.FloatText
import Graft.Text.Surrogate

set_option autoImplicit false

/-! # JSON text

`Json.parse` reads and `Json.print` writes JSON with the usual extensions: `NaN`, `Infinity` and
`-Infinity` are numbers,
and strings may name surrogates.  Whole numbers are unbounded.  The fields of an object keep their
order; a later field of the same name replaces the value of an earlier one in its place. -/

namespace Graft.Data

/-- A JSON value. -/
inductive Json
  | null
  | bool (b : Bool)
  | int (n : Int)
  | float (x : Float)
  | str (s : String)
  | arr (xs : List Json)
  | obj (fields : List (String × Json))
deriving Inhabited

/-- Why text is not JSON. -/
inductive JsonFault
  | malformed
  | tooDeep
deriving DecidableEq, Repr

namespace Json

/-- The greatest depth to which arrays and objects may be nested. -/
def maxDepth : Nat := 990

/-- What comes behind white space. -/
def skipBlanks (cs : List Char) : List Char :=
  cs.dropWhile (fun c => c == ' ' || c == '\t' || c == '\n' || c == '\r')

/-- Sets a field of an object. -/
def setField (k : String) (v : Json) : List (String × Json) → List (String × Json)
  | [] => [(k, v)]
  | (k', v') :: rest => if k == k' then (k, v) :: rest else (k', v') :: setField k v rest

/-- The value of four hexadecimal digits at the front. -/
def hexCode? : List Char → Option (Nat × List Char)
  | a :: b :: c :: d :: rest => do
    let n ← [a, b, c, d].foldlM (fun n x => do some (16 * n + (← Number.hexValue? x))) 0
    some (n, rest)
  | _ => none

/-- The character that a one-letter escape stands for. -/
def letterEscape? : Char → Option Char
  | '"' => some '"'
  | '\\' => some '\\'
  | '/' => some '/'
  | 'b' => some '\x08'
  | 'f' => some '\x0c'
  | 'n' => some '\n'
  | 'r' => some '\r'
  | 't' => some '\t'
  | _ => none

/-- Reads the rest of a string whose opening quote has been read.  Two escaped surrogates that make
    up a character are taken together. -/
def readString : Nat → List Char → List Char → Option (List Char × List Char)
  | 0, _, _ => none
  | n + 1, cs, acc =>
    match cs with
    | [] => none
    | '"' :: rest => some (acc.reverse, rest)
    | '\\' :: 'u' :: rest => do
      let (high, rest) ← hexCode? rest
      if 0xd800 ≤ high && high ≤ 0xdbff then
        match rest with
        | '\\' :: 'u' :: more => do
          let (low, more) ← hexCode? more
          if 0xdc00 ≤ low && low ≤ 0xdfff then
            let c := Char.ofNat (0x10000 + (high - 0xd800) * 0x400 + (low - 0xdc00))
            readString n more (c :: acc)
          else readString n rest (Text.charOf high :: acc)
        | _ => readString n rest (Text.charOf high :: acc)
      else readString n rest (Text.charOf high :: acc)
    | '\\' :: c :: rest => do readString n rest ((← letterEscape? c) :: acc)
    | c :: rest => if c.toNat < 0x20 then none else readString n rest (c :: acc)

/-- Reads a number. -/
def readNumber (cs : List Char) : Option (Json × List Char) :=
  let (negative, ds) := match cs with
    | '-' :: ds => (true, ds)
    | ds => (false, ds)
  let whole := match ds with
    | '0' :: _ => ['0']
    | _ => ds.takeWhile Char.isDigit
  if whole.isEmpty then none
  else
    let rest := ds.drop whole.length
    let frac := match rest with
      | '.' :: more =>
        let fs := more.takeWhile Char.isDigit
        if fs.isEmpty then [] else '.' :: fs
      | _ => []
    let rest := rest.drop frac.length
    let exponent := match rest with
      | 'e' :: more | 'E' :: more =>
        let mark := match more with
          | '+' :: _ => ['+']
          | '-' :: _ => ['-']
          | _ => []
        let es := (more.drop mark.length).takeWhile Char.isDigit
        if es.isEmpty then [] else 'e' :: mark ++ es
      | _ => []
    let rest := rest.drop exponent.length
    if frac.isEmpty && exponent.isEmpty then
      if Number.maxIntDigits < whole.length then none
      else
        let n : Int := Number.digitsValue 10 whole
        some (.int (if negative then -n else n), rest)
    else
      let x := Number.floatValue (whole ++ frac ++ exponent)
      some (.float (if negative then -x else x), rest)

/-- Reads a word at the front. -/
def word? (w : String) (cs : List Char) : Option (List Char) :=
  if w.toList.isPrefixOf cs then some (cs.drop w.length) else none

/-- Reads a value that is neither array nor object. -/
def readScalar (cs : List Char) : Option (Json × List Char) :=
  match cs with
  | '"' :: rest => do
    let (s, rest) ← readString (rest.length + 1) rest []
    some (.str (String.ofList s), rest)
  | _ =>
    match word? "null" cs, word? "true" cs, word? "false" cs with
    | some rest, _, _ => some (.null, rest)
    | _, some rest, _ => some (.bool true, rest)
    | _, _, some rest => some (.bool false, rest)
    | _, _, _ =>
      match word? "NaN" cs, word? "Infinity" cs, word? "-Infinity" cs with
      | some rest, _, _ => some (.float (0.0 / 0.0), rest)
      | _, some rest, _ => some (.float (1.0 / 0.0), rest)
      | _, _, some rest => some (.float (-1.0 / 0.0), rest)
      | _, _, _ => readNumber cs

mutual

/-- Reads a value; the first number bounds the steps, the second the depth. -/
def readValue : Nat → Nat → List Char → Except JsonFault (Json × List Char)
  | 0, _, _ => .error .malformed
  | n + 1, depth, cs =>
    match cs with
    | '[' :: rest =>
      if depth == 0 then .error .tooDeep
      else match skipBlanks rest with
        | ']' :: rest => .ok (.arr [], rest)
        | rest => do
          let (xs, rest) ← readItems n (depth - 1) rest []
          .ok (.arr xs, rest)
    | '{' :: rest =>
      if depth == 0 then .error .tooDeep
      else match skipBlanks rest with
        | '}' :: rest => .ok (.obj [], rest)
        | rest => do
          let (fs, rest) ← readFields n (depth - 1) rest []
          .ok (.obj fs, rest)
    | _ =>
      match readScalar cs with
      | some r => .ok r
      | none => .error .malformed

/-- Reads the rest of an array from an item on. -/
def readItems : Nat → Nat → List Char → List Json → Except JsonFault (List Json × List Char)
  | 0, _, _, _ => .error .malformed
  | n + 1, depth, cs, acc => do
    let (x, rest) ← readValue n depth cs
    match skipBlanks rest with
    | ']' :: rest => .ok ((x :: acc).reverse, rest)
    | ',' :: rest => readItems n depth (skipBlanks rest) (x :: acc)
    | _ => .error .malformed

/-- Reads the rest of an object from a field on. -/
def readFields : Nat → Nat → List Char → List (String × Json) →
    Except JsonFault (List (String × Json) × List Char)
  | 0, _, _, _ => .error .malformed
  | n + 1, depth, cs, acc =>
    match cs with
    | '"' :: rest =>
      match readString (rest.length + 1) rest [] with
      | none => .error .malformed
      | some (k, rest) =>
        match skipBlanks rest with
        | ':' :: rest => do
          let (v, rest) ← readValue n depth (skipBlanks rest)
          let acc := setField (String.ofList k) v acc
          match skipBlanks rest with
          | '}' :: rest => .ok (acc, rest)
          | ',' :: rest => readFields n depth (skipBlanks rest) acc
          | _ => .error .malformed
        | _ => .error .malformed
    | _ => .error .malformed

end

/-- Reads a whole text. -/
def parse (cs : List Char) : Except JsonFault Json := do
  let (v, rest) ← readValue (2 * cs.length + 2) maxDepth (skipBlanks cs)
  if (skipBlanks rest).isEmpty then .ok v else .error .malformed

/-! ## Writing -/

/-- A character between quotes. -/
def writeChar (c : Char) : String :=
  let hex (n : Nat) : String := "\\u" ++ String.ofList (fourDigits n)
  if c == '"' then "\\\""
  else if c == '\\' then "\\\\"
  else if c == '\n' then "\\n"
  else if c.toNat < 0x20 || c.toNat == 0x7f then hex c.toNat
  else if Text.isSurrogate c then hex (Text.codePoint c)
  else c.toString
where
  /-- The last four hexadecimal digits of a number. -/
  fourDigits (n : Nat) : List Char :=
    [n / 4096 % 16, n / 256 % 16, n / 16 % 16, n % 16].map fun d =>
      if d < 10 then Char.ofNat (48 + d) else Char.ofNat (87 + d)

/-- Text between quotes. -/
def writeString (s : String) : String :=
  s.foldl (fun acc c => acc ++ writeChar c) "\"" ++ "\""

mutual

/-- Writes a value on one line. -/
def print : Json → String
  | .null => "null"
  | .bool b => if b then "true" else "false"
  | .int n => toString n
  | .float x => Number.textOfFloat Number.realFormat x
  | .str s => writeString s
  | .arr xs => "[" ++ ", ".intercalate (printAll xs) ++ "]"
  | .obj fs => "\x7b" ++ ", ".intercalate (printFields fs) ++ "\x7d"

/-- Writes values. -/
def printAll : List Json → List String
  | [] => []
  | x :: xs => x.print :: printAll xs

/-- Writes fields. -/
def printFields : List (String × Json) → List String
  | [] => []
  | (k, v) :: fs => (writeString k ++ ": " ++ v.print) :: printFields fs

end

/-- The value of a field. -/
def field? (k : String) : Json → Option Json
  | .obj fields => (fields.find? (·.1 == k)).map (·.2)
  | _ => none

end Json

end Graft.Data
