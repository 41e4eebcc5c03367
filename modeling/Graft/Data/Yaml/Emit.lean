import Graft.Data.Datum
import Graft.Data.Yaml.Plain

set_option autoImplicit false

/-! # Writing documents

Block style with one entry a line.  Nested mappings are indented by two columns, sequences within a
mapping not at all.  Text goes without quotes where it would be read back as the same text. -/

namespace Graft.Data.Yaml

/-- What a document is made of. -/
inductive Node
  | null
  /-- A scalar that is no text, as it is written. -/
  | scalar (text : String)
  | text (s : String)
  /-- Text that is written line by line as it is. -/
  | block (s : String)
  | bytes (bs : List UInt8)
  | seq (items : List Node)
  | map (entries : List (Node × Node))
deriving Inhabited

/-- The column behind which lines are folded. -/
def width : Nat := 4096

/-- Keys of this length are not written on a line with their values. -/
def longKey : Nat := 123

/-! ## Scalars -/

/-- Text that is being written: what there is so far, in reverse, and the column. -/
structure Pen where
  out : List Char := []
  column : Nat

/-- Writes characters. -/
def Pen.put (p : Pen) (cs : List Char) : Pen :=
  { out := cs.reverse ++ p.out, column := p.column + cs.length }

/-- Begins a new line with an indentation. -/
def Pen.newLine (p : Pen) (indent : Nat) : Pen :=
  { out := List.replicate indent ' ' ++ '\n' :: p.out, column := indent }

/-- Text cut into runs that are blank or not. -/
def runs (p : Char → Bool) (cs : List Char) : List (List Char) :=
  cs.splitBy fun a b => p a == p b

/-- Writes text without quotes.  A word that is longer than a line gets a line of its own; a single
    space is written as a line break once the line is full. -/
def writePlain (indent : Nat) (cs : List Char) (p : Pen) : Pen :=
  (runs (· == ' ') cs).foldl (fun p run =>
    if run == [' '] then
      if width < p.column then p.newLine indent else p.put run
    else if run.head? == some ' ' then p.put run
    else if width < run.length && indent < p.column then (p.newLine indent).put run
    else p.put run) p

/-- Writes text between single quotes, which are doubled within. -/
def writeSingle (indent : Nat) (cs : List Char) (p : Pen) : Pen :=
  let pieces := runs (· == ' ') cs
  let last := pieces.length - 1
  let p := pieces.zipIdx.foldl (fun p (run, i) =>
    if run == [' '] && 0 < i && i < last && width < p.column then p.newLine indent
    else p.put (run.flatMap fun c => if c == '\'' then [c, c] else [c])) (p.put ['\''])
  p.put ['\'']

/-- The escape of a character between double quotes, if it needs one. -/
def escape? (c : Char) : Option (List Char) :=
  let code := Text.codePoint c
  let hex (n : Nat) : List Char := (Text.hexDigits n code).map Char.toUpper
  let letter? : Option Char := match c with
    | '\x00' => some '0'
    | '\x07' => some 'a'
    | '\x08' => some 'b'
    | '\t' => some 't'
    | '\n' => some 'n'
    | '\x0b' => some 'v'
    | '\x0c' => some 'f'
    | '\r' => some 'r'
    | '\x1b' => some 'e'
    | '"' => some '"'
    | '\\' => some '\\'
    | '\x85' => some 'N'
    | '\u2028' => some 'L'
    | '\u2029' => some 'P'
    | _ => none
  match letter? with
  | some l => some ['\\', l]
  | none =>
    if !isSpecial c then none
    else if code ≤ 0xff then some ('\\' :: 'x' :: hex 2)
    else if code ≤ 0xffff then some ('\\' :: 'u' :: hex 4)
    else some ('\\' :: 'U' :: hex 8)

/-- Writes the inside of double quotes.  `held` are characters that are not written yet, in reverse;
    a line that is full is broken behind a backslash. -/
def writeDoubleFrom (indent size : Nat) : Nat → List Char → List Char → Pen → Pen
  | _, [], held, p => p.put held.reverse
  | i, c :: rest, held, p =>
    let (held, p) := match escape? c with
      | some e => ([], (p.put held.reverse).put e)
      | none => (c :: held, p)
    let inside := 0 < i && i + 1 < size
    if inside && (c == ' ' || held.length ≤ 1) && width + 1 < p.column + held.length then
      -- the present character goes to the next line, unless it is an escape, which is written
      let p := (p.put ((held.drop 1).reverse ++ ['\\'])).newLine indent
      let held := held.take 1
      let next := if held.isEmpty then rest.head? else some c
      writeDoubleFrom indent size (i + 1) rest held (if next == some ' ' then p.put ['\\'] else p)
    else writeDoubleFrom indent size (i + 1) rest held p

/-- Writes text between double quotes. -/
def writeDouble (indent : Nat) (cs : List Char) (p : Pen) : Pen :=
  (writeDoubleFrom indent cs.length 0 cs [] (p.put ['"'])).put ['"']

/-- Writes text in the plainest form that keeps it; a key may not go over several lines. -/
def writeText (indent : Nat) (isKey : Bool) (s : String) (p : Pen) : Pen :=
  let cs := s.toList
  let a := Analysis.of cs
  let onOneLine := !(isKey && a.multiline)
  if cs.isEmpty then p.put ['\'', '\'']
  else if a.plain && !readsAsOther cs && onOneLine then
    if isKey then p.put cs else writePlain indent cs p
  else if cs.contains '\'' || cs.contains '\n' then writeDouble indent cs p
  else if a.singleQuoted && onOneLine then writeSingle indent cs p
  else writeDouble indent cs p

/-- Whether text is written without quotes. -/
def isPlain (s : String) : Bool :=
  !s.isEmpty && (Analysis.of s.toList).plain && !readsAsOther s.toList

/-- What is said about a block of lines in its header: that its indentation can not be read off its
    first line, and which line ends there are at its end. -/
def blockHints (cs : List Char) : List Char :=
  let breakAt (c : Option Char) : Bool := (c.map isBreak).getD false
  let start := if cs.head? == some ' ' || breakAt cs.head? then ['2'] else []
  let back := cs.reverse
  if cs.isEmpty then []
  else if !breakAt cs.getLast? then start ++ ['-']
  else if cs.length == 1 || breakAt (back.drop 1).head? then start ++ ['+']
  else start

/-- The lines of a block, each with the line end before it; the last line end is left out. -/
def blockLines (indent : Nat) (cs : List Char) : List Char :=
  let cs := if (cs.getLast?.map isBreak).getD true then cs.dropLast else cs
  '\n' :: go cs true
where
  /-- Writes on, behind a line end or not. -/
  go : List Char → Bool → List Char
    | [], _ => []
    | c :: rest, atStart =>
      if isBreak c then c :: go rest true
      else if atStart then List.replicate indent ' ' ++ c :: go rest false
      else c :: go rest false

/-- Whether the end of a block of lines would be lost without a mark behind the document. -/
def isOpenEnded (s : String) : Bool := (blockHints s.toList).contains '+'

/-- A floating point number as a scalar. -/
def floatScalar (x : Float) : String :=
  match Number.textOfFloat Number.realFormat x with
  | "nan" => ".nan"
  | "inf" => ".inf"
  | "-inf" => "-.inf"
  | s => s

/-! ## Bytes -/

/-- The digits of base 64. -/
def base64Digits : Array Char :=
  "ABCDEFGHIJKLMNOPQRSTUVWXYZabcdefghijklmnopqrstuvwxyz0123456789+/".toList.toArray

/-- Bytes in base 64. -/
def base64 : List UInt8 → List Char
  | [] => []
  | [a] =>
    let n := a.toNat * 65536
    [digit n 18, digit n 12, '=', '=']
  | [a, b] =>
    let n := a.toNat * 65536 + b.toNat * 256
    [digit n 18, digit n 12, digit n 6, '=']
  | a :: b :: c :: rest =>
    let n := a.toNat * 65536 + b.toNat * 256 + c.toNat
    digit n 18 :: digit n 12 :: digit n 6 :: digit n 0 :: base64 rest
where
  /-- The digit of a number at a bit position. -/
  digit (n shift : Nat) : Char := (base64Digits[(n >>> shift) % 64]?).getD 'A'

/-- Bytes in base 64, each line with its end. -/
def base64Lines (bs : List UInt8) : List Char :=
  go (bs.length / 57 + 1) bs
where
  /-- At most so many lines. -/
  go : Nat → List UInt8 → List Char
    | 0, _ => []
    | _, [] => []
    | n + 1, bs => base64 (bs.take 57) ++ '\n' :: go n (bs.drop 57)

/-! ## Nodes -/

/-- Whether a node is a key that stands on a line with its value. -/
def isShortKey : Node → Bool
  | .null | .scalar _ => true
  | .text s => s.length < longKey && !s.toList.any isBreak
  | _ => false

/-- Writes a node that holds no others; `indent` is the column of the collection it belongs to. -/
def Node.writeLeaf (indent : Nat) (n : Node) (p : Pen) : Pen :=
  let lines (cs : List Char) : List Char :=
    if cs.isEmpty then [] else blockLines (indent + 2) cs
  match n with
  | .scalar s => p.put s.toList
  | .text s => writeText (indent + 2) false s p
  | .block s => p.put ('|' :: blockHints s.toList ++ lines s.toList)
  | .bytes bs => p.put ("!!binary |".toList ++ lines (base64Lines bs))
  | .null | .seq _ | .map _ => p

mutual

/-- Writes a node in its place; `indent` is the column of the collection it belongs to. -/
def Node.writeHere (indent : Nat) : Node → Pen → Pen
  | .seq is, p => if is.isEmpty then p.put ['[', ']'] else writeItems (indent + 2) true is p
  | .map es, p => if es.isEmpty then p.put ['{', '}'] else writeEntries (indent + 2) true es p
  | .null, p => p
  | .scalar s, p => (Node.scalar s).writeLeaf indent p
  | .text s, p => (Node.text s).writeLeaf indent p
  | .block s, p => (Node.block s).writeLeaf indent p
  | .bytes bs, p => (Node.bytes bs).writeLeaf indent p

/-- Writes a node behind a key, whose column is `indent`, with the blank or line end before it. -/
def Node.writeValue (indent : Nat) : Node → Pen → Pen
  | .seq is, p =>
    if is.isEmpty then p.put [' ', '[', ']'] else writeItems indent true is (p.newLine indent)
  | .map es, p =>
    if es.isEmpty then p.put [' ', '{', '}']
    else writeEntries (indent + 2) true es (p.newLine (indent + 2))
  | .null, p => p
  | .scalar s, p => (Node.scalar s).writeLeaf indent (p.put [' '])
  | .text s, p => (Node.text s).writeLeaf indent (p.put [' '])
  | .block s, p => (Node.block s).writeLeaf indent (p.put [' '])
  | .bytes bs, p => (Node.bytes bs).writeLeaf indent (p.put [' '])

/-- Writes the items of a sequence, of which the first may stand where the pen is. -/
def writeItems (indent : Nat) (first : Bool) : List Node → Pen → Pen
  | [], p => p
  | i :: is, p =>
    let p := if first then p else p.newLine indent
    writeItems indent false is (i.writeHere indent (p.put ['-', ' ']))

/-- Writes the entries of a mapping, of which the first may stand where the pen is. -/
def writeEntries (indent : Nat) (first : Bool) : List (Node × Node) → Pen → Pen
  | [], p => p
  | (k, v) :: es, p =>
    let p := if first then p else p.newLine indent
    let p :=
      if isShortKey k then
        let p := match k with
          | .scalar s => p.put s.toList
          | .text s => writeText (indent + 2) true s p
          | _ => p.put ['n', 'u', 'l', 'l']
        v.writeValue indent (p.put [':'])
      else
        let p := (k.writeHere indent (p.put ['?', ' '])).newLine indent
        match v with
        | .null => p.put [':']
        | _ => v.writeHere indent (p.put [':', ' '])
    writeEntries indent false es p

end

/-! ## Documents -/

/-- Whether the last thing in a node is a block whose end would be lost. -/
def Node.endsOpen : Node → Bool
  | .block s => isOpenEnded s
  | .seq is => endsOpenItems is
  | .map es => endsOpenEntries es
  | _ => false
where
  /-- Whether the last thing in nodes is such a block. -/
  endsOpenItems : List Node → Bool
    | [] => false
    | [n] => n.endsOpen
    | _ :: is => endsOpenItems is
  /-- Whether the last thing in entries is such a block. -/
  endsOpenEntries : List (Node × Node) → Bool
    | [] => false
    | [(_, v)] => v.endsOpen
    | _ :: es => endsOpenEntries es

/-- Writes a document.  A mark behind it tells where a plain scalar, or a block with line ends at
    its end, is over. -/
def Node.document (n : Node) : String :=
  let p : Pen := match n with
    | .null => ({ column := 0 } : Pen).put ['n', 'u', 'l', 'l']
    | .seq is => if is.isEmpty then { out := [']', '['], column := 2 } else
        writeItems 0 true is { column := 0 }
    | .map es => if es.isEmpty then { out := ['}', '{'], column := 2 } else
        writeEntries 0 true es { column := 0 }
    | n => n.writeLeaf 0 { column := 0 }
  let marked : Bool := match n with
    | .null | .scalar _ => true
    | .text s => isPlain s
    | n => n.endsOpen
  let p := p.put ['\n']
  String.ofList ((if marked then p.put ['.', '.', '.', '\n'] else p).out.reverse)

/-! ## Data -/

mutual

/-- The node of a datum; choices can not be written. -/
def Node.ofDatum : Datum → Except Choice Node
  | .none => .ok .null
  | .bool b => .ok (.scalar (if b then "true" else "false"))
  | .int n => .ok (.scalar (toString n))
  | .float x => .ok (.scalar (floatScalar x))
  | .str s => .ok (.text s)
  | .bytes bs => .ok (.bytes bs)
  | .choice c => .error c
  | .list xs | .tuple xs => do .ok (.seq (← Node.ofData xs))
  | .dict es => do .ok (.map (← Node.ofEntries es))

/-- The nodes of data. -/
def Node.ofData : List Datum → Except Choice (List Node)
  | [] => .ok []
  | x :: xs => do .ok ((← Node.ofDatum x) :: (← Node.ofData xs))

/-- The nodes of the entries of a dictionary. -/
def Node.ofEntries : List (Datum × Datum) → Except Choice (List (Node × Node))
  | [] => .ok []
  | (k, v) :: es => do
    .ok (((← Node.ofDatum k), (← Node.ofDatum v)) :: (← Node.ofEntries es))

end

end Graft.Data.Yaml
