import Graft.Choice
import Graft.Number.FloatText
import Graft.Text.Quoted

set_option autoImplicit false

/-! # Plain data

Data that settings, identifiers and reports are made of, how it is written out, and when two pieces
of it are the same key of a table. -/

namespace Graft.Data

/-- Plain data. -/
inductive Datum
  | none
  | bool (b : Bool)
  | int (n : Int)
  | float (x : Float)
  | str (s : String)
  | bytes (bs : List UInt8)
  | choice (c : Choice)
  | list (xs : List Datum)
  | tuple (xs : List Datum)
  | dict (entries : List (Datum × Datum))
deriving Inhabited

namespace Datum

/-- What the type of a datum is called. -/
def typeName : Datum → String
  | .none => "NoneType"
  | .bool _ => "bool"
  | .int _ => "int"
  | .float _ => "float"
  | .str _ => "str"
  | .bytes _ => "bytes"
  | .choice c => c.typeName
  | .list _ => "list"
  | .tuple _ => "tuple"
  | .dict _ => "dict"

/-- Whether a datum is nothing. -/
def isNone : Datum → Bool
  | .none => true
  | _ => false

/-- Whether a datum counts as true. -/
def isTrue : Datum → Bool
  | .none => false
  | .bool b => b
  | .int n => n != 0
  | .float x => x != 0.0
  | .str s => !s.isEmpty
  | .bytes bs => !bs.isEmpty
  | .choice _ => true
  | .list xs | .tuple xs => !xs.isEmpty
  | .dict es => !es.isEmpty

/-- The text of a datum that is text. -/
def text? : Datum → Option String
  | .str s => some s
  | .choice c => some c.value
  | _ => Option.none

/-- Text as a literal. -/
def quoteText (s : String) : String := String.ofList (Text.quoted s.toList)

/-- The literal of a choice. -/
def quoteChoice (c : Choice) : String :=
  "<" ++ c.typeName ++ "." ++ c.name ++ ": '" ++ c.value ++ "'>"

/-- A choice as text. -/
def choiceText (c : Choice) : String := c.typeName ++ "." ++ c.name

mutual

/-- A datum as a literal. -/
def repr : Datum → String
  | .none => "None"
  | .bool b => if b then "True" else "False"
  | .int n => toString n
  | .float x => Number.textOfFloat Number.realFormat x
  | .str s => quoteText s
  | .bytes bs => String.ofList (Text.quotedBytes bs)
  | .choice c => quoteChoice c
  | .list xs => "[" ++ ", ".intercalate (reprAll xs) ++ "]"
  | .tuple xs =>
    match reprAll xs with
    | [s] => "(" ++ s ++ ",)"
    | ss => "(" ++ ", ".intercalate ss ++ ")"
  | .dict es => "\x7b" ++ ", ".intercalate (reprEntries es) ++ "\x7d"

/-- Data as literals. -/
def reprAll : List Datum → List String
  | [] => []
  | x :: xs => x.repr :: reprAll xs

/-- Entries of a dictionary as literals. -/
def reprEntries : List (Datum × Datum) → List String
  | [] => []
  | (k, v) :: es => (k.repr ++ ": " ++ v.repr) :: reprEntries es

end

/-- A datum as text. -/
def toText : Datum → String
  | .str s => s
  | .choice c => choiceText c
  | d => d.repr

end Datum

/-! ## Keys -/

/-- A part of a key.  Whole numbers are one kind with truth values and with floating point numbers
    without a fraction; a choice is its value. -/
inductive KeyPart
  | none
  | int (n : Int)
  | float (bits : UInt64)
  | str (s : String)
  | bytes (bs : List UInt8)
  /-- A tuple, whose elements follow. -/
  | tuple (size : Nat)
  /-- A thing that equals only itself. -/
  | thing (n : Nat)
  /-- A thing that equals all others of its class. -/
  | alike (cls : String)
  /-- A thing that there is only one of by its name. -/
  | named (name : String)
deriving Repr, DecidableEq

/-- What a table goes by: two data are equal exactly if they have the same key. -/
structure Key where
  parts : List KeyPart
deriving Repr, DecidableEq

/-- The key of a thing that is no tuple. -/
def Key.ofPart (p : KeyPart) : Key := ⟨[p]⟩

/-- The key of text. -/
def Key.ofText (s : String) : Key := .ofPart (.str s)

/-- The whole number that a floating point number is. -/
def integral? (x : Float) : Option Int :=
  match Number.Parts.ofFloat x with
  | .finite negative m q =>
    let whole : Option Nat :=
      if 0 ≤ q then some (m <<< q.toNat)
      else
        let d := 1 <<< (-q).toNat
        if m % d == 0 then some (m / d) else Option.none
    whole.map fun n => if negative then -(n : Int) else n
  | _ => Option.none

/-- The part that a floating point number makes. -/
def KeyPart.ofFloat (x : Float) : KeyPart :=
  match integral? x with
  | some n => .int n
  | Option.none => .float x.toBits

mutual

/-- The parts of a datum's key, or what the type is called that keeps it from having one. -/
def Datum.keyParts : Datum → Except String (List KeyPart)
  | .none => .ok [.none]
  | .bool b => .ok [.int (if b then 1 else 0)]
  | .int n => .ok [.int n]
  | .float x => .ok [.ofFloat x]
  | .str s => .ok [.str s]
  | .bytes bs => .ok [.bytes bs]
  | .choice c => .ok [.str c.value]
  | .list _ => .error "list"
  | .tuple xs => do .ok (.tuple xs.length :: (← Datum.allKeyParts xs))
  | .dict _ => .error "dict"

/-- The parts of the keys of data. -/
def Datum.allKeyParts : List Datum → Except String (List KeyPart)
  | [] => .ok []
  | x :: xs => do .ok ((← x.keyParts) ++ (← Datum.allKeyParts xs))

end

/-- The key of a datum, or what the type is called that keeps it from having one. -/
def Key.ofDatum (d : Datum) : Except String Key := d.keyParts.map Key.mk

/-- Sets an entry of a dictionary.  An equal key keeps its place and its first form. -/
def Datum.setEntry (k v : Datum) : List (Datum × Datum) → List (Datum × Datum)
  | [] => [(k, v)]
  | (k', v') :: rest =>
    match Key.ofDatum k, Key.ofDatum k' with
    | .ok a, .ok b => if a == b then (k', v) :: rest else (k', v') :: setEntry k v rest
    | _, _ => (k', v') :: setEntry k v rest

mutual

/-- Whether two data are equal. -/
def Datum.eq : Datum → Datum → Bool
  | .list xs, .list ys => Datum.eqAll xs ys
  | .tuple xs, .tuple ys => Datum.eqAll xs ys
  | .dict es, .dict fs => es.length == fs.length && Datum.eqEntries es fs
  | a, b =>
    match Key.ofDatum a, Key.ofDatum b with
    | .ok k, .ok l => k == l && (match a with | .float x => x == x | _ => true)
    | _, _ => false

/-- Whether data in a row are equal. -/
def Datum.eqAll : List Datum → List Datum → Bool
  | [], [] => true
  | x :: xs, y :: ys => x.eq y && Datum.eqAll xs ys
  | _, _ => false

/-- Whether all entries of a dictionary have an equal one in another. -/
def Datum.eqEntries : List (Datum × Datum) → List (Datum × Datum) → Bool
  | [], _ => true
  | (k, v) :: es, fs =>
    (match fs.find? (fun (l, _) =>
        match Key.ofDatum k, Key.ofDatum l with
        | .ok a, .ok b => a == b
        | _, _ => false) with
      | some (_, w) => v.eq w
      | Option.none => false) && Datum.eqEntries es fs

end

end Graft.Data
