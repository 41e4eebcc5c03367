import Graft.Data.Datum

set_option autoImplicit false

/-! # Values

What variables hold.  Plain values are what they are; everything that can change or has an identity
is a thing on the heap and is held by reference. -/

namespace Graft.Machine

/-- The identity of a thing on the heap. -/
structure Ref where
  index : Nat
deriving DecidableEq, Repr, Inhabited

/-- Values. -/
inductive Value
  | none
  | ellipsis
  | bool (b : Bool)
  | int (n : Int)
  | float (x : Float)
  | str (s : String)
  | bytes (bs : List UInt8)
  | choice (c : Choice)
  | tuple (xs : List Value)
  /-- A function that the language supplies. -/
  | builtin (name : String)
  /-- A class that the language supplies. -/
  | cls (name : String)
  /-- A method that the language supplies, of the given receiver. -/
  | bound (self : Value) (name : String)
  /-- A method that the language supplies, as its class keeps it. -/
  | slot (cls : String) (name : String)
  /-- A thing on the heap. -/
  | thing (r : Ref)
deriving Inhabited

mutual

/-- Whether two values are the same one. -/
def Value.same : Value → Value → Bool
  | .none, .none | .ellipsis, .ellipsis => true
  | .bool a, .bool b => a == b
  | .int a, .int b => a == b
  | .float a, .float b => a.toBits == b.toBits
  | .str a, .str b => a == b
  | .bytes a, .bytes b => a == b
  | .choice a, .choice b => a == b
  | .tuple xs, .tuple ys => Value.sameAll xs ys
  | .builtin a, .builtin b => a == b
  | .cls a, .cls b => a == b
  | .bound a m, .bound b n => Value.same a b && m == n
  | .slot a m, .slot b n => a == b && m == n
  | .thing a, .thing b => a == b
  | _, _ => false

/-- Whether the values of two lists are the same ones. -/
def Value.sameAll : List Value → List Value → Bool
  | [], [] => true
  | x :: xs, y :: ys => Value.same x y && Value.sameAll xs ys
  | _, _ => false

end

mutual

/-- What tells a value from those that are not the same one. -/
def Value.identityParts : Value → List Data.KeyPart
  | .none => [.none]
  | .ellipsis => [.named "Ellipsis"]
  | .bool b => [.named (if b then "True" else "False")]
  | .int n => [.int n]
  | .float x => [.float x.toBits]
  | .str s => [.str s]
  | .bytes bs => [.bytes bs]
  | .choice c => [.named c.typeName, .str c.value]
  | .tuple xs => .tuple xs.length :: Value.identityPartsOfAll xs
  | .builtin name => [.named name]
  | .cls name => [.named name]
  | .bound self name => .named ("." ++ name) :: Value.identityParts self
  | .slot c name => [.named (c ++ "." ++ name)]
  | .thing r => [.thing r.index]

/-- What tells values in a row from other ones. -/
def Value.identityPartsOfAll : List Value → List Data.KeyPart
  | [] => []
  | x :: xs => Value.identityParts x ++ Value.identityPartsOfAll xs

end

/-- Whether a value is nothing. -/
def Value.isNone : Value → Bool
  | .none => true
  | _ => false

/-- The text of a value that is text. -/
def Value.text? : Value → Option String
  | .str s => some s
  | .choice c => some c.value
  | _ => Option.none

/-- The whole number that a value is. -/
def Value.int? : Value → Option Int
  | .int n => some n
  | .bool b => some (if b then 1 else 0)
  | _ => Option.none

/-- Names with their values, in the order in which the names were added. -/
abbrev Table := List (String × Value)

namespace Table

/-- The value of a name. -/
def get? (t : Table) (name : String) : Option Value := (t.find? (·.1 == name)).map Prod.snd

/-- Whether a table has a name. -/
def has (t : Table) (name : String) : Bool := t.any (·.1 == name)

/-- Gives a name a value; a new name is put at the end. -/
def set (name : String) (v : Value) : Table → Table
  | [] => [(name, v)]
  | (n, w) :: t => if n == name then (n, v) :: t else (n, w) :: Table.set name v t

/-- Takes a name out. -/
def erase (t : Table) (name : String) : Table := t.filter (·.1 != name)

/-- Takes over the values of another table. -/
def update (t : Table) (other : Table) : Table := other.foldl (fun t (n, v) => t.set n v) t

end Table

end Graft.Machine
