import Graft.Machine.Iterate

set_option autoImplicit false

/-! # Operators

Arithmetic, comparison and indexing, with the complaints of each about operands it can not take. -/

namespace Graft

open Machine Data Syntax

namespace World

/-! ## Numbers -/

/-- A number. -/
inductive Num
  | int (n : Int)
  | float (x : Float)

/-- The number that a value is. -/
def Num.of? : Value → Option Num
  | .bool b => some (.int (if b then 1 else 0))
  | .int n => some (.int n)
  | .float x => some (.float x)
  | _ => none

/-- A number as a floating point one. -/
def Num.toFloat : Num → Float
  | .int n => Float.ofInt n
  | .float x => x

/-- A number as a value. -/
def Num.value : Num → Value
  | .int n => .int n
  | .float x => .float x

/-- The remainder of floating point numbers that has the sign of the divisor. -/
def floatMod (x y : Float) : Float :=
  let r := x - y * (x / y).floor
  if r == 0.0 then (if y < 0.0 then -0.0 else 0.0) else r

/-- A whole number to the power of one that is not negative. -/
def intPow (n : Int) (k : Nat) : Int := n.pow k

/-- The sign of an operator. -/
def operatorSign : BinaryOp → String
  | .add => "+"
  | .sub => "-"
  | .mult => "*"
  | .matMult => "@"
  | .div => "/"
  | .mod => "%"
  | .pow => "** or pow()"
  | .lShift => "<<"
  | .rShift => ">>"
  | .bitOr => "|"
  | .bitXor => "^"
  | .bitAnd => "&"
  | .floorDiv => "//"

/-- The sign of an operator in a complaint. -/
def operatorText (op : BinaryOp) (inPlace : Bool) : String :=
  match op, inPlace with
  | .pow, true => "**="
  | op, true => operatorSign op ++ "="
  | op, false => operatorSign op

/-- Complains about operands. -/
def badOperands {α : Type} (op : BinaryOp) (inPlace : Bool) (a b : Value) : Run α := do
  let w ← Run.world
  Run.raise "TypeError" ("unsupported operand type(s) for " ++ operatorText op inPlace ++ ": '"
    ++ w.attrTypeName a ++ "' and '" ++ w.attrTypeName b ++ "'")

/-- An operator on whole numbers; nothing if it is not defined on them. -/
def intOperator (op : BinaryOp) (m n : Int) : Run (Option Value) := do
  let int (k : Int) : Run (Option Value) := return some (.int k)
  match op with
  | .add => int (m + n)
  | .sub => int (m - n)
  | .mult => int (m * n)
  | .floorDiv =>
    if n == 0 then Run.raise "ZeroDivisionError" "integer division or modulo by zero"
    else int (m.fdiv n)
  | .mod =>
    if n == 0 then Run.raise "ZeroDivisionError" "integer modulo by zero" else int (m.fmod n)
  | .div =>
    if n == 0 then Run.raise "ZeroDivisionError" "division by zero"
    else return some (.float (Float.ofInt m / Float.ofInt n))
  | .pow =>
    if 0 ≤ n then int (intPow m n.toNat)
    else if m == 0 then
      Run.raise "ZeroDivisionError" "0.0 cannot be raised to a negative power"
    else return some (.float (Float.pow (Float.ofInt m) (Float.ofInt n)))
  | .lShift =>
    if n < 0 then Run.raise "ValueError" "negative shift count" else int (m <<< n.toNat)
  | .rShift =>
    if n < 0 then Run.raise "ValueError" "negative shift count" else int (m >>> n.toNat)
  | .bitAnd => int (bits m n (fun a b => a && b))
  | .bitOr => int (bits m n (fun a b => a || b))
  | .bitXor => int (bits m n (fun a b => a != b))
  | .matMult => return none
where
  /-- The bits of two whole numbers combined; a negative number has infinitely many ones. -/
  bits (m n : Int) (f : Bool → Bool → Bool) : Int :=
    let magnitude (k : Int) : Nat := if k < 0 then (-k - 1).toNat else k.toNat
    let g : Bool → Bool → Bool := fun a b => f (a != decide (m < 0)) (b != decide (n < 0))
    let negative := f (decide (m < 0)) (decide (n < 0))
    let k : Nat := Nat.bitwise (fun a b => g a b != negative) (magnitude m) (magnitude n)
    if negative then -(k : Int) - 1 else k

/-- An operator on floating point numbers; nothing if it is not defined on them. -/
def floatOperator (op : BinaryOp) (x y : Float) : Run (Option Value) := do
  match op with
  | .add => return some (.float (x + y))
  | .sub => return some (.float (x - y))
  | .mult => return some (.float (x * y))
  | .div =>
    if y == 0.0 then Run.raise "ZeroDivisionError" "float division by zero"
    else return some (.float (x / y))
  | .floorDiv =>
    if y == 0.0 then Run.raise "ZeroDivisionError" "float floor division by zero"
    else return some (.float (x / y).floor)
  | .mod =>
    if y == 0.0 then Run.raise "ZeroDivisionError" "float modulo"
    else return some (.float (floatMod x y))
  | .pow => return some (.float (Float.pow x y))
  | _ => return none

/-! ## Sequences -/

/-- A list repeated. -/
def repeated {α : Type} (n : Int) (xs : List α) : List α := (List.replicate n.toNat xs).flatten

/-- The items of a list. -/
def listItems? (w : World) (v : Value) : Option (List Value) :=
  match w.body? v with
  | some (.list xs) => some xs
  | _ => none

/-- Puts two sequences together; nothing if the first value is no sequence. -/
def concatenate (a b : Value) : Run (Option Value) := do
  let w ← Run.world
  let t := w.attrTypeName b
  match a.text? with
  | some s =>
    match b.text? with
    | some u => return some (.str (s ++ u))
    | none => Run.raise "TypeError" ("can only concatenate str (not \"" ++ t ++ "\") to str")
  | none =>
    match a, b, w.listItems? a, w.listItems? b with
    | _, _, some xs, some ys => return some (← newList (xs ++ ys))
    | _, _, some _, none =>
      Run.raise "TypeError" ("can only concatenate list (not \"" ++ t ++ "\") to list")
    | .tuple xs, .tuple ys, _, _ => return some (.tuple (xs ++ ys))
    | .tuple _, _, _, _ =>
      Run.raise "TypeError" ("can only concatenate tuple (not \"" ++ t ++ "\") to tuple")
    | .bytes xs, .bytes ys, _, _ => return some (.bytes (xs ++ ys))
    | .bytes _, _, _, _ => Run.raise "TypeError" ("can't concat " ++ t ++ " to bytes")
    | _, _, _, _ => return none

/-- A sequence repeated; nothing if the value is no sequence. -/
def repeatSequence (v : Value) (n : Int) : Run (Option Value) := do
  let w ← Run.world
  match v.text?, v, w.listItems? v with
  | some s, _, _ => return some (.str (String.ofList (repeated n s.toList)))
  | _, .tuple xs, _ => return some (.tuple (repeated n xs))
  | _, .bytes bs, _ => return some (.bytes (repeated n bs))
  | _, _, some xs => return some (← newList (repeated n xs))
  | _, _, none => return none

/-- Whether a value is a sequence. -/
def isSequence (w : World) (v : Value) : Bool :=
  match v.text?, v, w.listItems? v with
  | some _, _, _ | _, .tuple _, _ | _, .bytes _, _ | _, _, some _ => true
  | _, _, _ => false

/-- Multiplies values of which one is a sequence. -/
def multiplySequence (inPlace : Bool) (a b : Value) : Run Value := do
  let w ← Run.world
  let (sequence, count) := if w.isSequence a then (a, b) else (b, a)
  match count.int? with
  | some n =>
    match (← repeatSequence sequence n) with
    | some v => return v
    | none => badOperands .mult inPlace a b
  | none =>
    Run.raise "TypeError"
      ("can't multiply sequence by non-int of type '" ++ w.attrTypeName count ++ "'")

/-- The value of an operator on two values. -/
def binary (op : BinaryOp) (inPlace : Bool) (a b : Value) : Run Value := do
  let w ← Run.world
  let orBad (run : Run (Option Value)) : Run Value := do
    match (← run) with
    | some v => return v
    | none => badOperands op inPlace a b
  match Num.of? a, Num.of? b with
  | some (.int m), some (.int n) => orBad (intOperator op m n)
  | some x, some y => orBad (floatOperator op x.toFloat y.toFloat)
  | _, _ =>
    match op with
    | .add => orBad (concatenate a b)
    | .mult =>
      if w.isSequence a || w.isSequence b then multiplySequence inPlace a b
      else badOperands op inPlace a b
    | .mod =>
      if a.text?.isSome then
        Run.raise "TypeError" "not all arguments converted during string formatting"
      else badOperands op inPlace a b
    | _ => badOperands op inPlace a b

/-- The value of an operator that may change its left operand. -/
def binaryInPlace (call : Caller) (op : BinaryOp) (a b : Value) : Run Value := do
  let w ← Run.world
  match op, a, w.listItems? a with
  | .add, .thing r, some xs => do
    let ys ← toList call b
    Run.setBody r (.list (xs ++ ys))
    return a
  | .mult, .thing r, some xs =>
    match b.int? with
    | some n => do
      Run.setBody r (.list (repeated n xs))
      return a
    | none => binary op true a b
  | _, _, _ => binary op true a b

/-- The value of an operator with one operand. -/
def unary (op : UnaryOp) (v : Value) : Run Value := do
  let w ← Run.world
  let bad (sign : String) : Run Value :=
    Run.raise "TypeError" ("bad operand type for unary " ++ sign ++ ": '" ++ w.attrTypeName v ++ "'")
  match op, Num.of? v with
  | .not, _ => return .bool (!w.truth v)
  | .negative, some (.int n) => return .int (-n)
  | .negative, some (.float x) => return .float (-x)
  | .negative, none => bad "-"
  | .positive, some n => return n.value
  | .positive, none => bad "+"
  | .invert, some (.int n) => return .int (-n - 1)
  | .invert, _ => bad "~"

/-! ## Comparison -/

/-- The sign of a comparison. -/
def comparisonSign : Comparison → String
  | .lt => "<"
  | .ltE => "<="
  | .gt => ">"
  | .gtE => ">="
  | .eq => "=="
  | .notEq => "!="
  | .is => "is"
  | .isNot => "is not"
  | .isIn => "in"
  | .notIn => "not in"

/-- Whether an ordering satisfies a comparison. -/
def satisfies (op : Comparison) : Ordering → Bool
  | .lt => op == .lt || op == .ltE
  | .eq => op == .ltE || op == .gtE
  | .gt => op == .gt || op == .gtE

/-- Compares values by size, looking so many levels deep. -/
def order (op : Comparison) : Nat → Value → Value → Run Bool
  | 0, _, _ => throw .exhausted
  | n + 1, a, b => do
    let w ← Run.world
    let bad : Run Bool :=
      Run.raise "TypeError" ("'" ++ comparisonSign op ++ "' not supported between instances of '"
        ++ w.attrTypeName a ++ "' and '" ++ w.attrTypeName b ++ "'")
    let sequences (xs ys : List Value) : Run Bool := do
      match (xs.zip ys).find? fun (x, y) => !(x.same y || w.equal x y) with
      | some (x, y) => order op n x y
      | none => return satisfies op (compare xs.length ys.length)
    match Num.of? a, Num.of? b with
    | some (.int m), some (.int k) => return satisfies op (compare m k)
    | some x, some y =>
      let (x, y) := (x.toFloat, y.toFloat)
      return if x < y then satisfies op .lt else if y < x then satisfies op .gt
        else if x == y then satisfies op .eq else false
    | _, _ =>
      match a.text?, b.text?, w.listItems? a, w.listItems? b, a, b with
      | some s, some t, _, _, _, _ =>
        return satisfies op (if s < t then .lt else if t < s then .gt else .eq)
      | _, _, some xs, some ys, _, _ => sequences xs ys
      | _, _, _, _, .tuple xs, .tuple ys => sequences xs ys
      | _, _, _, _, _, _ => bad

/-- Whether a text is part of another. -/
def isPart (part : List Char) : List Char → Bool
  | [] => part.isEmpty
  | c :: cs => part.isPrefixOf (c :: cs) || isPart part cs

/-- Whether a value is in a container. -/
def contains (call : Caller) (container v : Value) : Run Bool := do
  let w ← Run.world
  match container.text? with
  | some s =>
    match v.text? with
    | some t => return isPart t.toList s.toList
    | none =>
      Run.raise "TypeError"
        ("'in <string>' requires string as left operand, not " ++ w.attrTypeName v)
  | none =>
    match container with
    | .thing r =>
      if w.isMapping container then return (← getEntry? r v).isSome
      else search
    | _ => search
where
  /-- Looks through the container. -/
  search : Run Bool := do
    match (← getIter? call container) with
    | none =>
      Run.raise "TypeError"
        ("argument of type '" ++ (← Run.world).attrTypeName container ++ "' is not iterable")
    | some it =>
      let xs ← drainAll call it
      let w ← Run.world
      return xs.any fun x => x.same v || w.equal x v

/-- The value of a comparison. -/
def comparison (call : Caller) (op : Comparison) (a b : Value) : Run Value := do
  match op with
  | .eq => return .bool ((← Run.world).equal a b)
  | .notEq => return .bool (!(← Run.world).equal a b)
  | .is => return .bool (a.same b)
  | .isNot => return .bool (!a.same b)
  | .isIn => return .bool (← contains call b a)
  | .notIn => return .bool (!(← contains call b a))
  | op => return .bool (← order op maxDepth a b)

/-! ## Items -/

/-- The place in a sequence that an index means. -/
def place? (size : Nat) (i : Int) : Option Nat :=
  let k := if i < 0 then i + size else i
  if 0 ≤ k && k < size then some k.toNat else none

/-- A bound of a slice, brought into range. -/
def sliceBound (size : Nat) (step : Int) (bound : Value) (otherwise : Int) : Int :=
  match bound.int? with
  | none => otherwise
  | some i =>
    let low : Int := if step < 0 then -1 else 0
    let high : Int := if step < 0 then size - 1 else size
    let k := if i < 0 then i + size else i
    if k < low then low else if high < k then high else k

/-- The places that a slice of a sequence means. -/
def slicePlaces (size : Nat) (start stop step : Value) : List Nat :=
  let s := (step.int?).getD 1
  let (a, b) : Int × Int := if s < 0 then (size - 1, -1) else (0, size)
  let first := sliceBound size s start a
  let last := sliceBound size s stop b
  (rangeItems (rangeSize first last s) first last s).filterMap fun v => (v.int?).map Int.toNat

/-- Some of the elements of a list. -/
def picked {α : Type} (xs : List α) (places : List Nat) : List α := places.filterMap (xs[·]?)

/-- An item of a sequence. -/
def sequenceItem {α : Type} (kind indices : String) (xs : List α) (index : Value)
    (one : α → Run Value) (many : List α → Run Value) : Run Value := do
  let w ← Run.world
  match index.int?, w.body? index with
  | some i, _ =>
    match (place? xs.length i).bind (xs[·]?) with
    | some x => one x
    | none => Run.raise "IndexError" (kind ++ " index out of range")
  | none, some (.slice a b c) => many (picked xs (slicePlaces xs.length a b c))
  | none, _ =>
    let t := w.attrTypeName index
    Run.raise "TypeError" (indices ++ (if kind == "string" then "'" ++ t ++ "'" else t))

/-- An item of a value. -/
def getItem (call : Caller) (v index : Value) : Run Value := do
  let w ← Run.world
  match v.text? with
  | some s =>
    sequenceItem "string" "string indices must be integers, not " s.toList index
      (fun c => return .str c.toString) (fun cs => return .str (String.ofList cs))
  | none =>
    match v with
    | .tuple xs =>
      sequenceItem "tuple" "tuple indices must be integers or slices, not " xs index
        pure (fun xs => return .tuple xs)
    | .bytes bs =>
      sequenceItem "index" "byte indices must be integers or slices, not " bs index
        (fun b => return .int b.toNat) (fun bs => return .bytes bs)
    | .thing r =>
      match (w.thing? r).map Thing.body with
      | some (.list xs) =>
        sequenceItem "list" "list indices must be integers or slices, not " xs index
          pure newList
      | some (.range a b c) =>
        sequenceItem "range object" "range indices must be integers or slices, not "
          (rangeItems (rangeSize a b c) a b c) index pure newList
      | some (.cls c) => Run.raise "TypeError" ("type '" ++ c.name ++ "' is not subscriptable")
      | _ =>
        if w.isMapping v then
          match (← getEntry? r index) with
          | some x => return x
          | none => Run.raiseWith "KeyError" [index]
        else
          match w.findMade (w.classOf v) "__getitem__" with
          | some f => Run.apply call f [v, index]
          | none => notSubscriptable
    | .cls name => Run.raise "TypeError" ("type '" ++ name ++ "' is not subscriptable")
    | _ => notSubscriptable
where
  /-- Complains about a value without items. -/
  notSubscriptable : Run Value := do
    Run.raise "TypeError" ("'" ++ (← Run.world).attrTypeName v ++ "' object is not subscriptable")

/-- Sets an item of a value. -/
def setItem (call : Caller) (v index x : Value) : Run Unit := do
  let w ← Run.world
  let refuse : Run Unit := Run.raise "TypeError"
    ("'" ++ w.attrTypeName v ++ "' object does not support item assignment")
  match v, w.body? v with
  | .thing r, some (.list xs) =>
    match index.int? with
    | some i =>
      match place? xs.length i with
      | some k => Run.setBody r (.list (xs.set k x))
      | none => Run.raise "IndexError" "list assignment index out of range"
    | none =>
      Run.raise "TypeError"
        ("list indices must be integers or slices, not " ++ w.attrTypeName index)
  | .thing r, _ =>
    if w.isMutableMapping v then putEntry r index x
    else
      match w.findMade (w.classOf v) "__setitem__" with
      | some f => do
        let _ ← Run.apply call f [v, index, x]
      | none => refuse
  | _, _ => refuse

/-- Removes an item of a value. -/
def deleteItem (v index : Value) : Run Unit := do
  let w ← Run.world
  let refuse : Run Unit := Run.raise "TypeError"
    ("'" ++ w.attrTypeName v ++ "' object doesn't support item deletion")
  match v, w.body? v with
  | .thing r, some (.list xs) =>
    match index.int? with
    | some i =>
      match place? xs.length i with
      | some k => Run.setBody r (.list (xs.eraseIdx k))
      | none => Run.raise "IndexError" "list assignment index out of range"
    | none =>
      Run.raise "TypeError"
        ("list indices must be integers or slices, not " ++ w.attrTypeName index)
  | .thing r, _ =>
    if w.isMutableMapping v then do
      if (← dropEntry r index) then return () else Run.raiseWith "KeyError" [index]
    else refuse
  | _, _ => refuse

end World

end Graft
