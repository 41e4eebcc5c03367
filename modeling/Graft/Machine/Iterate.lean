import Graft.Machine.Attribute

set_option autoImplicit false

/-! # Going through values

Iterators, what a value gives one after the other, and spreading a value over targets. -/

namespace Graft

open Machine Data

namespace World

/-- Text as values of one character each. -/
def characters (s : String) : List Value := s.toList.map fun c => .str c.toString

/-- The numbers of a range; there are at most as many as the first argument says. -/
def rangeItems : Nat → Int → Int → Int → List Value
  | 0, _, _, _ => []
  | n + 1, start, stop, step =>
    if (0 < step && start < stop) || (step < 0 && stop < start) then
      .int start :: rangeItems n (start + step) stop step
    else []

/-- How many numbers a range has. -/
def rangeSize (start stop step : Int) : Nat :=
  if 0 < step then ((stop - start + step - 1).fdiv step).toNat
  else if step < 0 then ((start - stop - step - 1).fdiv (-step)).toNat
  else 0

/-- The values that a value holds in order, if it is of a kind that can be looked through without
    running anything. -/
def items? (w : World) (v : Value) : Option (String × List Value) :=
  match v with
  | .tuple xs => some ("tuple_iterator", xs)
  | .str s => some ("str_iterator", characters s)
  | .choice c => some ("str_iterator", characters c.value)
  | .bytes bs => some ("bytes_iterator", bs.map fun b => .int b.toNat)
  | .thing r =>
    match (w.thing? r).map Thing.body with
    | some (.list xs) => some ("list_iterator", xs)
    | some (.set xs) => some ("set_iterator", xs.map Prod.snd)
    | some (.dict _) | some (.attributes _) | some (.userDict _ _) | some (.proxy _) =>
      some ("dict_keyiterator", (w.entriesOf r).map Entry.key)
    | some (.range a b c) => some ("range_iterator", rangeItems (rangeSize a b c) a b c)
    | _ => none
  | _ => none

/-- What is said of a value that can not be gone through. -/
def notIterable (w : World) (v : Value) : String :=
  "'" ++ w.attrTypeName v ++ "' object is not iterable"

/-- The iterator of a value, if it can be gone through. -/
def getIter? (call : Caller) (v : Value) : Run (Option Value) := do
  let w ← Run.world
  match v, w.body? v with
  | .thing r, some (.list _) => return some (← Run.newValue (.listIterator r 0))
  | v, some (.series _ _) | v, some (.listIterator _ _) => return some v
  | v, some (.suspended s) => return if s.kind == .generator then some v else none
  | v, _ =>
    match w.items? v with
    | some (kind, xs) => return some (← Run.newValue (.series kind xs))
    | none =>
      match w.findMade (w.classOf v) "__iter__" with
      | some f => return some (← Run.apply call f [v])
      | none => return none

/-- The iterator of a value. -/
def getIter (call : Caller) (v : Value) : Run Value := do
  match (← getIter? call v) with
  | some it => return it
  | none => Run.raise "TypeError" ((← Run.world).notIterable v)

/-- A value from a run, unless that ends an iteration. -/
def unlessStopped (run : Run Value) : Run (Option Value) :=
  Run.recover "StopIteration" (some <$> run) fun _ => return none

/-- The next value of an iterator, if there is one. -/
def next? (call : Caller) (it : Value) : Run (Option Value) := do
  let w ← Run.world
  match it, w.body? it with
  | .thing r, some (.series kind left) =>
    match left with
    | [] => return none
    | x :: xs => do
      Run.setBody r (.series kind xs)
      return some x
  | .thing r, some (.listIterator list i) =>
    match (w.thing? list).map Thing.body with
    | some (.list xs) =>
      match xs[i]? with
      | some x => do
        Run.setBody r (.listIterator list (i + 1))
        return some x
      | none => return none
    | _ => return none
  | _, some (.suspended _) => unlessStopped (Run.apply call (.bound it "__next__") [])
  | _, _ =>
    match w.findMade (w.classOf it) "__next__" with
    | some f => unlessStopped (Run.apply call f [it])
    | none => Run.raise "TypeError" ("'" ++ w.attrTypeName it ++ "' object is not an iterator")

/-- The values that are left in an iterator; it must not have more than the first argument says. -/
def drain (call : Caller) : Nat → Value → Run (List Value)
  | 0, _ => throw .exhausted
  | n + 1, it => do
    match (← next? call it) with
    | none => return []
    | some x => return x :: (← drain call n it)

/-- How many values are drawn from an iterator at most. -/
def maxItems : Nat := 1000000

/-- The values of an iterator. -/
def drainAll (call : Caller) (it : Value) : Run (List Value) := drain call maxItems it

/-- The values that a value gives one after the other. -/
def toList (call : Caller) (v : Value) : Run (List Value) := do
  match (← Run.world).items? v with
  | some (_, xs) => return xs
  | none => drainAll call (← getIter call v)

/-- Draws up to so many values from an iterator. -/
def drawUpTo (call : Caller) (it : Value) : Nat → Run (List Value)
  | 0 => return []
  | n + 1 => do
    match (← next? call it) with
    | none => return []
    | some x => return x :: (← drawUpTo call it n)

/-- The iterator of a value that is spread over targets. -/
def unpackIter (call : Caller) (v : Value) : Run Value := do
  match (← getIter? call v) with
  | some it => return it
  | none =>
    Run.raise "TypeError"
      ("cannot unpack non-iterable " ++ (← Run.world).attrTypeName v ++ " object")

/-- Spreads a value over so many targets. -/
def unpack (call : Caller) (n : Nat) (v : Value) : Run (List Value) := do
  let it ← unpackIter call v
  let xs ← drawUpTo call it n
  if xs.length < n then
    Run.raise "ValueError" ("not enough values to unpack (expected " ++ toString n ++ ", got "
      ++ toString xs.length ++ ")")
  else
    match (← next? call it) with
    | none => return xs
    | some _ =>
      Run.raise "ValueError" ("too many values to unpack (expected " ++ toString n ++ ")")

/-- Spreads a value over targets one of which, behind and before so many others, takes what is
    left. -/
def unpackAround (call : Caller) (before after : Nat) (v : Value) : Run (List Value) := do
  let xs ← drainAll call (← unpackIter call v)
  if xs.length < before + after then
    Run.raise "ValueError" ("not enough values to unpack (expected at least "
      ++ toString (before + after) ++ ", got " ++ toString xs.length ++ ")")
  else
    let middle ← Run.newValue (.list ((xs.drop before).take (xs.length - before - after)))
    return xs.take before ++ [middle] ++ xs.drop (xs.length - after)

/-! ## Entries of dictionaries -/

/-- The key of a value. -/
def hashOf (v : Value) : Run Key := do
  match (← Run.world).keyOf v with
  | .ok k => return k
  | .error t => Run.raise "TypeError" ("unhashable type: '" ++ t ++ "'")

/-- Sets an entry; an equal key keeps its place and its first form. -/
def setEntry (k : Key) (key v : Value) : List Entry → List Entry
  | [] => [⟨k, key, v⟩]
  | e :: es => if e.hash == k then { e with value := v } :: es else e :: setEntry k key v es

/-- Where the entries of a mapping are kept. -/
def store (w : World) (r : Ref) : Ref :=
  match (w.thing? r).map Thing.body with
  | some (.userDict _ d) => d
  | _ => r

/-- The value of a key in a mapping. -/
def getEntry? (r : Ref) (key : Value) : Run (Option Value) := do
  let k ← hashOf key
  return ((← Run.world).entriesOf r).find? (·.hash == k) |>.map Entry.value

/-- Sets the value of a key in a mapping. -/
def putEntry (r : Ref) (key v : Value) : Run Unit := do
  let w ← Run.world
  match (w.thing? r).map Thing.body with
  | some (.userDict true _) => Run.raise "TypeError" ("table is frozen: " ++ w.text key)
  | _ =>
    let k ← hashOf key
    let r := w.store r
    match (w.thing? r).map Thing.body with
    | some (.dict es) => Run.setBody r (.dict (setEntry k key v es))
    | some (.attributes o) =>
      match key with
      | .str s => Run.changeTable o (·.set s v)
      | _ => Run.raise "TypeError" "keywords must be strings"
    | _ => return ()

/-- Removes a key from a mapping, if it is there. -/
def dropEntry (r : Ref) (key : Value) : Run Bool := do
  let w ← Run.world
  let k ← hashOf key
  let r := w.store r
  match (w.thing? r).map Thing.body with
  | some (.dict es) =>
    if es.any (·.hash == k) then
      Run.setBody r (.dict (es.filter (·.hash != k)))
      return true
    else return false
  | some (.attributes o) =>
    match key with
    | .str s =>
      if (w.table o).has s then
        Run.changeTable o (·.erase s)
        return true
      else return false
    | _ => return false
  | _ => return false

/-- A dictionary with entries, later ones before earlier ones with an equal key. -/
def newDict (pairs : List (Value × Value)) : Run Value := do
  let r ← Run.new (.dict [])
  for (k, v) in pairs do
    putEntry r k v
  return .thing r

/-- A list. -/
def newList (xs : List Value) : Run Value := Run.newValue (.list xs)

/-- A dictionary whose keys are names. -/
def dictOfTable (t : Table) : Run Value :=
  Run.newValue (.dict (t.map fun (n, v) => ⟨.ofText n, .str n, v⟩))

/-- Whether a value is a mapping that can be changed. -/
def isMutableMapping (w : World) (v : Value) : Bool :=
  match w.body? v with
  | some (.dict _) | some (.attributes _) | some (.userDict _ _) => true
  | _ => false

/-- Whether a value is a mapping. -/
def isMapping (w : World) (v : Value) : Bool :=
  match w.body? v with
  | some (.proxy _) => true
  | _ => w.isMutableMapping v

end World

end Graft
