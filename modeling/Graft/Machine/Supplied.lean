import Graft.Machine.Construct
import Graft.Machine.Resume
import Graft.Text.Blank

set_option autoImplicit false

/-! # Functions and methods that the language supplies -/

namespace Graft.Machine.Builtin

open Graft.Data

/-! ## Functions -/

/-- Complains about a number of arguments, where there has to be one. -/
def exactlyOne {α : Type} (function : String) (given : Nat) : Run α :=
  Run.raise "TypeError"
    (function ++ "() takes exactly one argument (" ++ toString given ++ " given)")

/-- Complains about a number of arguments. -/
def exactly {α : Type} (function : String) (n given : Nat) : Run α :=
  Run.raise "TypeError"
    (function ++ " expected " ++ counted n "argument" ++ ", got " ++ toString given)

/-- The number of items of a value. -/
def length (call : Caller) (v : Value) : Run Value := do
  let w ← Run.world
  match w.items? v with
  | some (_, xs) => return .int xs.length
  | none =>
    match w.findMade (w.classOf v) "__len__" with
    | some f => Run.apply call f [v]
    | none => Run.raise "TypeError" ("object of type '" ++ w.attrTypeName v ++ "' has no len()")

/-- The value that comes first or last, by what a function makes of the values. -/
def extreme (call : Caller) (op : Syntax.Comparison) (key : Value) : Value → List Value → Run Value
  | best, [] => return best
  | best, v :: vs => do
    let measure (v : Value) : Run Value :=
      if key.isNone then return v else Run.apply call key [v]
    let x ← measure v
    let y ← measure best
    if (← Run.world).truth (← World.comparison call op x y) then extreme call op key v vs
    else extreme call op key best vs

/-- The greatest or least value. -/
def extremeOf (call : Caller) (function : String) (op : Syntax.Comparison) (args : Args) :
    Run Value := do
  match args.keywords.find? fun (n, _) => n != "key" && n != "default" with
  | some (n, _) =>
    Run.raise "TypeError"
      ("'" ++ n ++ "' is an invalid keyword argument for " ++ function ++ "()")
  | none =>
    let key := (args.keywords.get? "key").getD .none
    match args.positional with
    | [] => Run.raise "TypeError" (function ++ " expected at least 1 argument, got 0")
    | [v] =>
      match (← World.toList call v), args.keywords.get? "default" with
      | x :: xs, _ => extreme call op key x xs
      | [], some v => return v
      | [], none => Run.raise "ValueError" (function ++ "() arg is an empty sequence")
    | v :: vs =>
      if args.keywords.has "default" then
        Run.raise "TypeError" ("Cannot specify a default for " ++ function
          ++ "() with multiple positional arguments")
      else extreme call op key v vs

/-- The sum of values. -/
def sumOf (call : Caller) (args : Args) : Run Value := do
  checkNamed "sum" 1 ["start"] args
  match args.positional with
  | [] => Run.raise "TypeError" "sum() takes at least 1 positional argument (0 given)"
  | v :: rest =>
    let start := (rest.head? <|> args.keywords.get? "start").getD (.int 0)
    let xs ← World.toList call v
    match start with
    | .str _ => Run.raise "TypeError" "sum() can't sum strings [use ''.join(seq) instead]"
    | start => xs.foldlM (World.binary .add false) start

/-- The name of an attribute. -/
def attributeName (v : Value) : Run String := do
  match v.text? with
  | some s => return s
  | none => Run.raise "TypeError" "attribute name must be string"

/-- Calls a function that the language supplies. -/
def applyFunction (call : Caller) (name : String) (args : Args) : Run Value := do
  match name with
  | "max" => extremeOf call name .gt args
  | "min" => extremeOf call name .lt args
  | "sum" => sumOf call args
  | "print" =>
    let known := ["sep", "end", "file", "flush"]
    match args.keywords.find? fun (n, _) => !known.contains n with
    | some (n, _) =>
      Run.raise "TypeError" ("'" ++ n ++ "' is an invalid keyword argument for print()")
    | none => return .none
  | _ =>
    noKeywords name args
    let w ← Run.world
    match name, args.positional with
    | "len", [v] => length call v
    | "repr", [v] => return .str (← World.tellLiteral call v)
    | "callable", [v] => return .bool (w.isCallable v)
    | "isinstance", [v, .tuple cs] => return .bool (cs.any (w.isInstance v))
    | "isinstance", [v, c] =>
      if w.isClass c then return .bool (w.isInstance v c)
      else
        Run.raise "TypeError" "isinstance() arg 2 must be a type, a tuple of types, or a union"
    | "isinstance", vs => exactly name 2 vs.length
    | "hasattr", [_] | "hasattr", [] | "hasattr", _ :: _ :: _ :: _ =>
      exactly name 2 args.positional.length
    | "getattr", [] | "getattr", [_] =>
      Run.raise "TypeError" (name ++ " expected at least 2 arguments, got "
        ++ toString args.positional.length)
    | "getattr", [v, n] => do World.getAttr call v (← attributeName n)
    | "getattr", [v, n, d] => do return (← World.getAttr? call v (← attributeName n)).getD d
    | "hasattr", [v, n] => do return .bool (← World.getAttr? call v (← attributeName n)).isSome
    | "setattr", [v, n, x] => do
      World.setAttr call v (← attributeName n) x
      return .none
    | "abs", [.int n] => return .int n.natAbs
    | "abs", [.bool b] => return .int (if b then 1 else 0)
    | "abs", [.float x] => return .float x.abs
    | "abs", [v] =>
      Run.raise "TypeError" ("bad operand type for abs(): '" ++ w.attrTypeName v ++ "'")
    | "iter", [v] => World.getIter call v
    | "next", [v] => do
      match (← World.next? call v) with
      | some x => return x
      | none => Run.raiseWith "StopIteration" []
    | "next", [v, d] => return (← World.next? call v).getD d
    | "vars", [v] => World.getAttr call v "__dict__"
    | _, vs => exactlyOne name vs.length

/-! ## Methods -/

/-- Complains about a method that takes no arguments. -/
def noArguments {α : Type} (method : String) (given : Nat) : Run α :=
  Run.raise "TypeError" (method ++ "() takes no arguments (" ++ toString given ++ " given)")

/-- Text without some characters at its ends. -/
def trimmed (isTrimmed : Char → Bool) (front back : Bool) (s : String) : String :=
  let cs := s.toList
  let cs := if front then cs.dropWhile isTrimmed else cs
  String.ofList (if back then (cs.reverse.dropWhile isTrimmed).reverse else cs)

/-- The characters that a method takes from the ends of text. -/
def trimSet (method : String) (vs : List Value) : Run (Char → Bool) := do
  match vs with
  | [] | [.none] => return Text.isBlank
  | [v] =>
    match v.text? with
    | some s => return fun c => s.toList.contains c
    | none => Run.raise "TypeError" (method ++ " arg must be None or str")
  | vs =>
    Run.raise "TypeError"
      (method ++ " expected at most 1 argument, got " ++ toString vs.length)

/-- Texts, put together with a text between them. -/
def joined (s : String) (vs : List Value) : Run Value := do
  let texts ← vs.zipIdx.mapM fun (v, i) => do
    match v.text? with
    | some t => return t
    | none =>
      Run.raise "TypeError" ("sequence item " ++ toString i ++ ": expected str instance, "
        ++ (← Run.world).attrTypeName v ++ " found")
  return .str (s.intercalate texts)

/-- Calls a method of text. -/
def applyText (call : Caller) (s method : String) (vs : List Value) : Run (Option Value) := do
  match method, vs with
  | "upper", [] => return some (.str (Text.upper s))
  | "lower", [] => return some (.str (Text.lower s))
  | "upper", vs | "lower", vs => noArguments ("str." ++ method) vs.length
  | "strip", vs => return some (.str (trimmed (← trimSet method vs) true true s))
  | "lstrip", vs => return some (.str (trimmed (← trimSet method vs) true false s))
  | "rstrip", vs => return some (.str (trimmed (← trimSet method vs) false true s))
  | "join", [v] => do return some (← joined s (← World.toList call v))
  | "startswith", [.str t] => return some (.bool (t.toList.isPrefixOf s.toList))
  | "endswith", [.str t] => return some (.bool (t.toList.isSuffixOf s.toList))
  | "replace", [.str a, .str b] => return some (.str (s.replace a b))
  | _, _ => return none

/-- Calls a method of a list. -/
def applyList (call : Caller) (r : Ref) (xs : List Value) (method : String) (vs : List Value) :
    Run (Option Value) := do
  let put (xs : List Value) : Run (Option Value) := do
    Run.setBody r (.list xs)
    return some .none
  match method, vs with
  | "append", [v] => put (xs ++ [v])
  | "append", vs => exactlyOne "list.append" vs.length
  | "extend", [v] => do put (xs ++ (← World.toList call v))
  | "clear", [] => put []
  | "reverse", [] => put xs.reverse
  | "copy", [] => return some (← World.newList xs)
  | "insert", [.int i, v] =>
    let i := if i < 0 then (max 0 (i + xs.length)).toNat else i.toNat
    put (xs.take i ++ v :: xs.drop i)
  | "pop", vs =>
    let i := (vs.head?.bind Value.int?).getD (-1)
    match World.place? xs.length i with
    | some i => do
      Run.setBody r (.list (xs.eraseIdx i))
      return some ((xs[i]?).getD .none)
    | none =>
      Run.raise "IndexError" (if xs.isEmpty then "pop from empty list" else "pop index out of range")
  | "count", [v] => do
    let w ← Run.world
    return some (.int (xs.countP (w.equal v)))
  | _, _ => return none

/-- Calls a method of a mapping. -/
def applyMapping (r : Ref) (method : String) (vs : List Value) : Run (Option Value) := do
  let es := (← Run.world).entriesOf r
  let series (xs : List Value) : Run (Option Value) := some <$> World.newList xs
  match method, vs with
  | "get", [k] => return some ((← World.getEntry? r k).getD .none)
  | "get", [k, d] => return some ((← World.getEntry? r k).getD d)
  | "keys", [] => series (es.map Entry.key)
  | "values", [] => series (es.map Entry.value)
  | "items", [] => series (es.map fun e => .tuple [e.key, e.value])
  | "pop", k :: rest => do
    match (← World.getEntry? r k), rest with
    | some v, _ => do
      let _ ← World.dropEntry r k
      return some v
    | none, d :: _ => return some d
    | none, [] => Run.raiseWith "KeyError" [k]
  | "setdefault", k :: rest => do
    match (← World.getEntry? r k) with
    | some v => return some v
    | none => do
      let v := rest.headD .none
      World.putEntry r k v
      return some v
  | _, _ => return none

/-- Calls a method of a suspended call. -/
def applySuspended (call : Caller) (r : Ref) (s : Suspended) (method : String) (vs : List Value) :
    Run (Option Value) := do
  match method, vs with
  | "send", [v] => return some (← s.resume call r (.sent v))
  | "__next__", [] => return some (← s.resume call r (.sent .none))
  | "throw", v :: _ => do
    return some (← s.resume call r (.raised (← Activation.toRaise call v)))
  | "close", [] => return some (← s.close call r)
  | "__iter__", [] => return some (.thing r)
  | _, _ => return none

/-- Calls a special method that every value has. -/
def applySpecial (call : Caller) (v : Value) (method : String) (args : Args) :
    Run (Option Value) := do
  let w ← Run.world
  match method, args.positional with
  | "__call__", _ => return some (← call v args)
  | "__init__", vs =>
    match v, w.body? v with
    | .thing r, some (.exception c _) => do
      Run.setBody r (.exception c vs)
      return some .none
    | .thing r, some (.namespace) => do
      Run.changeTable r (·.update args.keywords)
      return some .none
    | _, _ =>
      if vs.isEmpty && args.keywords.isEmpty then return some .none
      else
        Run.raise "TypeError"
          "object.__init__() takes exactly one argument (the instance to initialize)"
  | "__setattr__", [.str n, x] => do
    World.setPlainAttr call v n x
    return some .none
  | "__delattr__", [.str n] => do
    World.deleteAttr v n
    return some .none
  | "__getattribute__", [.str n] => do
    match (← World.plainAttr call v n) with
    | some x => return some x
    | none => Run.raise "AttributeError" (w.missingAttr v n)
  | "__repr__", [] => return some (.str (w.literal v))
  | "__str__", [] => return some (.str (w.text v))
  | "__eq__", [x] => return some (.bool (w.equal v x))
  | "__ne__", [x] => return some (.bool (!w.equal v x))
  | "__len__", [] => return some (← length call v)
  | "__iter__", [] => return some (← World.getIter call v)
  | "__getitem__", [i] => return some (← World.getItem call v i)
  | "__setitem__", [i, x] => do
    World.setItem call v i x
    return some .none
  | "__contains__", [x] => return some (.bool (← World.contains call v x))
  | "__init_subclass__", _ => return some .none
  | "mro", [] => return some (← World.newList (w.classOrder v))
  | "setter", [f] =>
    match w.body? v with
    | some (.property g _) => return some (← Run.newValue (.property g f))
    | _ => return none
  | "getter", [f] =>
    match w.body? v with
    | some (.property _ s) => return some (← Run.newValue (.property f s))
    | _ => return none
  | "bit_length", [] =>
    match v.int? with
    | some n => return some (.int (if n == 0 then 0 else Nat.log2 n.natAbs + 1))
    | none => return none
  | _, _ => return none

/-- Calls a method of the value's own kind. -/
def applyOwn (call : Caller) (v : Value) (method : String) (vs : List Value) :
    Run (Option Value) := do
  match v, (← Run.world).body? v with
  | .str s, _ => applyText call s method vs
  | .choice c, _ => applyText call c.value method vs
  | .thing r, some (.list xs) => applyList call r xs method vs
  | .thing r, some (.suspended s) => applySuspended call r s method vs
  | .thing r, _ =>
    if (← Run.world).isMapping v then applyMapping r method vs else return none
  | _, _ => return none

/-- Calls a method that the language supplies. -/
def applyMethod (call : Caller) (v : Value) (method : String) (args : Args) : Run Value := do
  let isSpecial := method.startsWith "__"
  if !isSpecial then
    noKeywords ((← Run.world).attrTypeName v ++ "." ++ method) args
  match (← applyOwn call v method args.positional) with
  | some x => return x
  | none =>
    match (← applySpecial call v method args) with
    | some x => return x
    | none =>
      Run.raise "NotImplementedError" ((← Run.world).attrTypeName v ++ "." ++ method)

/-- Calls a method that the language supplies as its class keeps it: the receiver comes first. -/
def applyUnbound (call : Caller) (cls method : String) (args : Args) : Run Value := do
  match args.positional with
  | [] =>
    Run.raise "TypeError" (if method.startsWith "__" then
        "descriptor '" ++ method ++ "' of '" ++ cls ++ "' object needs an argument"
      else "unbound method " ++ cls ++ "." ++ method ++ "() needs an argument")
  | v :: vs =>
    let w ← Run.world
    if w.isInstance v (.cls cls) then applyMethod call v method { args with positional := vs }
    else
      Run.raise "TypeError" (if method.startsWith "__" then
        "descriptor '" ++ method ++ "' requires a '" ++ cls ++ "' object but received a '"
          ++ w.attrTypeName v ++ "'"
      else "descriptor '" ++ method ++ "' for '" ++ cls ++ "' objects doesn't apply to a '"
        ++ w.attrTypeName v ++ "' object")

end Graft.Machine.Builtin
