import Graft.Machine.Activation
import Graft.Settings

set_option autoImplicit false

/-! # Instances of the classes that the language supplies

What calls of these classes make of their arguments. -/

namespace Graft.Machine.Builtin

open Graft.Data

/-- Counts things in words. -/
def counted (n : Nat) (what : String) : String :=
  toString n ++ " " ++ what ++ (if n == 1 then "" else "s")

/-- Complains about arguments by keyword. -/
def noKeywords (function : String) (args : Args) : Run Unit :=
  if args.keywords.isEmpty then return ()
  else Run.raise "TypeError" (function ++ "() takes no keyword arguments")

/-- Complains if there are more arguments by position than there may be. -/
def atMost (function : String) (n : Nat) (args : Args) : Run Unit :=
  let given := args.positional.length
  if given ≤ n then return ()
  else Run.raise "TypeError"
    (function ++ " expected at most " ++ counted n "argument" ++ ", got " ++ toString given)

/-- Checks the arguments of a function that takes up to `most` of them, the first `unnamed` of them
    by position only, and the others by the given names as well. -/
def checkNamed (function : String) (unnamed : Nat) (names : List String) (args : Args) : Run Unit :=
  let most := unnamed + names.length
  let given := args.positional.length + args.keywords.length
  if most < given then
    Run.raise "TypeError" (function ++ "() takes at most "
      ++ counted most (if args.positional.isEmpty then "keyword argument" else "argument")
      ++ " (" ++ toString given ++ " given)")
  else
    match args.keywords.find? fun (n, _) => !names.contains n with
    | some (n, _) =>
      Run.raise "TypeError"
        ("'" ++ n ++ "' is an invalid keyword argument for " ++ function ++ "()")
    | none => return ()

/-- The argument of a name, which can be given by position as well. -/
def argument? (args : Args) (i : Nat) (name : String) : Option Value :=
  args.positional[i]? <|> args.keywords.get? name

/-- The text of a value.  An encoding can be named, but only for bytes. -/
def makeText (call : Caller) (args : Args) : Run Value := do
  checkNamed "str" 0 ["object", "encoding", "errors"] args
  let w ← Run.world
  let check (name : String) (v : Option Value) : Run Unit :=
    match v with
    | some v =>
      if v.text?.isSome then return ()
      else Run.raise "TypeError" ("str() argument '" ++ name ++ "' must be str, not "
        ++ w.attrTypeName v)
    | none => return ()
  let encoding := argument? args 1 "encoding"
  let errors := argument? args 2 "errors"
  check "encoding" encoding
  check "errors" errors
  match argument? args 0 "object" with
  | none => return .str ""
  | some v =>
    if encoding.isNone && errors.isNone then return .str (← World.tell call v)
    else
      match v with
      | .str _ => Run.raise "TypeError" "decoding str is not supported"
      | .bytes bs => return .str ((String.fromUTF8? ⟨bs.toArray⟩).getD "")
      | v =>
        Run.raise "TypeError" ("decoding to str: need a bytes-like object, "
          ++ w.attrTypeName v ++ " found")

/-- The whole number that a value is or spells. -/
def makeInt (v : Value) : Run Value := do
  match v with
  | .int n => return .int n
  | .bool b => return .int (if b then 1 else 0)
  | .float x =>
    match Settings.truncate x with
    | .ok (some n) => return .int n
    | .ok none => Run.raise "ValueError" "cannot convert float NaN to integer"
    | .error _ => Run.raise "OverflowError" "cannot convert float infinity to integer"
  | v =>
    match v.text? with
    | some s =>
      match Settings.readInt? s.toList with
      | some n => return .int n
      | none =>
        Run.raise "ValueError" ("invalid literal for int() with base 10: " ++ Datum.quoteText s)
    | none =>
      Run.raise "TypeError" ("int() argument must be a string, a bytes-like object or a real "
        ++ "number, not '" ++ (← Run.world).attrTypeName v ++ "'")

/-- The whole number that text spells in a base. -/
def makeIntInBase (v base : Value) : Run Value := do
  let w ← Run.world
  match base.int?, v.text? with
  | none, _ =>
    Run.raise "TypeError" ("'" ++ w.attrTypeName base
      ++ "' object cannot be interpreted as an integer")
  | some _, none => Run.raise "TypeError" "int() can't convert non-string with explicit base"
  | some b, some s =>
    if b == 10 then makeInt v
    else if b != 0 && (b < 2 || 36 < b) then
      Run.raise "ValueError" "int() base must be >= 2 and <= 36, or 0"
    else
      let digit (c : Char) : Option Nat :=
        let n := if c.isDigit then c.toNat - '0'.toNat
          else if c.isAlpha then c.toLower.toNat - 'a'.toNat + 10 else 36
        if (n : Int) < b then some n else none
      let ds := (Text.trim s).toList.map digit
      match ds.isEmpty, ds.mapM id with
      | false, some ns => return .int (ns.foldl (fun (n : Int) (d : Nat) => n * b + d) 0)
      | _, _ =>
        Run.raise "ValueError" ("invalid literal for int() with base " ++ toString b ++ ": "
          ++ Datum.quoteText s)

/-- The floating point number that a value is. -/
def makeFloat (v : Value) : Run Value := do
  match v with
  | .float x => return .float x
  | v =>
    match v.int? with
    | some n => return .float (Float.ofInt n)
    | none =>
      Run.raise "TypeError" ("float() argument must be a string or a real number, not '"
        ++ (← Run.world).attrTypeName v ++ "'")

/-- A bound of a range. -/
def rangeBound (v : Value) : Run Int := do
  match v.int? with
  | some n => return n
  | none =>
    Run.raise "TypeError" ("'" ++ (← Run.world).attrTypeName v
      ++ "' object cannot be interpreted as an integer")

/-- A range. -/
def makeRange (bounds : List Value) : Run Value := do
  match (← bounds.mapM rangeBound) with
  | [stop] => Run.newValue (.range 0 stop 1)
  | [start, stop] => Run.newValue (.range start stop 1)
  | [start, stop, step] =>
    if step == 0 then Run.raise "ValueError" "range() arg 3 must not be zero"
    else Run.newValue (.range start stop step)
  | [] => Run.raise "TypeError" "range expected at least 1 argument, got 0"
  | bs =>
    Run.raise "TypeError" ("range expected at most 3 arguments, got " ++ toString bs.length)

/-- A dictionary from a mapping or from pairs. -/
def makeDict (call : Caller) (args : Args) : Run Value := do
  atMost "dict" 1 args
  let dict ← World.newDict []
  match args.positional with
  | [] => pure ()
  | v :: _ =>
    if (← Run.world).isMapping v then Activation.merge false dict v
    else
      for (pair, i) in (← World.toList call v).zipIdx do
        match dict, (← pairOf i pair) with
        | .thing r, [k, x] => World.putEntry r k x
        | _, xs =>
          Run.raise "ValueError" ("dictionary update sequence element #" ++ toString i
            ++ " has length " ++ toString xs.length ++ "; 2 is required")
  match dict with
  | .thing r =>
    for (k, v) in args.keywords do
      World.putEntry r (.str k) v
  | _ => pure ()
  return dict
where
  /-- The items of what should be a pair. -/
  pairOf (i : Nat) (v : Value) : Run (List Value) := do
    match (← World.getIter? call v) with
    | some it => World.drainAll call it
    | none =>
      Run.raise "TypeError" ("cannot convert dictionary update sequence element #" ++ toString i
        ++ " to a sequence")

/-- A slice. -/
def makeSlice (bounds : List Value) : Run Value := do
  match bounds with
  | [stop] => Run.newValue (.slice .none stop .none)
  | [start, stop] => Run.newValue (.slice start stop .none)
  | [start, stop, step] => Run.newValue (.slice start stop step)
  | bs => Run.raise "TypeError" ("slice expected at most 3 arguments, got " ++ toString bs.length)

/-- A getter with a setter. -/
def makeProperty (args : Args) : Run Value := do
  let part (i : Nat) (name : String) : Value :=
    (args.positional[i]? <|> args.keywords.get? name).getD .none
  Run.newValue (.property (part 0 "fget") (part 1 "fset"))

/-- A class, or the class of a value. -/
def makeType (args : List Value) : Run Value := do
  let w ← Run.world
  match args with
  | [v] => return w.classOf v
  | [name, bases, entries] =>
    let table := match entries with
      | .thing r => (w.entriesOf r).filterMap fun e => e.key.text?.map fun n => (n, e.value)
      | _ => []
    let name := name.text?.getD ""
    Activation.makeClass name name (((w.items? bases).map Prod.snd).getD []) table
  | _ => Run.raise "TypeError" "type() takes 1 or 3 arguments"

/-- A module without members. -/
def makeModule (args : Args) : Run Value := do
  match args.positional with
  | [] => Run.raise "TypeError" "module() missing required argument 'name' (pos 1)"
  | name :: rest =>
    match name.text? with
    | some s =>
      Run.newValue (.module s) [("__name__", name), ("__doc__", rest.headD .none),
        ("__package__", .none), ("__loader__", .none), ("__spec__", .none)]
    | none =>
      Run.raise "TypeError" ("module() argument 'name' must be str, not "
        ++ (← Run.world).attrTypeName name)

/-- The choice that a value means. -/
def makeChoice (typeName : String) (v : Value) : Run Value := do
  match v.text?.bind (Choice.ofValue? typeName) with
  | some c => return .choice c
  | none =>
    Run.raise "ValueError" ((← Run.world).literal v ++ " is not a valid " ++ typeName)

/-- Something that can be raised. -/
def makeException (cls : String) (args : Args) : Run Value := do
  noKeywords cls args
  let cls := match cls, args.positional with
    | "OSError", .int n :: _ :: _ => classOfErrorNumber n
    | cls, _ => cls
  Run.newValue (.exception (.cls cls) args.positional)

/-- A function that is found through its class without being bound, or bound to the class. -/
def makeWrapped (cls : String) (wrap : Value → Body) (args : Args) : Run Value := do
  noKeywords cls args
  match args.positional with
  | [f] => Run.newValue (wrap f)
  | fs => Run.raise "TypeError" (cls ++ " expected 1 argument, got " ++ toString fs.length)

/-- Calls a class that the language supplies. -/
def construct (call : Caller) (cls : String) (args : Args) : Run Value := do
  match cls with
  | "dict" => makeDict call args
  | "str" => makeText call args
  | "int" => do
    checkNamed cls 1 ["base"] args
    match argument? args 0 "", argument? args 1 "base" with
    | none, none => return .int 0
    | some v, none => makeInt v
    | none, some _ => Run.raise "TypeError" "int() missing string argument"
    | some v, some base => makeIntInBase v base
  | "SimpleNamespace" =>
    if args.positional.isEmpty then Run.newValue .namespace args.keywords
    else Run.raise "TypeError" "no positional arguments expected"
  | "module" => makeModule args
  | "property" => makeProperty args
  | "staticmethod" => makeWrapped cls .staticMethod args
  | "classmethod" => makeWrapped cls .classMethod args
  | _ =>
    if isException cls then makeException cls args
    else do
      noKeywords cls args
      match cls, args.positional with
      | "object", [] => Run.newValue (.instance (.cls "object"))
      | "object", _ => Run.raise "TypeError" "object() takes no arguments"
      | "type", vs => makeType vs
      | "float", [] => return .float 0.0
      | "float", [v] => makeFloat v
      | "bool", [] => return .bool false
      | "bool", [v] => return .bool ((← Run.world).truth v)
      | "list", [] => World.newList []
      | "list", [v] => do World.newList (← World.toList call v)
      | "tuple", [] => return .tuple []
      | "tuple", [v] => return .tuple (← World.toList call v)
      | "set", [] => Activation.makeSet []
      | "set", [v] => do Activation.makeSet (← World.toList call v)
      | "range", vs => makeRange vs
      | "slice", vs => makeSlice vs
      | "super", [c, v] => Run.newValue (.super c v)
      | "FlowControl", [v] | "InsertLocation", [v] => makeChoice cls v
      | _, vs =>
        if namedClasses.contains cls then do
          atMost cls 1 args
          Run.raise "NotImplementedError" (cls ++ " of " ++ counted vs.length "argument")
        else Run.raise "TypeError" ("cannot create '" ++ cls ++ "' instances")

end Graft.Machine.Builtin
