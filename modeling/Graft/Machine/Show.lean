import Graft.Machine.Kind

set_option autoImplicit false

/-! # Values as text

The two texts of a value: the literal one, which tells values apart, and the plain one, which is for
people to read. -/

namespace Graft

open Machine Data

namespace World

/-- Text between angle brackets. -/
def angled (s : String) : String := "<" ++ s ++ ">"

/-- What the class of a thing is called with its module. -/
def fullClassName (w : World) (cls : Value) : String :=
  match cls with
  | .cls name => name
  | v =>
    match w.madeClass? v with
    | some c =>
      match v with
      | .thing r =>
        match (w.table r).get? "__module__" with
        | some (.str m) => m ++ "." ++ c.qualname
        | _ => c.qualname
      | _ => c.qualname
    | none => "object"

/-- The text of a tuple with the given element texts. -/
def tupleLiteral : List String → String
  | [s] => "(" ++ s ++ ",)"
  | ss => "(" ++ ", ".intercalate ss ++ ")"

/-- Text between braces. -/
def braced (s : String) : String := "\x7b" ++ s ++ "\x7d"

/-- A value as a literal, looking so many levels deep. -/
def literalTo (w : World) : Nat → Value → String
  | 0, _ => "..."
  | n + 1, v =>
    match v with
    | .none => "None"
    | .ellipsis => "Ellipsis"
    | .bool b => (Datum.bool b).repr
    | .int i => toString i
    | .float x => (Datum.float x).repr
    | .str s => Datum.quoteText s
    | .bytes bs => (Datum.bytes bs).repr
    | .choice c => Datum.quoteChoice c
    | .tuple xs => tupleLiteral (xs.map (literalTo w n))
    | .builtin name => angled ("built-in function " ++ name)
    | .cls name =>
      if name == "FlowControl" || name == "InsertLocation" then angled ("enum '" ++ name ++ "'")
      else angled ("class '" ++ name ++ "'")
    | .bound self name =>
      angled ("built-in method " ++ name ++ " of " ++ w.typeName self ++ " object")
    | .slot cls name => angled ("method '" ++ name ++ "' of '" ++ cls ++ "' objects")
    | .thing r =>
      match (w.thing? r).map Thing.body with
      | some (.function f) => angled ("function " ++ f.qualname)
      | some (.method f self) =>
        let name := match w.body? f with
          | some (.function f) => f.qualname
          | _ => "?"
        angled ("bound method " ++ name ++ " of " ++ literalTo w n self)
      | some (.staticMethod f) => angled ("staticmethod(" ++ literalTo w n f ++ ")")
      | some (.classMethod f) => angled ("classmethod(" ++ literalTo w n f ++ ")")
      | some (.cls _) => angled ("class '" ++ w.fullClassName v ++ "'")
      | some (.instance c) =>
        match (w.madeClass? c).bind MadeClass.shownAs with
        | some s => s
        | none => angled (w.fullClassName c ++ " object")
      | some (.exception c args) =>
        w.className c ++ match args with
          | [a] => "(" ++ literalTo w n a ++ ")"
          | _ => "(" ++ ", ".intercalate (args.map (literalTo w n)) ++ ")"
      | some (.namespace) =>
        "namespace(" ++ ", ".intercalate
          ((w.table r).map fun (name, v) => name ++ "=" ++ literalTo w n v) ++ ")"
      | some (.module name) => angled ("module '" ++ name ++ "'")
      | some (.list xs) => "[" ++ ", ".intercalate (xs.map (literalTo w n)) ++ "]"
      | some (.set []) => "set()"
      | some (.set xs) => braced (", ".intercalate (xs.map fun x => literalTo w n x.2))
      | some (.dict _) | some (.attributes _) | some (.userDict _ _) => entries r n
      | some (.proxy _) => "mappingproxy(" ++ entries r n ++ ")"
      | some (.range a b c) =>
        "range(" ++ toString a ++ ", " ++ toString b
          ++ (if c == 1 then "" else ", " ++ toString c) ++ ")"
      | some (.slice a b c) =>
        "slice(" ++ literalTo w n a ++ ", " ++ literalTo w n b ++ ", " ++ literalTo w n c ++ ")"
      | some (.partialCall f args keywords) =>
        "functools.partial(" ++ ", ".intercalate (literalTo w n f :: args.map (literalTo w n)
          ++ keywords.map fun (name, v) => name ++ "=" ++ literalTo w n v) ++ ")"
      | some (.suspended s) => angled (w.typeName v ++ " object " ++ s.name)
      | _ => angled (w.typeName v ++ " object")
where
  /-- The entries of a dictionary as literals. -/
  entries (r : Ref) (n : Nat) : String :=
    braced (", ".intercalate ((w.entriesOf r).map fun e =>
      literalTo w n e.key ++ ": " ++ literalTo w n e.value))

/-- A value as a literal. -/
def literal (w : World) (v : Value) : String := w.literalTo maxDepth v

/-- A value as text, where what was raised may hold something that was raised in turn, so many
    levels deep. -/
def textTo (w : World) : Nat → Value → String
  | _, .str s => s
  | _, .choice c => Datum.choiceText c
  | 0, v => w.literal v
  | n + 1, v =>
    match w.body? v with
    | some (.exception c args) =>
      match args with
      | [] => ""
      | [a] => if w.isSubclass c (.cls "KeyError") then w.literal a else textTo w n a
      | [a, b] =>
        if w.isSubclass c (.cls "OSError") then
          "[Errno " ++ textTo w n a ++ "] " ++ textTo w n b
        else w.literal (.tuple args)
      | _ => w.literal (.tuple args)
    | _ => w.literal v

/-- A value as text. -/
def text (w : World) (v : Value) : String := w.textTo maxDepth v

end World

end Graft
