import Graft.Data.Datum
import Graft.Data.Json
import Graft.Text.Blank
import Graft.Text.Case
import Graft.Text.Digit

set_option autoImplicit false

/-! # Settings

A setting is found by a path of keys: first in the settings file, a JSON object in the working
directory, then in the environment under the keys' upper case names joined by underscores, and last
it has a default.  What can not be read counts as missing. -/

namespace Graft

open Data

/-- What a name in the working directory stands for. -/
inductive FileEntry
  | text (content : List Char)
  | bytes (content : List UInt8)
  | directory

/-- What a run can see of the outside. -/
structure Surroundings where
  /-- The environment. -/
  env : List (String × String) := []
  /-- The working directory. -/
  files : List (String × FileEntry) := []

/-- Why a setting can not be had. -/
inductive SettingsFault
  /-- The settings file is nested too deeply. -/
  | tooDeep
  /-- An infinite number has no whole part. -/
  | infinite
deriving DecidableEq, Repr

namespace Settings

/-- The file that holds the settings. -/
def defaultPath : String := "hotsplice.json"

/-- The characters of a file, if it is one and holds text. -/
def FileEntry.chars? : FileEntry → Option (List Char)
  | .text cs => some cs
  | .bytes bs => (String.fromUTF8? ⟨bs.toArray⟩).map String.toList
  | .directory => none

/-- A path without the parts that stand for the directory itself. -/
def plainPath (path : String) : String :=
  "/".intercalate ((path.splitOn "/").filter fun part => part != "" && part != ".")

/-- The datum that a JSON value is. -/
def datumOf : Json → Datum
  | .null => .none
  | .bool b => .bool b
  | .int n => .int n
  | .float x => .float x
  | .str s => .str s
  | .arr xs => .list (dataOf xs)
  | .obj fields => .dict (entriesOf fields)
where
  /-- The data that JSON values are. -/
  dataOf : List Json → List Datum
    | [] => []
    | x :: xs => datumOf x :: dataOf xs
  /-- The entries that the fields of an object are. -/
  entriesOf : List (String × Json) → List (Datum × Datum)
    | [] => []
    | (k, v) :: rest => (.str k, datumOf v) :: entriesOf rest

/-- Reads a settings file; what is no JSON object counts as empty. -/
def load (s : Surroundings) (path : String) : Except SettingsFault Datum :=
  if path.startsWith "/" then .ok (.dict [])
  else
    match s.files.find? (·.1 == plainPath path) with
    | none => .ok (.dict [])
    | some (_, entry) =>
      match FileEntry.chars? entry with
      | none => .ok (.dict [])
      | some cs =>
        match Json.parse cs with
        | .ok (.obj fields) => .ok (datumOf (.obj fields))
        | .ok _ | .error .malformed => .ok (.dict [])
        | .error .tooDeep => .error .tooDeep

/-- The environment variable that is consulted for a path of keys. -/
def envName (keys : List String) : String :=
  "_".intercalate (keys.map Text.upper)

/-- What a path of keys leads to. -/
def lookup : Datum → List String → Datum
  | d, [] => d
  | .dict es, k :: ks =>
    match es.find? (fun (l, _) => l.text? == some k) with
    | some (_, v) => lookup v ks
    | none => .none
  | _, _ :: _ => .none

/-- A setting, from the given settings or else from the file. -/
def value (s : Surroundings) (keys : List String) (default : Datum) (settings : Option Datum) :
    Except SettingsFault Datum := do
  let settings ← match settings with
    | some d => .ok d
    | none => load s defaultPath
  match lookup settings keys with
  | .none =>
    match s.env.find? (·.1 == envName keys) with
    | some (_, v) => .ok (.str v)
    | none => .ok default
  | d => .ok d

/-! ## Whole numbers -/

/-- The digits of a numeral, single underscores between them left out. -/
def numeralDigits : List Char → Option (List Nat)
  | [] => none
  | [c] => (Text.digitValue? c).map ([·])
  | c :: '_' :: rest => do some ((← Text.digitValue? c) :: (← numeralDigits rest))
  | c :: rest => do some ((← Text.digitValue? c) :: (← numeralDigits rest))

/-- Reads a whole number with an optional sign and blanks around it. -/
def readInt? (cs : List Char) : Option Int := do
  let (negative, ds) := match Text.trimChars cs with
    | '-' :: ds => (true, ds)
    | '+' :: ds => (false, ds)
    | ds => (false, ds)
  let digits ← numeralDigits ds
  if Number.maxIntDigits < digits.length then none
  else
    let n : Nat := digits.foldl (fun n d => 10 * n + d) 0
    some (if negative then -(n : Int) else n)

/-- The whole part of a floating point number: `none` if it is no number. -/
def truncate (x : Float) : Except SettingsFault (Option Int) :=
  match Number.Parts.ofFloat x with
  | .nan => .ok none
  | .infinite _ => .error .infinite
  | .finite negative m q =>
    let n : Nat := if 0 ≤ q then m <<< q.toNat else m >>> (-q).toNat
    .ok (some (if negative then -(n : Int) else n))

/-- The whole number that a datum is or spells. -/
def intOf (d : Datum) : Except SettingsFault (Option Int) :=
  match d with
  | .bool b => .ok (some (if b then 1 else 0))
  | .int n => .ok (some n)
  | .float x => truncate x
  | .str s => .ok (readInt? s.toList)
  | .bytes bs =>
    let isPlain := bs.all fun b => b < 28 || (32 ≤ b && b < 128)
    .ok (if isPlain then readInt? (bs.map fun b => Char.ofNat b.toNat) else none)
  | _ => .ok none

/-- A setting that is a whole number; any other value gives the default as it stands. -/
def int (s : Surroundings) (keys : List String) (default : Datum) (settings : Option Datum) :
    Except SettingsFault Datum := do
  match (← intOf (← value s keys default settings)) with
  | some n => .ok (.int n)
  | none => .ok default

/-! ## Truth values -/

/-- The texts that mean no. -/
def negatives : List String := ["0", "false", "no", "off", ""]

/-- Whether a datum means yes. -/
def meansYes (d : Datum) : Bool :=
  match d.text? with
  | some s => !negatives.contains (Text.lower (Text.trim s))
  | none => d.isTrue

/-- A setting that is a truth value. -/
def bool (s : Surroundings) (keys : List String) (default : Datum) (settings : Option Datum) :
    Except SettingsFault Bool := do
  .ok (meansYes (← value s keys default settings))

end Settings

end Graft
