import Graft.Data.Yaml.Emit

set_option autoImplicit false

/-! # Reports

What the journals hold, as plain data and as a document for people to read. -/

namespace Graft

open Data

/-! ## Points in time -/

/-- A point in time in the calendar. -/
structure Moment where
  year : Int
  month : Nat
  day : Nat
  hour : Nat
  minute : Nat
  second : Nat
  microsecond : Nat
deriving DecidableEq, Repr

/-- The calendar date of a number of days since the first of January 1970: year, month, day.  The
    year is taken to begin in March, so that the leap day comes last. -/
def dateOfDays (days : Int) : Int × Nat × Nat :=
  let z := days + 719468
  let era := z.fdiv 146097
  let doe := (z - era * 146097).toNat
  let yoe := (doe - doe / 1460 + doe / 36524 - doe / 146096) / 365
  let doy := doe - (365 * yoe + yoe / 4 - yoe / 100)
  let mp := (5 * doy + 2) / 153
  let day := doy - (153 * mp + 2) / 5 + 1
  let month := if mp < 10 then mp + 3 else mp - 9
  let year := (yoe : Int) + era * 400 + (if month ≤ 2 then 1 else 0)
  (year, month, day)

/-- The point in time so many microseconds after the beginning of 1970. -/
def Moment.ofMicroseconds (n : Int) : Moment :=
  let seconds := n.fdiv 1000000
  let rest := (n - seconds * 1000000).toNat
  let days := seconds.fdiv 86400
  let time := (seconds - days * 86400).toNat
  let (year, month, day) := dateOfDays days
  { year, month, day, hour := time / 3600, minute := time / 60 % 60, second := time % 60,
    microsecond := rest }

/-- A number with at least so many digits. -/
def padded (width n : Nat) : String :=
  let s := toString n
  String.ofList (List.replicate (width - s.length) '0') ++ s

/-- A point in time in the international form; microseconds are left out if there are none. -/
def Moment.text (m : Moment) : String :=
  padded 4 m.year.toNat ++ "-" ++ padded 2 m.month ++ "-" ++ padded 2 m.day ++ "T"
    ++ padded 2 m.hour ++ ":" ++ padded 2 m.minute ++ ":" ++ padded 2 m.second
    ++ (if m.microsecond == 0 then "" else "." ++ padded 6 m.microsecond)

/-- Why a number of seconds is no point in time. -/
inductive MomentFault
  | notANumber
  /-- It is too far off to be counted in seconds. -/
  | outOfRange
  /-- The calendar has no such year. -/
  | year (n : Int)
  /-- It is no number at all, but of the named type. -/
  | wrongType (name : String)
deriving DecidableEq, Repr

/-- The whole number nearest to `m · 2^q`; the even one of two. -/
def roundHalfEven (m : Nat) (q : Int) : Nat :=
  if 0 ≤ q then m <<< q.toNat
  else
    let d := 1 <<< (-q).toNat
    let down : Nat := m / d
    let rest : Nat := 2 * (m % d)
    if rest < d || (rest == d && down % 2 == 0) then down else down + 1

/-- A number of seconds in microseconds.  The fraction is scaled as a floating point number and then
    rounded. -/
def microsecondsOfFloat (x : Float) : Except MomentFault Int :=
  match Number.Parts.ofFloat x with
  | .nan => .error .notANumber
  | .infinite _ => .error .outOfRange
  | .finite negative m q =>
    let whole : Nat := if 0 ≤ q then m <<< q.toNat else m >>> (-q).toNat
    let sign : Int := if negative then -1 else 1
    if 0x8000000000000000 ≤ whole then .error .outOfRange
    else
      let fraction := x.abs - Float.ofNat whole
      let micro : Nat := match Number.Parts.ofFloat (fraction * 1000000.0) with
        | .finite _ m q => roundHalfEven m q
        | _ => 0
      .ok (sign * Int.ofNat (whole * 1000000 + micro))

/-- The point in time of a number of seconds since the beginning of 1970. -/
def Moment.ofSeconds (d : Datum) : Except MomentFault Moment := do
  let n ← match d with
    | .float x => microsecondsOfFloat x
    | .int n =>
      if -0x8000000000000000 ≤ n && n < 0x8000000000000000 then .ok (n * 1000000) else .error .outOfRange
    | .bool b => .ok (if b then 1000000 else 0)
    | d => .error (.wrongType d.typeName)
  let m := Moment.ofMicroseconds n
  if 1 ≤ m.year && m.year ≤ 9999 then .ok m else .error (.year m.year)

/-! ## Records -/

/-- What a report says about a patch. -/
structure PatchEntry where
  id : Datum
  member : Datum
  timestamp : Datum
  previous : Datum
  prefixHook : Datum
  postfixHook : Datum
  replaceHook : Datum
  metadata : Datum
  allowUnsafeInjection : Datum

/-- What a report says about an injection. -/
structure InjectionEntry where
  id : Datum
  member : Datum
  timestamp : Datum
  previous : Datum
  code : Datum
  line : Datum
  loc : Datum
  source : Datum

/-- Why a report can not be made. -/
inductive ReportFault
  | moment (f : MomentFault)
  /-- The metadata of a patch are no dictionary but of the named type. -/
  | metadata (typeName : String)
  /-- A choice can not be written. -/
  | choice (c : Choice)
deriving DecidableEq, Repr

/-- How a report is put together. -/
structure ReportForm (α : Type) where
  datum : Datum → Except ReportFault α
  /-- Text that is shown line by line. -/
  block : String → α
  record : List (String × α) → α
  list : List α → α

namespace Report

variable {α : Type}

/-- The text of a point in time. -/
def momentText (d : Datum) : Except ReportFault Datum :=
  match Moment.ofSeconds d with
  | .ok m => .ok (.str m.text)
  | .error f => .error (.moment f)

/-- What an object goes by: its qualified name, or else its name, or else its literal.  A name that
    counts as false is none. -/
def goesBy (qualname name : Datum) (literal : String) : Datum :=
  if qualname.isTrue then qualname else if name.isTrue then name else .str literal

/-- Metadata with keys and values as text. -/
def metadataText : Datum → Except ReportFault Datum
  | .dict es => .ok (.dict (es.foldl (fun acc (k, v) =>
      let v := if v.text?.isSome then v else .str v.repr
      Datum.setEntry (.str k.toText) v acc) []))
  | d => .error (.metadata d.typeName)

/-- A patch in a report. -/
def patch (form : ReportForm α) (p : PatchEntry) : Except ReportFault α := do
  let moment ← momentText p.timestamp
  let metadata ← metadataText p.metadata
  .ok (form.record [
    ("id", ← form.datum p.id), ("member", ← form.datum p.member),
    ("timestamp", ← form.datum moment), ("original", ← form.datum p.previous),
    ("hooks", form.record [
      ("prefix", ← form.datum p.prefixHook), ("postfix", ← form.datum p.postfixHook),
      ("replace", ← form.datum p.replaceHook)]),
    ("metadata", ← form.datum metadata),
    ("allow_unsafe_injection", ← form.datum p.allowUnsafeInjection)])

/-- A choice as its value, and any other datum as it is. -/
def plainChoice : Datum → Datum
  | .choice c => .str c.value
  | d => d

/-- An injection in a report. -/
def injection (form : ReportForm α) (i : InjectionEntry) : Except ReportFault α := do
  let moment ← momentText i.timestamp
  .ok (form.record [
    ("id", ← form.datum i.id), ("member", ← form.datum i.member),
    ("timestamp", ← form.datum moment), ("original", ← form.datum i.previous),
    ("spec", form.record [
      ("code", form.block i.code.toText), ("line", ← form.datum i.line),
      ("loc", ← form.datum (plainChoice i.loc))]),
    ("source", form.block i.source.toText)])

/-- A report on patches and injections. -/
def build (form : ReportForm α) (patches : List PatchEntry) (injections : List InjectionEntry) :
    Except ReportFault α := do
  let ps ← patches.mapM (patch form)
  let is ← injections.mapM (injection form)
  .ok (form.record [("patches", form.list ps), ("injections", form.list is)])

/-- A report as plain data. -/
def asDatum : ReportForm Datum :=
  { datum := .ok
    block := .str
    record := fun fs => .dict (fs.map fun (k, v) => (.str k, v))
    list := .list }

/-- A report as a document. -/
def asNode : ReportForm Yaml.Node :=
  { datum := fun d => match Yaml.Node.ofDatum d with
      | .ok n => .ok n
      | .error c => .error (.choice c)
    block := .block
    record := fun fs => .map (fs.map fun (k, v) => (.text k, v))
    list := .seq }

/-- The text of a document that any data make up. -/
def dump (d : Datum) : Except ReportFault String :=
  match Yaml.Node.ofDatum d with
  | .ok n => .ok n.document
  | .error c => .error (.choice c)

end Report

end Graft
