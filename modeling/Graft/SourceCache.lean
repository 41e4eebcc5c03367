import Graft.Text.Lines

set_option autoImplicit false

/-! # The source cache

Program text by file name, cut into lines.  Text of a file is out of date once the file has changed;
text that has been registered belongs to no file and is never out of date. -/

namespace Graft

/-- Program text that is kept. -/
structure SourceEntry where
  /-- The number of characters. -/
  size : Nat
  /-- When the file was changed last that the text has been read from, if it is from one. -/
  modified : Option Int := none
  /-- The lines with their ends. -/
  lines : List String
deriving DecidableEq, Repr

/-- The entry of a text, whose last line is ended if it is not. -/
def SourceEntry.ofText (source : String) : SourceEntry :=
  let cs := source.toList
  let cs := if cs.getLast? == some '\n' then cs else cs ++ ['\n']
  { size := cs.length, lines := (Text.linesWithEnds cs).map String.ofList }

/-- A line by its number, empty where there is none. -/
def SourceEntry.line (e : SourceEntry) (n : Int) : String :=
  if 1 ≤ n then (e.lines[(n - 1).toNat]?).getD "" else ""

/-- What is known of a file. -/
structure FileStatus where
  size : Nat
  modified : Int
deriving DecidableEq, Repr

/-- Whether the text of a file is what the file holds now.  Text of no file always is. -/
def SourceEntry.isCurrent (e : SourceEntry) (file : Option FileStatus) : Bool :=
  match e.modified, file with
  | none, _ => true
  | some _, none => false
  | some time, some file => e.size == file.size && time == file.modified

/-- Registered texts by file name. -/
structure SourceCache where
  entries : List (String × SourceEntry) := []
deriving DecidableEq, Repr

namespace SourceCache

/-- The text registered under a name. -/
def get? (c : SourceCache) (name : String) : Option SourceEntry :=
  (c.entries.find? (·.1 == name)).map Prod.snd

/-- Registers a text under a name, in place of what was there before. -/
def register (c : SourceCache) (name source : String) : SourceCache :=
  { entries := (name, SourceEntry.ofText source) :: c.entries.filter (·.1 != name) }

/-- Gives up the texts that are out of date. -/
def check (c : SourceCache) (status : String → Option FileStatus) : SourceCache :=
  { entries := c.entries.filter fun (name, e) => e.isCurrent (status name) }

end SourceCache

end Graft
