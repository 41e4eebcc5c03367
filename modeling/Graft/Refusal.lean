import Graft.Journal
import Graft.Report
import Graft.Splice.Fragment
import Graft.Syntax.Printer.Statement

set_option autoImplicit false

/-! # Refusals

Why a patch or an injection is refused.  Each cause belongs to a class of errors, and the classes
inherit from each other.  A few causes belong to none of these classes, because they come about
where text is read or settings are looked up. -/

namespace Graft

/-- The classes of errors. -/
inductive ErrorClass
  | general
  | invalidTarget
  | spec
  | missingField
  | sourceSyntax
  | unsupportedShape
  | permissionDenied
  | assignment
deriving DecidableEq, Repr

namespace ErrorClass

/-- All classes of errors. -/
def all : List ErrorClass := [.general, .invalidTarget, .spec, .missingField, .sourceSyntax,
  .unsupportedShape, .permissionDenied, .assignment]

/-- What a class is called. -/
def name : ErrorClass → String
  | .general => "HotspliceError"
  | .invalidTarget => "InvalidTargetError"
  | .spec => "SpecError"
  | .missingField => "MissingFieldError"
  | .sourceSyntax => "SourceSyntaxError"
  | .unsupportedShape => "UnsupportedShapeError"
  | .permissionDenied => "PermissionDeniedError"
  | .assignment => "AssignmentError"

/-- The class of a name. -/
def ofName? (s : String) : Option ErrorClass := all.find? (·.name == s)

/-- The class that a class inherits from. -/
def parent? : ErrorClass → Option ErrorClass
  | .general => none
  | .missingField => some .spec
  | _ => some .general

/-- The names of a class and of those it inherits from. -/
def lineage : ErrorClass → List String
  | .general => ["HotspliceError", "Exception"]
  | .missingField => ["MissingFieldError", "SpecError", "HotspliceError", "Exception"]
  | .sourceSyntax => ["SourceSyntaxError", "HotspliceError", "SyntaxError", "Exception"]
  | c => [c.name, "HotspliceError", "Exception"]

end ErrorClass

/-- Causes of refusal. -/
inductive Refusal
  /-- There is no target. -/
  | noTarget
  /-- No member is named. -/
  | noMember
  /-- The target has no such member. -/
  | missingMember (member : String)
  /-- The member can not be called. -/
  | notCallable (member typeName : String)
  /-- There is no patch. -/
  | noPatch
  /-- A hook can not be called. -/
  | hookNotCallable (hook typeName : String)
  /-- There is a patch with the wanted identifier. -/
  | duplicateId (literal : String)
  /-- There is no injection. -/
  | noInjection
  | noLine
  | noLocation
  | noCode
  /-- A line is no positive whole number. -/
  | badLine (literal : String)
  | badLocation (literal : String)
  /-- The function is marked as refusing injections. -/
  | forbidden (member : String)
  /-- Things of the named type have no program text. -/
  | noSource (member typeName : String)
  /-- An anonymous function consists of an expression only. -/
  | anonymous (member : String)
  /-- The program text can not be had. -/
  | sourceUnavailable (member reason : String)
  /-- Program text can not be read. -/
  | fragment (f : Splice.FragmentFault)
  /-- The new program text can not be compiled. -/
  | doesNotCompile (source : List Char) (f : Syntax.Fault)
  /-- The new program text defines no such name. -/
  | undefinedName (literal : String)
  /-- The new function takes variables from functions around that the old one does not take. -/
  | lacksVariables (qualname : String) (names : List String)
  /-- The target has refused the replacement by raising something of the named class. -/
  | writeRefused (member reason cls : String)
  /-- The owner of a method has a name that no class can have. -/
  | ownerName (f : Syntax.Rejection)
  /-- The new program text can not be written down. -/
  | unprintable (f : Syntax.PrintFault)
  /-- A setting can not be had. -/
  | settings (f : SettingsFault)
  /-- No identifier can be handed out. -/
  | identifier (f : Register.ReserveFault)
  /-- The program that a session begins with can not be read or compiled. -/
  | program (file : String) (f : Syntax.Rejection)
  /-- A report can not be made. -/
  | unreportable (f : ReportFault)
deriving DecidableEq, Repr

namespace Refusal

/-- The class that a cause belongs to. -/
def cls? : Refusal → Option ErrorClass
  | .noTarget | .missingMember _ | .notCallable _ _ => some .invalidTarget
  | .noMember | .noPatch | .noInjection | .noLine | .noLocation | .noCode => some .missingField
  | .hookNotCallable _ _ | .duplicateId _ | .badLine _ | .badLocation _ => some .spec
  | .forbidden _ => some .permissionDenied
  | .noSource _ _ | .anonymous _ | .sourceUnavailable _ _ | .undefinedName _
  | .lacksVariables _ _ | .fragment (.notDefinition _) => some .unsupportedShape
  | .fragment (.malformed _ _ _) | .doesNotCompile _ _ => some .sourceSyntax
  | .writeRefused _ _ _ => some .assignment
  | .fragment (.tooDeep) | .fragment (.unreadable _) | .ownerName _ | .unprintable _ | .settings _
  | .identifier _ | .program _ _ | .unreportable _ => none

/-- What is said first about a fragment that is malformed. -/
def fragmentLead : Splice.FragmentKind → String
  | .definition => "unable to parse function source: "
  | .snippet => "unable to parse injected code: "

/-- What is said about a cause that belongs to a class, without a place in a text. -/
def message : Refusal → String
  | .noTarget => "Target object 'target' cannot be None"
  | .noMember => "Member name cannot be None"
  | .missingMember m => "target[" ++ m ++ "] does not exist"
  | .notCallable m t => "target[" ++ m ++ "] is not a function -- actual type is " ++ t
  | .noPatch => "Patch cannot be None"
  | .hookNotCallable h t => "patch." ++ h ++ " must be callable, got " ++ t
  | .duplicateId i => "patch id " ++ i ++ " is already registered"
  | .noInjection => "Injection spec cannot be None"
  | .noLine => "spec.line cannot be None"
  | .noLocation => "spec.loc cannot be None"
  | .noCode => "spec.code cannot be empty"
  | .badLine l => "spec.line must be a positive integer, got " ++ l
  | .badLocation l => "spec.loc must be 'before' or 'after', got " ++ l
  | .forbidden m => "Function " ++ m ++ " has prohibited injection via no_inject"
  | .noSource m t => "cannot inject into " ++ m ++ ": " ++ t ++ " has no Python source"
  | .anonymous m => "cannot inject into " ++ m ++ ": lambdas have no statement block"
  | .sourceUnavailable m r =>
    "cannot inject into " ++ m ++ ": source is unavailable (" ++ r ++ ")"
  | .fragment (.malformed kind _ f) => fragmentLead kind ++ f.message
  | .fragment (.notDefinition found) =>
    "cannot inject into " ++ found.getD "empty source"
      ++ ": only def/async def with a statement block are supported"
  | .doesNotCompile _ f => "regenerated source does not compile: " ++ f.message
  | .undefinedName l => "regenerated source does not define " ++ l
  | .lacksVariables q names =>
    "regenerated " ++ q ++ " needs closure variables the original does not have: "
      ++ ", ".intercalate names
  | .writeRefused m r _ => "failed to assign replacement to target[" ++ m ++ "]: " ++ r
  | .fragment (.tooDeep) | .fragment (.unreadable _) | .ownerName _ | .unprintable _ | .settings _
  | .identifier _ | .program _ _ | .unreportable _ => ""

/-- The member that a cause is about. -/
def member? : Refusal → Option String
  | .missingMember m | .notCallable m _ | .forbidden m | .noSource m _ | .anonymous m
  | .sourceUnavailable m _ | .writeRefused m _ _ => some m
  | _ => none

/-- The type that a member has instead of a callable one. -/
def actualType? : Refusal → Option String
  | .missingMember _ => some "missing"
  | .notCallable _ t => some t
  | _ => none

/-- The field that a cause is about. -/
def field? : Refusal → Option String
  | .noMember => some "member"
  | .noPatch => some "patch"
  | .hookNotCallable h _ => some ("patch." ++ h)
  | .duplicateId _ => some "patch.id"
  | .noInjection => some "spec"
  | .noLine | .badLine _ => some "spec.line"
  | .noLocation | .badLocation _ => some "spec.loc"
  | .noCode => some "spec.code"
  | _ => none

/-- The text that a cause is about, with the place in it. -/
def place? : Refusal → Option (List Char × Syntax.Fault)
  | .fragment (.malformed _ source f) => some (source, f)
  | .doesNotCompile source f => some (source, f)
  | _ => none

/-- The class of what a target has raised to refuse a replacement. -/
def causeClass? : Refusal → Option String
  | .writeRefused _ _ cls => some cls
  | _ => none

/-- What is said about a cause that belongs to a class, with the line if there is one. -/
def text (r : Refusal) : String :=
  match r.place?.bind fun p => p.2.line with
  | some n => r.message ++ " (line " ++ toString n ++ ")"
  | none => r.message

end Refusal

end Graft
