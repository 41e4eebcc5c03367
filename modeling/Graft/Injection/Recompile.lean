import Graft.Code.Statement
import Graft.Machine.Attribute
import Graft.Target

set_option autoImplicit false

/-! # Compiling a definition anew

The text of a definition is compiled in the surroundings that its names need: inside a function
whose parameters are the variables that the old function takes from functions around, and, for a
method, inside a class that is called like the method's owner, since private names depend on that.
The surroundings never run.  What is compiled is bound to the cells of the old function by name. -/

namespace Graft.Injection

open Graft.Machine Graft.Syntax

/-- What the function around the definition is called. -/
def factoryName : String := "__hotsplice_factory__"

/-- The class that a method belongs to, as its qualified name tells. -/
def ownerName? (qualname : String) : Option String :=
  match (qualname.toList.splitOn '.').reverse with
  | _ :: owner :: _ =>
    if owner == "<locals>".toList then none else some (String.ofList owner)
  | _ => none

/-! ## Surroundings -/

/-- Whether a text is a name that program text can use. -/
def isPlainName (name : String) : Bool :=
  Text.isIdentifier name.toList && !keywords.contains name

/-- The parameters of the surroundings, the first of which begins at a column. -/
def freeParameters : Nat → List String → List DefaultParameter
  | _, [] => []
  | column, n :: ns =>
    .mk (.mk ⟨1, column, 1, column + n.utf8ByteSize⟩ n none) none
      :: freeParameters (column + n.utf8ByteSize + 2) ns

/-- The column at which the parameters of the surroundings begin. -/
def parameterColumn : Nat := "def ".length + factoryName.length + "(".length

/-- A definition in its surroundings. -/
def surrounded (frees : List String) (owner : Option String) (node : Stmt) : Stmt :=
  let params : Parameters := .mk [] (freeParameters parameterColumn frees) none [] none
  match owner with
  | none => .functionDef ⟨1, 0, 2, 8⟩ false factoryName params [node] [] none
  | some owner =>
    .functionDef ⟨1, 0, 3, 12⟩ false factoryName params
      [.classDef ⟨2, 4, 3, 12⟩ owner [] [] [node] []] [] none

/-- The text of the surroundings of a definition. -/
def surroundingsText (frees : List String) (owner : Option String) : String :=
  "def " ++ factoryName ++ "(" ++ ", ".intercalate frees ++ "):\n" ++ match owner with
    | none => "    pass\n"
    | some owner => "    class " ++ owner ++ ":\n        pass\n"

/-- Puts a definition into the innermost block of surroundings that have been read. -/
def enclose (node : Stmt) (hasOwner : Bool) : List Stmt → List Stmt
  | .functionDef sp isAsync name params body decorators returns :: _ =>
    let body := match hasOwner, body with
      | true, .classDef sp name bases keywords _ decorators :: _ =>
        [.classDef sp name bases keywords [node] decorators]
      | _, _ => [node]
    [.functionDef sp isAsync name params body decorators returns]
  | ss => ss

/-- The code of a name inside some code. -/
def codeOf (code : Code) (name : String) : Except Refusal Code :=
  match code.innerNamed? name with
  | some c => .ok c
  | none => .error (.undefinedName (Data.Datum.quoteText name))

/-- The code of a definition's surroundings, if they compile. -/
def codeOfModule (source : List Char) (file : String) (body : List Stmt) : Except Refusal Code :=
  (Code.ofModule file body).mapError (.doesNotCompile source)

/-- Compiles a definition in surroundings that consist of names. -/
def compileSurrounded (source : List Char) (d : Splice.Definition) (frees : List String)
    (owner : Option String) (name file : String) : Except Refusal Code := do
  let code ← codeOf (← codeOfModule source file [surrounded frees owner d.toStmt]) factoryName
  match owner with
  | some owner => codeOf (← codeOf code owner) name
  | none => codeOf code name

/-- Compiles a definition in surroundings whose owner is no name.  If it can be read at all, there
    is nothing that is called like the owner in the end. -/
def compileMisnamed (source : List Char) (d : Splice.Definition) (frees : List String)
    (owner : Option String) (file : String) : Except Refusal Code := do
  match parseModule (surroundingsText frees owner).toList with
  | .ok around => do
    let _ ← codeOfModule source file (enclose d.toStmt owner.isSome around)
    .error (.undefinedName (Data.Datum.quoteText (owner.getD factoryName)))
  | .error r => .error (.ownerName r)

/-- Compiles the text of a definition. -/
def compile (source : List Char) (frees : List String) (owner : Option String)
    (name file : String) : Except Refusal Code := do
  let d ← (Splice.parseDefinition source).mapError .fragment
  if (frees ++ owner.toList).all isPlainName then compileSurrounded source d frees owner name file
  else compileMisnamed source d frees owner file

/-- The cells for the variables that new code takes from functions around, by name. -/
def bindCells (f : Function) (code : Code) : Except Refusal (List (String × Ref)) :=
  let cells := f.closure
  let has (n : String) : Bool := cells.any (·.1 == n)
  match code.info.frees.filter (!has ·) with
  | [] => .ok (code.info.frees.filterMap fun n => cells.find? (·.1 == n))
  | names => .error (.lacksVariables f.qualname names)

/-- The part that logs. -/
def compilerLogger : String := "inject.compiler"

/-- The entries of a function's annotations. -/
def annotationEntries (call : Caller) (old : Value) : Run (List Entry) := do
  match (← World.getAttr call old "__annotations__") with
  | .thing d => Run.read (·.entriesOf d)
  | _ => return []

/-- A function like another one, with code of its own. -/
def replica (call : Caller) (old : Value) (r : Ref) (f : Function) (code : Code)
    (closure : List (String × Ref)) : Run Value := do
  let annotations ← Run.new (.dict (← annotationEntries call old))
  let table ← Run.read (·.table r)
  Run.newValue (.function { f with
    behaviour := .code code, closure, annotations := some annotations }) table

/-- Registers the text that stands for a file, if that is wanted. -/
def registerText (wanted : Bool) (file source : String) : Run Unit :=
  if wanted then modify fun w => { w with sources := w.sources.register file source }
  else return ()

/-- Makes a function from the text of a definition that stands in for another function. -/
def materialize (call : Caller) (source : String) (old : Value) (r : Ref) (f : Function)
    (file : String) (register : Bool) : Attempt Value := do
  let code ← ExceptT.mk
    (pure (compile source.toList f.frees (ownerName? f.qualname) f.codeName file))
  let closure ← ExceptT.mk (pure (bindCells f code))
  let v ← replica call old r f code closure
  registerText register file source
  Run.log .debug compilerLogger ("Materialized " ++ f.qualname ++ " from " ++ file)
  return v

end Graft.Injection
