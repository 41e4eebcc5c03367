import Graft.Code.Instruction
import Graft.Scope.Resolve

set_option autoImplicit false

/-! # Where a piece of program stands

What the instructions for a piece of program depend on besides the piece itself: the scope it stands
in, how deep in definitions that is, and whether there is a loop around. -/

namespace Graft.Code

open Graft.Syntax Graft.Machine

/-- Where a piece of program stands. -/
structure Context where
  file : String
  scope : Scope
  kind : CodeKind
  isAsync : Bool := false
  /-- The name of the definition around, with the names of those around it. -/
  qualname : String := ""
  /-- The class that private names belong to. -/
  owner : Option String := none
  inLoop : Bool := false

namespace Context

/-- A name as it is known here. -/
def known (c : Context) (name : String) : String := Scope.mangle c.owner name

/-- Whether the code here is a function's, of whichever kind. -/
def inFunction (c : Context) : Bool :=
  match c.kind with
  | .function | .lambda | .comprehension => true
  | _ => false

/-- Where a name is read. -/
def loadHome (c : Context) (name : String) : Home :=
  match c.kind, c.scope.place? name with
  | .module, _ => .global
  | .cls, some .captured => .tableOrCell
  | .cls, some .declaredGlobal => .global
  | .cls, _ => .table
  | _, some .own => .own
  | _, some .shared | _, some .captured => .cell
  | _, _ => .global

/-- Where a name is bound. -/
def storeHome (c : Context) (name : String) : Home :=
  match c.loadHome name with
  | .tableOrCell => .cell
  | h => h

/-- What a definition here is called with the names of those around it. -/
def qualnameOf (c : Context) (name : String) : String :=
  match c.kind with
  | .module => name
  | .cls => if c.qualname.isEmpty then name else c.qualname ++ "." ++ name
  | _ => c.qualname ++ ".<locals>." ++ name

/-- What a named definition here is called; one whose name is declared global is called as if it
    stood in the module. -/
def qualnameOfDefinition (c : Context) (name : String) : String :=
  if c.kind != .module && c.scope.place? (c.known name) == some .declaredGlobal then name
  else c.qualnameOf name

/-- The scope of a definition that stands here. -/
def scopeAt (c : Context) (sp : Span) (name : String) (kind : Scope.BlockKind) : Scope :=
  (c.scope.child? sp name).getD (.mk ⟨kind, name, sp⟩ [] [] false false false [])

/-- The place inside a definition. -/
def inside (c : Context) (scope : Scope) (kind : CodeKind) (isAsync : Bool) (qualname : String) :
    Context :=
  { file := c.file, scope, kind, isAsync, qualname, owner := c.owner }

end Context

/-- A fault at the start of a span. -/
def failAt {α : Type} (sp : Span) (message : String) : Except Fault α :=
  .error (Scope.faultAt sp message)

/-- The name that can not be bound. -/
def unboundable : String := "__debug__"

/-- Refuses to bind the name that can not be bound. -/
def checkBindable (sp : Span) (name : String) : Except Fault Unit :=
  if name == unboundable then failAt sp ("cannot assign to " ++ unboundable) else .ok ()

/-- Reads a name. -/
def loadName (c : Context) (name : String) : Instr :=
  let name := c.known name
  .load (c.loadHome name) name

/-- Binds a name. -/
def storeName (c : Context) (sp : Span) (name : String) : Except Fault (List Instr) := do
  checkBindable sp name
  let name := c.known name
  .ok [.store (c.storeHome name) name]

/-- Unbinds a name. -/
def deleteName (c : Context) (sp : Span) (name : String) : Except Fault (List Instr) :=
  if name == unboundable then failAt sp ("cannot delete " ++ unboundable)
  else
    let name := c.known name
    .ok [.delete (c.storeHome name) name]

/-- The value of a literal. -/
def literal : Constant → Instr
  | .none => .push .none
  | .true => .push (.bool true)
  | .false => .push (.bool false)
  | .ellipsis => .push .ellipsis
  | .int n => .push (.int n)
  | .float x => .push (.float x)
  | .imaginary _ => .missing "imaginary numbers"
  | .str cs _ => .push (.str (String.ofList cs))
  | .bytes bs => .push (.bytes bs)

/-- The names of parameters as they are known here. -/
def signatureOf (c : Context) : Parameters → Signature
  | .mk posOnly plain star keywordOnly doubleStar =>
    let one : Parameter → String := fun p => c.known p.name
    let defaulted : DefaultParameter → String := fun
      | .mk p _ => one p
    { posOnly := posOnly.map defaulted, plain := plain.map defaulted, star := star.map one,
      keywordOnly := keywordOnly.map defaulted, doubleStar := doubleStar.map one }

/-- Refuses a parameter whose name can not be bound. -/
def checkParameters (sp : Span) : Parameters → Except Fault Unit
  | .mk posOnly plain star keywordOnly doubleStar =>
    let defaulted : DefaultParameter → String := fun
      | .mk p _ => p.name
    let names := posOnly.map defaulted ++ plain.map defaulted ++ keywordOnly.map defaulted
      ++ star.toList.map Parameter.name ++ doubleStar.toList.map Parameter.name
    if names.contains unboundable then checkBindable sp unboundable else .ok ()

/-- The names of the keyword-only parameters that have defaults. -/
def keywordDefaultNames (c : Context) : Parameters → List String
  | .mk _ _ _ keywordOnly _ => keywordOnly.filterMap fun
    | .mk p (some _) => some (c.known p.name)
    | .mk _ none => none

/-- The number of defaults for parameters by position. -/
def defaultCount : Parameters → Nat
  | .mk posOnly plain _ _ _ => (posOnly ++ plain).countP fun
    | .mk _ d => d.isSome

/-- The parameters that have a type, in the order in which the types are evaluated. -/
def typedParameters : Parameters → List (String × Expr)
  | .mk posOnly plain star keywordOnly doubleStar =>
    let one : Parameter → Option (String × Expr) := fun
      | .mk _ name (some hint) => some (name, hint)
      | .mk _ _ none => none
    let defaulted : DefaultParameter → Option (String × Expr) := fun
      | .mk p _ => one p
    plain.filterMap defaulted ++ posOnly.filterMap defaulted ++ star.toList.filterMap one
      ++ keywordOnly.filterMap defaulted ++ doubleStar.toList.filterMap one

/-- Whether an expression is starred. -/
def isStarred : Expr → Bool
  | .starred .. => true
  | _ => false

/-- Whether a keyword argument is a mapping that is unpacked. -/
def isUnpacked : Keyword → Bool
  | .mk _ none _ => true
  | .mk _ (some _) _ => false

/-- The name of a keyword argument. -/
def keywordName : Keyword → String
  | .mk _ name _ => name.getD ""

/-- Refuses a keyword argument that is there twice or whose name can not be bound. -/
def checkKeywords : List Keyword → Except Fault Unit
  | [] => .ok ()
  | .mk _ none _ :: rest => checkKeywords rest
  | .mk sp (some name) _ :: rest => do
    checkBindable sp name
    match rest.find? (fun k => !isUnpacked k && keywordName k == name) with
    | some k => failAt k.span ("keyword argument repeated: " ++ name)
    | none => checkKeywords rest

end Graft.Code
