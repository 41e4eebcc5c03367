import Graft.Scope.Block

set_option autoImplicit false

/-! # Scopes

Decides for each name of each block where its value is kept: with the block itself, in a cell that
is shared with blocks inside, in a cell of a block around, or with the module. -/

namespace Graft.Scope

open Graft.Syntax

/-- Where the value of a name is kept. -/
inductive Place
  /-- With the block. -/
  | own
  /-- With the block, in a cell that blocks inside use too. -/
  | shared
  /-- In a cell of a block around. -/
  | captured
  /-- With the module, as declared. -/
  | declaredGlobal
  /-- With the module or the language, as nothing else is said. -/
  | assumedGlobal
deriving DecidableEq, Repr

end Scope

/-- A block whose names have places. -/
inductive Scope
  | mk (head : Scope.BlockHead) (places : List (String × Scope.Place)) (passed : List String)
      (classCell : Bool) (yields : Bool) (awaits : Bool) (children : List Scope)

namespace Scope

open Graft.Syntax

/-- What the block of a scope is called and where it stands. -/
def head : Scope → BlockHead
  | .mk h .. => h

/-- The scopes inside a scope. -/
def children : Scope → List Scope
  | .mk _ _ _ _ _ _ cs => cs

/-- The names of a scope with their places. -/
def places : Scope → List (String × Place)
  | .mk _ ps .. => ps

/-- The names that a class passes on from blocks around to blocks inside although they have another
    place in the class itself. -/
def passed : Scope → List String
  | .mk _ _ ps .. => ps

/-- Whether blocks inside a class refer to the class. -/
def hasClassCell : Scope → Bool
  | .mk _ _ _ c .. => c

/-- Whether a block yields. -/
def yields : Scope → Bool
  | .mk _ _ _ _ y _ _ => y

/-- Whether a comprehension waits. -/
def awaits : Scope → Bool
  | .mk _ _ _ _ _ a _ => a

/-- Where a name is kept. -/
def place? (s : Scope) (name : String) : Option Place :=
  (s.places.find? (·.1 == name)).map Prod.snd

/-- Puts a name into a sorted list, unless it is there. -/
def insertName (name : String) : List String → List String
  | [] => [name]
  | n :: ns => if name < n then name :: n :: ns else if name == n then n :: ns
    else n :: insertName name ns

/-- The names that a scope takes from blocks around, sorted. -/
def frees (s : Scope) : List String :=
  ((s.places.filter (·.2 == .captured)).map Prod.fst ++ s.passed).foldr insertName []

/-- The names in whose cells blocks inside share. -/
def cells (s : Scope) : List String := (s.places.filter (·.2 == .shared)).map Prod.fst

/-- The scope inside that stands at a place. -/
def child? (s : Scope) (sp : Span) (name : String) : Option Scope :=
  s.children.find? fun c => c.head.span == sp && c.head.name == name

/-- What is known of the names around a block: those that blocks around bind, unless there is none
    but the module, and those that they declare global. -/
structure Around where
  bound : Option (List String)
  globals : List String

/-- The names of a block that have been placed. -/
structure Placing where
  around : Around
  places : List (String × Place) := []
  /-- The names that the block binds. -/
  bound : List String := []
  /-- The names that it takes from blocks around. -/
  free : List String := []

/-- The fault of a declaration. -/
def declarationFault (declarations : List (String × Span)) (name message : String) : Fault :=
  match declarations.find? (·.1 == name) with
  | some (_, sp) => faultAt sp message
  | none => { message }

/-- Gives a name its place. -/
def Placing.place (p : Placing) (declarations : List (String × Span)) (s : Symbol) :
    Except Fault Placing :=
  let put (place : Place) : Placing := { p with places := p.places ++ [(s.name, place)] }
  let isAround : Bool := match p.around.bound with
    | some names => names.contains s.name
    | none => false
  if s.isGlobal then
    if s.isNonlocal then
      .error (declarationFault declarations s.name
        ("name " ++ inQuotes s.name ++ " is nonlocal and global"))
    else
      .ok { put .declaredGlobal with around := {
        bound := p.around.bound.map (·.filter (· != s.name))
        globals := s.name :: p.around.globals } }
  else if s.isNonlocal then
    if p.around.bound.isNone then
      .error (declarationFault declarations s.name
        "nonlocal declaration not allowed at module level")
    else if isAround then .ok { put .captured with free := s.name :: p.free }
    else
      .error (declarationFault declarations s.name
        ("no binding for nonlocal " ++ inQuotes s.name ++ " found"))
  else if s.isBound || s.isImported || s.isParam then
    .ok { put .own with
      bound := s.name :: p.bound
      around := { p.around with globals := p.around.globals.filter (· != s.name) } }
  else if isAround then .ok { put .captured with free := s.name :: p.free }
  else .ok (put .assumedGlobal)

/-- Gives all names of a block their places. -/
def Placing.placeAll (declarations : List (String × Span)) :
    Placing → List Symbol → Except Fault Placing
  | p, [] => .ok p
  | p, s :: ss => do Placing.placeAll declarations (← p.place declarations s) ss

/-- Names of blocks around that are bound there. -/
def Around.names (a : Around) : List String := a.bound.getD []

/-- What is known around the blocks inside a block. -/
def aroundChildren (kind : BlockKind) (around : Around) (p : Placing) : Around :=
  match kind with
  | .cls => { bound := some (classCell :: around.names), globals := around.globals }
  | .module => { bound := some p.around.names, globals := p.around.globals }
  | _ => { bound := some (p.bound ++ p.around.names), globals := p.around.globals }

/-- Finishes a block, given the names that blocks inside take from around them: says where names
    are kept and which names are left to blocks around. -/
def finish (head : BlockHead) (symbols : List Symbol) (around : Around) (p : Placing)
    (wanted : List String) (yields awaits : Bool) (children : List Scope) : Scope × List String :=
  let isFunction := match head.kind with
    | .function | .comprehension _ => true
    | _ => false
  let places := if isFunction then
      p.places.map fun (n, place) =>
        (n, if place == .own && wanted.contains n then .shared else place)
    else p.places
  let wanted := if isFunction then
      wanted.filter fun n => !(p.places.contains (n, .own))
    else wanted
  let needsClass := head.kind == .cls && wanted.contains classCell
  let wanted := if head.kind == .cls then wanted.filter (· != classCell) else wanted
  let unknown := wanted.filter fun n => !(symbols.any (·.name == n))
  let through := unknown.filter fun n => match around.bound with
    | some names => names.contains n
    | none => true
  let passed := if head.kind == .cls then
      wanted.filter fun n => symbols.any fun s => s.name == n
        && (s.isBound || s.isImported || s.isGlobal)
    else []
  let places := places ++ through.map fun n => (n, .captured)
  (.mk head places passed needsClass yields awaits children, p.free ++ wanted)

mutual

/-- The scope of a block, and the names that it takes from blocks around. -/
def ofBlock (around : Around) : Block → Except Fault (Scope × List String)
  | .mk head symbols declarations yields awaits blocks => do
    let p ← Placing.placeAll declarations { around } symbols
    let (children, wanted) ← ofBlocks (aroundChildren head.kind around p) blocks
    .ok (finish head symbols around p wanted.eraseDups yields awaits children)

/-- The scopes of blocks, and the names that they take from blocks around. -/
def ofBlocks (around : Around) : List Block → Except Fault (List Scope × List String)
  | [] => .ok ([], [])
  | b :: bs => do
    let (s, free) ← ofBlock around b
    let (ss, frees) ← ofBlocks around bs
    .ok (s :: ss, free ++ frees)

end

/-- The scope of a module. -/
def ofModule (body : List Stmt) : Except Fault Scope := do
  let block ← Block.ofModule body
  let (scope, _) ← ofBlock { bound := none, globals := [] } block
  .ok scope

end Scope

end Graft
