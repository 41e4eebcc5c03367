import Graft.Code.Instruction

set_option autoImplicit false

/-! # Binding arguments to parameters

Arguments by position are bound first, then those by keyword, and then defaults fill what is left.
Nothing here depends on what arguments are. -/

namespace Graft.Code

/-- Why arguments do not fit parameters. -/
inductive BindFault
  /-- There is no parameter of the name. -/
  | unexpected (name : String)
  /-- Parameters are given by name that can only be given by position. -/
  | positionalOnly (names : List String)
  /-- A parameter is given twice. -/
  | duplicate (name : String)
  /-- More arguments are given by position than there are parameters for them: how many parameters
      there are, how many of them have defaults, how many arguments are given by position and how
      many for keyword-only parameters. -/
  | tooMany (params defaults given keywordOnlyGiven : Nat)
  /-- Parameters by position are not given. -/
  | missing (names : List String)
  /-- Keyword-only parameters are not given. -/
  | missingKeywordOnly (names : List String)
deriving DecidableEq, Repr

/-- The arguments of a call by parameter. -/
structure Binding (α : Type) where
  /-- The arguments for parameters with a name of their own. -/
  named : List (String × α) := []
  /-- The arguments by position that are left. -/
  rest : List α := []
  /-- The arguments by keyword that are left. -/
  extra : List (String × α) := []

namespace Binding

variable {α : Type}

/-- Whether a parameter has its argument. -/
def has (b : Binding α) (name : String) : Bool := b.named.any (·.1 == name)

/-- Binds an argument by keyword. -/
def keyword (s : Signature) (keywords : List (String × α)) (b : Binding α) (name : String) (v : α) :
    Except BindFault (Binding α) :=
  if (s.plain ++ s.keywordOnly).contains name then
    if b.has name then .error (.duplicate name)
    else .ok { b with named := b.named ++ [(name, v)] }
  else if s.doubleStar.isSome then .ok { b with extra := b.extra ++ [(name, v)] }
  else
    match s.posOnly.filter fun p => keywords.any (·.1 == p) with
    | [] => .error (.unexpected name)
    | names => .error (.positionalOnly names)

/-- Binds arguments by keyword one after the other. -/
def keywordsAll (s : Signature) (all : List (String × α)) :
    Binding α → List (String × α) → Except BindFault (Binding α)
  | b, [] => .ok b
  | b, (name, v) :: rest => do keywordsAll s all (← b.keyword s all name v) rest

/-- Fills parameters by position from their defaults, which belong to the last ones. -/
def fill (names : List String) (defaults : List α) (b : Binding α) : Binding α :=
  let optional := names.drop (names.length - defaults.length)
  let values := defaults.drop (defaults.length - names.length)
  { b with named := b.named ++ (optional.zip values).filter fun (n, _) => !b.has n }

/-- Binds the arguments of a call. -/
def ofCall (s : Signature) (defaults : List α) (keywordDefaults : List (String × α))
    (positional : List α) (keywords : List (String × α)) : Except BindFault (Binding α) := do
  let names := s.positional
  let given := positional.length
  let b : Binding α := { named := names.zip positional, rest := positional.drop names.length }
  let b ← keywordsAll s keywords b keywords
  if names.length < given && s.star.isNone then
    .error (.tooMany names.length defaults.length given (s.keywordOnly.countP b.has))
  else
    let b := b.fill names defaults
    match names.filter (!b.has ·) with
    | n :: ns => .error (.missing (n :: ns))
    | [] =>
      let b := { b with
        named := b.named ++ keywordDefaults.filter fun (n, _) =>
          s.keywordOnly.contains n && !b.has n }
      match s.keywordOnly.filter (!b.has ·) with
      | n :: ns => .error (.missingKeywordOnly (n :: ns))
      | [] => .ok b

end Binding

/-! ## What is said -/

/-- A name in quotes. -/
def quotedName (name : String) : String := "'" ++ name ++ "'"

/-- Names in quotes as an enumeration. -/
def enumeration (names : List String) : String :=
  match names.map quotedName with
  | [a, b] => a ++ " and " ++ b
  | ns =>
    match ns.reverse with
    | [] => ""
    | [a] => a
    | last :: before => ", ".intercalate before.reverse ++ ", and " ++ last

/-- The ending of a plural. -/
def plural (n : Nat) : String := if n == 1 then "" else "s"

/-- What is said about arguments that do not fit, in a call of the named function. -/
def BindFault.message (function : String) (f : BindFault) : String :=
  function ++ "() " ++ match f with
    | .unexpected name => "got an unexpected keyword argument " ++ quotedName name
    | .positionalOnly names =>
      "got some positional-only arguments passed as keyword arguments: '"
        ++ ", ".intercalate names ++ "'"
    | .duplicate name => "got multiple values for argument " ++ quotedName name
    | .tooMany params defaults given keywordOnly =>
      let (expected, ending) : String × String :=
        if defaults == 0 then (toString params, plural params)
        else
          ("from " ++ toString ((params : Int) - defaults) ++ " to " ++ toString params, "s")
      let also := if keywordOnly == 0 then "" else
        " positional argument" ++ plural given ++ " (and " ++ toString keywordOnly
          ++ " keyword-only argument" ++ plural keywordOnly ++ ")"
      "takes " ++ expected ++ " positional argument" ++ ending ++ " but " ++ toString given ++ also
        ++ (if given == 1 && keywordOnly == 0 then " was" else " were") ++ " given"
    | .missing names =>
      "missing " ++ toString names.length ++ " required positional argument" ++ plural names.length
        ++ ": " ++ enumeration names
    | .missingKeywordOnly names =>
      "missing " ++ toString names.length ++ " required keyword-only argument"
        ++ plural names.length ++ ": " ++ enumeration names

end Graft.Code
