set_option autoImplicit false

/-! # Private names

A name with two underscores in front and not two behind is private to the class whose body it
stands in: it is lengthened by the name of that class. -/

namespace Graft.Scope

/-- Whether a name begins with two underscores and does not end with two. -/
def isPrivate (name : List Char) : Bool :=
  match name with
  | '_' :: '_' :: rest =>
    !((rest.reverse.take 2) == ['_', '_']) && !(rest == ['_']) && !rest.isEmpty && !name.contains '.'
  | _ => false

/-- What a class adds to the front of its private names: its own name behind one underscore, without
    the underscores it begins with.  A class whose name is all underscores adds nothing. -/
def privateLead (owner : List Char) : List Char :=
  match owner.dropWhile (· == '_') with
  | [] => []
  | cs => '_' :: cs

/-- A name as it is known in the body of a class, if it stands in one. -/
def mangle (owner : Option String) (name : String) : String :=
  match owner with
  | none => name
  | some cls =>
    if isPrivate name.toList then String.ofList (privateLead cls.toList ++ name.toList) else name

end Graft.Scope
