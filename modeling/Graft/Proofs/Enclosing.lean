import Graft.Proofs.Compile

set_option autoImplicit false

/-! # The class around a definition

The class that a definition stands in is guessed from the definition's qualified name.  The guess is
right for a definition that stands directly in the body of a class, unless its name is declared
global there.  For all others no class is guessed, also if there is one further out. -/

namespace Graft.Code

open Graft.Injection Graft.Syntax

/-! ## Places in a module -/

/-- The places inside the definitions of a module, one inside the other. -/
inductive Reached : Context → Prop
  | module (file : String) (scope : Scope) : Reached { file, scope, kind := .module }
  | loop {c : Context} (h : Reached c) : Reached { c with inLoop := true }
  | function {c : Context} (h : Reached c) (sp : Span) (name : String) (isAsync : Bool) :
    Reached (c.ofFunction sp name isAsync)
  | cls {c : Context} (h : Reached c) (sp : Span) (name : String)
    (hname : isPlainName name = true) : Reached (c.ofClass sp name)

/-- A definition here stands directly in the body of a class, where its name is not declared
    global. -/
def Context.IsClassOf (c : Context) (name : String) : Prop :=
  c.kind = .cls ∧ c.scope.place? (c.known name) ≠ some .declaredGlobal

instance (c : Context) (name : String) : Decidable (c.IsClassOf name) :=
  inferInstanceAs (Decidable (_ ∧ _))

/-! ## Qualified names -/

/-- The names that a qualified name consists of. -/
def pieces (qualname : String) : List (List Char) := qualname.toList.splitOn '.'

theorem dot_notMem {name : String} (h : isPlainName name = true) : '.' ∉ name.toList := by
  have hdot : Text.isIdentifierStart '.' = false ∧ Text.isIdentifierContinue '.' = false := by decide
  unfold isPlainName at h
  rw [Bool.and_eq_true] at h
  obtain ⟨hname, -⟩ := h
  intro hmem
  cases hchars : name.toList with
  | nil => simp [hchars] at hmem
  | cons ch chars =>
    rw [hchars, Text.isIdentifier, Bool.and_eq_true, List.all_eq_true] at hname
    rw [hchars] at hmem
    rcases List.mem_cons.1 hmem with rfl | hmem
    · simp [hdot.1] at hname
    · simpa [hdot.2] using hname.2 _ hmem

theorem plain_ne {name : String} (h : isPlainName name = true) : name ≠ "" ∧ name ≠ "<locals>" := by
  have hother : isPlainName "" = false ∧ isPlainName "<locals>" = false := by decide +kernel
  constructor
  · rintro rfl
    simp [hother.1] at h
  · rintro rfl
    simp [hother.2] at h

theorem pieces_plain {name : String} (h : isPlainName name = true) :
    pieces name = [name.toList] :=
  List.splitOn_eq_singleton (dot_notMem h)

theorem pieces_member (qualname : String) {name : String} (h : isPlainName name = true) :
    pieces (qualname ++ "." ++ name) = pieces qualname ++ [name.toList] := by
  have hchars : (qualname ++ "." ++ name).toList = qualname.toList ++ '.' :: name.toList := by simp
  rw [pieces, hchars, List.splitOn_append_cons_self, List.splitOn_eq_singleton (dot_notMem h), pieces]

theorem pieces_local (qualname : String) {name : String} (h : isPlainName name = true) :
    pieces (qualname ++ ".<locals>." ++ name) =
      pieces qualname ++ ["<locals>".toList, name.toList] := by
  have hchars : (qualname ++ ".<locals>." ++ name).toList =
      qualname.toList ++ '.' :: ("<locals>".toList ++ '.' :: name.toList) := by simp
  have hlocals : '.' ∉ "<locals>".toList := by decide
  rw [pieces, hchars, List.splitOn_append_cons_self, List.splitOn_append_cons_self,
    List.splitOn_eq_singleton hlocals, List.splitOn_eq_singleton (dot_notMem h), pieces]
  rfl

/-- The qualified name of a definition ends with the definition's own name. -/
theorem pieces_qualnameOfDefinition (c : Context) {name : String} (h : isPlainName name = true) :
    ∃ before, pieces (c.qualnameOfDefinition name) = before ++ [name.toList] := by
  unfold Context.qualnameOfDefinition Context.qualnameOf
  split
  · exact ⟨[], pieces_plain h⟩
  · split
    · exact ⟨[], pieces_plain h⟩
    · split
      · exact ⟨[], pieces_plain h⟩
      · exact ⟨_, pieces_member c.qualname h⟩
    · exact ⟨pieces c.qualname ++ ["<locals>".toList], by simp [pieces_local c.qualname h]⟩

theorem ownerName?_of_pieces {qualname : String} {before : List (List Char)}
    {owner name : List Char} (h : pieces qualname = before ++ [owner, name]) :
    ownerName? qualname =
      if owner == "<locals>".toList then none else some (String.ofList owner) := by
  have hreverse : (qualname.toList.splitOn '.').reverse = name :: owner :: before.reverse := by
    rw [← pieces, h]
    simp
  rw [ownerName?, hreverse]

theorem ownerName?_plain {name : String} (h : isPlainName name = true) :
    ownerName? name = none := by
  have hpieces : name.toList.splitOn '.' = [name.toList] := pieces_plain h
  rw [ownerName?, hpieces]
  rfl

/-! ## Guessing the class -/

/-- In the body of a class, private names belong to that class, and its name is the last one of its
    qualified name. -/
theorem Reached.owner_of_cls {c : Context} (h : Reached c) (hkind : c.kind = .cls) :
    ∃ o before, c.owner = some o ∧ isPlainName o = true ∧
      pieces c.qualname = before ++ [o.toList] := by
  induction h with
  | module => cases hkind
  | loop _ ih => exact ih hkind
  | function => cases hkind
  | @cls c _ sp name hname _ =>
    obtain ⟨before, hpieces⟩ := pieces_qualnameOfDefinition c hname
    exact ⟨name, before, rfl, hname, hpieces⟩

theorem Reached.qualname_of_cls {c : Context} (h : Reached c) (hkind : c.kind = .cls) :
    c.qualname.isEmpty = false := by
  obtain ⟨o, before, -, hplain, hpieces⟩ := h.owner_of_cls hkind
  rw [Bool.eq_false_iff]
  intro hempty
  rw [String.isEmpty_iff] at hempty
  have hlast : [([] : List Char)].getLast? = (before ++ [o.toList]).getLast? := by
    rw [← hpieces, hempty]
    rfl
  rw [List.getLast?_singleton, List.getLast?_append, List.getLast?_singleton, Option.some_or]
    at hlast
  exact (plain_ne hplain).1 (String.toList_eq_nil_iff.1 (Option.some.inj hlast).symm)

theorem ownerName?_local (qualname : String) {name : String} (h : isPlainName name = true) :
    ownerName? (qualname ++ ".<locals>." ++ name) = none := by
  rw [ownerName?_of_pieces (pieces_local qualname h)]
  rfl

theorem ownerName?_member {qualname owner name : String} {before : List (List Char)}
    (hpieces : pieces qualname = before ++ [owner.toList]) (howner : isPlainName owner = true)
    (hname : isPlainName name = true) : ownerName? (qualname ++ "." ++ name) = some owner := by
  have hmember : pieces (qualname ++ "." ++ name) = before ++ [owner.toList, name.toList] := by
    rw [pieces_member qualname hname, hpieces, List.append_assoc]
    rfl
  have hlocals : (owner.toList == "<locals>".toList) = false := by
    rw [beq_eq_false_iff_ne, Ne, String.toList_inj]
    exact (plain_ne howner).2
  rw [ownerName?_of_pieces hmember, hlocals, if_neg Bool.false_ne_true, String.ofList_toList]

/-- **What class is guessed.**  From the qualified name that a definition has got where it stands, the
    class around it is guessed if the definition stands directly in its body, and else none. -/
theorem Reached.ownerName?_eq {c : Context} (h : Reached c) {name : String}
    (hname : isPlainName name = true) :
    ownerName? (c.qualnameOfDefinition name) = if c.IsClassOf name then c.owner else none := by
  unfold Context.qualnameOfDefinition
  by_cases hglobal : c.kind ≠ .module ∧ c.scope.place? (c.known name) = some .declaredGlobal
  · rw [if_pos (by simpa using hglobal), if_neg fun hcls => hcls.2 hglobal.2]
    exact ownerName?_plain hname
  rw [if_neg (by simpa using hglobal), Context.qualnameOf]
  have hother : c.kind ≠ .cls → ¬c.IsClassOf name := fun hkind hcls => hkind hcls.1
  cases hkind : c.kind with
  | module =>
    rw [if_neg (hother (by simp [hkind]))]
    exact ownerName?_plain hname
  | cls =>
    obtain ⟨o, before, howner, hplain, hpieces⟩ := h.owner_of_cls hkind
    have hcls : c.IsClassOf name := ⟨hkind, fun hplace => hglobal ⟨by simp [hkind], hplace⟩⟩
    rw [if_pos hcls, howner]
    simp only [h.qualname_of_cls hkind, Bool.false_eq_true, if_false]
    exact ownerName?_member hpieces hplain hname
  | function | lambda | comprehension =>
    rw [if_neg (hother (by simp [hkind]))]
    exact ownerName?_local c.qualname hname

end Graft.Code
