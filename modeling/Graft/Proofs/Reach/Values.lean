import Graft.Machine.Operator
import Graft.Machine.Path
import Graft.Machine.Tell
import Graft.Proofs.Reach

set_option autoImplicit false

/-! # Working with values is confined

Reading and setting attributes, asking for text, going through values, operators and paths are
confined if calls are: whatever they do beyond calls, they do to things. -/

namespace Graft

open Machine Data Syntax

variable {α : Type} {call : Caller}

namespace Run

@[grind ←] theorem apply_confined (hcall : call.Confined) (f : Value) (args : List Value) :
    (apply call f args).Confined := hcall f { positional := args }

@[grind ←] theorem recover_confined (cls : String) {run : Run α} {otherwise : Value → Run α}
    (hrun : run.Confined) (hotherwise : ∀ e, (otherwise e).Confined) :
    (recover cls run otherwise).Confined := by
  unfold recover
  grind

@[grind ←] theorem orMissing_confined {run : Run α} (hrun : run.Confined) :
    (orMissing run).Confined := by
  unfold orMissing
  grind

end Run

namespace World

/-! ## Attributes -/

@[grind ←] theorem attributesOf_confined (r : Ref) : (attributesOf r).Confined := .newValue _ _

@[grind ←] theorem bindMember_confined (cls self member : Value) :
    (bindMember cls self member).Confined := by
  unfold bindMember
  grind

@[grind ←] theorem classMember_confined (cls member : Value) :
    (classMember cls member).Confined := by
  unfold classMember
  grind

theorem functionAttr_confinedAt {w : World} {r : Ref} {f : Function} (h : w.Allows r (.function f))
    (name : String) : (functionAttr r f name).ConfinedAt w := by
  unfold functionAttr
  split
  case h_10 =>
    split
    · exact .of (.pure _)
    · refine .bind (.of (.new _ _)) fun d w₁ h₁ => .bind (.setBody ?_) fun _ _ _ => .of (.pure _)
      exact h.lasts h₁.lasts
  all_goals exact .of (by grind)

@[grind ←] theorem callableAttr_confined (v : Value) (name : String) :
    (callableAttr v name).Confined := by
  unfold callableAttr
  refine .bind_world fun w => ?_
  split
  case h_4 r =>
    split
    · rename_i hbody
      refine .bind (functionAttr_confinedAt (.of_body? hbody) name) fun found w₁ _ => .of ?_
      split <;> exact .pure _
    · exact .of (.pure _)
  all_goals exact .of (.pure _)

theorem bodyAttr_confinedAt {w : World} {r : Ref} {body : Body} (h : w.Allows r body)
    (name : String) : (bodyAttr r body name).ConfinedAt w := by
  unfold bodyAttr
  split
  case h_1 => exact functionAttr_confinedAt h name
  all_goals exact .of (by grind)

@[grind ←] theorem typeAttr_confined (cls : Value) (name : String) :
    (typeAttr cls name).Confined := by
  unfold typeAttr
  refine .bind .world fun w => ?_
  split <;> grind

@[grind ←] theorem classAttr_confined (cls : Value) (name : String) :
    (classAttr cls name).Confined := by
  unfold classAttr
  refine .bind .world fun w => .bind (typeAttr_confined cls name) fun found => ?_
  split <;> grind

@[grind ←] theorem superAttr_confined (hcall : call.Confined) (cls receiver : Value)
    (name : String) : (superAttr call cls receiver name).Confined := by
  unfold superAttr
  refine .bind .world fun w => ?_
  grind

@[grind ←] theorem plainAttr_confined (hcall : call.Confined) (v : Value) (name : String) :
    (plainAttr call v name).Confined := by
  unfold plainAttr
  refine .bind_world fun w => ?_
  split
  · exact .of (classAttr_confined v name)
  · -- the class's own member comes last, whichever way the value itself is looked at
    extract_lets cls member last
    have hlast : ∀ own, (last own).Confined := by grind
    split
    · exact .of (.raise _ _)
    · exact .of (.bind (Run.apply_confined hcall _ _) fun x => .pure _)
    · split
      · split
        · rename_i hthing
          refine .bind (bodyAttr_confinedAt (.of_thing? hthing) name) fun found w₁ _ => .of ?_
          split
          · exact .bind (.pure _) hlast
          · exact .bind (superAttr_confined hcall _ _ name) hlast
        · rename_i hthing
          refine .bind (bodyAttr_confinedAt (.of_thing? hthing) name) fun found w₁ _ => .of ?_
          split
          · exact .bind (.pure _) hlast
          · exact .bind (.pure _) hlast
        · exact .of (.bind (.pure _) hlast)
      · exact .of (.bind (callableAttr_confined v name) hlast)

@[grind ←] theorem getAttr_confined (hcall : call.Confined) (v : Value) (name : String) :
    (getAttr call v name).Confined := by
  unfold getAttr
  refine .bind .world fun w => ?_
  grind

@[grind ←] theorem getAttr?_confined (hcall : call.Confined) (v : Value) (name : String) :
    (getAttr? call v name).Confined := by
  unfold getAttr?
  grind

theorem setFunctionAttr_confinedAt {w : World} {r : Ref} {f : Function}
    (h : w.Allows r (.function f)) (name : String) (v : Value) :
    (setFunctionAttr r f name v).ConfinedAt w := by
  have hput : ∀ {w₁ f'}, w.Becomes w₁ → (Body.function f').lasting = (Body.function f).lasting →
      (do Run.setBody r (.function f'); return true : Run Bool).ConfinedAt w₁ := by
    intro w₁ f' h₁ hsame
    obtain ⟨b, hb, hlasting⟩ := h.lasts h₁.lasts
    exact .bind (.setBody ⟨b, hb, hlasting.trans hsame.symm⟩) fun _ _ _ => .of (.pure _)
  unfold setFunctionAttr
  extract_lets put
  split
  case h_10 | h_11 =>
    refine .bind (.of (.bodyOf v)) fun found w₁ h₁ => ?_
    split
    · exact hput h₁ rfl
    · exact hput h₁ rfl
    · exact .of (.raise _ _)
  all_goals first
    | exact hput (.refl w) rfl
    | exact .of (.raise _ _)
    | exact .of (.pure _)

@[grind ←] theorem refuseAttr_confined (v : Value) (name : String) :
    (refuseAttr v name).Confined := by
  unfold refuseAttr
  grind

@[grind ←] theorem refuseClass_confined (v : Value) : (refuseClass v).Confined := by
  unfold refuseClass
  grind

@[grind ←] theorem refuseReadOnly_confined : refuseReadOnly.Confined := .raise _ _

@[grind ←] theorem refuseGiven_confined (v : Value) (name : String) (x : Value) :
    (refuseGiven v name x).Confined := by
  unfold refuseGiven refuseDict
  grind

@[grind ←] theorem setClassAttr_confined (cls : Value) (name : String) (v : Value) :
    (setClassAttr cls name v).Confined := by
  unfold setClassAttr
  split
  · refine .bind_world fun w => ?_
    split
    · rename_i hbody
      exact .setBody ⟨_, hbody, rfl⟩
    · rename_i hbody
      exact .setBody ⟨_, hbody, rfl⟩
    all_goals exact .of (by grind)
  · grind

@[grind ←] theorem setOwnAttr_confined (v : Value) (name : String) (x : Value) :
    (setOwnAttr v name x).Confined := by
  unfold setOwnAttr
  refine .bind_world fun w => ?_
  split
  · split
    · rename_i hbody
      refine .bind (setFunctionAttr_confinedAt (.of_body? hbody) name x) fun _ _ _ => .of ?_
      grind
    · exact .of (by grind)
  · exact .of (refuseAttr_confined _ _)

@[grind ←] theorem setPlainAttr_confined (hcall : call.Confined) (v : Value) (name : String)
    (x : Value) : (setPlainAttr call v name x).Confined := by
  unfold setPlainAttr
  grind

@[grind ←] theorem setAttr_confined (hcall : call.Confined) (v : Value) (name : String)
    (x : Value) : (setAttr call v name x).Confined := by
  unfold setAttr
  grind

@[grind ←] theorem deleteAttr_confined (v : Value) (name : String) :
    (deleteAttr v name).Confined := by
  unfold deleteAttr
  grind

/-! ## Text -/

@[grind ←] theorem ownText?_confined (hcall : call.Confined) (method : String)
    (complaint : String → String) (v : Value) (args : List Value) :
    (ownText? call method complaint v args).Confined := by
  unfold ownText?
  refine .bind .world fun w => ?_
  grind

@[grind ←] theorem tellLiteral_confined (hcall : call.Confined) (v : Value) :
    (tellLiteral call v).Confined := by
  unfold tellLiteral
  grind

@[grind ←] theorem tellTo_confined (hcall : call.Confined) (n : Nat) (v : Value) :
    (tellTo call n v).Confined := by
  induction n generalizing v with
  | zero => unfold tellTo; grind
  | succ n ih =>
    unfold tellTo
    refine .bind (ownText?_confined hcall _ _ v []) fun text => ?_
    split
    · exact .pure _
    · refine .bind (.bodyOf v) fun body => ?_
      split <;> grind

@[grind ←] theorem tell_confined (hcall : call.Confined) (v : Value) :
    (tell call v).Confined := tellTo_confined hcall maxDepth v

@[grind ←] theorem tellField_confined (hcall : call.Confined) (v : Value) :
    (tellField call v).Confined := by
  unfold tellField
  grind

/-! ## Going through values -/

@[grind ←] theorem getIter?_confined (hcall : call.Confined) (v : Value) :
    (getIter? call v).Confined := by
  unfold getIter?
  refine .bind .world fun w => ?_
  split <;> grind

@[grind ←] theorem getIter_confined (hcall : call.Confined) (v : Value) :
    (getIter call v).Confined := by
  unfold getIter
  grind

@[grind ←] theorem unlessStopped_confined {run : Run Value} (hrun : run.Confined) :
    (unlessStopped run).Confined := by
  unfold unlessStopped
  grind

@[grind ←] theorem next?_confined (hcall : call.Confined) (it : Value) :
    (next? call it).Confined := by
  unfold next?
  refine .bind_world fun w => ?_
  split
  · rename_i hbody
    split
    · exact .of (.pure _)
    · exact .bind (.setBody ⟨_, hbody, rfl⟩) fun _ _ _ => .of (.pure _)
  · rename_i hbody
    split
    · split
      · exact .bind (.setBody ⟨_, hbody, rfl⟩) fun _ _ _ => .of (.pure _)
      · exact .of (.pure _)
    · exact .of (.pure _)
  · exact .of (by grind)
  · exact .of (by grind)

@[grind ←] theorem drain_confined (hcall : call.Confined) (n : Nat) (it : Value) :
    (drain call n it).Confined := by
  induction n with
  | zero => exact .throw _
  | succ n ih => unfold drain; grind

@[grind ←] theorem drainAll_confined (hcall : call.Confined) (it : Value) :
    (drainAll call it).Confined := drain_confined hcall maxItems it

@[grind ←] theorem toList_confined (hcall : call.Confined) (v : Value) :
    (toList call v).Confined := by
  unfold toList
  grind

@[grind ←] theorem drawUpTo_confined (hcall : call.Confined) (it : Value) (n : Nat) :
    (drawUpTo call it n).Confined := by
  induction n with
  | zero => exact .pure _
  | succ n ih => unfold drawUpTo; grind

@[grind ←] theorem unpackIter_confined (hcall : call.Confined) (v : Value) :
    (unpackIter call v).Confined := by
  unfold unpackIter
  grind

@[grind ←] theorem unpack_confined (hcall : call.Confined) (n : Nat) (v : Value) :
    (unpack call n v).Confined := by
  unfold unpack
  grind

@[grind ←] theorem unpackAround_confined (hcall : call.Confined) (before after : Nat)
    (v : Value) :
    (unpackAround call before after v).Confined := by
  unfold unpackAround
  grind

/-! ## Entries of dictionaries -/

@[grind ←] theorem hashOf_confined (v : Value) : (hashOf v).Confined := by
  unfold hashOf
  grind

@[grind ←] theorem getEntry_confined (r : Ref) (key : Value) : ( getEntry? r key).Confined := by
  unfold getEntry?
  grind

@[grind ←] theorem putEntry_confined (r : Ref) (key v : Value) : (putEntry r key v).Confined := by
  unfold putEntry
  refine .bind_world fun w => ?_
  split
  · exact .of (.raise _ _)
  · refine .bind (.of (hashOf_confined key)) fun k w₁ h₁ => ?_
    dsimp only
    split
    · rename_i hbody
      exact .setBody (World.Allows.lasts ⟨_, hbody, rfl⟩ h₁.lasts)
    · exact .of (by grind)
    · exact .of (.pure _)

@[grind ←] theorem dropEntry_confined (r : Ref) (key : Value) : (dropEntry r key).Confined := by
  unfold dropEntry
  refine .bind_world fun w => .bind (.of (hashOf_confined key)) fun k w₁ h₁ => ?_
  dsimp only
  split
  · rename_i hbody
    split
    · refine .bind (.setBody ?_) fun _ _ _ => .of (.pure _)
      exact World.Allows.lasts ⟨_, hbody, rfl⟩ h₁.lasts
    · exact .of (.pure _)
  · exact .of (by grind)
  · exact .of (.pure _)

@[grind ←] theorem newDict_confined (pairs : List (Value × Value)) :
    (newDict pairs).Confined := by
  unfold newDict
  grind

@[grind ←] theorem newList_confined (xs : List Value) : (newList xs).Confined := .newValue _ _

@[grind ←] theorem dictOfTable_confined (t : Table) : (dictOfTable t).Confined := .newValue _ _

/-! ## Operators -/

@[grind ←] theorem badOperands_confined (op : BinaryOp) (inPlace : Bool) (a b : Value) :
    (badOperands op inPlace a b : Run α).Confined := by
  unfold badOperands
  grind

@[grind ←] theorem intOperator_confined (op : BinaryOp) (m n : Int) :
    (intOperator op m n).Confined := by
  unfold intOperator
  grind

@[grind ←] theorem floatOperator_confined (op : BinaryOp) (x y : Float) :
    (floatOperator op x y).Confined := by
  unfold floatOperator
  grind

@[grind ←] theorem concatenate_confined (a b : Value) : (concatenate a b).Confined := by
  unfold concatenate
  grind

@[grind ←] theorem repeatSequence_confined (v : Value) (n : Int) :
    (repeatSequence v n).Confined := by
  unfold repeatSequence
  grind

@[grind ←] theorem multiplySequence_confined (inPlace : Bool) (a b : Value) :
    (multiplySequence inPlace a b).Confined := by
  unfold multiplySequence
  grind

@[grind ←] theorem binary_confined (op : BinaryOp) (inPlace : Bool) (a b : Value) :
    (binary op inPlace a b).Confined := by
  unfold binary
  grind

theorem allows_listItems {w : World} {r : Ref} {xs : List Value}
    (h : w.listItems? (.thing r) = some xs) (ys : List Value) : w.Allows r (.list ys) := by
  unfold listItems? at h
  split at h
  · rename_i hbody
    exact ⟨_, hbody, rfl⟩
  · cases h

@[grind ←] theorem binaryInPlace_confined (hcall : call.Confined) (op : BinaryOp) (a b : Value) :
    (binaryInPlace call op a b).Confined := by
  unfold binaryInPlace
  refine .bind_world fun w => ?_
  split
  · rename_i hitems
    refine .bind (.of (toList_confined hcall b)) fun ys w₁ h₁ => ?_
    refine .bind (.setBody ?_) fun _ _ _ => .of (.pure _)
    exact (allows_listItems hitems _).lasts h₁.lasts
  · rename_i hitems
    split
    · exact .bind (.setBody (allows_listItems hitems _)) fun _ _ _ => .of (.pure _)
    · exact .of (binary_confined _ _ _ _)
  · exact .of (binary_confined _ _ _ _)

@[grind ←] theorem unary_confined (op : UnaryOp) (v : Value) : (unary op v).Confined := by
  unfold unary
  grind

@[grind ←] theorem order_confined (op : Comparison) (n : Nat) (a b : Value) :
    (order op n a b).Confined := by
  induction n generalizing a b with
  | zero => exact .throw _
  | succ n ih =>
    unfold order
    refine .bind .world fun w => ?_
    extract_lets bad sequences
    have hbad : bad.Confined := .raise _ _
    have hsequences : ∀ xs ys, (sequences xs ys).Confined := by grind
    split
    · exact .pure _
    · exact .pure _
    · split <;> grind

@[grind ←] theorem search_confined (hcall : call.Confined) (container v : Value) :
    (contains.search call container v).Confined := by
  unfold contains.search
  grind

@[grind ←] theorem contains_confined (hcall : call.Confined) (container v : Value) :
    (contains call container v).Confined := by
  unfold contains
  refine .bind .world fun w => ?_
  split <;> grind

@[grind ←] theorem comparison_confined (hcall : call.Confined) (op : Comparison) (a b : Value) :
    (comparison call op a b).Confined := by
  unfold comparison
  grind

/-! ## Items -/

@[grind ←] theorem sequenceItem_confined (kind indices : String) (xs : List α) (index : Value)
    {one : α → Run Value} {many : List α → Run Value} (hone : ∀ x, (one x).Confined)
    (hmany : ∀ xs, (many xs).Confined) :
    (sequenceItem kind indices xs index one many).Confined := by
  unfold sequenceItem
  refine .bind .world fun w => ?_
  split <;> grind

@[grind ←] theorem notSubscriptable_confined (v : Value) :
    (getItem.notSubscriptable v).Confined := by
  unfold getItem.notSubscriptable
  grind

@[grind ←] theorem getItem_confined (hcall : call.Confined) (v index : Value) :
    (getItem call v index).Confined := by
  unfold getItem
  refine .bind .world fun w => ?_
  split
  · exact sequenceItem_confined _ _ _ _ (fun _ => .pure _) fun _ => .pure _
  · split
    · exact sequenceItem_confined _ _ _ _ .pure fun _ => .pure _
    · exact sequenceItem_confined _ _ _ _ (fun _ => .pure _) fun _ => .pure _
    · split
      · exact sequenceItem_confined _ _ _ _ .pure newList_confined
      · exact sequenceItem_confined _ _ _ _ .pure newList_confined
      · exact .raise _ _
      · grind
    · exact .raise _ _
    · exact notSubscriptable_confined v

@[grind ←] theorem setItem_confined (hcall : call.Confined) (v index x : Value) :
    (setItem call v index x).Confined := by
  unfold setItem
  refine .bind_world fun w => ?_
  extract_lets refuse
  have hrefuse : refuse.Confined := .raise _ _
  split
  · rename_i hbody
    split
    · split
      · exact .setBody ⟨_, hbody, rfl⟩
      · exact .of (.raise _ _)
    · exact .of (.raise _ _)
  · exact .of (by grind)
  · exact .of hrefuse

@[grind ←] theorem deleteItem_confined (v index : Value) : (deleteItem v index).Confined := by
  unfold deleteItem
  refine .bind_world fun w => ?_
  extract_lets refuse
  have hrefuse : refuse.Confined := .raise _ _
  split
  · rename_i hbody
    split
    · split
      · exact .setBody ⟨_, hbody, rfl⟩
      · exact .of (.raise _ _)
    · exact .of (.raise _ _)
  · exact .of (by grind)
  · exact .of hrefuse

/-! ## Paths -/

@[grind ←] theorem ownEntry_confined (hcall : call.Confined) (v : Value) (name : String) :
    (ownEntry call v name).Confined := by
  unfold ownEntry
  grind

@[grind ←] theorem along_confined (hcall : call.Confined) (v : Value) (parts : List String) :
    (along call v parts).Confined := by
  induction parts generalizing v with
  | nil => exact .pure _
  | cons part parts ih => unfold along; grind

@[grind ←] theorem root_confined (name : String) : (root name).Confined := by
  unfold root
  grind

@[grind ←] theorem atPath_confined (hcall : call.Confined) (path : String) :
    (atPath call path).Confined := by
  unfold atPath
  grind

end World

end Graft
