import Graft.Machine.Call
import Graft.Proofs.Reach.Programs

set_option autoImplicit false

/-! # Cells

A call begins with a cell for each variable of its own that functions inside use, and with the cells
that its function has for the variables of functions around.  These are the cells that it has until
it ends, also when it is suspended meanwhile.  So functions that have one cell for a variable have
the variable in common: what a call of the one gives it a call of the other one reads. -/

namespace Graft

open Machine

/-! ## What runs give -/

/-- Whatever the run gives, wherever it begins, has the property. -/
def Run.Yields {α : Type} (x : Run α) (P : α → Prop) : Prop := ∀ w a w', x.Gives w a w' → P a

namespace Run.Yields

variable {α β : Type} {P : β → Prop}

theorem pure {b : β} (h : P b) : Run.Yields (Pure.pure b) P := by
  intro w a w' ha
  obtain ⟨rfl, -⟩ := Run.gives_pure.1 ha
  exact h

theorem throw (h : Halt) : Run.Yields (MonadExcept.throw h : Run β) P :=
  fun _ _ _ ha => absurd ha Run.not_gives_throw

theorem raise (cls message : String) : Run.Yields (Run.raise cls message : Run β) P := by
  intro w a w' ha
  unfold Run.raise Run.raiseWith at ha
  obtain ⟨_, _, -, ha⟩ := Run.gives_bind.1 ha
  exact absurd ha Run.not_gives_throw

theorem bind {x : Run α} {Q : α → Prop} {f : α → Run β} (hx : x.Yields Q)
    (hf : ∀ a, Q a → (f a).Yields P) : Run.Yields (x >>= f) P := by
  intro w b w' h
  obtain ⟨a, w₁, ha, hb⟩ := Run.gives_bind.1 h
  exact hf a (hx w a w₁ ha) w₁ b w' hb

/-- What comes first may give anything. -/
theorem behind {x : Run α} {f : α → Run β} (hf : ∀ a, (f a).Yields P) : Run.Yields (x >>= f) P :=
  bind (Q := fun _ => True) (fun _ _ _ _ => trivial) fun a _ => hf a

end Run.Yields

/-! ## Calls keep their cells -/

/-- The call that goes on, or is left or suspended. -/
def Transition.activation : Transition → Activation
  | .go a => a
  | .leave a _ => a
  | .yields _ a => a

namespace Machine.Activation

theorem pop_cells (a : Activation) : a.pop.Yields fun p => p.2.cells = a.cells := by
  unfold pop
  split
  · exact .pure rfl
  · exact .raise _ _

theorem popMany_cells (a : Activation) (n : Nat) :
    (a.popMany n).Yields fun p => p.2.cells = a.cells := by
  unfold popMany
  split
  · exact .raise _ _
  · exact .pure rfl

/-- A step leads to a call with the given cells. -/
def LeavesCells (cells : List (String × Ref)) (x : Run Activation) : Prop :=
  x.Yields fun a => a.cells = cells

namespace LeavesCells

variable {α : Type} {cells : List (String × Ref)} {a : Activation}

@[grind ←] theorem pure (h : a.cells = cells) : LeavesCells cells (Pure.pure a) :=
  Run.Yields.pure h

@[grind ←] theorem raise (cls message : String) : LeavesCells cells (Run.raise cls message) :=
  Run.Yields.raise cls message

@[grind ←] theorem bind {x : Run α} {f : α → Run Activation}
    (hf : ∀ x, LeavesCells cells (f x)) : LeavesCells cells (x >>= f) := Run.Yields.behind hf

@[grind ←] theorem bind_pop {f : Value × Activation → Run Activation}
    (hf : ∀ p, p.2.cells = a.cells → LeavesCells cells (f p)) :
    LeavesCells cells (a.pop >>= f) := Run.Yields.bind (pop_cells a) hf

@[grind ←] theorem bind_popMany {n : Nat} {f : List Value × Activation → Run Activation}
    (hf : ∀ p, p.2.cells = a.cells → LeavesCells cells (f p)) :
    LeavesCells cells (a.popMany n >>= f) := Run.Yields.bind (popMany_cells a n) hf

end LeavesCells

variable {call : Caller}

@[simp, grind =] theorem push_cells (a : Activation) (v : Value) : (a.push v).cells = a.cells := rfl

@[grind ←] theorem unbound_leavesCells (a : Activation) (name : String) (cells : List (String × Ref)) :
    LeavesCells cells (a.unbound name) := by
  unfold unbound
  split <;> exact .raise _ _

@[grind ←] theorem store_leavesCells (a : Activation) (home : Code.Home) (name : String) (v : Value) :
    LeavesCells a.cells (a.store home name v) := by
  unfold store
  grind

@[grind ←] theorem delete_leavesCells (a : Activation) (home : Code.Home) (name : String) :
    LeavesCells a.cells (a.delete home name) := by
  unfold delete undefined
  grind

theorem valueStep_leavesCells (a : Activation) (i : Code.Instr) :
    LeavesCells a.cells (a.valueStep call i) := by
  unfold valueStep
  grind

theorem containerStep_leavesCells (a : Activation) (i : Code.Instr) :
    LeavesCells a.cells (a.containerStep call i) := by
  unfold containerStep
  cases i with
  | append depth | addToSet depth =>
    refine .bind_pop fun p hp => .bind fun v => ?_
    split <;> grind
  | extend =>
    refine .bind_pop fun p hp => .bind fun v => ?_
    split
    · refine .bind fun it => ?_
      split <;> grind
    · exact .pure hp
  | _ => grind

theorem callStep_leavesCells (a : Activation) (i : Code.Instr) :
    LeavesCells a.cells (a.callStep call i) := by
  unfold callStep
  grind

theorem exitContext_leavesCells (a : Activation) : LeavesCells a.cells (a.exitContext call) := by
  unfold exitContext
  grind

/-- A step leads to a call with the given cells, whether it goes on or not. -/
def TakesCells (cells : List (String × Ref)) (x : Run Transition) : Prop :=
  x.Yields fun t => t.activation.cells = cells

namespace TakesCells

variable {α : Type} {cells : List (String × Ref)} {a : Activation}

@[grind ←] theorem go (h : a.cells = cells) : TakesCells cells (pure (.go a)) := .pure h

@[grind ←] theorem leave {reason : Reason} (h : a.cells = cells) :
    TakesCells cells (pure (.leave a reason)) := .pure h

@[grind ←] theorem yields {v : Value} (h : a.cells = cells) :
    TakesCells cells (pure (.yields v a)) := .pure h

@[grind ←] theorem raise (cls message : String) : TakesCells cells (Run.raise cls message) :=
  Run.Yields.raise cls message

@[grind ←] theorem bind {x : Run α} {f : α → Run Transition}
    (hf : ∀ x, TakesCells cells (f x)) : TakesCells cells (x >>= f) := Run.Yields.behind hf

@[grind ←] theorem bind_pop {f : Value × Activation → Run Transition}
    (hf : ∀ p, p.2.cells = a.cells → TakesCells cells (f p)) :
    TakesCells cells (a.pop >>= f) := Run.Yields.bind (pop_cells a) hf

theorem of_leaves {x : Run Activation} (h : LeavesCells cells x) :
    TakesCells cells (x >>= fun a => pure (.go a)) := Run.Yields.bind h fun _ h => .pure h

end TakesCells

@[simp, grind =] theorem skip_cells (a : Activation) (n : Nat) : (a.skip n).cells = a.cells := rfl

@[simp, grind =] theorem guarded_cells (a : Activation) (g : Guard) :
    (a.guarded g).cells = a.cells := rfl

theorem controlStep_takesCells (a : Activation) (i : Code.Instr) :
    TakesCells a.cells (a.controlStep call i) := by
  unfold controlStep
  cases i with
  | raise n =>
    dsimp only
    split
    · grind
    · grind
    · refine .bind_pop fun p hp => .bind_pop fun q hq => .bind fun e => ?_
      split <;> grind
  | exitWith => exact .of_leaves (exitContext_leavesCells a)
  | _ => grind

/-- **A call keeps its cells** through every instruction. -/
theorem step_takesCells (a : Activation) : TakesCells a.cells (a.step call) := by
  unfold step
  split
  · exact .leave rfl
  · rename_i i _
    dsimp only
    split
    · exact .of_leaves (valueStep_leavesCells { a with pc := a.pc + 1 } i)
    · exact .of_leaves (containerStep_leavesCells { a with pc := a.pc + 1 } i)
    · exact .of_leaves (callStep_leavesCells { a with pc := a.pc + 1 } i)
    · exact controlStep_takesCells { a with pc := a.pc + 1 } i

theorem guardedStep_takesCells (a : Activation) : TakesCells a.cells (a.guardedStep call) := by
  intro w t w' h
  unfold guardedStep at h
  rw [Run.Gives, Run.result_tryCatch] at h
  split at h
  · rename_i t₁ w₁ hstep
    cases h
    exact step_takesCells a w t w' hstep
  · rename_i e w₁ hstep
    cases e with
    | raised e => 
      obtain ⟨rfl, -⟩ := Run.gives_pure.1 h
      rfl
    | exhausted => cases h

theorem unwind_cells {a b : Activation} {reason : Reason} {guards : List Guard}
    (h : a.unwind reason guards = .inl b) : b.cells = a.cells := by
  induction guards with
  | nil => cases h
  | cons g guards ih =>
    cases g <;> cases reason <;> grind [unwind]

end Machine.Activation

/-! ## Calls of a function -/

namespace Machine

/-- The cell that a function has for a variable of functions around. -/
def Function.cell? (f : Function) (name : String) : Option Ref :=
  (f.closure.find? (·.1 == name)).map Prod.snd

/-- What a function with cells for names has for a name. -/
theorem Function.cell?_of_closure {f : Function} {names : List String} {cell : String → Option Ref}
    (h : f.closure = names.filterMap fun n => (cell n).map fun r => (n, r)) (n : String) :
    f.cell? n = if n ∈ names then cell n else none := by
  rw [Function.cell?, h]
  clear h
  induction names with
  | nil => rfl
  | cons m names ih =>
    rw [List.filterMap_cons]
    by_cases hm : m = n
    · subst hm
      cases hcell : cell m with
      | none =>
        simp only [Option.map_none, hcell, ite_self] at ih ⊢
        exact ih
      | some c => simp
    · have hmem : n ∈ m :: names ↔ n ∈ names := by
        rw [List.mem_cons, or_iff_right (Ne.symm hm)]
      simp only [hmem, ← ih]
      cases cell m with
      | none => rfl
      | some c => simp [hm]

/-- The calls of a function with some code, at any moment: as they begin, as they come from one
    instruction to the next, as they go on after something was raised, and as they go on with a value
    after they were suspended. -/
inductive InCall (f : Function) (code : Code) : Activation → Prop
  | enters {args : Args} {w w' : World} {a : Activation} (h : (f.enter code args).Gives w a w') :
    InCall f code a
  | steps {call : Caller} {a : Activation} {t : Transition} {w w' : World} (ha : InCall f code a)
    (h : (a.guardedStep call).Gives w t w') : InCall f code t.activation
  | unwinds {a b : Activation} {reason : Reason} (ha : InCall f code a)
    (h : a.unwind reason a.guards = .inl b) : InCall f code b
  | resumes {a : Activation} (ha : InCall f code a) (v : Value) : InCall f code (a.push v)

variable {f g : Function} {code code' : Code} {a b : Activation} {n : String} {r : Ref}
  {w w' : World}

/-- The cells of a call's own come first. -/
theorem Function.enter_cells {args : Args} (h : (f.enter code args).Gives w a w') :
    ∃ own, own.map Prod.fst = code.info.cells ∧ a.cells = own ++ f.closure := by
  have hnew : ∀ (locals : Table) (names : List String), Run.Yields
      (names.mapM fun n => do return (n, ← Activation.newCell (locals.get? n)))
      fun own : List (String × Ref) => own.map Prod.fst = names := by
    intro locals names
    induction names with
    | nil => exact .pure rfl
    | cons n names ih =>
      rw [List.mapM_cons]
      refine .bind (Q := fun c => c.1 = n) (.behind fun c => .pure rfl) fun c hc => ?_
      exact .bind ih fun own hown => .pure (by rw [List.map_cons, hc, hown])
  suffices (f.enter code args).Yields fun a =>
      ∃ own, own.map Prod.fst = code.info.cells ∧ a.cells = own ++ f.closure from this w a w' h
  unfold Function.enter
  extract_lets info last
  have hlast : ∀ p, (last p).Yields fun a =>
      ∃ own, own.map Prod.fst = code.info.cells ∧ a.cells = own ++ f.closure :=
    fun p => .bind (hnew _ _) fun own hown => .pure ⟨own, hown, rfl⟩
  -- However the arguments are bound, the cells are made in the same way.
  split
  · exact .behind hlast
  · exact .behind hlast
  · exact .behind fun _ => .behind hlast

/-- **A call has the same cells all the time.** -/
theorem InCall.cells (h : InCall f code a) :
    ∃ own, own.map Prod.fst = code.info.cells ∧ a.cells = own ++ f.closure := by
  induction h with
  | enters h => exact Function.enter_cells h
  | steps _ h ih =>
    obtain ⟨own, hown, hcells⟩ := ih
    exact ⟨own, hown, (Activation.guardedStep_takesCells _ _ _ _ h).trans hcells⟩
  | unwinds _ h ih =>
    obtain ⟨own, hown, hcells⟩ := ih
    exact ⟨own, hown, (Activation.unwind_cells h).trans hcells⟩
  | resumes _ v ih => exact ih

/-- For a variable that is not its own a call has the cell of its function. -/
theorem InCall.cell?_eq (h : InCall f code a) (hn : n ∉ code.info.cells) :
    a.cell? n = f.cell? n := by
  obtain ⟨own, hown, hcells⟩ := h.cells
  have hnone : own.find? (·.1 == n) = none := by
    rw [List.find?_eq_none]
    intro c hc heq
    refine hn (hown ▸ List.mem_map.2 ⟨c, hc, ?_⟩)
    simpa using heq
  rw [Activation.cell?, hcells, List.find?_append, hnone, Option.none_or, Function.cell?]

/-! ## Variables in common -/

/-- What is stored goes into the cell. -/
theorem InCall.stores (h : InCall f code a) (hn : n ∉ code.info.cells) (hcell : f.cell? n = some r)
    {o : Option Value} (hthere : w.body? (.thing r) = some (.cell o)) (v : Value) :
    ∃ w', (a.store .cell n v).Gives w a w' ∧ w'.body? (.thing r) = some (.cell (some v)) := by
  obtain ⟨t, ht, -⟩ := Option.map_eq_some_iff.1 hthere
  refine ⟨w.change r fun t => { t with body := .cell (some v) }, ?_, ?_⟩
  · unfold Activation.store
    simp only [h.cell?_eq hn, hcell]
    refine Run.gives_bind.2 ⟨(), _, ?_, Run.gives_pure.2 ⟨rfl, rfl⟩⟩
    refine Run.gives_bind.2 ⟨_, w, Run.gives_read.2 ⟨hthere, rfl⟩, ?_⟩
    exact Run.gives_modify.2 rfl
  · rw [World.body?, World.thing?_change, if_pos rfl, ht]
    rfl

/-- What is loaded is what the cell holds. -/
theorem InCall.loads (h : InCall f code a) (hn : n ∉ code.info.cells) (hcell : f.cell? n = some r)
    {v : Value} (hv : w.body? (.thing r) = some (.cell (some v))) :
    (a.load .cell n).Gives w v w := by
  obtain ⟨t, ht, hbody⟩ := Option.map_eq_some_iff.1 hv
  obtain ⟨body, table⟩ := t
  obtain rfl : body = .cell (some v) := hbody
  unfold Activation.load Activation.loadCell
  refine Run.gives_bind_world.2 ?_
  rw [h.cell?_eq hn, hcell, Option.bind_some, ht]
  exact Run.gives_pure.2 ⟨rfl, rfl⟩

/-- Two functions share a variable: what any call of the first one stores any call of the second one
    loads, as long as nothing else is put into the cell. -/
def Shares (n : String) (f : Function) (code : Code) (g : Function) (code' : Code) : Prop :=
  ∀ a b, InCall f code a → InCall g code' b → ∀ r, f.cell? n = some r →
    ∀ (w : World) (o : Option Value), w.body? (.thing r) = some (.cell o) → ∀ v : Value,
      ∃ w', (a.store .cell n v).Gives w a w' ∧
        ∀ later : World, later.body? (.thing r) = w'.body? (.thing r) →
          (b.load .cell n).Gives later v later

/-- Functions that have the same cell for a variable share it. -/
theorem shares_of_cell (hcell : f.cell? n = g.cell? n) (hn : n ∉ code.info.cells)
    (hn' : n ∉ code'.info.cells) : Shares n f code g code' := by
  intro a b ha hb r hr w o hthere v
  obtain ⟨w', hstore, hbody⟩ := ha.stores hn hr hthere v
  exact ⟨w', hstore, fun later hlater =>
    hb.loads hn' (hcell ▸ hr) (hlater.trans hbody)⟩

/-- A function that is made runs the code, goes by its names and has the cells of the call. -/
theorem Activation.makeFunction_gives {defaults : List Value} {keywordDefaults hints : Table}
    {v : Value} (h : (a.makeFunction code defaults keywordDefaults hints).Gives w v w') :
    ∃ f, w'.body? v = some (.function f) ∧ f.behaviour = .code code ∧ f.name = code.info.name ∧
      f.qualname = code.info.qualname ∧ f.closure = a.capture code.info.frees := by
  unfold Activation.makeFunction at h
  extract_lets info last at h
  -- Whatever becomes of the defaults and of the types, the function is made in the same way.
  obtain ⟨given, w₁, h⟩ : ∃ given w₁, (last given).Gives w₁ v w' := by
    split at h <;>
    · obtain ⟨given, w₁, -, h⟩ := Run.gives_bind.1 h
      exact ⟨given, w₁, h⟩
  dsimp -zeta only [last] at h
  extract_lets make at h
  obtain ⟨annotations, w₂, h⟩ : ∃ annotations w₂, (make annotations).Gives w₂ v w' := by
    split at h
    · obtain ⟨annotations, w₂, -, h⟩ := Run.gives_bind.1 h
      exact ⟨annotations, w₂, h⟩
    · obtain ⟨dict, w₂, -, h⟩ := Run.gives_bind.1 h
      split at h <;>
      · obtain ⟨annotations, w₃, -, h⟩ := Run.gives_bind.1 h
        exact ⟨annotations, w₃, h⟩
  obtain ⟨w₃, _, -, h⟩ := Run.gives_bind.1 h
  obtain ⟨rfl, rfl⟩ := Run.gives_newValue.1 h
  exact ⟨_, by rw [World.body?, World.thing?_alloc_self]; rfl, rfl, rfl, rfl, rfl⟩

/-- Functions that are defined by one call have its cells for the variables that they take from
    around, so that they share those that both take. -/
theorem Activation.makeFunction_cells {defaults : List Value} {keywordDefaults hints : Table}
    {v : Value} (h : (a.makeFunction code defaults keywordDefaults hints).Gives w v w') :
    ∃ f, w'.body? v = some (.function f) ∧ f.behaviour = .code code ∧
      ∀ n ∈ code.info.frees, f.cell? n = a.cell? n := by
  obtain ⟨f, hf, hcode, -, -, hclosure⟩ := makeFunction_gives h
  exact ⟨f, hf, hcode, fun n hn => by rw [Function.cell?_of_closure hclosure, if_pos hn]⟩

end Machine

end Graft
