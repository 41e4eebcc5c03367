import Graft.Proofs.Run

set_option autoImplicit false

/-! # Things on the heap

What a new thing is, what putting it on the heap leaves as it was, and how the runs end that make
things, look at them and log. -/

namespace Graft.World

open Machine

variable {w : World} {t : Thing}

theorem body?_thing (w : World) (r : Ref) :
    w.body? (.thing r) = (w.thing? r).map Thing.body := rfl

@[simp] theorem thing?_alloc_self : (w.alloc t).2.thing? (w.alloc t).1 = some t := by
  simp [alloc, thing?]

/-- What is put on the heap was not there before. -/
theorem thing?_alloc_new : w.thing? (w.alloc t).1 = none := by
  simp [alloc, thing?]

/-- A thing that is there is the same after another one has been put on the heap. -/
theorem thing?_alloc {r : Ref} {u : Thing} (h : w.thing? r = some u) :
    (w.alloc t).2.thing? r = some u := by
  obtain ⟨hlt, rfl⟩ := Array.getElem?_eq_some_iff.1 h
  simp only [alloc, thing?]
  rw [Array.getElem?_push_lt hlt]

@[simp] theorem body?_alloc_self : (w.alloc t).2.body? (.thing (w.alloc t).1) = some t.body := by
  rw [body?, thing?_alloc_self]
  rfl

theorem body?_alloc {v : Value} {b : Body} (h : w.body? v = some b) :
    (w.alloc t).2.body? v = some b := by
  cases v with
  | thing r =>
    simp only [body?, Option.map_eq_some_iff] at h ⊢
    obtain ⟨u, hu, rfl⟩ := h
    exact ⟨u, thing?_alloc hu, rfl⟩
  | _ => cases h

theorem thing?_change (w : World) (r s : Ref) (f : Thing → Thing) :
    (w.change r f).thing? s = if s = r then (w.thing? r).map f else w.thing? s := by
  simp only [change, thing?, Array.getElem?_modify]
  by_cases h : s = r
  · simp [h]
  · rw [if_neg h, if_neg]
    intro hindex
    exact h (congrArg Ref.mk hindex.symm)

/-- A thing is a class if it has the body of one. -/
theorem isClass_thing_iff {r : Ref} :
    w.isClass (.thing r) = true ↔ ∃ c, w.body? (.thing r) = some (.cls c) := by
  simp only [isClass, madeClass?]
  split
  · rename_i c hbody
    exact iff_of_true rfl ⟨c, hbody⟩
  · rename_i hno
    exact iff_of_false nofun fun ⟨c, hbody⟩ => hno c hbody

end Graft.World

namespace Graft.Run

open Machine

variable {w w' : World} {body : Body} {table : Table} {bad : Halt → World → Prop}

/-! ## Steps on things -/

@[simp] theorem gives_new {r : Ref} :
    (Run.new body table).Gives w r w' ↔ w.alloc { body, table } = (r, w') := by
  simp only [Run.new, gives_bind, gives_get, gives_set, gives_pure]
  constructor
  · rintro ⟨_, _, ⟨rfl, rfl⟩, _, _, rfl, rfl, rfl⟩
    rfl
  · intro h
    exact ⟨w, w, ⟨rfl, rfl⟩, ⟨⟩, w', by rw [h], by rw [h], rfl⟩

@[simp] theorem ends_new {good : Ref → World → Prop} :
    (Run.new body table).Ends w good bad ↔
      good (w.alloc { body, table }).1 (w.alloc { body, table }).2 := Iff.rfl

@[simp] theorem gives_newValue {v : Value} :
    (Run.newValue body table).Gives w v w' ↔
      .thing (w.alloc { body, table }).1 = v ∧ (w.alloc { body, table }).2 = w' := by
  simp only [Run.newValue, gives_bind, gives_new, gives_pure]
  constructor
  · rintro ⟨r, w₁, h, rfl, rfl⟩
    simp [h]
  · rintro ⟨rfl, rfl⟩
    exact ⟨_, _, rfl, rfl, rfl⟩

@[simp] theorem ends_newValue {good : Value → World → Prop} :
    (Run.newValue body table).Ends w good bad ↔
      good (.thing (w.alloc { body, table }).1) (w.alloc { body, table }).2 := Iff.rfl

@[simp] theorem gives_bodyOf {v : Value} {b : Option Body} :
    (Run.bodyOf v).Gives w b w' ↔ w.body? v = b ∧ w = w' := gives_read

@[simp] theorem ends_bodyOf {v : Value} {good : Option Body → World → Prop} :
    (Run.bodyOf v).Ends w good bad ↔ good (w.body? v) w := Iff.rfl

@[simp] theorem gives_log {level : LogLevel} {logger message : String} {u : Unit} :
    (Run.log level logger message).Gives w u w' ↔
      { w with logs := { level, logger, message } :: w.logs } = w' := gives_modify

@[simp] theorem ends_log {level : LogLevel} {logger message : String} {good : Unit → World → Prop} :
    (Run.log level logger message).Ends w good bad ↔
      good ⟨⟩ { w with logs := { level, logger, message } :: w.logs } := Iff.rfl

@[simp] theorem ends_tick {good : Float → World → Prop} :
    Run.tick.Ends w good bad ↔ good w.clock { w with clock := w.clock + w.clockStep } := Iff.rfl

@[simp] theorem gives_tick {x : Float} :
    Run.tick.Gives w x w' ↔ w.clock = x ∧ { w with clock := w.clock + w.clockStep } = w' := by
  simp only [Run.tick, gives_bind, gives_get, gives_set, gives_pure]
  constructor
  · rintro ⟨_, _, ⟨rfl, rfl⟩, _, _, rfl, rfl, rfl⟩
    exact ⟨rfl, rfl⟩
  · rintro ⟨rfl, rfl⟩
    exact ⟨w, w, ⟨rfl, rfl⟩, ⟨⟩, _, rfl, rfl, rfl⟩

@[simp] theorem not_gives_raiseWith {α : Type} {cls : String} {args : List Value} {a : α} :
    ¬(Run.raiseWith cls args : Run α).Gives w a w' := by
  simp [Run.raiseWith, gives_bind]

@[simp] theorem not_gives_raise {α : Type} {cls message : String} {a : α} :
    ¬(Run.raise cls message : Run α).Gives w a w' := not_gives_raiseWith

@[simp] theorem ends_raiseWith {α : Type} {cls : String} {args : List Value}
    {good : α → World → Prop} :
    (Run.raiseWith cls args : Run α).Ends w good bad ↔
      bad (.raised (.thing (w.alloc { body := .exception (.cls cls) args }).1))
        (w.alloc { body := .exception (.cls cls) args }).2 := Iff.rfl

@[simp] theorem ends_raise {α : Type} {cls message : String} {good : α → World → Prop} :
    (Run.raise cls message : Run α).Ends w good bad ↔
      bad (.raised (.thing (w.alloc { body := .exception (.cls cls) [.str message] }).1))
        (w.alloc { body := .exception (.cls cls) [.str message] }).2 := Iff.rfl

@[simp] theorem ends_setBody {r : Ref} {good : Unit → World → Prop} :
    (Run.setBody r body).Ends w good bad ↔ good ⟨⟩ (w.change r fun t => { t with body }) :=
  Iff.rfl

@[simp] theorem ends_changeTable {r : Ref} {f : Table → Table} {good : Unit → World → Prop} :
    (Run.changeTable r f).Ends w good bad ↔
      good ⟨⟩ (w.change r fun t => { t with table := f t.table }) := Iff.rfl

end Graft.Run
