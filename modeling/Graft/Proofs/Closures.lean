import Graft.Proofs.Cells
import Graft.Proofs.Convention

set_option autoImplicit false

/-! # Closures are matched by name

The variables that new code takes from functions around need not be those of the old code, nor stand
in the same order.  Each is bound to the cell that the old function has for the name, so that the
new function shares the variable with the old one and with every other function that has the cell.
If there is no cell for one of them, nothing is made. -/

namespace Graft.Injection

open Machine Code

variable {call : Caller} {f : Function} {code : Code} {w w' : World} {source file : String}
  {register : Bool} {r : Ref}

/-! ## Cells by name -/

/-- The variables that code takes from functions around and for which a function has no cell. -/
def lacking (f : Function) (code : Code) : List String :=
  code.info.frees.filter fun n => (f.cell? n).isNone

theorem mem_lacking {n : String} : n ∈ lacking f code ↔ n ∈ code.info.frees ∧ f.cell? n = none := by
  rw [lacking, List.mem_filter, Option.isNone_iff_eq_none]

/-- The cells of a function for the variables that code takes from functions around. -/
def matched (f : Function) (code : Code) : List (String × Ref) :=
  code.info.frees.filterMap fun n => (f.cell? n).map fun c => (n, c)

theorem any_closure (f : Function) (n : String) :
    (f.closure.any fun c => c.1 == n) = (f.cell? n).isSome := by
  rw [Function.cell?, Option.isSome_map, Bool.eq_iff_iff, List.any_eq_true, List.find?_isSome]

theorem find?_closure (f : Function) (n : String) :
    f.closure.find? (·.1 == n) = (f.cell? n).map fun c => (n, c) := by
  rw [Function.cell?, Option.map_map]
  cases hfound : f.closure.find? (·.1 == n) with
  | none => rfl
  | some c =>
    have hname : c.1 = n := by simpa using List.find?_some hfound
    simp [← hname]

/-- Cells are taken from the old function by name, or it is said which ones it lacks. -/
theorem bindCells_eq (f : Function) (code : Code) :
    bindCells f code = if lacking f code = [] then .ok (matched f code)
      else .error (.lacksVariables f.qualname (lacking f code)) := by
  have hlacking : (code.info.frees.filter fun n => !f.closure.any fun c => c.1 == n) =
      lacking f code := by
    refine List.filter_congr fun n _ => ?_
    rw [any_closure]
    cases f.cell? n <;> rfl
  have hmatched : (code.info.frees.filterMap fun n => f.closure.find? (·.1 == n)) =
      matched f code := by
    simp only [find?_closure, matched]
  unfold bindCells
  simp only [hlacking, hmatched]
  cases lacking f code with
  | nil => rfl
  | cons n ns => rfl

/-- If no variable lacks a cell, the cells are those of the code's variables, in its order. -/
theorem matched_names (h : lacking f code = []) : (matched f code).map Prod.fst = code.info.frees := by
  have hcells : ∀ n ∈ code.info.frees, ∃ c, f.cell? n = some c := by
    intro n hn
    by_contra hnone
    have hmem : n ∈ lacking f code :=
      mem_lacking.2 ⟨hn, Option.eq_none_iff_forall_ne_some.2 fun c hc => hnone ⟨c, hc⟩⟩
    rw [h] at hmem
    cases hmem
  unfold matched
  generalize code.info.frees = names at hcells
  induction names with
  | nil => rfl
  | cons n names ih =>
    obtain ⟨c, hc⟩ := hcells n List.mem_cons_self
    rw [List.filterMap_cons, hc]
    simp only [Option.map_some, List.map_cons]
    rw [ih fun m hm => hcells m (List.mem_cons_of_mem _ hm)]

/-! ## Variables of functions around -/

/-- Where a function takes a name from around, it has no other place. -/
theorem place?_of_mem_frees {d : Splice.Definition} {owner : Option String} {around : List String}
    {s : Scope} (h : Stands d owner around s) {n : String} (hn : n ∈ s.frees) :
    s.place? n = some .captured := by
  obtain ⟨e, hscope, -⟩ := h.isFunctionScope
  refine hscope.place?_eq_some.2 ((hscope.mem_places n .captured).1 ?_)
  have hpassed : s.passed = [] := by
    obtain ⟨a, q, wanted, children, -, -, -, -, rfl⟩ := hscope.finished
    simp [Scope.finish, Scope.passed, hscope.kind]
  simpa [hpassed] using Scope.mem_frees.1 hn

/-- What a function takes from around is no variable of its own, and is kept in cells. -/
theorem MadeFrom.free_is_in_cell {d : Splice.Definition} {inner : Context} {around : List String}
    (h : MadeFrom code d inner around) {n : String} (hn : n ∈ code.info.frees) :
    n ∉ code.info.cells ∧ inner.loadHome n = .cell ∧ inner.storeHome n = .cell := by
  rw [h.frees_eq] at hn
  have hplace := place?_of_mem_frees h.stands hn
  obtain ⟨e, hscope, -⟩ := h.stands.isFunctionScope
  obtain ⟨c, is, rfl, -, rfl⟩ := h.made
  have hload : (c.ofFunction d.span d.name d.isAsync).loadHome n = .cell := by
    rw [Context.loadHome, hplace]
    rfl
  refine ⟨fun hcell => ?_, hload, by rw [Context.storeHome, hload]⟩
  obtain ⟨⟨m, place⟩, hmem, rfl⟩ := List.mem_map.1 hcell
  obtain ⟨hmem, hshared⟩ := List.mem_filter.1 hmem
  have hplaces := hscope.place?_eq_some.2 ((hscope.mem_places m place).1 hmem)
  rw [hplace] at hplaces
  cases hplaces
  cases hshared

/-! ## New functions -/

/-- The new function has the new code and the cells that were matched. -/
theorem materialize_closure {old : Value} {v : Value}
    (h : Attempt.Gives (materialize call source old r f file register) w v w') :
    ∃ code f', compile source.toList f.frees (ownerName? f.qualname) f.codeName file = .ok code ∧
      lacking f code = [] ∧ w'.body? v = some (.function f') ∧ f'.behaviour = .code code ∧
      f'.closure = matched f code := by
  unfold materialize at h
  simp only [Attempt.gives_bind, Attempt.gives_mk, Attempt.gives_lift, Attempt.gives_pure] at h
  obtain ⟨code, _, ⟨hcode, rfl⟩, closure, _, ⟨hclosure, rfl⟩, v, w₁, hv, _, w₂, hregister, _, w₃,
    hlog, rfl, rfl⟩ := h
  rw [bindCells_eq] at hclosure
  split_ifs at hclosure with hnone
  obtain rfl := Except.ok.inj hclosure
  unfold replica at hv
  simp only [Run.gives_bind, Run.gives_new, Run.gives_read, Run.gives_newValue] at hv
  obtain ⟨entries, _, -, d, _, -, table, _, -, rfl, rfl⟩ := hv
  have hlogged : w₃.things = w₂.things := by rw [← Run.gives_log.1 hlog]
  refine ⟨code, { f with
    behaviour := .code code, closure := matched f code, annotations := some d },
    hcode, hnone, ?_, rfl, rfl⟩
  rw [World.body?_congr (hlogged.trans (registerText_things hregister)), World.body?,
    World.thing?_alloc_self]
  rfl

/-- **Closures are matched by name.**  Where a text compiles for a function, a new function is made
    of it exactly if the old one has a cell for each variable that the code takes from functions
    around.  It has then one cell for each of them, in the code's order, and nothing else; each is
    the old function's cell for the name.  So it shares the variable with the old function and with
    every other function that has that cell, in both directions.  If a cell lacks, the world is left
    as it was, without a new function and without a text for it. -/
theorem closures_are_matched_by_name (hf : w.body? (.thing r) = some (.function f))
    (hcode : compile source.toList f.frees (ownerName? f.qualname) f.codeName file = .ok code) :
    ((∀ n ∈ code.info.frees, ∃ c, f.cell? n = some c) →
      ∃ r' f' w', Attempt.Gives (materialize call source (.thing r) r f file register) w
          (.thing r') w' ∧
        w.thing? r' = none ∧ w'.body? (.thing r') = some (.function f') ∧
        f'.behaviour = .code code ∧ f'.closure.map Prod.fst = code.info.frees ∧
        (∀ n, f'.cell? n = if n ∈ code.info.frees then f.cell? n else none) ∧
        ∀ n ∈ code.info.frees, n ∉ code.info.cells →
          ∀ g code', g.cell? n = f.cell? n → n ∉ code'.info.cells →
            Shares n f' code g code' ∧ Shares n g code' f' code) ∧
    ((∃ n ∈ code.info.frees, f.cell? n = none) →
      Attempt.Refuses (materialize call source (.thing r) r f file register) w
        (.lacksVariables f.qualname (lacking f code)) w ∧
      (Refusal.lacksVariables f.qualname (lacking f code)).cls? = some .unsupportedShape ∧
      ∀ n, n ∈ lacking f code ↔ n ∈ code.info.frees ∧ f.cell? n = none) ∧
    (IsDefined f → ∃ d inner around, MadeFrom code d inner around ∧ ∀ n ∈ code.info.frees,
      n ∉ code.info.cells ∧ inner.loadHome n = .cell ∧ inner.storeHome n = .cell) := by
  have hcompiled : Attempt.Gives (ExceptT.mk (pure
      (compile source.toList f.frees (ownerName? f.qualname) f.codeName file))) w code w :=
    Attempt.gives_mk.2 ⟨hcode, rfl⟩
  refine ⟨fun hcells => ?_, fun ⟨n, hn, hnone⟩ => ⟨?_, rfl, fun n => mem_lacking⟩, fun hdefined => ?_⟩
  · have hnone : lacking f code = [] := by
      refine List.filter_eq_nil_iff.2 fun n hn => ?_
      obtain ⟨c, hc⟩ := hcells n hn
      simp [hc]
    have hbound : bindCells f code = .ok (matched f code) := by rw [bindCells_eq, if_pos hnone]
    have hends : Attempt.Ends (materialize call source (.thing r) r f file register) w
        (fun _ _ => True) fun _ => False := materialize_ends hf hcode hbound
    obtain ⟨v, w', hgives, -⟩ := hends.gives
    obtain ⟨t, ht, hbody⟩ := Option.map_eq_some_iff.1 hf
    obtain ⟨body, table⟩ := t
    obtain rfl : body = .function f := hbody
    obtain ⟨-, code₁, r', -, rfl, hreplica⟩ := materialize_isReplica ht hgives
    obtain ⟨code₂, f', hcode', -, hf', hbehaviour, hclosure⟩ := materialize_closure hgives
    obtain rfl := Except.ok.inj (hcode.symm.trans hcode')
    have hcell := Function.cell?_of_closure hclosure
    refine ⟨r', f', w', hgives, hreplica.isNew, hf', hbehaviour,
      by rw [hclosure, matched_names hnone], hcell, ?_⟩
    intro n hn hown g code' hg hown'
    have hsame : f'.cell? n = g.cell? n := by rw [hcell, if_pos hn, hg]
    exact ⟨shares_of_cell hsame hown hown', shares_of_cell hsame.symm hown' hown⟩
  · have hlacks : lacking f code ≠ [] := List.ne_nil_of_mem (mem_lacking.2 ⟨hn, hnone⟩)
    have hbound : Attempt.Refuses (ExceptT.mk (pure (bindCells f code))) w
        (.lacksVariables f.qualname (lacking f code)) w :=
      Attempt.refuses_mk.2 ⟨by rw [bindCells_eq, if_neg hlacks], rfl⟩
    unfold materialize
    exact hcompiled.refuses_bind hbound.bind
  · obtain ⟨d, inner, around, -, hmade, -, -⟩ := compile_madeFrom hdefined hcode
    exact ⟨d, inner, around, hmade, fun n hn => hmade.free_is_in_cell hn⟩

/-! ### A sample -/

/-- A function that takes two variables from the function around it. -/
def sampleTaker : Function :=
  { behaviour := .code (.mk {
      kind := .function, name := "idle", qualname := "outer.<locals>.idle", file := "<world>"
      firstLine := 2, frees := ["a", "b"] } returnNone)
    name := "idle", qualname := "outer.<locals>.idle", module := .str "world", globals := ⟨0⟩
    closure := [("a", ⟨1⟩), ("b", ⟨2⟩)] }

/-- A world with the function and its cells. -/
def takerWorld : World :=
  { things := #[{ body := .module "world" }, { body := .cell (some (.int 1)) },
      { body := .cell (some (.int 2)) }, { body := .function sampleTaker }] }

/-- A text that takes only the second of the two variables. -/
def takerText : String := "def idle():\n    return b"

/-- What comes of compiling the text. -/
def takerCode : Except Refusal Code :=
  compile takerText.toList ["a", "b"] none "idle" "<taker>"

/-- The text compiles and takes one variable. -/
theorem taker_compiles : okThat (fun code => code.info.frees == ["b"]) takerCode = true := by
  decide +kernel

/-- The new function has the second cell for the variable, although it takes one variable only. -/
theorem closures_are_matched_on_sample : ∃ r' f' w',
    Attempt.Gives (materialize Machine.call takerText (.thing ⟨3⟩) ⟨3⟩ sampleTaker "<taker>" true)
      takerWorld (.thing r') w' ∧
    w'.body? (.thing r') = some (.function f') ∧ f'.closure.map Prod.fst = ["b"] ∧
    f'.cell? "b" = some ⟨2⟩ := by
  obtain ⟨code, hcode, hcompiles⟩ := okThat_iff.1 taker_compiles
  have hfrees : code.info.frees = ["b"] := beq_iff_eq.1 hcompiles
  have hf : takerWorld.body? (.thing ⟨3⟩) = some (.function sampleTaker) := rfl
  have howner : ownerName? sampleTaker.qualname = none := by decide +kernel
  have hcode : compile takerText.toList sampleTaker.frees (ownerName? sampleTaker.qualname)
      sampleTaker.codeName "<taker>" = .ok code := by
    rw [howner]
    exact hcode
  have hcells : ∀ n ∈ code.info.frees, ∃ c, sampleTaker.cell? n = some c := by
    rw [hfrees]
    rintro n (_ | ⟨_, ⟨⟩⟩)
    exact ⟨⟨2⟩, rfl⟩
  obtain ⟨r', f', w', hgives, -, hf', -, hnames, hcell, -⟩ :=
    (closures_are_matched_by_name hf hcode).1 hcells
  refine ⟨r', f', w', hgives, hf', hnames.trans hfrees, ?_⟩
  rw [hcell, hfrees]
  rfl

end Graft.Injection
