import Mathlib.Data.List.Induction
import Mathlib.Data.List.Nodup
import Graft.Proofs.Marks

set_option autoImplicit false

/-! # Registered texts and the journal of injections

Text that an injection has printed is registered under a file name that is made of the injection's
identifier, and the record that is kept has the same text.  The two are in step if every text that
is registered in this way belongs to a record.

The text is registered before the target is written to, and the record is kept afterwards.  So the
two get out of step exactly when a text has been registered and the target refuses to be written to:
the text stays, no record has its identifier, and the identifier may be handed out again. -/

namespace Graft

open Machine Data Injection

/-! ## Lines and texts -/

theorem Text.cutLines_go_flatten (ends : Char → Bool) (cs line : List Char) :
    (cutLines.go ends cs line).flatten = line.reverse ++ cs := by
  induction cs, line using cutLines.go.induct ends with
  | case1 => rfl
  | case2 line hline => simp [cutLines.go]
  | case3 rest line ih => simp [cutLines.go, ih]
  | case4 c rest line hbreak hends ih => simp_all [cutLines.go]
  | case5 c rest line hbreak hends ih => simp_all [cutLines.go]

/-- Lines with their ends make up the text again. -/
theorem Text.linesWithEnds_flatten (cs : List Char) : (linesWithEnds cs).flatten = cs :=
  cutLines_go_flatten endsLine cs []

/-- A text whose last line is ended. -/
def ended (source : String) : String :=
  if source.toList.getLast? = some '\n' then source else source ++ "\n"

/-- The lines of an entry, joined. -/
def SourceEntry.text (e : SourceEntry) : String := String.join e.lines

/-- What has been registered is the text with its last line ended. -/
theorem SourceEntry.text_ofText (source : String) : (ofText source).text = ended source := by
  have hjoin : ∀ cs, String.join ((Text.linesWithEnds cs).map String.ofList) = String.ofList cs := by
    intro cs
    rw [← String.toList_inj, String.toList_join, List.flatMap_map]
    simpa [List.flatMap_def] using Text.linesWithEnds_flatten cs
  unfold text ofText ended
  dsimp only
  rw [hjoin]
  by_cases hends : source.toList.getLast? = some '\n'
  · simp [hends]
  · simp [hends, String.ofList_append]

theorem fileName_inj {id id' : String} : fileName id = fileName id' ↔ id = id' := by
  unfold fileName
  rw [String.append_left_inj, String.append_right_inj]

/-! ## In step -/

/-- Every record is filed under its identifier, and every text that is registered under the file
    name of an injection is that of a record with the identifier. -/
structure World.InStep (w : World) : Prop where
  filed : ∀ k r, (k, r) ∈ w.injections.journal.entries → k = .ofText r.id
  cached : ∀ id e, w.sources.get? (fileName id) = some e →
    ∃ r ∈ w.injections.journal.toList, r.id = id ∧ e = .ofText r.source

/-- The registered texts, the records of injections and the settings are the same. -/
structure World.SameBooks (w w' : World) : Prop where
  sources : w'.sources = w.sources
  journal : w'.injections.journal = w.injections.journal
  around : w'.around = w.around

namespace World

variable {w w' : World}

theorem SameBooks.refl (w : World) : w.SameBooks w := ⟨rfl, rfl, rfl⟩

theorem SameBooks.trans {w₁ : World} (h : w.SameBooks w₁) (h' : w₁.SameBooks w') :
    w.SameBooks w' :=
  ⟨h'.sources.trans h.sources, h'.journal.trans h.journal, h'.around.trans h.around⟩

theorem Reaches.sameBooks (h : w.Reaches w') : w.SameBooks w' :=
  ⟨h.sources, congrArg Register.journal h.injections, h.around⟩

/-- Patches leave registered texts and the records of injections alone. -/
theorem sameBooks_isPatchWay : IsPatchWay SameBooks where
  isWay := ⟨SameBooks.refl, SameBooks.trans⟩
  becomes h := h.reaches.sameBooks
  records _ _ _ _ := ⟨rfl, rfl, rfl⟩

/-- What is in step stays so while the texts and the records are the same. -/
theorem InStep.of_eq (h : w.InStep) (hsources : w'.sources = w.sources)
    (hjournal : w'.injections.journal = w.injections.journal) : w'.InStep where
  filed k r hr := h.filed k r (hjournal ▸ hr)
  cached id e he := by
    rw [hjournal]
    exact h.cached id e (hsources ▸ he)

theorem InStep.same (h : w.InStep) (hs : w.SameBooks w') : w'.InStep :=
  h.of_eq hs.sources hs.journal

/-- A text and its record have been added, or the record alone. -/
theorem InStep.add (h : w.InStep) {r : InjectionRecord}
    (hentries : w'.injections.journal.entries = w.injections.journal.entries ++ [(.ofText r.id, r)])
    (hsources : w'.sources = w.sources ∨
      w'.sources = w.sources.register (fileName r.id) r.source) : w'.InStep where
  filed k s hs := by
    rw [hentries, List.mem_append, List.mem_singleton] at hs
    rcases hs with hs | hs
    · exact h.filed k s hs
    · cases hs
      rfl
  cached id e he := by
    have hold : ∀ s ∈ w.injections.journal.toList, s ∈ w'.injections.journal.toList := by
      intro s hs
      simp only [Journal.toList, hentries, List.map_append, List.mem_append] at hs ⊢
      exact .inl hs
    have hget : w.sources.get? (fileName id) = some e →
        ∃ s ∈ w'.injections.journal.toList, s.id = id ∧ e = .ofText s.source := by
      intro hget
      obtain ⟨s, hs, hid, he⟩ := h.cached id e hget
      exact ⟨s, hold s hs, hid, he⟩
    -- What is looked up is an older text, or the one that has just been registered.
    rcases hsources with hsources | hsources
    · exact hget (hsources ▸ he)
    · rw [hsources] at he
      by_cases hid : id = r.id
      · subst hid
        rw [SourceCache.get?_register] at he
        cases he
        exact ⟨r, by simp [Journal.toList, hentries], rfl, rfl⟩
      · rw [SourceCache.get?_register_of_ne _ _ (mt fileName_inj.1 hid)] at he
        exact hget he

/-- No record has an identifier that is free. -/
theorem InStep.not_mem (h : w.InStep) {id : String}
    (hfree : w.injections.journal.contains (.ofText id) = false) :
    ∀ r ∈ w.injections.journal.toList, r.id ≠ id := by
  intro r hr hid
  obtain ⟨⟨k, s⟩, hmem, rfl⟩ := List.mem_map.1 hr
  have hkey : Key.ofText id ∈ w.injections.journal.entries.map Prod.fst := by
    rw [← hid, ← h.filed k s hmem]
    exact List.mem_map_of_mem hmem
  simp [Journal.contains, hkey] at hfree

end World

/-! ## What an injection does to texts and records -/

namespace Attempt

variable {α β : Type} {x : Attempt α} {f : α → Attempt β} {w : World}

theorem Ends.imp_gives {good good' : α → World → Prop} {bad bad' : World → Prop}
    (h : Attempt.Ends x w good bad)
    (hgood : ∀ a w₁, Attempt.Gives x w a w₁ → good a w₁ → good' a w₁)
    (hbad : ∀ w₁, bad w₁ → bad' w₁) : Attempt.Ends x w good' bad' := by
  unfold Attempt.Ends Run.Ends at h ⊢
  rcases hx : Run.result x.run w with ⟨e | r | a, w₁⟩ <;> rw [hx] at h
  · exact hbad _ h
  · exact hbad _ h
  · exact hgood a w₁ hx h

/-- An attempt that gives something ends in no other way. -/
theorem Gives.ends_iff {a : α} {w₁ : World} {good : α → World → Prop} {bad : World → Prop}
    (h : Attempt.Gives x w a w₁) : Attempt.Ends x w good bad ↔ good a w₁ := by
  unfold Attempt.Gives Run.Gives at h
  unfold Attempt.Ends Run.Ends
  rw [h]

theorem Confined.sameBooks (hx : Attempt.Confined x) (w : World) :
    Attempt.Ends x w (fun _ => w.SameBooks) w.SameBooks :=
  (hx.leads fun h => h.reaches.sameBooks).ends w

/-- What follows an attempt that leaves texts and records alone. -/
theorem ends_bind_sameBooks {good : β → World → Prop}
    (hx : Attempt.Ends x w (fun _ => w.SameBooks) w.SameBooks)
    (hf : ∀ a w₁, Attempt.Gives x w a w₁ → w.SameBooks w₁ →
      Attempt.Ends (f a) w₁ good w₁.SameBooks) :
    Attempt.Ends (x >>= f) w good w.SameBooks := by
  rw [Attempt.ends_bind]
  refine hx.imp_gives ?_ fun _ h => h
  intro a w₁ hgives hsame
  exact (hf a w₁ hgives hsame).imp (fun _ _ h => h) fun _ => hsame.trans

end Attempt

namespace Injection

variable {call : Caller} {target member : Value} {spec : Option Spec} {w w₁ w₂ : World}
  {id text : String} {wanted : Bool} {x : Prepared}

theorem newId_sameBooks (w : World) :
    Attempt.Ends newId w (fun _ => w.SameBooks) w.SameBooks := by
  unfold newId
  rw [Attempt.ends_bind, Attempt.ends_lift, Run.ends_world]
  split
  · rename_i hreserve
    exact ⟨rfl, (Register.reserve_spec hreserve).1, rfl⟩
  · exact .refl w

/-- The text of an injection has been registered if that is wanted, and nothing has been recorded. -/
structure Booked (w : World) (id text : String) (wanted : Bool) (w₁ : World) : Prop where
  setting : Settings.bool w.around registerKeys (.bool true) none = .ok wanted
  sources : w₁.sources = if wanted then w.sources.register (fileName id) text else w.sources
  journal : w₁.injections.journal = w.injections.journal

/-- Whatever leaves texts and records alone can come first. -/
theorem Booked.before (h : Booked w₁ id text wanted w₂) (hs : w.SameBooks w₁) :
    Booked w id text wanted w₂ where
  setting := hs.around ▸ h.setting
  sources := hs.sources ▸ h.sources
  journal := h.journal.trans hs.journal

/-- Whatever leaves texts and records alone can come next. -/
theorem Booked.later (h : Booked w id text wanted w₁) (hs : w₁.SameBooks w₂) :
    Booked w id text wanted w₂ where
  setting := h.setting
  sources := hs.sources.trans h.sources
  journal := hs.journal.trans h.journal

/-- Making a function fails before its text is registered, or not at all. -/
theorem materialize_books (hcall : call.Confined) (source : String) (old : Value) (r : Ref)
    (f : Function) (id : String) (wanted : Bool) (w : World)
    (hsetting : Settings.bool w.around registerKeys (.bool true) none = .ok wanted) :
    Attempt.Ends (materialize call source old r f (fileName id) wanted) w
      (fun _ => Booked w id source wanted) w.SameBooks := by
  unfold materialize
  refine Attempt.ends_bind_sameBooks (Attempt.Confined.sameBooks (.mk _) w) ?_
  intro code w₁ _ h₁
  refine (Attempt.ends_bind_sameBooks (Attempt.Confined.sameBooks (.mk _) w₁) ?_).imp
    (fun _ _ h => Booked.before h h₁) fun _ h => h
  intro closure w₂ _ h₂
  have hreplica := Attempt.Confined.lift (replica_confined hcall old r f code closure)
  refine (Attempt.ends_bind_sameBooks (hreplica.sameBooks w₂) ?_).imp
    (fun _ _ h => Booked.before h h₂) fun _ h => h
  intro v w₃ _ h₃
  have haround : w₃.around = w.around := ((h₁.trans h₂).trans h₃).around
  simp only [Attempt.ends_bind, Attempt.ends_lift, Run.ends_log, Attempt.ends_pure]
  have hbooked : ∀ w₄, Booked w₃ id source wanted w₄ → Booked w₂ id source wanted w₄ :=
    fun _ h => h.before h₃
  unfold registerText
  cases wanted with
  | true => exact hbooked _ ⟨haround ▸ hsetting, rfl, rfl⟩
  | false => exact hbooked _ ⟨haround ▸ hsetting, rfl, rfl⟩

theorem replacementFor_books (hcall : call.Confined) (p : Plan) (text id : String) (w : World) :
    Attempt.Ends (replacementFor call p text id) w
      (fun _ w₁ => ∃ wanted, Booked w id text wanted w₁) w.SameBooks := by
  unfold replacementFor
  refine Attempt.ends_bind_sameBooks (registers_confined.sameBooks w) ?_
  intro wanted w₁ hgives _
  obtain ⟨rfl, hsetting⟩ := registers_gives hgives
  rw [Attempt.ends_bind]
  refine (materialize_books hcall text p.value p.ref p.function id wanted w hsetting).imp ?_
    fun _ h => h
  intro v w₁ hbooked
  -- Binding the function to the receiver of a method can not fail.
  rw [Attempt.ends_lift]
  unfold rebound
  rw [Run.ends_bind, Run.ends_bodyOf]
  split
  · exact ⟨wanted, hbooked.later ⟨rfl, rfl, rfl⟩⟩
  · exact ⟨wanted, hbooked⟩

/-- Making an injection ready fails before its text is registered, or not at all. -/
theorem prepare_books (hcall : call.Confined) (target member : Value) (spec : Option Spec)
    (w : World) :
    Attempt.Ends (prepare call target member spec) w
      (fun x w₁ => ∃ wanted, Booked w x.id x.text wanted w₁) w.SameBooks := by
  unfold prepare
  refine Attempt.ends_bind_sameBooks ((plan_confined hcall _ _ _).sameBooks w) ?_
  intro p w₁ _ h₁
  refine Attempt.ends_bind_sameBooks ((textOf_confined _).sameBooks w₁) ?_
  intro text w₂ _ h₂
  refine Attempt.ends_bind_sameBooks (Attempt.Confined.sameBooks (.lift (.log _ _ _)) w₂) ?_
  intro _ w₃ _ h₃
  refine Attempt.ends_bind_sameBooks (newId_sameBooks w₃) ?_
  intro id w₄ _ h₄
  rw [Attempt.ends_bind]
  refine (replacementFor_books hcall p text id w₄).imp ?_ fun _ h => h
  rintro v w₅ ⟨wanted, hbooked⟩
  exact ⟨wanted, hbooked.before (h₁.trans (h₂.trans (h₃.trans h₄)))⟩

/-- A record that is kept comes last. -/
theorem keep_books {record : InjectionRecord} (h : (keep record).Gives w () w₁) :
    w₁.sources = w.sources ∧
      w₁.injections.journal.entries = w.injections.journal.entries ++ [(.ofText record.id, record)] := by
  unfold keep at h
  simp only [Run.gives_bind, Run.gives_world] at h
  obtain ⟨_, _, ⟨rfl, rfl⟩, h⟩ := h
  split at h
  · rename_i journal hadd
    rw [Run.gives_set] at h
    subst h
    exact ⟨rfl, (Journal.add?_eq_some hadd).2⟩
  · simp at h

/-- The record that is kept has the identifier and the text of the injection. -/
theorem conclude_books (h : (conclude x).Gives w () w₁) :
    ∃ r, r.id = x.id ∧ r.source = x.text ∧ w₁.sources = w.sources ∧
      w₁.injections.journal.entries = w.injections.journal.entries ++ [(.ofText r.id, r)] := by
  unfold conclude at h
  simp only [Run.gives_bind] at h
  obtain ⟨timestamp, w₂, htick, _, w₃, hkeep, hlog⟩ := h
  obtain ⟨hsources, hentries⟩ := keep_books hkeep
  rw [Run.gives_tick] at htick
  rw [Run.gives_log] at hlog
  obtain ⟨-, rfl⟩ := htick
  subst hlog
  exact ⟨_, rfl, rfl, hsources, hentries⟩

/-- An injection is made ready and its text is registered, but the target is not written to. -/
def LeavesText (call : Caller) (target member : Value) (spec : Option Spec) (w : World) : Prop :=
  ∃ x w₁, Attempt.Gives (prepare call target member spec) w x w₁ ∧
    Settings.bool w.around registerKeys (.bool true) none = .ok true ∧
    ∀ w₂, ¬Attempt.Gives (x.plan.member.assign call x.replacement) w₁ () w₂

/-- The text and the record belong together. -/
theorem Booked.inStep {w₃ : World} (hbooked : Booked w x.id x.text wanted w₁) (h : w.InStep)
    (h₂ : w₁.SameBooks w₂) (hconcluded : (conclude x).Gives w₂ () w₃) : w₃.InStep := by
  obtain ⟨r, hid, hsource, hsources, hentries⟩ := conclude_books hconcluded
  rw [h₂.journal, hbooked.journal] at hentries
  refine h.add hentries ?_
  rw [hsources, h₂.sources, hbooked.sources, hid, hsource]
  cases wanted with
  | true => exact .inr rfl
  | false => exact .inl rfl

/-- An injection that is ready and has been written to the target goes on to its end. -/
theorem concludes (hx : Attempt.Gives (prepare call target member spec) w x w₁)
    (h₂ : w₁.SameBooks w₂) : ∃ w₃, (conclude x).Gives w₂ () w₃ :=
  conclude_succeeds (by rw [h₂.journal]; exact (prepare_gives hx).2)

/-- An injection that leaves no text behind keeps texts and records in step, however it ends. -/
theorem apply_inStep (hcall : call.Confined) (h : w.InStep)
    (hleaves : ¬LeavesText call target member spec w) :
    Attempt.Ends (apply call target member spec) w (fun _ => World.InStep) World.InStep := by
  unfold apply
  rw [Attempt.ends_bind]
  refine (prepare_books hcall target member spec w).imp_gives ?_ fun _ => h.same
  rintro x w₁ hx ⟨wanted, hbooked⟩
  rw [Attempt.ends_bind]
  have hassign := (Member.assign_confined hcall x.plan.member x.replacement).sameBooks w₁
  by_cases hwritten : ∃ w₂, Attempt.Gives (x.plan.member.assign call x.replacement) w₁ () w₂
  · obtain ⟨w₂, hgives⟩ := hwritten
    have h₂ : w₁.SameBooks w₂ := hassign.of_gives hgives
    obtain ⟨w₃, hconcluded⟩ := concludes hx h₂
    rw [hgives.ends_iff, Attempt.ends_bind]
    exact (Attempt.gives_lift.2 hconcluded).ends_iff.2 (hbooked.inStep h h₂ hconcluded)
  · have hnowhere := not_exists.1 hwritten
    cases wanted with
    | true => exact absurd ⟨x, w₁, hx, hbooked.setting, hnowhere⟩ hleaves
    | false =>
      refine hassign.imp_gives (fun _ w₂ hgives _ => absurd hgives (hnowhere w₂)) ?_
      intro w₂ h₂
      exact h.of_eq (h₂.sources.trans hbooked.sources) (h₂.journal.trans hbooked.journal)

/-- An injection that leaves its text behind fails, and then there is a text that is registered for
    an identifier of no record. -/
theorem LeavesText.ends (hcall : call.Confined) (h : w.InStep)
    (hleaves : LeavesText call target member spec w) :
    Attempt.Ends (apply call target member spec) w (fun _ _ => False) fun w' =>
      ∃ id text, w'.sources.get? (fileName id) = some (.ofText text) ∧
        ∀ r ∈ w'.injections.journal.toList, r.id ≠ id := by
  obtain ⟨x, w₁, hx, hsetting, hnowhere⟩ := hleaves
  obtain ⟨wanted, hbooked⟩ := (prepare_books hcall target member spec w).of_gives hx
  unfold apply
  rw [Attempt.ends_bind, hx.ends_iff, Attempt.ends_bind]
  have hassign := (Member.assign_confined hcall x.plan.member x.replacement).sameBooks w₁
  refine hassign.imp_gives (fun _ w₂ hgives _ => absurd hgives (hnowhere w₂)) ?_
  intro w₂ h₂
  have hwanted : wanted = true := by
    rw [hbooked.setting] at hsetting
    exact Except.ok.inj hsetting
  refine ⟨x.id, x.text, ?_, ?_⟩
  · rw [h₂.sources, hbooked.sources, if_pos hwanted, SourceCache.get?_register]
  · rw [h₂.journal, hbooked.journal]
    exact h.not_mem (by rw [← hbooked.journal]; exact (prepare_gives hx).2)

end Injection

/-! ## Runs -/

/-- Something that is done, with the settings and the random numbers that are there by then. -/
structure Move where
  around : Surroundings
  dice : Dice
  deed : Deed

/-- The world in which something is done. -/
def Move.start (m : Move) (w : World) : World := { w with around := m.around, dice := m.dice }

/-- The world after something has been done, which may have failed. -/
def Move.outcome (m : Move) (w : World) : World := ((m.deed.run call).result (m.start w)).2

/-- The world after some things have been done one after the other, each of which may have
    failed. -/
def World.through (w : World) (ms : List Move) : World := ms.foldl (fun w m => m.outcome w) w

/-- What is done is an injection that leaves its text behind. -/
def Move.LeavesText (m : Move) (w : World) : Prop :=
  ∃ target member spec, m.deed = .inject target member spec ∧
    Injection.LeavesText call target member spec (m.start w)

/-- A text is registered for an identifier of no record. -/
def World.HasStray (w : World) : Prop :=
  ∃ id text, w.sources.get? (fileName id) = some (.ofText text) ∧
    ∀ r ∈ w.injections.journal.toList, r.id ≠ id

theorem Move.start_things (m : Move) (w : World) : (m.start w).things = w.things := rfl

theorem World.through_nil (w : World) : w.through [] = w := rfl

theorem World.through_cons (w : World) (m : Move) (ms : List Move) :
    w.through (m :: ms) = (m.outcome w).through ms := rfl

theorem World.through_append (w : World) (ms ms' : List Move) :
    w.through (ms ++ ms') = (w.through ms).through ms' := List.foldl_append

theorem World.through_concat (w : World) (ms : List Move) (m : Move) :
    w.through (ms ++ [m]) = m.outcome (w.through ms) := World.through_append w ms [m]

theorem World.HasStray.not_inStep {w : World} (h : w.HasStray) : ¬w.InStep := by
  obtain ⟨id, text, hget, hnone⟩ := h
  intro hstep
  obtain ⟨r, hr, hid, -⟩ := hstep.cached id _ hget
  exact hnone r hr hid

/-- What holds however an attempt ends holds of the world that it leaves. -/
theorem Attempt.Ends.world {α : Type} {x : Attempt α} {w : World} {P : World → Prop}
    (h : Attempt.Ends x w (fun _ => P) P) : P (Run.result x.run w).2 := by
  unfold Attempt.Ends Run.Ends at h
  rcases hx : Run.result x.run w with ⟨e | r | a, w₁⟩ <;> rw [hx] at h <;> exact h

theorem Deed.inject_world (target member : Value) (spec : Option Spec) (w : World) :
    (((Deed.inject target member spec).run Machine.call).result w).2 =
      (Run.result (apply Machine.call target member spec).run w).2 := by
  unfold Deed.run
  rw [Run.result_map]
  rcases Run.result (apply Machine.call target member spec).run w with ⟨e | r, w'⟩ <;> rfl

/-- Everything but injections leaves texts and records alone. -/
theorem Deed.sameBooks {d : Deed} (hd : ∀ target member spec, d ≠ .inject target member spec) :
    Run.Leads World.SameBooks (d.run Machine.call) := by
  have hconfined : ∀ {α : Type} {x : Run α}, x.Confined → Run.Leads World.SameBooks x :=
    fun hx => hx.leads fun h => h.reaches.sameBooks
  cases d with
  | mark allowed v => exact .map (hconfined (Run.mark_confined allowed v))
  | patch target member spec =>
    exact .map (Patch.apply_leads World.sameBooks_isPatchWay call_confined target member spec)
  | inject target member spec => exact absurd rfl (hd target member spec)
  | call v args => exact .map (hconfined (call_confined v args))

namespace Move

variable {m : Move} {w : World}

/-- **One step.**  Texts and records stay in step unless an injection leaves its text behind. -/
theorem outcome_inStep (h : w.InStep) (hleaves : ¬m.LeavesText w) : (m.outcome w).InStep := by
  have hstart : (m.start w).InStep := h.of_eq rfl rfl
  by_cases hinject : ∃ target member spec, m.deed = .inject target member spec
  · obtain ⟨target, member, spec, hdeed⟩ := hinject
    unfold outcome
    rw [hdeed, Deed.inject_world]
    refine (apply_inStep call_confined hstart ?_).world
    exact fun hleft => hleaves ⟨target, member, spec, hdeed, hleft⟩
  · have hsame := Deed.sameBooks (d := m.deed) fun target member spec hdeed =>
      hinject ⟨target, member, spec, hdeed⟩
    exact hstart.same (hsame (m.start w))

/-- An injection that leaves its text behind leaves it without a record. -/
theorem outcome_hasStray (h : w.InStep) (hleaves : m.LeavesText w) : (m.outcome w).HasStray := by
  obtain ⟨target, member, spec, hdeed, hleft⟩ := hleaves
  have hstart : (m.start w).InStep := h.of_eq rfl rfl
  unfold outcome
  rw [hdeed, Deed.inject_world]
  exact ((hleft.ends call_confined hstart).imp (fun _ _ h => h.elim) fun _ h => h).world

end Move

/-! ## Records remain -/

/-- Records of injections are only added, behind the ones that are there. -/
def World.KeepsRecords (w w' : World) : Prop :=
  w.injections.journal.entries <+: w'.injections.journal.entries

theorem World.SameBooks.keepsRecords {w w' : World} (h : w.SameBooks w') : w.KeepsRecords w' := by
  simp only [KeepsRecords, h.journal, List.prefix_rfl]

theorem World.keepsRecords_isInjectionWay : World.IsInjectionWay World.KeepsRecords where
  isWay := ⟨fun _ => List.prefix_rfl, List.IsPrefix.trans⟩
  becomes h := h.reaches.sameBooks.keepsRecords
  texts _ _ _ := List.prefix_rfl
  draws w injections dice h := by
    simp only [KeepsRecords, h, List.prefix_rfl]
  records w k r journal h := by
    unfold KeepsRecords
    rw [(Journal.add?_eq_some h).2]
    exact List.prefix_append _ _

theorem Move.outcome_keepsRecords (m : Move) (w : World) : w.KeepsRecords (m.outcome w) := by
  by_cases hinject : ∃ target member spec, m.deed = .inject target member spec
  · obtain ⟨target, member, spec, hdeed⟩ := hinject
    unfold outcome
    rw [hdeed, Deed.inject_world]
    exact apply_leads World.keepsRecords_isInjectionWay call_confined target member spec (m.start w)
  · have hsame := Deed.sameBooks (d := m.deed) fun target member spec hdeed =>
      hinject ⟨target, member, spec, hdeed⟩
    exact (hsame (m.start w)).keepsRecords

theorem World.through_keepsRecords (w : World) (ms : List Move) : w.KeepsRecords (w.through ms) := by
  induction ms generalizing w with
  | nil => exact List.prefix_rfl
  | cons m ms ih => exact (m.outcome_keepsRecords w).trans (ih (m.outcome w))

/-- In a world in step, two records with one identifier are the same. -/
theorem World.InStep.unique {w : World} (h : w.InStep) {k : Key} {r s : InjectionRecord}
    (hr : (k, r) ∈ w.injections.journal.entries) (hs : s ∈ w.injections.journal.toList)
    (hid : s.id = r.id) : s = r := by
  obtain ⟨⟨l, s⟩, hmem, rfl⟩ := List.mem_map.1 hs
  have hkey : l = k := by rw [h.filed l s hmem, h.filed k r hr, hid]
  exact congrArg Prod.snd (List.inj_on_of_nodup_map w.injections.journal.nodup hmem hr hkey)

/-- The text of an injection that has been carried out is that of the record that has its
    identifier from then on. -/
theorem Move.recorded {m : Move} {w w₁ : World} {target member : Value} {spec : Option Spec}
    {id : String} (hdeed : m.deed = .inject target member spec)
    (hgives : Attempt.Gives (apply Machine.call target member spec) (m.start w) id w₁)
    (after : List Move) (h : ((m.outcome w).through after).InStep) :
    ∃ s, Succeeds Machine.call target member spec (m.start w) s w₁ ∧ s.id = id ∧
      ∀ r ∈ ((m.outcome w).through after).injections.journal.toList, r.id = id → s.text = r.source := by
  obtain ⟨s, hs, rfl⟩ := apply_gives hgives
  refine ⟨s, hs, rfl, ?_⟩
  intro r hr hid
  have hworld : m.outcome w = w₁ := by
    unfold outcome
    rw [hdeed, Deed.inject_world]
    exact congrArg Prod.snd hgives
  obtain ⟨r', hget, hsource⟩ := hs.recorded
  -- The record is still there, and no other one has its identifier.
  obtain ⟨⟨k, r''⟩, hfound, rfl⟩ := Option.map_eq_some_iff.1 hget
  have hkey : k = .ofText s.id := by simpa using List.find?_some hfound
  have hmem := (World.through_keepsRecords (m.outcome w) after).subset
    (hworld ▸ List.mem_of_find?_eq_some hfound)
  have hid' : r''.id = s.id := by
    have hfiled := h.filed k r'' hmem
    rw [hkey] at hfiled
    simpa [Key.ofText, Key.ofPart] using hfiled.symm
  rw [h.unique hmem hr (hid.trans hid'.symm), hsource]

/-! ## The main result -/

/-- **Registered texts and records are in step exactly as long as no injection leaves its text
    behind.**  If one does, its text is registered for an identifier of no record.  As long as they
    are in step, what is registered for an identifier is the text of the record that has it, which
    is the one that the injection with this identifier has put in place. -/
theorem texts_are_recorded_iff (w : World) (h : w.InStep) (ms : List Move) :
    ((∀ done, done <+: ms → (w.through done).InStep) ↔
      ∀ done m rest, ms = done ++ m :: rest → ¬m.LeavesText (w.through done)) ∧
    (∀ done m rest, ms = done ++ m :: rest → (w.through done).InStep →
      m.LeavesText (w.through done) → (w.through (done ++ [m])).HasStray) ∧
    ∀ done, done <+: ms → (w.through done).InStep →
      ∀ id e, (w.through done).sources.get? (fileName id) = some e →
        ∃ r ∈ (w.through done).injections.journal.toList, r.id = id ∧ e.text = ended r.source ∧
          ∀ before m after target member spec w₁, done = before ++ m :: after →
            m.deed = .inject target member spec →
            Attempt.Gives (apply Machine.call target member spec) (m.start (w.through before)) id w₁ →
            ∃ s, Succeeds Machine.call target member spec (m.start (w.through before)) s w₁ ∧
              s.id = id ∧ e.text = ended s.text := by
  refine ⟨⟨?_, ?_⟩, ?_, ?_⟩
  · intro hall done m rest hms hleaves
    have hstray := Move.outcome_hasStray (hall done ⟨_, hms.symm⟩) hleaves
    rw [← World.through_concat] at hstray
    exact hstray.not_inStep (hall _ ⟨rest, by simp [hms]⟩)
  · intro hnone done hdone
    induction done using List.reverseRecOn with
    | nil => exact h
    | append_singleton done m ih =>
      obtain ⟨rest, hms⟩ := hdone
      rw [List.append_assoc] at hms
      rw [World.through_concat]
      exact Move.outcome_inStep (ih ⟨_, hms⟩) (hnone done m rest hms.symm)
  · intro done m rest _ hstep hleaves
    rw [World.through_concat]
    exact Move.outcome_hasStray hstep hleaves
  · intro done _ hstep id e hget
    obtain ⟨r, hr, hid, rfl⟩ := hstep.cached id e hget
    refine ⟨r, hr, hid, SourceEntry.text_ofText _, ?_⟩
    rintro before m after target member spec w₁ rfl hdeed hgives
    rw [World.through_append] at hstep hr
    obtain ⟨s, hs, hsid, hsource⟩ := Move.recorded hdeed hgives after hstep
    refine ⟨s, hs, hsid, ?_⟩
    rw [hsource r hr hid, SourceEntry.text_ofText]

/-! ### A target that can not be written to -/

/-- A world in which a dictionary that can not be changed holds the sample function. -/
def lockedWorld : World :=
  { things := #[{ body := .module "world" }, { body := .function sampleFunction },
      { body := .dict [⟨.ofText "idle", .str "idle", .thing ⟨1⟩⟩] },
      { body := .userDict true ⟨2⟩ }]
    sources := ({} : SourceCache).register "<world>" sampleText }

/-- The sample injection into the dictionary. -/
def lockedMove : Move :=
  { around := {}, dice := {}, deed := .inject (.thing ⟨3⟩) (.str "idle") (some sampleSpec) }

/-- Whether an injection is made ready with its text registered, and the target refuses it. -/
def refusesToTake (target member : Value) (spec : Option Spec) (w : World) : Bool :=
  match (prepare Machine.call target member spec).run.result w with
  | (.ok (.ok x), w₁) => Settings.bool w.around registerKeys (.bool true) none == .ok true
      && !Attempt.givesThat (fun _ => true) (x.plan.member.assign Machine.call x.replacement) w₁
  | _ => false

theorem leavesText_of_refusesToTake {target member : Value} {spec : Option Spec} {w : World}
    (h : refusesToTake target member spec w = true) :
    Injection.LeavesText Machine.call target member spec w := by
  unfold refusesToTake at h
  split at h
  · rename_i x w₁ hprepared
    rw [Bool.and_eq_true, beq_iff_eq, Bool.not_eq_true', ← Bool.not_eq_true] at h
    exact ⟨x, w₁, hprepared, h.1, fun w₂ hassign =>
      h.2 (Attempt.givesThat_iff.2 ⟨(), w₂, hassign, rfl⟩)⟩
  · cases h

theorem locked_refuses : refusesToTake (.thing ⟨3⟩) (.str "idle") (some sampleSpec)
    (lockedMove.start lockedWorld) = true := by decide +kernel

theorem locked_leavesText : lockedMove.LeavesText lockedWorld :=
  ⟨_, _, _, rfl, leavesText_of_refusesToTake locked_refuses⟩

theorem lockedWorld_inStep : lockedWorld.InStep where
  filed k r hr := nomatch hr
  cached id e he := by
    have hname : "<world>" ≠ fileName id := by
      intro hname
      have hchars := congrArg (fun s : String => s.toList[1]?) hname
      simp [fileName] at hchars
    simp [lockedWorld, SourceCache.get?, SourceCache.register, hname] at he

/-- The text that is refused by the dictionary belongs to no record. -/
theorem locked_text_is_stray :
    lockedWorld.InStep ∧ (lockedWorld.through [lockedMove]).HasStray ∧
      ¬∀ done, done <+: [lockedMove] → (lockedWorld.through done).InStep := by
  obtain ⟨hiff, hstray, -⟩ := texts_are_recorded_iff lockedWorld lockedWorld_inStep [lockedMove]
  refine ⟨lockedWorld_inStep, ?_, ?_⟩
  · exact hstray [] lockedMove [] rfl lockedWorld_inStep locked_leavesText
  · intro hall
    exact hiff.1 hall [] lockedMove [] rfl locked_leavesText

end Graft
