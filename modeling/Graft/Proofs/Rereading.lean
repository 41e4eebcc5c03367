import Graft.Proofs.Chain

set_option autoImplicit false

/-! # What an injection has printed is read again

The text that an injection prints is registered under a file name of its own, which is made of the
identifier, and the code that it puts in place counts as being of that file.  Nothing else is ever
registered under that name, since no identifier is handed out that a record has; and a function runs
the same code for good.  So the next injection into the slot reads the text of the record, and its
line is one of that text, as long as nothing else is put into the slot.

What is relied on is that a definition is found as a whole among the lines of its own text. -/

namespace Graft

open Machine Data

/-! ## Recorded texts -/

/-- A record is there, and its source is registered under the file name of its identifier. -/
structure World.Caches (w : World) (r : InjectionRecord) : Prop where
  recorded : w.injected.get? (.ofText r.id) = some r
  cached : w.sources.get? (Injection.fileName r.id) = some (.ofText r.source)

namespace World.Caches

variable {w w' : World} {r : InjectionRecord}

theorem same (h : w.Caches r) (hsame : w.SameBooks w') : w'.Caches r where
  recorded := by rw [World.injected, hsame.journal, h.recorded]
  cached := by rw [hsame.sources, h.cached]

/-- Another injection registers its text for an identifier that is free. -/
theorem booked {id text : String} {wanted : Bool} (h : w.Caches r)
    (hbooked : Injection.Booked w id text wanted w')
    (hfree : w'.injected.contains (.ofText id) = false) : w'.Caches r := by
  have hrecorded : w'.injected.get? (.ofText r.id) = some r := by
    rw [World.injected, hbooked.journal, h.recorded]
  refine ⟨hrecorded, ?_⟩
  rw [hbooked.sources]
  split
  · have hne : r.id ≠ id := by
      intro hid
      rw [← hid, ← Journal.get?_eq_none_iff, hrecorded] at hfree
      cases hfree
    rw [SourceCache.get?_register_of_ne _ _ (mt fileName_inj.1 hne), h.cached]
  · exact h.cached

/-- Another record comes behind those that are there. -/
theorem concluded {x : Injection.Prepared} (h : w.Caches r)
    (hconcluded : (Injection.conclude x).Gives w () w') : w'.Caches r where
  recorded := by
    obtain ⟨timestamp, hgoes⟩ := Injection.conclude_records hconcluded
    exact hgoes.kept _ _ h.recorded
  cached := by rw [(Injection.conclude_leaves hconcluded).2, h.cached]

end World.Caches

/-- However an injection ends, the texts of the records are registered that were. -/
theorem Injection.apply_caches {call : Caller} (hcall : call.Confined) {w : World}
    {r : InjectionRecord} (h : w.Caches r) (target member : Value) (spec : Option Spec) :
    Attempt.Ends (apply call target member spec) w (fun _ w' => w'.Caches r) fun w' => w'.Caches r := by
  unfold apply
  rw [Attempt.ends_bind]
  refine (prepare_books hcall target member spec w).imp_gives ?_ fun _ => h.same
  rintro x w₁ hx ⟨wanted, hbooked⟩
  have hready := h.booked hbooked (prepare_gives hx).2
  rw [Attempt.ends_bind]
  refine ((Member.assign_confined hcall _ _).sameBooks w₁).imp ?_ fun _ => hready.same
  intro _ w₂ h₂
  obtain ⟨w₃, hconcluded⟩ := concludes hx h₂
  rw [Attempt.ends_bind]
  exact (Attempt.gives_lift.2 hconcluded).ends_iff.2 ((hready.same h₂).concluded hconcluded)

/-- An injection leaves a record of what has been printed, which is registered if that is wanted. -/
theorem Injection.Applies.caches {call : Caller} (hcall : call.Confined) {target member : Value}
    {spec : Option Spec} {x : Prepared} {w w₁ w₂ w' : World}
    (h : Applies call target member spec w x w₁ w₂ w')
    (hwanted : Settings.bool w.around registerKeys (.bool true) none = .ok true) :
    ∃ r, r.id = x.id ∧ r.source = x.text ∧ r.previous = x.plan.member.value ∧
      w.injected.GoesOn [(.ofText r.id, r)] w'.injected ∧ w'.Caches r := by
  obtain ⟨timestamp, hgoes⟩ := h.records hcall
  refine ⟨{
    id := x.id, member := x.plan.member.name, previous := x.plan.member.value
    code := x.plan.spec.code, line := x.plan.spec.line, loc := x.plan.spec.loc
    source := x.text, timestamp }, rfl, rfl, rfl, hgoes, ?_⟩
  refine ⟨(hgoes.found _ _ (List.mem_singleton_self _)).2, ?_⟩
  obtain ⟨wanted, hbooked⟩ := (prepare_books hcall _ _ _ _).of_gives h.prepared
  obtain rfl : wanted = true := Except.ok.inj (hbooked.setting.symm.trans hwanted)
  have h₂ := ((Member.assign_confined hcall _ _).sameBooks w₁).of_gives h.assigned
  rw [(conclude_leaves h.concluded).2, h₂.sources, hbooked.sources, if_pos rfl,
    SourceCache.get?_register]

/-- **Whatever is done**, the texts of the records are registered that were. -/
theorem World.Caches.outcome {w : World} {r : InjectionRecord} (h : w.Caches r) (m : Move) :
    (m.outcome w).Caches r := by
  have hstart : (m.start w).Caches r := ⟨h.recorded, h.cached⟩
  by_cases hinject : ∃ target member spec, m.deed = .inject target member spec
  · obtain ⟨target, member, spec, hdeed⟩ := hinject
    rw [Move.outcome_inject hdeed]
    exact (Injection.apply_caches call_confined hstart target member spec).world
  · have hsame := Deed.sameBooks (d := m.deed) fun target member spec hdeed =>
      hinject ⟨target, member, spec, hdeed⟩
    exact hstart.same (hsame (m.start w))

/-! ## Functions and their texts -/

/-- The definition in a text is found as a whole among the lines of the text, from its first
    decorator on or from the line that it begins on itself. -/
def Splice.FoundWhole (text : String) : Prop :=
  ∀ d, parseDefinition text.toList = .ok d →
    definitionText (SourceEntry.ofText text).lines (Code.firstLineOf d.span d.decorators - 1)
      = some (ended text)

instance (text : String) : Decidable (Splice.FoundWhole text) :=
  match h : Splice.parseDefinition text.toList with
  | .ok d =>
    decidable_of_iff (Splice.definitionText (SourceEntry.ofText text).lines
        (Code.firstLineOf d.span d.decorators - 1) = some (ended text))
      ⟨fun hwhole _ hparsed => Except.ok.inj (h.symm.trans hparsed) ▸ hwhole,
        fun hwhole => hwhole d h⟩
  | .error _ => isTrue fun _ hparsed => nomatch h.symm.trans hparsed

/-- A value is a function, or what is bound from one, that runs the definition in a text, which
    counts as the text of a file. -/
def World.RunsText (w : World) (v : Value) (file text : String) : Prop :=
  ∃ r receiver f code d, w.IsBound v r receiver ∧ w.body? (.thing r) = some (.function f) ∧
    f.behaviour = .code code ∧ Injection.IsDefined f ∧ code.info.file = file ∧
    Splice.parseDefinition text.toList = .ok d ∧
    code.info.firstLine = Code.firstLineOf d.span d.decorators

theorem World.Lasts.isBound {w w' : World} {v : Value} {r : Ref} {receiver : Option Value}
    (h : w.Lasts w') (hbound : w.IsBound v r receiver) : w'.IsBound v r receiver := by
  cases receiver with
  | none => exact hbound
  | some self => exact h.fixed hbound rfl

theorem Machine.Function.SameCode.isDefined_iff {f f' : Function} (h : f.SameCode f') :
    Injection.IsDefined f' ↔ Injection.IsDefined f := by
  unfold Injection.IsDefined Function.codeName
  rw [h.behaviour]

namespace World.RunsText

variable {w w' : World} {v : Value} {file text : String}

/-- A function runs the same code for good. -/
theorem lasts (h : w.RunsText v file text) (hlasts : w.Lasts w') : w'.RunsText v file text := by
  obtain ⟨r, receiver, f, code, d, hbound, hbody, hcode, hdefined, hrest⟩ := h
  obtain ⟨f', hbody', hsame⟩ := hlasts.function hbody
  exact ⟨r, receiver, f', code, d, hlasts.isBound hbound, hbody', hsame.behaviour.trans hcode,
    hsame.isDefined_iff.2 hdefined, hrest⟩

/-- The function behind a member is found if its value is one or is bound from one. -/
theorem functionOf {m : Member} (h : w.RunsText m.value file text) :
    ∃ r f, Injection.functionOf w m = .ok (r, .thing r, f) ∧
      ∃ code d, f.behaviour = .code code ∧ code.info.file = file ∧
        Splice.parseDefinition text.toList = .ok d ∧
        code.info.firstLine = Code.firstLineOf d.span d.decorators := by
  obtain ⟨r, receiver, f, code, d, hbound, hbody, hcode, hdefined, hfile, hparsed, hline⟩ := h
  refine ⟨r, f, ?_, code, d, hcode, hfile, hparsed, hline⟩
  have hname : f.codeName ≠ "<lambda>" := by
    intro hname
    exact hdefined (by rw [hname]; decide)
  unfold Injection.functionOf
  cases receiver with
  | none =>
    have hvalue : m.value = .thing r := hbound
    simp [hvalue, hbody, hname]
  | some self =>
    have hmethod : w.body? m.value = some (.method (.thing r) self) := hbound
    simp [hmethod, hbody, hname]

end World.RunsText

/-- What is ready to take the place of a member runs the definition in the text that it has been
    compiled from. -/
theorem Injection.Readies.runsText {target member : Value} {x : Prepared} {w w' : World}
    (h : Readies call target member w x w') (hdefined : IsDefined x.plan.function) :
    w'.RunsText x.replacement (fileName x.id) x.text := by
  obtain ⟨code, making, r, hcompiled, hreplaces, -, -⟩ := h.replaces
  obtain ⟨d, scope, is, hparsed, -, -, rfl, hname⟩ := compile_ok hdefined hcompiled
  obtain ⟨receiver, -, hbound⟩ := hreplaces.bound
  obtain ⟨f, hbody, -, hcode⟩ := hreplaces.replica.function
  have hfile : ∀ scope owner, (surroundingContext (fileName x.id) scope owner).file = fileName x.id := by
    intro scope owner
    cases owner <;> rfl
  refine ⟨r, receiver, f, _, d, hbound, hbody, hcode, ?_, hfile _ _, hparsed, rfl⟩
  unfold IsDefined Function.codeName
  rw [hcode]
  exact hname ▸ hdefined

/-! ## Reading again -/

/-- How an injection fares with the function that it finds: the text that is read is that of a
    source, whose last line is ended; lines are counted in it; and the injection is refused for
    nothing that has to do with the function but for its mark. -/
structure Injection.Reads (target member : Value) (spec : Option Spec) (w : World) (source : String) :
    Prop where
  read : ∀ m w₁, Looks call target member spec w m w₁ →
    ∃ r f, functionOf w₁ m = .ok (r, .thing r, f) ∧ sourceOf w₁ f = .ok (ended source)
  planned : ∀ p w₁, Attempt.Gives (plan call target member spec) w p w₁ →
    Splice.parseDefinition (ended source).toList = .ok p.old ∧
      p.index = Splice.insertionIndex (p.old.body.map rangeOf) p.line p.loc
  refused : ∀ r w₁, Attempt.Refuses (apply call target member spec) w r w₁ → r.OfFunction →
    r = .forbidden (w.text member)

/-- A slot has what runs the source of a record, which is registered. -/
structure World.Carries (w : World) (name : String) (target v : Value) (r : InjectionRecord) :
    Prop where
  has : ∃ convention, w.Has name target convention v
  runs : w.RunsText v (Injection.fileName r.id) r.source
  caches : w.Caches r

namespace World.Carries

variable {w : World} {name : String} {target v : Value} {r : InjectionRecord}

theorem spared {m : Move} (h : w.Carries name target v r) (hspares : m.Spares w name target) :
    (m.outcome w).Carries name target v r where
  has := h.has.imp fun _ hhas => hhas.spared hspares
  runs := h.runs.lasts (m.outcome_lasts w)
  caches := h.caches.outcome m

/-- **The next injection** reads the source of the record. -/
theorem reads (h : w.Carries name target v r) (hwhole : Splice.FoundWhole r.source)
    {member : Value} (m : Move) (hname : (m.start w).text member = name)
    (spec : Option Injection.Spec) : Injection.Reads target member spec (m.start w) r.source := by
  -- However the member has been looked up, it holds the function whose text is on record.
  have hread : ∀ t w₁, Injection.Looks call target member spec (m.start w) t w₁ →
      t.name = name ∧ ∃ s f, Injection.functionOf w₁ t = .ok (s, .thing s, f) ∧
        Injection.sourceOf w₁ f = .ok (ended r.source) := by
    rintro t w₁ ⟨w₀, checked, hresolve, hcheck⟩
    have h₀ := ((Member.resolve_confined call_confined target member).ends _).of_gives hresolve
    have h₁ := ((Injection.check_confined call_confined spec).ends _).of_gives hcheck
    obtain ⟨htarget, htext, -⟩ := Member.resolve_looks hresolve
    have ht : t.name = name := htext.trans hname
    refine ⟨ht, ?_⟩
    subst ht htarget
    obtain ⟨convention, hhas⟩ := h.has
    have hvalue := ((hhas.starts m).found hresolve).2
    have hlasts : w.Lasts w₁ := .trans (.of_things rfl) (h₀.lasts.trans h₁.lasts)
    obtain ⟨s, f, hfunction, code, d, hcode, hfile, hparsed, hline⟩ :=
      (hvalue ▸ h.runs.lasts hlasts : w₁.RunsText t.value _ _).functionOf
    have hsources : w₁.sources = w.sources := (h₀.reaches.trans h₁.reaches).sources
    refine ⟨s, f, hfunction, ?_⟩
    unfold Injection.sourceOf
    simp only [hcode, hfile, hsources, h.caches.cached, hline, hwhole d hparsed]
  constructor
  · exact fun t w₁ hlooks => (hread t w₁ hlooks).2
  · intro p w₁ hplan
    obtain ⟨reading, hworked, -⟩ := Injection.plan_gives hplan
    obtain ⟨w₀, hresolve, hcheck⟩ := hworked.resolved
    obtain ⟨-, s, f, hfunction, hsource⟩ := hread _ _ ⟨w₀, _, hresolve, hcheck⟩
    obtain ⟨text', htext, hparsed⟩ := hworked.old_eq
    have hsame := Except.ok.inj (hworked.function_eq.symm.trans hfunction)
    obtain ⟨-, -, hsame⟩ := Prod.mk.inj hsame |>.imp_right Prod.mk.inj
    rw [hsame, hsource] at htext
    exact ⟨Except.ok.inj htext ▸ hparsed, rfl⟩
  · intro refusal w₁ hrefuses hrefusal
    obtain ⟨t, w₂, hlooks, hcause⟩ := Injection.refuses_ofFunction hrefuses hrefusal
    obtain ⟨hname', s, f, hfunction, hsource⟩ := hread t w₂ hlooks
    rcases hcause with ⟨-, rfl⟩ | herror | ⟨_, _, _, reason, hfunction', hno, -⟩
    · rw [hname', hname]
    · exact nomatch hfunction.symm.trans herror
    · cases hfunction.symm.trans hfunction'
      exact nomatch hsource.symm.trans hno

end World.Carries

/-! ## Links that are read again -/

namespace Link

variable {l : Link} {name : String} {target : Value} {w : World}

/-- A link left a record. -/
def Leaves (l : Link) (r : InjectionRecord) : Prop :=
  l.world.injected.GoesOn [(.ofText r.id, r)] l.after.injected

/-- A link is an injection that registers its text.  It rewrites a function that a definition has
    made, and the definition that it prints is found as a whole among the lines of the text. -/
structure IsReadable (l : Link) : Prop where
  injects : ∃ target member spec, l.move.deed = .inject target member spec
  registers : Settings.bool l.move.around Injection.registerKeys (.bool true) none = .ok true
  defined : ∃ r receiver f, l.after.IsBound l.original r receiver ∧
    l.after.body? (.thing r) = some (.function f) ∧ Injection.IsDefined f
  whole : ∀ r, l.Leaves r → Splice.FoundWhole r.source

/-- The record of a link is still there, and what injections into the slot read is its source. -/
def IsReread (l : Link) (name : String) (target : Value) (w : World) : Prop :=
  ∃ r, l.Leaves r ∧ r.previous = l.original ∧ w.injected.get? (.ofText r.id) = some r ∧
    ∀ (m : Move) member spec, (m.start w).text member = name →
      Injection.Reads target member spec (m.start w) r.source

/-- A link has left a record, and the slot has what runs its source. -/
def IsKept (l : Link) (name : String) (target : Value) (w : World) : Prop :=
  ∃ r, l.Leaves r ∧ r.previous = l.original ∧ w.Carries name target l.installed r

theorem IsKept.isReread (h : l.IsKept name target w) (hreadable : l.IsReadable) :
    l.IsReread name target w := by
  obtain ⟨r, hleaves, hprevious, hcarries⟩ := h
  exact ⟨r, hleaves, hprevious, hcarries.caches.recorded, fun m member spec hname =>
    hcarries.reads (hreadable.whole r hleaves) m hname spec⟩

/-- A link is kept as long as the slot is left alone. -/
theorem IsKept.spared {m : Move} (h : l.IsKept name target w) (hspares : m.Spares w name target) :
    l.IsKept name target (m.outcome w) := by
  obtain ⟨r, hleaves, hprevious, hcarries⟩ := h
  exact ⟨r, hleaves, hprevious, hcarries.spared hspares⟩

/-- **A link is kept** when it has been made. -/
theorem Takes.isKept (h : l.Takes name target) (hreadable : l.IsReadable) :
    l.IsKept name target l.after := by
  obtain ⟨t, w₁, w₂, hexchanges, rfl, rfl, haccepts⟩ := h.exchanges
  have horiginal := h.original hexchanges
  have hhas := hexchanges.has haccepts
  have hafter : w₁.Lasts l.after := hexchanges.lasts_assigned.trans (.of_things hexchanges.things)
  obtain ⟨target, member, spec, hdeed⟩ := hreadable.injects
  have hregisters := hreadable.registers
  have hdefined := hreadable.defined
  unfold IsKept
  generalize l.installed = g at hexchanges hhas ⊢
  cases hexchanges with
  | patch deed => rw [hdeed] at deed; cases deed
  | @inject target member spec x w₁ w₂ deed applies =>
    have hready := Injection.prepare_readies applies.prepared
    obtain ⟨r, hid, hsource, hprevious, hgoes, hcaches⟩ := applies.caches call_confined hregisters
    refine ⟨r, hgoes, hprevious.trans horiginal.symm, ⟨_, hhas⟩, ?_, hcaches⟩
    rw [hid, hsource]
    refine (hready.runsText ?_).lasts hafter
    -- What the record keeps is bound from one function only, which is the one that was found.
    obtain ⟨code, making, ref, -, hreplaces, hbody, hlasts⟩ := hready.replaces
    obtain ⟨receiver, hbound, -⟩ := hreplaces.bound
    have hbound' := (hlasts.trans hafter).isBound hbound
    obtain ⟨f, hbody', hsame⟩ := (hlasts.trans hafter).function hbody
    obtain ⟨s, receiver', f', hbound'', hbody'', hdefined⟩ := hdefined
    obtain ⟨rfl, -⟩ := hbound'.unique hbody' (horiginal ▸ hbound'') hbody''
    cases hbody'.symm.trans hbody''
    exact hsame.isDefined_iff.1 hdefined

end Link

/-! ## Any run -/

namespace World.Linked

variable {w : World} {name : String} {target : Value} {ms : List Move} {l : Link} {ls : List Link}

/-- A link is kept until the next one. -/
theorem keeps (h : w.Linked name target ms ls) (hkept : l.IsKept name target w) :
    (∀ l' ∈ ls.head?, l.IsKept name target l'.world) ∧
      (ls = [] → l.IsKept name target (w.through ms)) := by
  induction h with
  | nil => exact ⟨fun _ hl => (Option.not_mem_none _ hl).elim, fun _ => hkept⟩
  | takes takes rest ih =>
    refine ⟨?_, nofun⟩
    rintro _ ⟨⟩
    exact hkept
  | spares spares rest ih => exact ih (hkept.spared spares)

/-- **What is left alone is read again**, however much is done. -/
theorem isReread (h : w.Linked name target ms ls) :
    (ls.IsChain fun l l' => l.IsReadable → l.IsReread name target l'.world) ∧
      ∀ l ∈ ls.getLast?, l.IsReadable → l.IsReread name target (w.through ms) := by
  induction h with
  | nil => exact ⟨.nil, fun _ hl => (Option.not_mem_none _ hl).elim⟩
  | @takes l ms ls takes rest ih =>
    refine ⟨List.isChain_cons.2 ⟨?_, ih.1⟩, ?_⟩
    · intro l' hl' hreadable
      exact ((rest.keeps (takes.isKept hreadable)).1 l' hl').isReread hreadable
    · cases ls with
      | nil =>
        rintro _ ⟨⟩ hreadable
        exact ((rest.keeps (takes.isKept hreadable)).2 rfl).isReread hreadable
      | cons l₁ ls => exact ih.2
  | spares spares rest ih => exact ih

end World.Linked

/-- **What an injection has printed is read again.**  If some of what is done, in this order, are
    patches and injections of a slot that succeed, and everything else that is done leaves the slot
    alone, then for each injection among them that registers its text there is a record of what it
    has found in the slot; and any injection into the slot, before the next one succeeds and in the
    world in which it does,

    * reads the source of this record, with its last line ended;
    * counts the lines of that text, wherever its own line is in it;
    * is refused for no other reason that has to do with the function than that it is forbidden, so
      its source is never unavailable.

    The function that the first one has found was made by a definition.  Every injection that
    exchanges what it has found in a slot, which takes the new callable, is one of them.  Patches and
    injections that fail leave the slot alone if the code that takes part in them has no effects. -/
theorem injections_are_reread (name : String) (target : Value) :
    (∀ w ms ls, World.Linked name target w ms ls →
      (ls.IsChain fun l l' => l.IsReadable → l.IsReread name target l'.world) ∧
      ∀ l ∈ ls.getLast?, l.IsReadable → l.IsReread name target (w.through ms)) ∧
    (∀ (m : Move) w t g w₁ w₂, m.Exchanges w t g w₁ w₂ →
      (m.start w).Accepts w₁ w₂ t.name g t.target → Link.Takes ⟨m, w, t.value, g⟩ t.name t.target) ∧
    ∀ (m : Move) w, m.Behaves w → w.Rooted name target →
      (∀ t g w₁ w₂, ¬m.Exchanges w t g w₁ w₂) → m.Spares w name target :=
  ⟨fun _ _ _ h => h.isReread, fun _ _ _ _ _ _ => Link.takes_of_exchanges,
    fun _ _ h hrooted hfails => h.spares hrooted fun t g w₁ w₂ hx => absurd hx (hfails t g w₁ w₂)⟩

/-! ### An injection behind another one -/

theorem sampleResult_foundWhole : Splice.FoundWhole Injection.sampleResult := by decide +kernel

/-- The record of the sample injection has what it prints. -/
theorem ledger_source {r : InjectionRecord} (h : Injection.sampleWorld.injected.GoesOn
    [(.ofText r.id, r)] (ledgerInjection.outcome Injection.sampleWorld).injected) :
    r.source = Injection.sampleResult := by
  obtain ⟨y, w₁, w₂, -, happlies⟩ := Injection.exchanges_of_given rfl ledger_injected
  obtain ⟨x, w', happlied, hsample⟩ := Injection.sample_applied
  obtain ⟨w₃, w₄, hprepared, -⟩ := Injection.applied_gives happlied
  obtain ⟨rfl, -⟩ := Attempt.gives_unique happlies.prepared hprepared
  obtain ⟨timestamp, hrecord⟩ := happlies.records call_confined
  obtain ⟨-, rfl⟩ := Prod.mk.inj (List.singleton_inj.1 (h.unique hrecord))
  exact (Injection.isSample_iff.1 hsample).2.1

theorem ledger_registers : Settings.bool ledgerInjection.around Injection.registerKeys (.bool true)
    none = .ok true := by decide +kernel

theorem sampleFunction_isDefined : Injection.IsDefined Injection.sampleFunction := by
  unfold Injection.IsDefined
  decide

/-- What the sample injection has put in place is read from its record, also after an injection that
    has failed. -/
theorem ledger_is_reread : ∃ l r,
    Injection.sampleWorld.Linked "idle" Injection.sampleTarget [ledgerInjection, failingInjection]
      [l] ∧
    l.Leaves r ∧ r.source = Injection.sampleResult ∧
    ∀ (m : Move) member spec, (m.start injectedWorld).text member = "idle" →
      Injection.Reads Injection.sampleTarget member spec (m.start injectedWorld)
        Injection.sampleResult := by
  obtain ⟨hreread, -, hspares⟩ := injections_are_reread "idle" Injection.sampleTarget
  have hstart : Injection.sampleWorld.body? Injection.sampleTarget = some .namespace := rfl
  obtain ⟨g, htakes⟩ := Injection.takes_of_given hstart rfl ledger_injected ledger_resolves
  have hlasts := ledgerInjection.outcome_lasts Injection.sampleWorld
  have hbody := hlasts.fixed hstart rfl
  obtain ⟨hbehaves, hfails⟩ := Move.behaves_of_unspecified (m := failingInjection) rfl hbody
  have hspared := hspares failingInjection _ hbehaves
    (World.rooted_of_supplied (World.classOf_namespace hbody)) hfails
  have hlinked := World.Linked.takes htakes (.spares hspared (.nil _))
  obtain ⟨f, hf, hsame⟩ := hlasts.function (v := .thing ⟨1⟩) (f := Injection.sampleFunction) rfl
  obtain ⟨r, hleaves, -, -, hreads⟩ := (hreread _ _ _ hlinked).2 _ rfl {
    injects := ⟨_, _, _, rfl⟩
    registers := ledger_registers
    defined := ⟨⟨1⟩, none, f, rfl, hf, hsame.isDefined_iff.2 sampleFunction_isDefined⟩
    whole := fun r hleaves => ledger_source hleaves ▸ sampleResult_foundWhole }
  have hworld : Injection.sampleWorld.through [ledgerInjection, failingInjection] =
      injectedWorld := by
    rw [World.through_cons, World.through_cons, World.through_nil, injectedWorld]
  rw [hworld, ledger_source hleaves] at hreads
  exact ⟨_, r, hlinked, hleaves, ledger_source hleaves, hreads⟩

end Graft
