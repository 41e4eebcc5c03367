import Graft.Proofs.Minting
import Graft.Proofs.Records

set_option autoImplicit false

/-! # Identifiers that are asked for

A patch may ask for its identifier.  If it is given the one that it asks for, its record is found
under that from then on, and nothing that is done later is given the same one, whether it asks for
it or not.  The empty text alone can not be had: to ask for it is to ask for nothing, and another
identifier is drawn. -/

namespace Graft.Patch

open Graft.Machine Graft.Data

variable {target member : Value} {s : Spec} {text : String} {m : Member} {w w₁ w' : World}

/-! ## Choosing an identifier -/

/-- Text counts as something unless it is empty. -/
theorem truth_of_text {v : Value} (htext : v.text? = some text) :
    w.truth v = true ↔ text ≠ "" := by
  cases v with
  | str s =>
    cases htext
    simp [World.truth]
  | choice c =>
    cases htext
    obtain ⟨⟨⟩⟩ | ⟨⟨⟩⟩ := c <;> exact iff_of_true rfl (by decide)
  | _ => cases htext

/-- An identifier that is drawn has a leading text and an underscore at least. -/
theorem identifierOf_ne_empty (lead : String) (suffix : List Char) :
    identifierOf lead suffix ≠ "" := by
  intro h
  have hchars := congrArg String.toList h
  simp [identifierOf] at hchars

/-- What is asked for is chosen if it is no empty text and in use by no record. -/
theorem chooseId_wanted {wanted : Value} (htext : wanted.text? = some text) (hne : text ≠ "")
    (hfree : w.patched.contains (.ofText text) = false) :
    Attempt.Gives (chooseId wanted) w wanted w := by
  unfold chooseId
  refine Attempt.gives_bind_world.2 ?_
  rw [if_pos ((truth_of_text htext).2 hne)]
  have hhash := Attempt.gives_lift.2 (World.hashOf_gives (w := w) (keyOf_text htext))
  refine Attempt.gives_bind.2 ⟨_, w, hhash, ?_⟩
  rw [if_neg (by rw [hfree]; decide)]
  exact Attempt.gives_pure.2 ⟨rfl, rfl⟩

theorem chooseId_eq {wanted id : Value} (htext : wanted.text? = some text) (hne : text ≠ "")
    (h : Attempt.Gives (chooseId wanted) w id w') : id = wanted := by
  unfold chooseId at h
  replace h := Attempt.gives_bind_world.1 h
  rw [if_pos ((truth_of_text htext).2 hne)] at h
  obtain ⟨k, w₁, -, h⟩ := Attempt.gives_bind.1 h
  split at h
  · exact absurd h Attempt.not_gives_refuse
  · exact (Attempt.gives_pure.1 h).1.symm

/-- Whoever asks for the empty text is given an identifier that is drawn. -/
theorem chooseId_unwanted {wanted id : Value} (htext : wanted.text? = some "")
    (h : Attempt.Gives (chooseId wanted) w id w') :
    ∃ suffix, id = .str (identifierOf w.patches.lead suffix) := by
  unfold chooseId at h
  replace h := Attempt.gives_bind_world.1 h
  rw [if_neg fun htruth => (truth_of_text htext).1 htruth rfl] at h
  split at h
  · rename_i drawn patches dice hreserve
    simp only [Attempt.gives_bind, Attempt.gives_set, Attempt.gives_pure] at h
    obtain ⟨_, _, -, rfl, -⟩ := h
    obtain ⟨length, -, hdraw⟩ := Register.reserveFrom_eq_ok hreserve
    obtain ⟨k, -, -, -, rfl, -⟩ := Register.drawFree_eq_some_iff.1 hdraw
    exact ⟨_, rfl⟩
  · exact absurd h Attempt.not_gives_refuse

/-! ## Patching under an identifier -/

/-- Builds the wrapper of a member under an identifier and puts it in the member's place. -/
def install (call : Caller) (m : Member) (s : Spec) (id : Value) : Attempt Unit := do
  let patch ← Run.new
    (.patch s.hooks.before s.hooks.after s.hooks.instead s.metadata s.allowUnsafeInjection)
  let wrapper ← build call patch id m.value m.name
  m.assign call wrapper

/-- A patch that asks for an identifier in use by no record is made ready under it and written to the
    target, if the target takes it. -/
theorem apply_wanted (hfound : Attempt.Gives (Member.resolve call target member) w m w₁)
    (hhooks : s.hooks.refusal? w₁ = none) (htext : s.id.text? = some text) (hne : text ≠ "")
    (hfree : w.patched.contains (.ofText text) = false)
    (htakes : ∃ w₂, Attempt.Gives (install call m s s.id) w₁ () w₂) :
    ∃ w', Attempt.Gives (apply call target member (some s)) w s.id w' := by
  have hsame : w₁.patched = w.patched :=
    (((Member.resolve_confined call_confined target member).ends w).of_gives hfound).reaches.patched
  obtain ⟨w₄, hinstall⟩ := htakes
  unfold install at hinstall
  simp only [Attempt.gives_bind, Attempt.gives_lift] at hinstall
  obtain ⟨patch, w₂, hpatch, wrapper, w₃, hwrapper, hassign⟩ := hinstall
  have hprepare : Attempt.Gives (prepare call target member (some s)) w
      { member := m, hooks := s.hooks, id := s.id, patch, wrapper } w₃ := by
    unfold prepare
    refine Attempt.gives_bind.2 ⟨m, w₁, hfound, Attempt.gives_bind_world.2 ?_⟩
    rw [hhooks]
    simp only [Attempt.gives_bind, Attempt.gives_lift, Attempt.gives_pure]
    exact ⟨s.id, w₁, chooseId_wanted htext hne (by rw [hsame]; exact hfree), patch, w₂, hpatch,
      wrapper, w₃, hwrapper, rfl, rfl⟩
  -- Nothing that is done until the target takes the wrapper records a patch.
  have h₃ := ((prepare_patched call_confined _ _ _).ends _).of_gives hprepare
  have h₄ := ((Member.assign_confined call_confined _ _).ends w₃).of_gives hassign
  have hsame₄ : w₄.patched = w.patched := h₄.reaches.patched.trans h₃
  obtain ⟨w₅, hconclude⟩ := conclude_succeeds (w := w₄)
    (x := { member := m, hooks := s.hooks, id := s.id, patch, wrapper }) htext
    (by
      change w₄.patched.contains _ = false
      rw [hsame₄, hfree])
  refine ⟨w₅, ?_⟩
  unfold apply
  simp only [Attempt.gives_bind, Attempt.gives_lift, Attempt.gives_pure]
  exact ⟨_, w₃, hprepare, (), w₄, hassign, (), w₅, hconclude, rfl, rfl⟩

/-- What a patch gives that asks for a text: that text, unless it is empty, and otherwise an
    identifier that is drawn. -/
theorem apply_given {given : Value} (htext : s.id.text? = some text)
    (h : Attempt.Gives (apply call target member (some s)) w given w') :
    (text ≠ "" → given = s.id) ∧
      (text = "" → ∃ suffix, given = .str (identifierOf w.patches.lead suffix)) := by
  obtain ⟨x, w₁, w₂, rfl, happlies⟩ := apply_gives h
  have hprepare := happlies.prepared
  unfold prepare at hprepare
  obtain ⟨m, w₃, hfound, hprepare⟩ := Attempt.gives_bind.1 hprepare
  have h₃ := (((Member.resolve_confined call_confined target member).ends w).of_gives hfound).reaches
  replace hprepare := Attempt.gives_bind_world.1 hprepare
  split at hprepare
  · exact absurd hprepare Attempt.not_gives_refuse
  simp only [Attempt.gives_bind, Attempt.gives_lift, Attempt.gives_pure] at hprepare
  obtain ⟨id, w₄, hid, patch, w₅, -, wrapper, w₆, -, rfl, -⟩ := hprepare
  refine ⟨fun hne => ?_, ?_⟩
  · exact chooseId_eq htext hne hid
  · rintro rfl
    rw [← h₃.patches]
    exact chooseId_unwanted htext hid

/-- Nothing is given an identifier that a record has. -/
theorem patchId_is_new {deed : Move} {id : Value} (hgiven : deed.patchId? w = some id)
    (htext : id.text? = some text) : w.patched.contains (.ofText text) = false := by
  have hadds := World.adds_patches deed w
  rw [hgiven] at hadds
  obtain ⟨⟨k, r⟩, ⟨_, _, _, _, _, w₂, -, -, -, hkey, -⟩, hgoes⟩ := hadds
  rw [keyOf_text htext] at hkey
  obtain rfl := Except.ok.inj hkey
  exact Journal.get?_eq_none_iff.1 (hgoes.found _ _ (List.mem_singleton.2 rfl)).1

/-- A record is that of a patch that has been applied: it says under which identifier, which member
    was patched and what that was before, and the hooks are the ones that a wrapper runs around it. -/
structure IsRecordOf (r : PatchRecord) (s : Spec) (m : Member) (given : Value) (w : World) : Prop where
  id : r.id = given
  member : r.member = m.name
  previous : r.previous = m.value
  wrapped : ∃ wrapper, Wraps w wrapper r.patch given m.value s.hooks

/-- **The record of a patch** is found under its identifier, where there was none before. -/
theorem apply_records {given : Value} (htext : given.text? = some text)
    (hfound : Attempt.Gives (Member.resolve call target member) w m w₁)
    (h : Attempt.Gives (apply call target member (some s)) w given w') :
    ∃ r, IsRecordOf r s m given w' ∧ w.patched.get? (.ofText text) = none ∧
      w'.patched.get? (.ofText text) = some r := by
  obtain ⟨x, w₂, w₃, rfl, happlies⟩ := apply_gives h
  obtain ⟨k, timestamp, hkey, hgoes⟩ := happlies.records call_confined
  rw [keyOf_text htext] at hkey
  obtain rfl := Except.ok.inj hkey
  have hready := prepare_readies call_confined happlies.prepared
  obtain ⟨w₄, hmember, -⟩ := hready.found
  obtain ⟨rfl, -⟩ := Attempt.gives_unique hfound hmember
  obtain ⟨_, ⟨⟩, hhooks⟩ := hready.asked
  refine ⟨_, ⟨rfl, rfl, rfl, x.wrapper, ?_⟩, hgoes.found _ _ (List.mem_singleton.2 rfl)⟩
  rw [hhooks]
  exact happlies.wraps call_confined

/-- What a patch gives that asks for a text is text itself. -/
theorem given_text {given : Value} (htext : s.id.text? = some text)
    (h : Attempt.Gives (apply call target member (some s)) w given w') :
    ∃ text', given.text? = some text' := by
  obtain ⟨hasked, hdrawn⟩ := apply_given htext h
  by_cases hne : text = ""
  · obtain ⟨suffix, rfl⟩ := hdrawn hne
    exact ⟨_, rfl⟩
  · exact ⟨text, hasked hne ▸ htext⟩

/-- A record stays where it is found, and nothing is given its identifier any more. -/
theorem record_lasts {r : PatchRecord} {given : Value} (htext : given.text? = some text)
    (hr : w.patched.get? (.ofText text) = some r) (ms : List Move) :
    (record? given).Gives (w.through ms) (some r) (w.through ms) ∧
      ∀ (later : Move) (id : Value), later.patchId? (w.through ms) = some id →
        id.text? ≠ given.text? := by
  obtain ⟨ps, -, hgoes⟩ := World.adds_patches.through w ms
  have hkept := hgoes.kept _ _ hr
  refine ⟨record?_gives (keyOf_text htext) hkept, fun later id hid hsame => ?_⟩
  have hfree := patchId_is_new hid (hsame.trans htext)
  rw [← Journal.get?_eq_none_iff, hkept] at hfree
  cases hfree

/-! ## The main result -/

/-- **Identifiers are used as they are asked for, exactly if they are not empty.**  Where a member is
    found and hooks can be called, a patch that asks for an identifier in use by no record is given
    just that, provided that the target takes the wrapper, unless it is the empty text, in place of
    which one is drawn.  If it is in use the patch is refused before anything is done.  Whatever a
    patch is given was in use by no record; its own record is found under it from then on, and nothing
    that is done later is given the same. -/
theorem wanted_identifier_is_used_iff (htext : s.id.text? = some text)
    (hfound : Attempt.Gives (Member.resolve call target member) w m w₁)
    (hhooks : s.hooks.refusal? w₁ = none) :
    (w.patched.contains (.ofText text) = false →
      (∃ w₂, Attempt.Gives (install call m s s.id) w₁ () w₂) →
      ((∃ w', Attempt.Gives (apply call target member (some s)) w s.id w') ↔ text ≠ "")) ∧
    (w.patched.contains (.ofText text) = true → text ≠ "" →
      ∃ r, Attempt.Refuses (apply call target member (some s)) w r w₁ ∧ r.cls? = some .spec ∧
        w₁.patched = w.patched ∧ (Tame call target w → Unchanged w w₁)) ∧
    ∀ given w', Attempt.Gives (apply call target member (some s)) w given w' →
      (text = "" → ∃ suffix, given = .str (identifierOf w.patches.lead suffix)) ∧
      (record? given).Gives w none w ∧
      ∃ r, IsRecordOf r s m given w' ∧ ∀ ms,
        (record? given).Gives (w'.through ms) (some r) (w'.through ms) ∧
        ∀ (later : Move) (id : Value), later.patchId? (w'.through ms) = some id →
          id.text? ≠ given.text? := by
  refine ⟨fun hfree htakes => ⟨?_, fun hne => ?_⟩, fun htaken hne => ?_, fun given w' h => ?_⟩
  · rintro ⟨w', h⟩ rfl
    obtain ⟨suffix, hdrawn⟩ := (apply_given htext h).2 rfl
    rw [hdrawn] at htext
    exact identifierOf_ne_empty _ _ (Option.some.inj htext)
  · exact apply_wanted hfound hhooks htext hne hfree htakes
  · have hsame := ((Member.resolve_confined call_confined target member).ends w).of_gives hfound
    obtain ⟨r, hrefuses, hcls⟩ := apply_taken call_confined hfound ((truth_of_text htext).2 hne)
      (keyOf_text htext) htaken
    exact ⟨r, hrefuses, hcls, hsame.reaches.patched, fun htame =>
      ((Member.resolve_quiet htame member).of_gives hfound).unchanged⟩
  · obtain ⟨text', htext'⟩ := given_text htext h
    obtain ⟨r, hrecord, hnone, hsome⟩ := apply_records htext' hfound h
    refine ⟨(apply_given htext h).2, ?_, r, hrecord, record_lasts htext' hsome⟩
    unfold record?
    rw [(World.hashOf_gives (keyOf_text htext')).bind_iff, Run.gives_bind_world]
    exact Run.gives_pure.2 ⟨hnone, rfl⟩

/-! ### A box -/

/-- A patch of the box that asks for an identifier. -/
def wantingSpec (text : String) : Spec := { id := .str text }

/-- The member of the box. -/
def boxMember : Member := { target := box, name := "run", value := .thing ⟨1⟩ }

/-- Whether the box takes a patch under some identifiers. -/
def boxTakes : Bool :=
  ["", "fn_box"].all fun text =>
    ((install call boxMember (wantingSpec text) (.str text)).given? boxWorld).isSome

theorem box_takes : boxTakes = true := by decide +kernel

/-- A patch of the box is given the identifier that it asks for, but not the empty one. -/
theorem box_is_given_identifier :
    (∃ w', Attempt.Gives (apply call box (.str "run") (some (wantingSpec "fn_box"))) boxWorld
      (.str "fn_box") w') ∧
    ¬∃ w', Attempt.Gives (apply call box (.str "run") (some (wantingSpec ""))) boxWorld
      (.str "") w' := by
  have htakes := box_takes
  simp only [boxTakes, List.all_cons, List.all_nil, Bool.and_true, Bool.and_eq_true,
    Option.isSome_iff_exists] at htakes
  obtain ⟨⟨_, hempty⟩, _, hnamed⟩ := htakes
  have hfound : Attempt.Gives (Member.resolve call box (.str "run")) boxWorld boxMember boxWorld := rfl
  constructor
  · exact ((wanted_identifier_is_used_iff (s := wantingSpec "fn_box") rfl hfound rfl).1 rfl
      ⟨_, Attempt.given?_eq_some.1 hnamed⟩).2 (by decide)
  · exact fun h => ((wanted_identifier_is_used_iff (s := wantingSpec "") rfl hfound rfl).1 rfl
      ⟨_, Attempt.given?_eq_some.1 hempty⟩).1 h rfl

end Graft.Patch
