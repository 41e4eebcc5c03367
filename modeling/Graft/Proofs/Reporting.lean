import Graft.Proofs.Run
import Graft.Session.Record
import Mathlib.Data.List.Dedup
import Mathlib.Data.List.Forall2
import Mathlib.Data.List.Induction

set_option autoImplicit false

/-! # What reports keep

A report has an entry for each record, in the order of the records.  Metadata are shown under the
texts of their keys, so of two keys with the same text only one is left, with the value of the later
one. -/

namespace Graft

open Data Machine

/-! ## Entries with text for keys -/

namespace Report

/-- What is shown of an entry of metadata. -/
def shownEntry (e : Datum × Datum) : String × Datum :=
  (e.1.toText, if e.2.text?.isSome then e.2 else .str e.2.repr)

/-- Entries with text for keys, as those of a dictionary. -/
def keyed (es : List (String × Datum)) : List (Datum × Datum) := es.map fun e => (.str e.1, e.2)

/-- Puts an entry among others.  One with the same text gives up its place. -/
def put (e : String × Datum) : List (String × Datum) → List (String × Datum)
  | [] => [e]
  | e' :: es => if e.1 = e'.1 then e :: es else e' :: put e es

/-- Entries that are put one after another. -/
def putAll (es : List (String × Datum)) : List (String × Datum) :=
  es.foldl (fun l e => put e l) []

variable {e x : String × Datum} {es : List (String × Datum)}

theorem setEntry_keyed (k : String) (v : Datum) (es : List (String × Datum)) :
    Datum.setEntry (.str k) v (keyed es) = keyed (put (k, v) es) := by
  induction es with
  | nil => rfl
  | cons e es ih =>
    have hkey (s : String) : Key.ofDatum (.str s) = .ok (.ofText s) := rfl
    have hiff : (Key.ofText k == Key.ofText e.1) = true ↔ k = e.1 := by
      simp [Key.ofText, Key.ofPart]
    rw [keyed, List.map_cons, Datum.setEntry, hkey, hkey, put]
    dsimp only
    by_cases hk : k = e.1
    · subst hk
      simp [keyed]
    · rw [if_neg (hiff.not.2 hk), if_neg hk]
      exact congrArg _ ih

theorem metadataText_dict (es : List (Datum × Datum)) :
    metadataText (.dict es) = .ok (.dict (keyed (putAll (es.map shownEntry)))) := by
  have hfold : ∀ acc, es.foldl (fun acc e => Datum.setEntry (.str e.1.toText)
      (if e.2.text?.isSome then e.2 else .str e.2.repr) acc) (keyed acc) =
        keyed ((es.map shownEntry).foldl (fun l e => put e l) acc) := by
    induction es with
    | nil => exact fun _ => rfl
    | cons e es ih =>
      intro acc
      obtain ⟨k, v⟩ := e
      rw [List.foldl_cons, List.map_cons, List.foldl_cons, ← ih]
      exact congrArg (List.foldl _ · es) (setEntry_keyed _ _ acc)
  exact congrArg (fun es => Except.ok (Datum.dict es)) (hfold [])

theorem mem_keys_put {k : String} :
    k ∈ (put e es).map Prod.fst ↔ k = e.1 ∨ k ∈ es.map Prod.fst := by
  induction es with
  | nil => simp [put]
  | cons e' es ih =>
    rw [put]
    split_ifs with h
    · simp [h]
    · rw [List.map_cons, List.mem_cons, ih, List.map_cons, List.mem_cons, or_left_comm]

theorem nodup_keys_put (h : (es.map Prod.fst).Nodup) : ((put e es).map Prod.fst).Nodup := by
  induction es with
  | nil => simp [put]
  | cons e' es ih =>
    rw [List.map_cons, List.nodup_cons] at h
    rw [put]
    split_ifs with heq
    · rw [List.map_cons, List.nodup_cons, heq]
      exact h
    · rw [List.map_cons, List.nodup_cons, mem_keys_put]
      exact ⟨fun hmem => hmem.elim (fun h' => heq h'.symm) h.1, ih h.2⟩

/-- An entry with a new text comes last. -/
theorem put_of_notMem (h : e.1 ∉ es.map Prod.fst) : put e es = es ++ [e] := by
  induction es with
  | nil => rfl
  | cons e' es ih =>
    rw [List.map_cons, List.mem_cons, not_or] at h
    rw [put, if_neg h.1, ih h.2, List.cons_append]

theorem mem_put (h : (es.map Prod.fst).Nodup) : x ∈ put e es ↔ x = e ∨ (x ∈ es ∧ x.1 ≠ e.1) := by
  induction es with
  | nil => simp [put]
  | cons e' es ih =>
    rw [List.map_cons, List.nodup_cons] at h
    have hother : e' ∉ es := fun hmem => h.1 (List.mem_map_of_mem hmem)
    have hothers : x ∈ es → x.1 ≠ e'.1 := fun hmem heq => h.1 (heq ▸ List.mem_map_of_mem hmem)
    rw [put]
    split_ifs with heq
    · rw [List.mem_cons, List.mem_cons]
      refine or_congr_right ⟨fun hmem => ⟨.inr hmem, heq ▸ hothers hmem⟩, fun hmem => ?_⟩
      exact hmem.1.resolve_left fun h' => hmem.2 (by rw [h', heq])
    · rw [List.mem_cons, ih h.2, List.mem_cons]
      have hne : x = e' → x.1 ≠ e.1 := fun h' => h' ▸ Ne.symm heq
      tauto

theorem putAll_concat : putAll (es ++ [e]) = put e (putAll es) := by
  rw [putAll, List.foldl_append, List.foldl_cons, List.foldl_nil]
  rfl

theorem nodup_keys_putAll : ((putAll es).map Prod.fst).Nodup := by
  induction es using List.reverseRecOn with
  | nil => exact List.nodup_nil
  | append_singleton es e ih => rw [putAll_concat]; exact nodup_keys_put ih

theorem mem_keys_putAll {k : String} : k ∈ (putAll es).map Prod.fst ↔ k ∈ es.map Prod.fst := by
  induction es using List.reverseRecOn with
  | nil => exact Iff.rfl
  | append_singleton es e ih =>
    rw [putAll_concat, mem_keys_put, ih, List.map_append, List.mem_append, List.map_singleton,
      List.mem_singleton, or_comm]

/-- Of the entries with a text the last one is there. -/
theorem mem_putAll : x ∈ putAll es ↔
    ∃ before after, es = before ++ x :: after ∧ x.1 ∉ after.map Prod.fst := by
  induction es using List.reverseRecOn with
  | nil => simp [putAll]
  | append_singleton es e ih =>
    rw [putAll_concat, mem_put nodup_keys_putAll, ih]
    constructor
    · rintro (rfl | ⟨⟨before, after, rfl, hlast⟩, hne⟩)
      · exact ⟨es, [], rfl, List.not_mem_nil⟩
      · refine ⟨before, after ++ [e], by simp, ?_⟩
        rw [List.map_append, List.mem_append, List.map_singleton, List.mem_singleton]
        exact fun hmem => hmem.elim hlast hne
    · rintro ⟨before, after, heq, hlast⟩
      obtain rfl | ⟨after, e', rfl⟩ := List.eq_nil_or_concat after
      · exact .inl (List.cons.inj (List.append_inj' heq rfl).2).1.symm
      · rw [List.concat_eq_append, ← List.cons_append, ← List.append_assoc] at heq
        obtain ⟨rfl, htail⟩ := List.append_inj' heq rfl
        obtain rfl := (List.cons.inj htail).1
        rw [List.concat_eq_append, List.map_append, List.mem_append, not_or] at hlast
        exact .inr ⟨⟨before, after, rfl, hlast.1⟩, by simpa using hlast.2⟩

/-- All entries stay as they are exactly if their texts are different. -/
theorem putAll_eq_self_iff : putAll es = es ↔ (es.map Prod.fst).Nodup := by
  refine ⟨fun h => h ▸ nodup_keys_putAll, fun h => ?_⟩
  induction es using List.reverseRecOn with
  | nil => rfl
  | append_singleton es e ih =>
    rw [List.map_append, List.map_singleton, List.nodup_append] at h
    rw [putAll_concat, ih h.1, put_of_notMem]
    exact fun hmem => h.2.2 _ hmem _ (List.mem_singleton.2 rfl) rfl

/-- There are as many entries as there are texts. -/
theorem length_putAll : (putAll es).length = (es.map Prod.fst).dedup.length := by
  rw [← List.length_map (f := Prod.fst)]
  refine List.Perm.length_eq ((List.perm_ext_iff_of_nodup nodup_keys_putAll (List.nodup_dedup _)).2
    fun k => ?_)
  rw [mem_keys_putAll, List.mem_dedup]

/-! ## A report as plain data -/

/-- A patch as a report shows it. -/
def shownPatch (p : PatchEntry) (moment : Moment) (metadata : List (String × Datum)) : Datum :=
  .dict [(.str "id", p.id), (.str "member", p.member), (.str "timestamp", .str moment.text),
    (.str "original", p.previous),
    (.str "hooks", .dict [(.str "prefix", p.prefixHook), (.str "postfix", p.postfixHook),
      (.str "replace", p.replaceHook)]),
    (.str "metadata", .dict (keyed metadata)),
    (.str "allow_unsafe_injection", p.allowUnsafeInjection)]

/-- An injection as a report shows it. -/
def shownInjection (i : InjectionEntry) (moment : Moment) : Datum :=
  .dict [(.str "id", i.id), (.str "member", i.member), (.str "timestamp", .str moment.text),
    (.str "original", i.previous),
    (.str "spec", .dict [(.str "code", .str i.code.toText), (.str "line", i.line),
      (.str "loc", plainChoice i.loc)]),
    (.str "source", .str i.source.toText)]

theorem momentText_eq_ok_iff {d t : Datum} :
    momentText d = .ok t ↔ ∃ m, Moment.ofSeconds d = .ok m ∧ t = .str m.text := by
  unfold momentText
  cases Moment.ofSeconds d <;> simp [eq_comm]

theorem metadataText_eq_ok_iff {d t : Datum} : metadataText d = .ok t ↔
    ∃ es, d = .dict es ∧ t = .dict (keyed (putAll (es.map shownEntry))) := by
  constructor
  · intro h
    cases d with
    | dict es => exact ⟨es, rfl, Except.ok.inj (h.symm.trans (metadataText_dict es))⟩
    | _ => cases h
  · rintro ⟨es, rfl, rfl⟩
    exact metadataText_dict es

@[simp] theorem asDatum_datum (d : Datum) : asDatum.datum d = .ok d := rfl

theorem patch_eq_ok_iff {p : PatchEntry} {d : Datum} : patch asDatum p = .ok d ↔
    ∃ m es, Moment.ofSeconds p.timestamp = .ok m ∧ p.metadata = .dict es ∧
      d = shownPatch p m (putAll (es.map shownEntry)) := by
  unfold patch
  simp only [bind_eq_ok, momentText_eq_ok_iff, metadataText_eq_ok_iff, asDatum_datum,
    Except.ok.injEq, exists_eq_left']
  constructor
  · rintro ⟨_, ⟨m, hm, rfl⟩, _, ⟨es, hes, rfl⟩, rfl⟩
    exact ⟨m, es, hm, hes, rfl⟩
  · rintro ⟨m, es, hm, hes, rfl⟩
    exact ⟨_, ⟨m, hm, rfl⟩, _, ⟨es, hes, rfl⟩, rfl⟩

theorem injection_eq_ok_iff {i : InjectionEntry} {d : Datum} : injection asDatum i = .ok d ↔
    ∃ m, Moment.ofSeconds i.timestamp = .ok m ∧ d = shownInjection i m := by
  unfold injection
  simp only [bind_eq_ok, momentText_eq_ok_iff, asDatum_datum, Except.ok.injEq, exists_eq_left']
  constructor
  · rintro ⟨_, ⟨m, hm, rfl⟩, rfl⟩
    exact ⟨m, hm, rfl⟩
  · rintro ⟨m, hm, rfl⟩
    exact ⟨_, ⟨m, hm, rfl⟩, rfl⟩

theorem mapM_eq_ok_iff {α β ε : Type} {f : α → Except ε β} {as : List α} {bs : List β} :
    as.mapM f = .ok bs ↔ List.Forall₂ (fun a b => f a = .ok b) as bs := by
  induction as generalizing bs with
  | nil =>
    rw [List.mapM_nil, List.forall₂_nil_left_iff, ← eq_comm]
    exact ⟨fun h => (Except.ok.inj h.symm).symm ▸ rfl, fun h => h ▸ rfl⟩
  | cons a as ih =>
    rw [List.mapM_cons, bind_eq_ok]
    constructor
    · rintro ⟨b, hb, h⟩
      obtain ⟨bs', hbs, h⟩ := bind_eq_ok.1 h
      obtain rfl := Except.ok.inj h
      exact .cons hb (ih.1 hbs)
    · rintro (_ | ⟨hb, hbs⟩)
      exact ⟨_, hb, bind_eq_ok.2 ⟨_, ih.2 hbs, rfl⟩⟩

theorem build_eq_ok_iff {patches : List PatchEntry} {injections : List InjectionEntry} {d : Datum} :
    build asDatum patches injections = .ok d ↔ ∃ ps is,
      List.Forall₂ (fun p d => patch asDatum p = .ok d) patches ps ∧
      List.Forall₂ (fun i d => injection asDatum i = .ok d) injections is ∧
      d = .dict [(.str "patches", .list ps), (.str "injections", .list is)] := by
  unfold build
  simp only [bind_eq_ok, mapM_eq_ok_iff]
  constructor
  · rintro ⟨ps, hps, is, his, h⟩
    exact ⟨ps, is, hps, his, (Except.ok.inj h).symm⟩
  · rintro ⟨ps, is, hps, his, rfl⟩
    exact ⟨ps, hps, is, his, rfl⟩

/-! ## What is shown -/

/-- Metadata are shown with one entry for each text of a key, and the value is that of the last entry
    with the text.  All are shown exactly if no two keys have one text. -/
structure ShowsMetadata (es : List (Datum × Datum)) (shown : List (String × Datum)) : Prop where
  distinct : (shown.map Prod.fst).Nodup
  last : ∀ x, x ∈ shown ↔ ∃ before e after, es = before ++ e :: after ∧ shownEntry e = x ∧
    ∀ e' ∈ after, e'.1.toText ≠ e.1.toText
  all : shown = es.map shownEntry ↔ (es.map fun e => e.1.toText).Nodup
  count : shown.length = es.length ↔ (es.map fun e => e.1.toText).Nodup

theorem showsMetadata_putAll (es : List (Datum × Datum)) :
    ShowsMetadata es (putAll (es.map shownEntry)) := by
  have hkeys : (es.map shownEntry).map Prod.fst = es.map fun e => e.1.toText := List.map_map
  refine ⟨nodup_keys_putAll, fun x => ?_, ?_, ?_⟩
  · rw [mem_putAll]
    constructor
    · rintro ⟨before, after, heq, hlast⟩
      obtain ⟨before', rest, rfl, rfl, hrest⟩ := List.map_eq_append_iff.1 heq
      obtain ⟨e, after', rfl, rfl, rfl⟩ := List.map_eq_cons_iff.1 hrest
      refine ⟨before', e, after', rfl, rfl, fun e' he' hsame => hlast ?_⟩
      exact List.mem_map.2 ⟨_, List.mem_map_of_mem he', hsame⟩
    · rintro ⟨before, e, after, rfl, rfl, hlast⟩
      refine ⟨before.map shownEntry, after.map shownEntry, by simp, fun hmem => ?_⟩
      obtain ⟨x, hx, hsame⟩ := List.mem_map.1 hmem
      obtain ⟨e', he', rfl⟩ := List.mem_map.1 hx
      exact hlast e' he' hsame
  · rw [putAll_eq_self_iff, hkeys]
  · rw [length_putAll, hkeys, ← List.length_map (f := fun e : Datum × Datum => e.1.toText)]
    exact ⟨fun h => List.dedup_eq_self.1 ((List.dedup_sublist _).eq_of_length h),
      fun h => by rw [List.Nodup.dedup h]⟩

/-- A patch is shown with all that a report says about it. -/
def ShowsPatch (p : PatchEntry) (d : Datum) : Prop :=
  ∃ m es shown, Moment.ofSeconds p.timestamp = .ok m ∧ p.metadata = .dict es ∧
    ShowsMetadata es shown ∧ d = shownPatch p m shown

/-- An injection is shown with all that a report says about it. -/
def ShowsInjection (i : InjectionEntry) (d : Datum) : Prop :=
  ∃ m, Moment.ofSeconds i.timestamp = .ok m ∧ d = shownInjection i m

theorem exists_patch_eq_ok_iff {p : PatchEntry} : (∃ d, patch asDatum p = .ok d) ↔
    (∃ m, Moment.ofSeconds p.timestamp = .ok m) ∧ ∃ es, p.metadata = .dict es := by
  simp only [patch_eq_ok_iff]
  exact ⟨fun ⟨_, m, es, hm, hes, _⟩ => ⟨⟨m, hm⟩, es, hes⟩,
    fun ⟨⟨m, hm⟩, es, hes⟩ => ⟨_, m, es, hm, hes, rfl⟩⟩

theorem exists_forall₂_iff {α β : Type} {R : α → β → Prop} {as : List α} :
    (∃ bs, List.Forall₂ R as bs) ↔ ∀ a ∈ as, ∃ b, R a b := by
  induction as with
  | nil => exact ⟨fun _ => nofun, fun _ => ⟨[], .nil⟩⟩
  | cons a as ih =>
    rw [List.forall_mem_cons, ← ih]
    constructor
    · rintro ⟨_, _ | ⟨hb, hbs⟩⟩
      exact ⟨⟨_, hb⟩, _, hbs⟩
    · rintro ⟨⟨b, hb⟩, bs, hbs⟩
      exact ⟨b :: bs, .cons hb hbs⟩

end Report

/-! ## Records that are read in turn -/

/-- A run for each of some things, one after another. -/
inductive InTurn {α β : Type} (f : α → Run β) : World → List α → List β → World → Prop
  | nil (w : World) : InTurn f w [] [] w
  | cons {a : α} {b : β} {as : List α} {bs : List β} {w w₁ w₂ : World} :
    (f a).Gives w b w₁ → InTurn f w₁ as bs w₂ → InTurn f w (a :: as) (b :: bs) w₂

theorem gives_mapM_iff {α β : Type} {f : α → Run β} {as : List α} {bs : List β} {w w' : World} :
    Run.Gives (as.mapM f) w bs w' ↔ InTurn f w as bs w' := by
  induction as generalizing bs w with
  | nil =>
    rw [List.mapM_nil, Run.gives_pure]
    constructor
    · rintro ⟨rfl, rfl⟩
      exact .nil w
    · rintro ⟨⟩
      exact ⟨rfl, rfl⟩
  | cons a as ih =>
    rw [List.mapM_cons, Run.gives_bind]
    constructor
    · rintro ⟨b, w₁, hb, h⟩
      obtain ⟨bs', w₂, hbs, h⟩ := Run.gives_bind.1 h
      obtain ⟨rfl, rfl⟩ := Run.gives_pure.1 h
      exact .cons hb (ih.1 hbs)
    · rintro (_ | ⟨hb, hbs⟩)
      exact ⟨_, _, hb, Run.gives_bind.2 ⟨_, _, ih.2 hbs, Run.gives_pure.2 ⟨rfl, rfl⟩⟩⟩

namespace Session

variable {call : Caller} {w w' : World}

theorem metadataDatum_gives {r : Ref} {d : Datum} (hmapping : w.isMapping (.thing r) = true)
    (h : (metadataDatum call (.thing r)).Gives w d w') :
    ∃ told, InTurn (metadataEntry call) w (w.entriesOf r) told w' ∧ d = .dict told := by
  unfold metadataDatum at h
  rw [Run.gives_bind_world] at h
  dsimp only at h
  rw [if_pos hmapping] at h
  obtain ⟨told, w₁, htold, h⟩ := Run.gives_bind.1 h
  obtain ⟨rfl, rfl⟩ := Run.gives_pure.1 h
  exact ⟨told, gives_mapM_iff.1 htold, rfl⟩

/-- The metadata of a record are read when what its callables go by is known, entry by entry. -/
theorem patchEntry_gives {p : PatchRecord} {e : PatchEntry}
    (h : (patchEntry call p).Gives w e w') :
    ∃ names w₁, (patchNames call p (patchParts w p.patch).1).Gives w names w₁ ∧
      ∀ r, (patchParts w p.patch).2.1 = .thing r → w₁.isMapping (.thing r) = true →
        ∃ told, InTurn (metadataEntry call) w₁ (w₁.entriesOf r) told w' ∧
          e.metadata = .dict told := by
  unfold patchEntry at h
  rw [Run.gives_bind_world] at h
  generalize patchParts w p.patch = parts at h ⊢
  obtain ⟨hooks, metadata, allow⟩ := parts
  obtain ⟨names, w₁, hnames, h⟩ := Run.gives_bind.1 h
  obtain ⟨told, w₂, htold, h⟩ := Run.gives_bind.1 h
  rw [Run.gives_bind_world] at h
  obtain ⟨rfl, rfl⟩ := Run.gives_pure.1 h
  refine ⟨names, w₁, hnames, fun r hr hmapping => ?_⟩
  obtain rfl : metadata = .thing r := hr
  exact metadataDatum_gives hmapping htold

end Session

/-! ## The main result -/

/-- **A report keeps all metadata exactly if the texts of their keys are different.**  It is made if
    all records are of some moment and all metadata are dictionaries.  Then it has an entry for each
    record, in the same order, which shows all that is known of it; of the metadata, however, only the
    last entry is left of those whose keys have one text.  Metadata of a world are of as many entries,
    whatever these are: each key is the text that it tells. -/
theorem Report.metadata_is_kept_iff (patches : List PatchEntry) (injections : List InjectionEntry) :
    ((∃ d, build asDatum patches injections = .ok d) ↔
      (∀ p ∈ patches, (∃ m, Moment.ofSeconds p.timestamp = .ok m) ∧ ∃ es, p.metadata = .dict es) ∧
      ∀ i ∈ injections, ∃ m, Moment.ofSeconds i.timestamp = .ok m) ∧
    (∀ d, build asDatum patches injections = .ok d → ∃ ps is,
      d = .dict [(.str "patches", .list ps), (.str "injections", .list is)] ∧
      List.Forall₂ ShowsPatch patches ps ∧ List.Forall₂ ShowsInjection injections is) ∧
    ∀ (call : Caller) (p : PatchRecord) (w : World) (e : PatchEntry) (w' : World),
      (Session.patchEntry call p).Gives w e w' →
      ∃ names w₁, (Session.patchNames call p (Session.patchParts w p.patch).1).Gives w names w₁ ∧
        ∀ r, (Session.patchParts w p.patch).2.1 = .thing r → w₁.isMapping (.thing r) = true →
          ∃ told, InTurn (Session.metadataEntry call) w₁ (w₁.entriesOf r) told w' ∧
            e.metadata = .dict told := by
  refine ⟨?_, fun d h => ?_, fun call p w e w' => Session.patchEntry_gives⟩
  · have hinjection : ∀ i, (∃ m, Moment.ofSeconds i.timestamp = .ok m) ↔
        ∃ d, injection asDatum i = .ok d := fun i => by
      simp only [injection_eq_ok_iff]
      exact ⟨fun ⟨m, hm⟩ => ⟨_, m, hm, rfl⟩, fun ⟨_, m, hm, _⟩ => ⟨m, hm⟩⟩
    simp only [← exists_patch_eq_ok_iff, hinjection, ← exists_forall₂_iff, build_eq_ok_iff]
    exact ⟨fun ⟨_, ps, is, hps, his, _⟩ => ⟨⟨ps, hps⟩, is, his⟩,
      fun ⟨⟨ps, hps⟩, is, his⟩ => ⟨_, ps, is, hps, his, rfl⟩⟩
  · obtain ⟨ps, is, hps, his, rfl⟩ := build_eq_ok_iff.1 h
    refine ⟨ps, is, rfl, hps.imp fun p d hd => ?_, his.imp fun i d => injection_eq_ok_iff.1⟩
    obtain ⟨m, es, hm, hes, rfl⟩ := patch_eq_ok_iff.1 hd
    exact ⟨m, es, _, hm, hes, showsMetadata_putAll es, rfl⟩

/-- A patch with metadata that have two texts for keys, of which one is a choice. -/
def Report.ticket : PatchEntry where
  id := .str "fn_a"
  member := .str "run"
  timestamp := .int 0
  previous := .none
  prefixHook := .none
  postfixHook := .none
  replaceHook := .none
  metadata := .dict [(.choice (.flow .stopExec), .str "one"),
    (.str "FlowControl.STOP_EXEC", .str "text")]
  allowUnsafeInjection := .bool false

/-- Of the two entries of the metadata only one is shown. -/
theorem Report.ticket_is_shown_in_part : ∃ m shown, build asDatum [ticket] [] =
      .ok (.dict [(.str "patches", .list [shownPatch ticket m shown]), (.str "injections", .list [])]) ∧
    shown.length ≠ 2 := by
  obtain ⟨hiff, hshown, -⟩ := Report.metadata_is_kept_iff [ticket] []
  obtain ⟨d, hd⟩ := hiff.2 ⟨fun p hp => by
    obtain rfl := List.mem_singleton.1 hp
    exact ⟨⟨_, rfl⟩, _, rfl⟩, nofun⟩
  obtain ⟨ps, is, rfl, hps, his⟩ := hshown d hd
  obtain _ | ⟨⟨m, es, shown, -, hes, hshows, rfl⟩, ⟨⟩⟩ := hps
  obtain ⟨⟩ := his
  obtain rfl := Datum.dict.inj hes
  refine ⟨m, shown, hd, fun hlength => ?_⟩
  have hnodup := hshows.count.1 hlength
  revert hnodup
  decide

end Graft
