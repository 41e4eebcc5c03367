import Graft.Journal
import Graft.Proofs.JsonDepth

set_option autoImplicit false

/-! # When settings can not be had

What is wrong with the settings file or with a setting counts as a setting that is missing, with two
exceptions.  A file that is nested too deeply can not be read at all, and an infinite number is no
whole number and has no default either.  Identifiers can not be made then, because the length of
their suffixes is a setting. -/

namespace Graft

open Data

namespace Settings

variable {s : Surroundings} {path : String} {keys : List String} {default d : Datum}
  {settings : Option Datum} {f : SettingsFault}

/-! ## The settings file -/

/-- The text of a settings file, if there is one and it holds text. -/
def textAt? (s : Surroundings) (path : String) : Option (List Char) :=
  if path.startsWith "/" then none
  else (s.files.find? (·.1 == plainPath path)).bind fun file => FileEntry.chars? file.2

/-- What a settings file comes to: the entries of its object, or none. -/
def entriesAt (s : Surroundings) (path : String) : List (Datum × Datum) :=
  match (textAt? s path).map Json.parse with
  | some (.ok (.obj fields)) => datumOf.entriesOf fields
  | _ => []

/-- The text of a settings file is nested too deeply. -/
def TooDeep (s : Surroundings) (path : String) : Prop :=
  ∃ cs, textAt? s path = some cs ∧ Json.parse cs = .error .tooDeep

theorem load_eq (s : Surroundings) (path : String) :
    load s path = match (textAt? s path).map Json.parse with
      | some (.error .tooDeep) => .error .tooDeep
      | _ => .ok (.dict (entriesAt s path)) := by
  unfold load entriesAt textAt?
  split
  · rfl
  · cases s.files.find? (·.1 == plainPath path) with
    | none => rfl
    | some file =>
      dsimp only [Option.bind_some]
      cases FileEntry.chars? file.2 with
      | none => rfl
      | some cs =>
        dsimp only [Option.map_some]
        rcases Json.parse cs with (- | -) | v
        · rfl
        · rfl
        · cases v <;> rfl

theorem TooDeep.load (h : TooDeep s path) : load s path = .error .tooDeep := by
  obtain ⟨cs, hcs, hparse⟩ := h
  rw [load_eq, hcs, Option.map_some, hparse]

theorem load_of_not_tooDeep (h : ¬TooDeep s path) :
    Settings.load s path = .ok (.dict (entriesAt s path)) := by
  rw [load_eq]
  split
  · rename_i hdeep
    obtain ⟨cs, hcs, hparse⟩ := Option.map_eq_some_iff.1 hdeep
    exact absurd ⟨cs, hcs, hparse⟩ h
  · rfl

/-- A file that opens no more brackets and braces than may be nested is not too deep. -/
theorem not_tooDeep_of_openings {cs : List Char} (hcs : textAt? s path = some cs)
    (h : Json.openings cs ≤ Json.maxDepth) : ¬TooDeep s path := by
  rintro ⟨cs', hcs', hparse⟩
  obtain rfl := Option.some.inj (hcs.symm.trans hcs')
  exact Json.parseTo_ne_tooDeep h hparse

/-- A file is too deep exactly if a reader that goes deeper finds something else in it. -/
theorem tooDeep_iff : TooDeep s path ↔ ∃ cs, textAt? s path = some cs ∧
    ∃ depth, Json.maxDepth < depth ∧ Json.parseTo depth cs ≠ Json.parse cs :=
  exists_congr fun _ => and_congr_right fun _ => Json.parse_tooDeep_iff

/-! ## Settings -/

/-- The settings are asked for in the file, and the file is too deep. -/
def Unread (s : Surroundings) (settings : Option Datum) : Prop :=
  settings = none ∧ TooDeep s defaultPath

/-- The settings among which one is sought. -/
def source (s : Surroundings) (settings : Option Datum) : Datum :=
  settings.getD (.dict (entriesAt s defaultPath))

/-- What is found under a path of keys, or else in the environment, or else the default. -/
def sought (s : Surroundings) (keys : List String) (default settings : Datum) : Datum :=
  match lookup settings keys with
  | .none => ((s.env.find? (·.1 == envName keys)).map fun e => Datum.str e.2).getD default
  | d => d

/-- A datum is an infinite number. -/
def IsInfinite (d : Datum) : Prop :=
  ∃ x negative, d = .float x ∧ Number.Parts.ofFloat x = .infinite negative

theorem value_of_unread (h : Unread s settings) :
    value s keys default settings = .error .tooDeep := by
  obtain ⟨rfl, hdeep⟩ := h
  unfold value
  dsimp only
  rw [hdeep.load]
  rfl

theorem value_of_read (h : ¬Unread s settings) :
    value s keys default settings = .ok (sought s keys default (source s settings)) := by
  have hgiven : ∀ d, value s keys default (some d) = .ok (sought s keys default d) := by
    intro d
    unfold value sought
    dsimp only [bind, Except.bind]
    cases lookup d keys with
    | none => cases s.env.find? (·.1 == envName keys) <;> rfl
    | _ => rfl
  cases settings with
  | some d => exact hgiven d
  | none =>
    rw [source, Option.getD_none, ← hgiven]
    unfold value
    dsimp only
    rw [load_of_not_tooDeep fun hdeep => h ⟨rfl, hdeep⟩]

/-- Infinite numbers are all that is not read as a whole number or as none. -/
theorem intOf_eq_error_iff : intOf d = .error f ↔ IsInfinite d ∧ f = .infinite := by
  have hfinite : ∀ x, (∀ b, Number.Parts.ofFloat x ≠ .infinite b) → ∃ n, truncate x = .ok n := by
    intro x hx
    unfold truncate
    split
    · exact ⟨_, rfl⟩
    · rename_i b hb
      exact absurd hb (hx b)
    · exact ⟨_, rfl⟩
  -- Only a float can fail to have a whole part.
  cases d with
  | float x =>
    change truncate x = _ ↔ _
    by_cases hx : ∃ b, Number.Parts.ofFloat x = .infinite b
    · obtain ⟨b, hb⟩ := hx
      have htruncate : truncate x = .error .infinite := by rw [truncate, hb]
      rw [htruncate, Except.error.injEq, eq_comm]
      exact ⟨fun h => ⟨⟨x, b, rfl, hb⟩, h⟩, fun h => h.2⟩
    · obtain ⟨n, hn⟩ := hfinite x (not_exists.1 hx)
      rw [hn]
      refine iff_of_false nofun ?_
      rintro ⟨⟨y, b, hy, hb⟩, -⟩
      cases hy
      exact hx ⟨b, hb⟩
  | _ => exact iff_of_false nofun (by rintro ⟨⟨x, b, ⟨⟩, -⟩, -⟩)

/-- A whole number is read from whatever is found, or it is the default, unless what is found is
    infinite. -/
theorem int_of_value (h : value s keys default settings = .ok d) :
    (IsInfinite d → int s keys default settings = .error .infinite) ∧
    (¬IsInfinite d → ∃ n, intOf d = .ok n ∧
      int s keys default settings = .ok (n.elim default .int)) := by
  unfold int
  rw [h]
  change (IsInfinite d → intOf d >>= _ = _) ∧ (¬IsInfinite d → ∃ n, _ ∧ intOf d >>= _ = _)
  refine ⟨fun hinfinite => ?_, fun hfinite => ?_⟩
  · rw [intOf_eq_error_iff.2 ⟨hinfinite, rfl⟩]
    rfl
  · cases hn : intOf d with
    | error f => exact absurd (intOf_eq_error_iff.1 hn).1 hfinite
    | ok n =>
      refine ⟨n, rfl, ?_⟩
      cases n <;> rfl

theorem int_of_unread (h : Unread s settings) : int s keys default settings = .error .tooDeep := by
  unfold int
  rw [value_of_unread h]
  rfl

end Settings

/-! ## The length of suffixes -/

open Settings

/-- The setting for the length of suffixes can be had. -/
def HasLength (s : Surroundings) : Prop :=
  ¬TooDeep s defaultPath ∧
    ¬IsInfinite (sought s suffixLengthKeys (.int defaultSuffixLength) (source s none))

variable {s : Surroundings} {R σ : Type} {r : Register R} {draw : σ → Nat × σ} {tries : Nat} {d : σ}

theorem lengthFor_none_iff : (∃ n, lengthFor .none s = .ok n) ↔ HasLength s := by
  unfold lengthFor suffixLength HasLength
  by_cases hdeep : TooDeep s defaultPath
  · rw [int_of_unread ⟨rfl, hdeep⟩]
    exact iff_of_false nofun fun h => h.1 hdeep
  · have hvalue : value s suffixLengthKeys (.int defaultSuffixLength) none = _ :=
      value_of_read fun h => hdeep h.2
    obtain ⟨hinfinite, hfinite⟩ := int_of_value hvalue
    by_cases h : IsInfinite (sought s suffixLengthKeys (.int defaultSuffixLength) (source s none))
    · rw [hinfinite h]
      exact iff_of_false nofun fun hhas => hhas.2 h
    · obtain ⟨n, -, hn⟩ := hfinite h
      rw [hn]
      refine iff_of_true ?_ ⟨hdeep, h⟩
      cases n <;> exact ⟨_, rfl⟩

/-- An identifier is not drawn because of its length exactly if there is no length. -/
theorem Register.reserveFrom_mint_iff : (∃ f, (r.reserveFrom draw tries s d).1 = .error (.mint f)) ↔
    ¬∃ n, lengthFor r.suffixLength s = .ok n := by
  unfold Register.reserveFrom
  cases lengthFor r.suffixLength s with
  | error f => exact iff_of_true ⟨f, rfl⟩ nofun
  | ok n =>
    refine iff_of_false ?_ fun h => h ⟨n, rfl⟩
    rintro ⟨f, hf⟩
    dsimp only at hf
    split at hf <;> cases hf

/-- **When settings can not be had.**  Whatever the file holds, loading it gives a dictionary unless
    it is nested too deeply: unless a reader that goes deeper finds something else in it, which it
    never does in a file that opens no more brackets and braces than may be nested.  A setting has a
    value and a truth value unless it is asked for in such a file, and then it has a whole number
    too, the default if none can be read from the value, unless the value is infinite.  An
    identifier is given a length, and a register that has none yet finds one, exactly if neither is
    so of the length of suffixes. -/
theorem settings_fail_iff (s : Surroundings) :
    (∀ path, (TooDeep s path → load s path = .error .tooDeep) ∧
      (¬TooDeep s path → load s path = .ok (.dict (entriesAt s path))) ∧
      (TooDeep s path ↔ ∃ cs, textAt? s path = some cs ∧
        ∃ depth, Json.maxDepth < depth ∧ Json.parseTo depth cs ≠ Json.parse cs) ∧
      ∀ cs, textAt? s path = some cs → Json.openings cs ≤ Json.maxDepth → ¬TooDeep s path) ∧
    (∀ keys default settings, Unread s settings →
      value s keys default settings = .error .tooDeep ∧
      bool s keys default settings = .error .tooDeep ∧
      int s keys default settings = .error .tooDeep) ∧
    (∀ keys default settings, ¬Unread s settings →
      ∃ d, d = sought s keys default (source s settings) ∧
        value s keys default settings = .ok d ∧
        bool s keys default settings = .ok (meansYes d) ∧
        (IsInfinite d → int s keys default settings = .error .infinite) ∧
        (¬IsInfinite d → ∃ n, intOf d = .ok n ∧
          int s keys default settings = .ok (n.elim default .int))) ∧
    ((∃ n, lengthFor .none s = .ok n) ↔ HasLength s) ∧
    ∀ (R σ : Type) (r : Register R) (draw : σ → Nat × σ) (tries : Nat) (d : σ),
      r.suffixLength = .none →
        ((∃ f, (r.reserveFrom draw tries s d).1 = .error (.mint f)) ↔ ¬HasLength s) := by
  refine ⟨fun path => ⟨TooDeep.load, load_of_not_tooDeep, tooDeep_iff,
      fun cs => not_tooDeep_of_openings⟩,
    fun keys default settings h => ⟨value_of_unread h, ?_, int_of_unread h⟩,
    fun keys default settings h => ?_, lengthFor_none_iff, ?_⟩
  · unfold Settings.bool
    rw [value_of_unread h]
    rfl
  · have hvalue : value s keys default settings = _ := value_of_read h
    obtain ⟨hinfinite, hfinite⟩ := int_of_value hvalue
    refine ⟨_, rfl, hvalue, ?_, hinfinite, hfinite⟩
    unfold Settings.bool
    rw [hvalue]
    rfl
  · intro R σ r draw tries d hnone
    rw [Register.reserveFrom_mint_iff, hnone, lengthFor_none_iff]

/-! ### A file of brackets -/

/-- A settings file that opens one bracket more than may be nested, and closes none. -/
def bracketsFile : Surroundings :=
  { files := [(plainPath defaultPath, .text (List.replicate (Json.maxDepth + 1) '['))] }

/-- No identifier can be given a length, although the setting has a default. -/
theorem settings_fail_in_brackets : load bracketsFile defaultPath = .error .tooDeep ∧
    int bracketsFile suffixLengthKeys (.int defaultSuffixLength) none = .error .tooDeep ∧
    ¬∃ n, lengthFor .none bracketsFile = .ok n := by
  have hpath : defaultPath.startsWith "/" = false := by decide +kernel
  have hdeep : TooDeep bracketsFile defaultPath := by
    refine ⟨List.replicate (Json.maxDepth + 1) '[', ?_, ?_⟩
    · unfold textAt? bracketsFile
      simp only [hpath, Bool.false_eq_true, if_false, List.find?_cons_of_pos, beq_self_eq_true]
      rfl
    · have hparse := Json.parse_replicate []
      rwa [List.append_nil] at hparse
  obtain ⟨hload, hunread, -, hlength, -⟩ := settings_fail_iff bracketsFile
  exact ⟨(hload defaultPath).1 hdeep, (hunread _ _ none ⟨rfl, hdeep⟩).2.2,
    fun h => (hlength.1 h).1 hdeep⟩

end Graft
