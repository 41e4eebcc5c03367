import Mathlib.Data.List.Infix
import Graft.Proofs.Run

set_option autoImplicit false

/-! # How deep JSON text is nested

JSON text may be nested so deeply that it is given up.  A greater depth changes nothing about text
that has been read or found malformed, and text with no more opening brackets than the depth allows
is never given up.  So text is too deep exactly if it would come out otherwise if it were read to
some greater depth. -/

namespace Graft.Data.Json

variable {α β : Type} {cs rest : List Char}

/-! ## What is left is the end of the text -/

theorem skipBlanks_suffix (cs : List Char) : skipBlanks cs <:+ cs := List.dropWhile_suffix _

theorem suffix_of_skipBlanks {c : Char} (h : skipBlanks cs = c :: rest) : rest <:+ cs :=
  (List.suffix_cons c rest).trans (h ▸ skipBlanks_suffix cs)

theorem hexCode?_suffix {n : Nat} (h : hexCode? cs = some (n, rest)) : rest <:+ cs := by
  unfold hexCode? at h
  split at h
  · obtain ⟨m, -, heq⟩ := Option.bind_eq_some_iff.1 h
    cases heq
    exact List.suffix_append [_, _, _, _] _
  · cases h

theorem readString_suffix {n : Nat} {acc s : List Char} (h : readString n cs acc = some (s, rest)) :
    rest <:+ cs := by
  induction n generalizing cs acc with
  | zero => cases h
  | succ n ih =>
    unfold readString at h
    split at h
    · cases h
    · cases h
      exact List.suffix_cons _ _
    · rename_i more
      have hmore : more <:+ '\\' :: 'u' :: more := List.suffix_append ['\\', 'u'] more
      obtain ⟨⟨high, left⟩, hhigh, h⟩ := Option.bind_eq_some_iff.1 h
      have hleft := (hexCode?_suffix hhigh).trans hmore
      dsimp only at h
      split at h
      · split at h
        · rename_i last
          obtain ⟨⟨low, left'⟩, hlow, h⟩ := Option.bind_eq_some_iff.1 h
          have hlast : last <:+ '\\' :: 'u' :: last := List.suffix_append ['\\', 'u'] last
          have hleft' := (hexCode?_suffix hlow).trans (hlast.trans hleft)
          dsimp only at h
          split at h
          · exact (ih h).trans hleft'
          · exact (ih h).trans hleft
        · exact (ih h).trans hleft
      · exact (ih h).trans hleft
    · rename_i c more _
      obtain ⟨d, -, h⟩ := Option.bind_eq_some_iff.1 h
      exact (ih h).trans (List.suffix_append ['\\', c] more)
    · split at h
      · cases h
      · exact (ih h).trans (List.suffix_cons _ _)

theorem readNumber_suffix {v : Json} (h : readNumber cs = some (v, rest)) : rest <:+ cs := by
  unfold readNumber at h
  split at h
  rename_i negative ds hsign
  have hds : ds <:+ cs := by
    split at hsign
    · cases hsign
      exact List.suffix_cons _ _
    · cases hsign
      exact List.suffix_rfl
  extract_lets whole at h
  split at h
  · cases h
  have hleft : ∀ i j k, ((ds.drop i).drop j).drop k <:+ cs := fun i j k =>
    ((List.drop_suffix _ _).trans ((List.drop_suffix _ _).trans (List.drop_suffix _ _))).trans hds
  split at h
  · split at h
    · cases h
    · obtain ⟨-, rfl⟩ := Prod.mk.inj (Option.some.inj h)
      exact hleft _ _ _
  · obtain ⟨-, rfl⟩ := Prod.mk.inj (Option.some.inj h)
    exact hleft _ _ _

theorem word?_suffix {w : String} (h : word? w cs = some rest) : rest <:+ cs := by
  unfold word? at h
  split at h
  · cases h
    exact List.drop_suffix _ _
  · cases h

theorem readScalar_suffix {v : Json} (h : readScalar cs = some (v, rest)) : rest <:+ cs := by
  unfold readScalar at h
  split at h
  · obtain ⟨⟨s, left⟩, hs, h⟩ := Option.bind_eq_some_iff.1 h
    cases h
    exact (readString_suffix hs).trans (List.suffix_cons _ _)
  · split at h
    iterate 3
      cases h
      exact word?_suffix (by assumption)
    · split at h
      iterate 3
        cases h
        exact word?_suffix (by assumption)
      · exact readNumber_suffix h

/-- What is left behind a value is the end of the text. -/
theorem readValue_suffix (n : Nat) :
    (∀ {depth cs v rest}, readValue n depth cs = .ok (v, rest) → rest <:+ cs) ∧
    (∀ {depth cs acc xs rest}, readItems n depth cs acc = .ok (xs, rest) → rest <:+ cs) ∧
    ∀ {depth cs acc fs rest}, readFields n depth cs acc = .ok (fs, rest) → rest <:+ cs := by
  -- The readers of values, items and fields call each other with one step less.
  induction n with
  | zero => exact ⟨nofun, nofun, nofun⟩
  | succ n ih =>
    obtain ⟨hvalue, hitems, hfields⟩ := ih
    refine ⟨fun {depth cs v rest} h => ?_, fun {depth cs acc xs rest} h => ?_,
      fun {depth cs acc fs rest} h => ?_⟩
    · unfold readValue at h
      split at h
      · split at h
        · cases h
        refine .trans ?_ (List.suffix_cons _ _)
        split at h
        · obtain ⟨-, rfl⟩ := Prod.mk.inj (Except.ok.inj h)
          exact suffix_of_skipBlanks (by assumption)
        · obtain ⟨⟨xs, left⟩, hxs, h⟩ := bind_eq_ok.1 h
          obtain ⟨-, rfl⟩ := Prod.mk.inj (Except.ok.inj h)
          exact (hitems hxs).trans (skipBlanks_suffix _)
      · split at h
        · cases h
        refine .trans ?_ (List.suffix_cons _ _)
        split at h
        · obtain ⟨-, rfl⟩ := Prod.mk.inj (Except.ok.inj h)
          exact suffix_of_skipBlanks (by assumption)
        · obtain ⟨⟨fs, left⟩, hfs, h⟩ := bind_eq_ok.1 h
          obtain ⟨-, rfl⟩ := Prod.mk.inj (Except.ok.inj h)
          exact (hfields hfs).trans (skipBlanks_suffix _)
      · split at h
        · rename_i hscalar
          obtain rfl := Except.ok.inj h
          exact readScalar_suffix hscalar
        · cases h
    · unfold readItems at h
      obtain ⟨⟨x, left⟩, hx, h⟩ := bind_eq_ok.1 h
      refine .trans ?_ (hvalue hx)
      dsimp only at h
      split at h
      · obtain ⟨-, rfl⟩ := Prod.mk.inj (Except.ok.inj h)
        exact suffix_of_skipBlanks (by assumption)
      · exact ((hitems h).trans (skipBlanks_suffix _)).trans (suffix_of_skipBlanks (by assumption))
      · cases h
    · unfold readFields at h
      split at h
      · refine .trans ?_ (List.suffix_cons _ _)
        split at h
        · cases h
        · rename_i hname
          refine .trans ?_ (readString_suffix hname)
          split at h
          · obtain ⟨⟨v, left⟩, hv, h⟩ := bind_eq_ok.1 h
            refine .trans ?_ ((hvalue hv).trans
              ((skipBlanks_suffix _).trans (suffix_of_skipBlanks (by assumption))))
            dsimp only at h
            split at h
            · obtain ⟨-, rfl⟩ := Prod.mk.inj (Except.ok.inj h)
              exact suffix_of_skipBlanks (by assumption)
            · exact ((hfields h).trans (skipBlanks_suffix _)).trans
                (suffix_of_skipBlanks (by assumption))
            · cases h
          · cases h
      · cases h

/-! ## Enough depth -/

/-- How many brackets and braces a text opens, those within strings included. -/
def openings (cs : List Char) : Nat := cs.countP fun c => c == '[' || c == '{'

theorem openings_le (h : rest <:+ cs) : openings rest ≤ openings cs := h.sublist.countP_le

/-- Behind a bracket or brace that is opened there is one less to open. -/
theorem openings_behind {c : Char} {depth : Nat} (hc : c = '[' ∨ c = '\x7b')
    (h : openings (c :: cs) ≤ depth) :
    ¬(depth == 0) = true ∧ ∀ {rest}, rest <:+ cs → openings rest ≤ depth - 1 := by
  have hcons : openings (c :: cs) = openings cs + 1 := by
    unfold openings
    rw [List.countP_cons_of_pos (by rcases hc with rfl | rfl <;> decide)]
  refine ⟨?_, fun hrest => ?_⟩
  · simp only [beq_iff_eq]
    omega
  · have hle := openings_le hrest
    omega

theorem ne_tooDeep_bind {x : Except JsonFault α} {f : α → Except JsonFault β}
    (hx : x ≠ .error .tooDeep) (hf : ∀ a, x = .ok a → f a ≠ .error .tooDeep) :
    (x >>= f) ≠ .error .tooDeep := by
  cases x with
  | ok a => exact hf a rfl
  | error e => exact fun h => hx (congrArg Except.error (Except.error.inj h))

/-- Text that opens no more than the depth allows is not given up. -/
theorem readValue_ne_tooDeep (n : Nat) :
    (∀ {depth cs}, openings cs ≤ depth → readValue n depth cs ≠ .error .tooDeep) ∧
    (∀ {depth cs acc}, openings cs ≤ depth → readItems n depth cs acc ≠ .error .tooDeep) ∧
    ∀ {depth cs acc}, openings cs ≤ depth → readFields n depth cs acc ≠ .error .tooDeep := by
  induction n with
  | zero => exact ⟨nofun, nofun, nofun⟩
  | succ n ih =>
    obtain ⟨hvalue, hitems, hfields⟩ := ih
    obtain ⟨hvalueRest, -, -⟩ := readValue_suffix n
    refine ⟨fun {depth cs} h => ?_, fun {depth cs acc} h => ?_, fun {depth cs acc} h => ?_⟩
    · unfold readValue
      split
      · -- A bracket takes one level, and there is one less of them behind it.
        obtain ⟨hdepth, hrest⟩ := openings_behind (.inl rfl) h
        rw [if_neg hdepth]
        split
        · nofun
        · exact ne_tooDeep_bind (hitems (hrest (skipBlanks_suffix _))) fun _ _ => nofun
      · obtain ⟨hdepth, hrest⟩ := openings_behind (.inr rfl) h
        rw [if_neg hdepth]
        split
        · nofun
        · exact ne_tooDeep_bind (hfields (hrest (skipBlanks_suffix _))) fun _ _ => nofun
      · split
        · nofun
        · nofun
    · unfold readItems
      refine ne_tooDeep_bind (hvalue h) fun ⟨x, left⟩ hx => ?_
      dsimp only
      split
      · nofun
      · exact hitems ((openings_le ((skipBlanks_suffix _).trans
          ((suffix_of_skipBlanks (by assumption)).trans (hvalueRest hx)))).trans h)
      · nofun
    · unfold readFields
      split
      · rename_i tail
        split
        · nofun
        · rename_i hname
          split
          · have hbehind : skipBlanks _ <:+ '"' :: tail := (skipBlanks_suffix _).trans
              ((suffix_of_skipBlanks (by assumption)).trans
                ((readString_suffix hname).trans (List.suffix_cons _ _)))
            refine ne_tooDeep_bind (hvalue ((openings_le hbehind).trans h)) fun ⟨x, left⟩ hx => ?_
            dsimp only
            split
            · nofun
            · exact hfields ((openings_le ((skipBlanks_suffix _).trans
                ((suffix_of_skipBlanks (by assumption)).trans
                  ((hvalueRest hx).trans hbehind)))).trans h)
            · nofun
          · nofun
      · nofun

/-! ## More depth -/

/-- A result is that of a reader that goes deeper, unless it is that the text is too deep. -/
def Settles (x y : Except JsonFault α) : Prop := x = .error .tooDeep ∨ x = y

theorem Settles.bind {x y : Except JsonFault α} {f g : α → Except JsonFault β} (h : Settles x y)
    (hf : ∀ a, Settles (f a) (g a)) : Settles (x >>= f) (y >>= g) := by
  obtain rfl | rfl := h
  · exact .inl rfl
  · cases x with
    | ok a => exact hf a
    | error e => exact .inr rfl

theorem Settles.refl {x : Except JsonFault α} : Settles x x := .inr rfl

/-- A greater depth changes nothing about text that is not too deep. -/
theorem readValue_settles (n : Nat) :
    (∀ depth cs, Settles (readValue n depth cs) (readValue n (depth + 1) cs)) ∧
    (∀ depth cs acc, Settles (readItems n depth cs acc) (readItems n (depth + 1) cs acc)) ∧
    ∀ depth cs acc, Settles (readFields n depth cs acc) (readFields n (depth + 1) cs acc) := by
  induction n with
  | zero => exact ⟨fun _ _ => .refl, fun _ _ _ => .refl, fun _ _ _ => .refl⟩
  | succ n ih =>
    obtain ⟨hvalue, hitems, hfields⟩ := ih
    refine ⟨fun depth cs => ?_, fun depth cs acc => ?_, fun depth cs acc => ?_⟩
    · unfold readValue
      -- Only a bracket asks how many levels are left.
      cases depth with
      | zero =>
        split
        · exact .inl rfl
        · exact .inl rfl
        · exact .refl
      | succ depth =>
        split
        · rw [if_neg (by simp), if_neg (by simp)]
          split
          · exact .refl
          · exact (hitems _ _ _).bind fun _ => .refl
        · rw [if_neg (by simp), if_neg (by simp)]
          split
          · exact .refl
          · exact (hfields _ _ _).bind fun _ => .refl
        · exact .refl
    · unfold readItems
      refine (hvalue depth cs).bind fun ⟨x, left⟩ => ?_
      dsimp only
      split
      · exact .refl
      · exact hitems _ _ _
      · exact .refl
    · unfold readFields
      split
      · split
        · exact .refl
        · split
          · refine (hvalue depth _).bind fun ⟨x, left⟩ => ?_
            dsimp only
            split
            · exact .refl
            · exact hfields _ _ _
            · exact .refl
          · exact .refl
      · exact .refl

/-! ## Whole texts -/

/-- Reads a whole text to some depth. -/
def parseTo (depth : Nat) (cs : List Char) : Except JsonFault Json := do
  let (v, rest) ← readValue (2 * cs.length + 2) depth (skipBlanks cs)
  if (skipBlanks rest).isEmpty then .ok v else .error .malformed

theorem parse_eq (cs : List Char) : parse cs = parseTo maxDepth cs := rfl

theorem parseTo_settles (cs : List Char) (depth more : Nat) :
    Settles (parseTo depth cs) (parseTo (depth + more) cs) := by
  induction more with
  | zero => exact .refl
  | succ more ih =>
    have hnext : Settles (parseTo (depth + more) cs) (parseTo (depth + more + 1) cs) :=
      ((readValue_settles _).1 _ _).bind fun _ => .refl
    obtain hdeep | hsame := ih
    · exact .inl hdeep
    · rw [← hsame] at hnext
      exact hnext

theorem parseTo_ne_tooDeep {depth : Nat} (h : openings cs ≤ depth) :
    parseTo depth cs ≠ .error .tooDeep := by
  have hblanks : openings (skipBlanks cs) ≤ depth := (openings_le (skipBlanks_suffix cs)).trans h
  refine ne_tooDeep_bind ((readValue_ne_tooDeep _).1 hblanks) fun ⟨v, left⟩ _ => ?_
  dsimp only
  split <;> nofun

/-- **Text is too deep exactly if a reader that goes deeper finds something else.** -/
theorem parse_tooDeep_iff :
    parse cs = .error .tooDeep ↔ ∃ depth, maxDepth < depth ∧ parseTo depth cs ≠ parse cs := by
  constructor
  · intro h
    refine ⟨maxDepth + openings cs + 1, by omega, ?_⟩
    rw [h]
    exact parseTo_ne_tooDeep (by omega)
  · rintro ⟨depth, hdepth, hne⟩
    obtain ⟨more, rfl⟩ := Nat.exists_eq_add_of_le hdepth.le
    obtain hdeep | hsame := parseTo_settles cs maxDepth more
    · exact hdeep
    · exact absurd hsame.symm hne

theorem readValue_open (n depth : Nat) (cs : List Char) :
    readValue (n + 1) (depth + 1) ('[' :: '[' :: cs) = (do
      let (xs, rest) ← readItems n depth ('[' :: cs) []
      .ok (.arr xs, rest)) := by
  rw [readValue.eq_def]
  rfl

/-- Text that opens too many brackets at its beginning is too deep, whatever comes then. -/
theorem readValue_replicate (rest : List Char) (depth n : Nat) (h : 2 * depth < n) :
    readValue n depth (List.replicate (depth + 1) '[' ++ rest) = .error .tooDeep := by
  induction depth generalizing n with
  | zero =>
    obtain ⟨n, rfl⟩ := Nat.exists_eq_add_one_of_ne_zero (Nat.ne_of_gt h)
    rw [readValue.eq_def]
    rfl
  | succ depth ih =>
    obtain ⟨n, rfl⟩ : ∃ m, n = m + 2 := ⟨n - 2, by omega⟩
    have hinner := ih n (by omega)
    rw [List.replicate_succ, List.cons_append] at hinner
    rw [List.replicate_succ, List.replicate_succ, List.cons_append, List.cons_append,
      readValue_open, readItems.eq_def]
    dsimp only
    rw [hinner]
    rfl

theorem parse_replicate (rest : List Char) :
    parse (List.replicate (maxDepth + 1) '[' ++ rest) = .error .tooDeep := by
  have hblanks : skipBlanks (List.replicate (maxDepth + 1) '[' ++ rest) =
      List.replicate (maxDepth + 1) '[' ++ rest := rfl
  rw [parse_eq, parseTo, hblanks, readValue_replicate rest maxDepth _ (by simp; omega)]
  rfl

end Graft.Data.Json
