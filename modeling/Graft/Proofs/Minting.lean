import Mathlib.Data.Finset.Card
import Mathlib.Data.Fintype.BigOperators
import Mathlib.Data.List.OfFn
import Mathlib.Logic.Function.Iterate
import Graft.Proofs.Registers
import Graft.Proofs.Run

set_option autoImplicit false

/-! # Handing out identifiers

A source of randomness gives a stream of characters, and a register of identifiers cuts that stream
into candidates of one size.  The first candidate that no record has is the one that is handed out.
The size is settled by the first length that can be read, and no later one counts.

Candidates may all be in use.  So an identifier can be handed out exactly if one of the size is left
over: that many draws have no bound which is known beforehand, but a congruence comes round. -/

namespace Graft

open Data

section Draws

variable {σ : Type} (draw : σ → Nat × σ)

/-! ## The stream of a source -/

/-- A source after so many draws. -/
def after (n : Nat) (d : σ) : σ := (fun d => (draw d).2)^[n] d

/-- What a source gives after so many draws. -/
def drawn (n : Nat) (d : σ) : Nat := (draw (after draw n d)).1

/-- The character that a drawn index means. -/
def suffixChar (i : Nat) : Char := (suffixAlphabet[i]?).getD '0'

/-- The candidates for suffixes of one size: the stream, cut into pieces. -/
def candidate (size k : Nat) (d : σ) : List Char :=
  (List.range size).map fun i => suffixChar (drawn draw (k * size + i) d)

/-- A suffix that can be drawn. -/
structure IsSuffix (size : Nat) (cs : List Char) : Prop where
  length : cs.length = size
  alphabet : ∀ c ∈ cs, c ∈ suffixAlphabet

variable {draw}

theorem after_add (m n : Nat) (d : σ) : after draw n (after draw m d) = after draw (m + n) d := by
  unfold after
  rw [Nat.add_comm, Function.iterate_add_apply]

theorem drawn_add (m n : Nat) (d : σ) : drawn draw n (after draw m d) = drawn draw (m + n) d := by
  unfold drawn
  rw [after_add]

theorem candidate_after (size k : Nat) (d : σ) :
    candidate draw size k (after draw size d) = candidate draw size (k + 1) d := by
  unfold candidate
  refine List.map_congr_left fun i _ => ?_
  rw [drawn_add, show size + (k * size + i) = (k + 1) * size + i by rw [Nat.succ_mul]; omega]

theorem suffixChar_mem (i : Nat) : suffixChar i ∈ suffixAlphabet := by
  unfold suffixChar
  cases hi : suffixAlphabet[i]? with
  | none => decide
  | some c => exact List.mem_of_getElem? hi

/-- Suffixes are written with digits and small letters. -/
theorem isDigit_or_isLower {c : Char} (h : c ∈ suffixAlphabet) :
    c.isDigit = true ∨ c.isLower = true := by
  have hall : suffixAlphabet.all (fun c => c.isDigit || c.isLower) = true := by decide
  simpa using List.all_eq_true.1 hall c h

theorem candidate_isSuffix (draw : σ → Nat × σ) (size k : Nat) (d : σ) : IsSuffix size (candidate draw size k d) where
  length := by simp [candidate]
  alphabet c hc := by
    obtain ⟨i, -, rfl⟩ := List.mem_map.1 hc
    exact suffixChar_mem _

/-- A suffix is the first candidate. -/
theorem drawSuffix_eq (n : Nat) (d : σ) :
    drawSuffix draw n d = (candidate draw n 0 d, after draw n d) := by
  induction n generalizing d with
  | zero => rfl
  | succ n ih =>
    have hnext : after draw n (draw d).2 = after draw (n + 1) d := rfl
    have hrest : candidate draw n 0 (draw d).2 =
        (List.range n).map fun i => suffixChar (drawn draw (i + 1) d) := by
      unfold candidate
      refine List.map_congr_left fun i _ => ?_
      rw [show (draw d).2 = after draw 1 d from rfl, drawn_add]
      congr 2
      omega
    have hfirst : candidate draw (n + 1) 0 d =
        suffixChar (drawn draw 0 d) :: (List.range n).map fun i => suffixChar (drawn draw (i + 1) d) := by
      simp [candidate, List.range_succ_eq_map, List.map_map, Function.comp_def]
    simp only [drawSuffix, ih, hnext, hrest, hfirst]
    rfl

theorem mintFrom_eq (lead : String) (length : Int) (d : σ) :
    mintFrom draw lead length d = (identifierOf lead (candidate draw (suffixSize length) 0 d),
      after draw (suffixSize length) d) := by
  simp only [mintFrom, drawSuffix_eq]

/-! ## How many suffixes there are -/

/-- The suffix whose characters have some indices. -/
def spelled {size : Nat} (v : Fin size → Fin suffixAlphabet.length) : List Char :=
  List.ofFn fun i => suffixAlphabet.get (v i)

theorem spelled_isSuffix {size : Nat} (v : Fin size → Fin suffixAlphabet.length) :
    IsSuffix size (spelled v) where
  length := List.length_ofFn
  alphabet c hc := by
    obtain ⟨i, rfl⟩ := List.mem_ofFn.1 hc
    exact List.get_mem _ _

theorem spelled_injective (size : Nat) : Function.Injective (spelled : (Fin size → Fin suffixAlphabet.length) → List Char) := by
  intro v w h
  have hnodup : suffixAlphabet.Nodup := by decide
  have hsame := List.ofFn_injective h
  funext i
  exact List.nodup_iff_injective_get.1 hnodup (congrFun hsame i)

theorem identifierOf_injective (lead : String) : Function.Injective (identifierOf lead) := by
  intro s t h
  have hlist := congrArg String.toList h
  simpa [identifierOf, String.toList_append] using hlist

/-- The key of the identifier with a suffix that is spelled. -/
def spelledKey (lead : String) {size : Nat} (v : Fin size → Fin suffixAlphabet.length) : Key :=
  .ofText (identifierOf lead (spelled v))

theorem spelledKey_injective (lead : String) (size : Nat) :
    Function.Injective (spelledKey lead : (Fin size → Fin suffixAlphabet.length) → Key) := by
  intro v w h
  have htext : identifierOf lead (spelled v) = identifierOf lead (spelled w) := by
    simpa [spelledKey, Key.ofText, Key.ofPart] using h
  exact spelled_injective size (identifierOf_injective lead htext)

end Draws

namespace Journal

variable {R : Type}

/-- Whether an identifier with a suffix is in use. -/
def uses (j : Journal R) (lead : String) (cs : List Char) : Bool :=
  j.contains (.ofText (identifierOf lead cs))

/-- If there are fewer records than suffixes of a size, then one of these suffixes is free. -/
theorem exists_free (j : Journal R) (lead : String) {n : Nat}
    (h : j.size < suffixAlphabet.length ^ n) : ∃ cs, IsSuffix n cs ∧ j.uses lead cs = false := by
  by_contra hall
  push Not at hall
  have hmem (v : Fin n → Fin suffixAlphabet.length) :
      spelledKey lead v ∈ (j.entries.map Prod.fst).toFinset := by
    have huse := hall (spelled v) (spelled_isSuffix v)
    rw [ne_eq, Bool.not_eq_false] at huse
    simpa [uses, contains, spelledKey] using huse
  -- Different suffixes are kept under different keys, and there are too few of these.
  have hcard := Finset.card_le_card_of_injOn (s := Finset.univ) (spelledKey lead) (fun v _ => hmem v)
    (spelledKey_injective lead n).injOn
  have hkept := (j.entries.map Prod.fst).toFinset_card_le
  simp only [Finset.card_univ, Fintype.card_fun, Fintype.card_fin] at hcard
  rw [List.length_map] at hkept
  simp only [size] at h
  omega

end Journal

namespace Register

variable {R σ : Type} {draw : σ → Nat × σ}

/-! ## The first candidate that is free -/

/-- **An identifier is drawn exactly as the first candidate that is free**, if that is among so many
    candidates, and all the draws up to it have been made by then. -/
theorem drawFree_eq_some_iff {j : Journal R} {lead : String} {length : Int} {tries : Nat} {d d' : σ}
    {id : String} : drawFree draw j lead length tries d = some (id, d') ↔
      ∃ k < tries, (∀ i < k, j.uses lead (candidate draw (suffixSize length) i d) = true) ∧
        j.uses lead (candidate draw (suffixSize length) k d) = false ∧
        id = identifierOf lead (candidate draw (suffixSize length) k d) ∧
        d' = after draw ((k + 1) * suffixSize length) d := by
  induction tries generalizing d with
  | zero => simp [drawFree]
  | succ tries ih =>
    simp only [drawFree, mintFrom_eq]
    cases hfirst : j.uses lead (candidate draw (suffixSize length) 0 d) with
    | false =>
      simp only [Journal.uses] at hfirst
      simp only [hfirst, Bool.false_eq_true, if_false, Option.some.injEq, Prod.mk.injEq]
      constructor
      · rintro ⟨rfl, rfl⟩
        exact ⟨0, Nat.succ_pos _, by simp, hfirst, rfl, by rw [Nat.zero_add, Nat.one_mul]⟩
      · rintro ⟨k, -, hused, -, rfl, rfl⟩
        -- A later candidate would mean that the first one is in use.
        obtain rfl : k = 0 := by
          by_contra hk
          have := hused 0 (Nat.pos_of_ne_zero hk)
          simp [Journal.uses, hfirst] at this
        exact ⟨rfl, by rw [Nat.zero_add, Nat.one_mul]⟩
    | true =>
      have hshift (k : Nat) : after draw ((k + 1) * suffixSize length) (after draw (suffixSize length) d) =
          after draw ((k + 1 + 1) * suffixSize length) d := by
        rw [after_add, Nat.succ_mul (k + 1), Nat.add_comm]
      have huse := hfirst
      simp only [Journal.uses] at hfirst
      simp only [hfirst, if_true, ih, candidate_after, hshift]
      constructor
      · rintro ⟨k, hk, hused, hfree, rfl, rfl⟩
        refine ⟨k + 1, Nat.succ_lt_succ hk, ?_, hfree, rfl, rfl⟩
        rintro (_ | i) hi
        · exact huse
        · exact hused i (Nat.lt_of_succ_lt_succ hi)
      · rintro ⟨_ | k, hk, hused, hfree, rfl, rfl⟩
        · simp [huse] at hfree
        · exact ⟨k, Nat.lt_of_succ_lt_succ hk, fun i hi => hused (i + 1) (Nat.succ_lt_succ hi), hfree,
            rfl, rfl⟩

/-- Nothing is drawn exactly if the candidates are all in use. -/
theorem drawFree_eq_none_iff {j : Journal R} {lead : String} {length : Int} {tries : Nat} {d : σ} :
    drawFree draw j lead length tries d = none ↔
      ∀ k < tries, j.uses lead (candidate draw (suffixSize length) k d) = true := by
  constructor
  · intro hnone k hk
    by_contra hfree
    -- The least candidate that is free would be drawn.
    have hex : ∃ k, j.uses lead (candidate draw (suffixSize length) k d) ≠ true := ⟨k, hfree⟩
    have hsome := drawFree_eq_some_iff.2 ⟨Nat.find hex, (Nat.find_min' hex hfree).trans_lt hk,
      fun i hi => not_not.1 (Nat.find_min hex hi), by simpa using Nat.find_spec hex, rfl, rfl⟩
    rw [hnone] at hsome
    cases hsome
  · intro hall
    cases hdraw : drawFree draw j lead length tries d with
    | none => rfl
    | some x =>
      obtain ⟨k, hk, -, hfree, -⟩ := drawFree_eq_some_iff.1 hdraw
      simp [hall k hk] at hfree

/-- What is answered if the length is known. -/
theorem reserveFrom_of_length (draw : σ → Nat × σ) {r : Register R} {s : Surroundings} {length : Int}
    (h : lengthFor r.suffixLength s = .ok length) (tries : Nat) (d : σ) :
    ∃ r', r.reserveFrom draw tries s d =
      match drawFree draw r.journal r.lead length tries d with
      | some (id, d') => (.ok id, r', d')
      | none => (.error .exhausted, r', d) := by
  have hjournal : (if r.suffixLength.isNone then { r with suffixLength := .int length } else r).journal =
      r.journal := by split <;> rfl
  have hlead : (if r.suffixLength.isNone then { r with suffixLength := .int length } else r).lead =
      r.lead := by split <;> rfl
  simp only [reserveFrom, h, hjournal, hlead]
  exact ⟨_, rfl⟩

/-! ## Runs of a register -/

/-- What happens to a register: an identifier is asked for, of any source and with any number of
    candidates, or a record is added. -/
inductive Event (σ R : Type)
  | reserve (around : Surroundings) (tries : Nat) (d : σ)
  | add (id : Datum) (r : R)

/-- The surroundings in which an identifier is asked for. -/
def Event.around? : Event σ R → Option Surroundings
  | .reserve around _ _ => some around
  | .add _ _ => none

/-- A register without records. -/
def begun (lead : String) (given : Datum) : Register R := { lead, suffixLength := given }

/-- The register that an event leaves. -/
def proceed (draw : σ → Nat × σ) (r : Register R) : Event σ R → Register R
  | .reserve around tries d => (r.reserveFrom draw tries around d).2.1
  | .add id x =>
    match r.journal.add id x with
    | .ok journal => { r with journal }
    | .error _ => r

/-- The first length that can be read. -/
def firstLength (arounds : List Surroundings) : Option Int :=
  arounds.findSome? fun s => (Graft.suffixLength s).toOption

/-- The length that is known to a register with a given one, if it has been asked for identifiers in
    some surroundings. -/
def knownLength (given : Datum) (arounds : List Surroundings) : Datum :=
  if given.isNone then (firstLength arounds).elim .none .int else given

variable {given : Datum} {arounds : List Surroundings} {around : Surroundings} {length : Int}

theorem firstLength_append (arounds : List Surroundings) (around : Surroundings) :
    firstLength (arounds ++ [around]) =
      (firstLength arounds).or (Graft.suffixLength around).toOption := by
  simp only [firstLength, List.findSome?_append, List.findSome?_singleton]

theorem lengthFor_given (hgiven : given.isNone = false) (h : lengthFor given around = .ok length) :
    lengthOf given = .ok length := by
  cases given with
  | none => cases hgiven
  | _ => exact (mapError_eq_ok (f := MintFault.length)).1 h

/-- The length that a register goes by is the given one, or else the first one that could be read
    by then. -/
theorem lengthFor_known (h : lengthFor (knownLength given arounds) around = .ok length) :
    if given.isNone then firstLength (arounds ++ [around]) = some length
    else lengthOf given = .ok length := by
  unfold knownLength at h
  cases hnone : given.isNone with
  | false =>
    simp only [hnone, Bool.false_eq_true, if_false] at h ⊢
    exact lengthFor_given hnone h
  | true =>
    simp only [hnone, if_true] at h ⊢
    rw [firstLength_append]
    -- The length is settled by the first settings that have one, and otherwise by the present ones.
    cases hfirst : firstLength arounds with
    | none =>
      simp only [hfirst, Option.elim_none, lengthFor] at h
      cases hread : Graft.suffixLength around with
      | error f => simp [hread, Except.mapError] at h
      | ok n =>
        simp only [hread, Except.mapError, Except.ok.injEq] at h
        simp [h, Except.toOption]
    | some n =>
      simp only [hfirst, Option.elim_some, lengthFor, lengthOf, Except.mapError,
        Except.ok.injEq] at h
      simp [h]

/-- The register that is left has the same records, and knows the length if it could be read. -/
theorem reserveFrom_leaves (draw : σ → Nat × σ) (r : Register R) (s : Surroundings) (tries : Nat) (d : σ) :
    (r.reserveFrom draw tries s d).2.1.lead = r.lead ∧
      (r.reserveFrom draw tries s d).2.1.journal = r.journal ∧
      (r.reserveFrom draw tries s d).2.1.suffixLength =
        if r.suffixLength.isNone then ((Graft.suffixLength s).toOption).elim .none .int
        else r.suffixLength := by
  -- The length is looked up only as long as there is none.
  cases hnone : r.suffixLength.isNone with
  | true =>
    have hsame : r.suffixLength = .none := by
      cases hlength : r.suffixLength with
      | none => rfl
      | _ => simp [hlength, Datum.isNone] at hnone
    cases hread : Graft.suffixLength s with
    | error f =>
      have hfails : lengthFor r.suffixLength s = .error (.settings f) := by
        simp [hsame, lengthFor, hread, Except.mapError]
      simp only [reserveFrom, hfails]
      exact ⟨trivial, trivial, hsame⟩
    | ok n =>
      have hlength : lengthFor r.suffixLength s = .ok n := by
        simp [hsame, lengthFor, hread, Except.mapError]
      simp only [reserveFrom, hlength, hnone, if_true]
      cases drawFree draw r.journal r.lead n tries d <;> exact ⟨rfl, rfl, rfl⟩
  | false =>
    cases hlength : lengthFor r.suffixLength s with
    | error f => simp [reserveFrom, hlength]
    | ok n =>
      simp only [reserveFrom, hlength, hnone, Bool.false_eq_true, if_false]
      cases drawFree draw r.journal r.lead n tries d <;> exact ⟨rfl, rfl, rfl⟩

theorem proceed_lead (r : Register R) (e : Event σ R) : (proceed draw r e).lead = r.lead := by
  cases e with
  | reserve around tries d => exact (reserveFrom_leaves draw r around tries d).1
  | add id x =>
    simp only [proceed]
    split <;> rfl

/-- **One event** does not change what is known of the length, unless nothing is and it can be
    read. -/
theorem proceed_knows {r : Register R} (h : r.suffixLength = knownLength given arounds)
    (e : Event σ R) :
    (proceed draw r e).suffixLength = knownLength given (arounds ++ e.around?.toList) := by
  cases e with
  | add id x =>
    have hsame : (proceed draw r (.add id x)).suffixLength = r.suffixLength := by
      simp only [proceed]
      split <;> rfl
    rw [hsame, h]
    simp [Event.around?]
  | reserve around tries d =>
    have hleft := (reserveFrom_leaves draw r around tries d).2.2
    simp only [proceed, Event.around?, Option.toList_some, hleft, h]
    unfold knownLength
    cases hnone : given.isNone with
    | false => simp [hnone]
    | true =>
      simp only [if_true, firstLength_append]
      cases hfirst : firstLength arounds <;> simp [Datum.isNone]

/-- **A run of events** leaves a register that knows the given length, or else the first one that
    could be read. -/
theorem run_knows (draw : σ → Nat × σ) (lead : String) (given : Datum) (es : List (Event σ R)) :
    (es.foldl (proceed draw) (begun lead given)).lead = lead ∧
      (es.foldl (proceed draw) (begun lead given)).suffixLength =
        knownLength given (es.filterMap Event.around?) := by
  induction es using List.reverseRecOn with
  | nil =>
    refine ⟨rfl, ?_⟩
    cases given <;> rfl
  | append_singleton es e ih =>
    obtain ⟨hlead, hlength⟩ := ih
    rw [List.foldl_append, List.foldl_cons, List.foldl_nil]
    refine ⟨?_, ?_⟩
    · exact (proceed_lead _ e).trans hlead
    · rw [proceed_knows hlength e, List.filterMap_append]
      cases e <;> rfl

theorem reserveFrom_eq_ok {r r' : Register R} {s : Surroundings} {tries : Nat} {d d' : σ}
    {id : String} (h : r.reserveFrom draw tries s d = (.ok id, r', d')) :
    ∃ length, lengthFor r.suffixLength s = .ok length ∧
      drawFree draw r.journal r.lead length tries d = some (id, d') := by
  cases hlength : lengthFor r.suffixLength s with
  | error f => simp [reserveFrom, hlength] at h
  | ok n =>
    obtain ⟨r₁, hanswer⟩ := reserveFrom_of_length draw hlength tries d
    rw [hanswer] at h
    refine ⟨n, rfl, ?_⟩
    cases hdraw : drawFree draw r.journal r.lead n tries d with
    | none => simp [hdraw] at h
    | some x =>
      simp only [hdraw, Prod.mk.injEq, Except.ok.injEq] at h
      obtain ⟨rfl, -, rfl⟩ := h
      rfl

/-- **What a register hands out is the first candidate that is free.**  Whatever has happened to it
    before, in whatever surroundings and with whatever sources, its candidates have the length that
    it was given, or else the first one that could be read.  The candidates that are passed over are
    the ones that are in use, and each candidate takes one draw for each of its characters. -/
theorem identifiers_are_first_free (lead : String) (given : Datum) (es : List (Event σ R))
    (around : Surroundings) (tries : Nat) (d d' : σ) (id : String) (r r' : Register R)
    (hrun : es.foldl (proceed draw) (begun lead given) = r)
    (h : r.reserveFrom draw tries around d = (.ok id, r', d')) :
    ∃ length k,
      (if given.isNone then firstLength (es.filterMap Event.around? ++ [around]) = some length
        else lengthOf given = .ok length) ∧
      id = lead ++ "_" ++ String.ofList (candidate draw (suffixSize length) k d) ∧
      ((candidate draw (suffixSize length) k d).length : Int) = max 1 length ∧
      (∀ c ∈ candidate draw (suffixSize length) k d, c.isDigit = true ∨ c.isLower = true) ∧
      r.journal.contains (.ofText id) = false ∧
      (∀ i < k, r.journal.contains (.ofText
        (lead ++ "_" ++ String.ofList (candidate draw (suffixSize length) i d))) = true) ∧
      d' = after draw ((k + 1) * suffixSize length) d := by
  subst hrun
  obtain ⟨hlead, hknown⟩ := run_knows draw lead given es
  obtain ⟨length, hlength, hdraw⟩ := reserveFrom_eq_ok h
  rw [hknown] at hlength
  obtain ⟨k, -, hused, hfree, rfl, rfl⟩ := drawFree_eq_some_iff.1 hdraw
  rw [hlead] at hused hfree ⊢
  have hsuffix := candidate_isSuffix draw (suffixSize length) k d
  refine ⟨length, k, lengthFor_known hlength, rfl, ?_, ?_, hfree, hused, rfl⟩
  · rw [hsuffix.length]
    unfold suffixSize
    omega
  · exact fun c hc => isDigit_or_isLower (hsuffix.alphabet c hc)

/-- A source that counts up. -/
def counter (n : Nat) : Nat × Nat := (n % 36, n + 1)

/-- Surroundings in which a length of suffixes is set. -/
def lengthSet (text : String) : Surroundings := { env := [("IDS_SUFFIX_LENGTH", text)] }

/-- A record is added, and an identifier is asked for twice, in different surroundings. -/
def ticketEvents : List (Event Nat Unit) :=
  [.add (.str "p_0") (), .reserve (lengthSet "1") 1 0, .reserve (lengthSet "2") 1 5]

/-- The first length counts still when it is set otherwise, and a candidate is passed over. -/
theorem ticket_is_first_free :
    ((ticketEvents.foldl (proceed counter) (begun "p" .none)).reserveFrom counter 3 (lengthSet "4") 0).1 =
        .ok "p_1" ∧
      ∃ length k, firstLength [lengthSet "1", lengthSet "2", lengthSet "4"] = some length ∧
        "p_1" = "p" ++ "_" ++ String.ofList (candidate counter (suffixSize length) k 0) ∧
        ((candidate counter (suffixSize length) k 0).length : Int) = max 1 length := by
  have hid : ((ticketEvents.foldl (proceed counter) (begun "p" .none)).reserveFrom counter 3
      (lengthSet "4") 0).1 = .ok "p_1" := by decide +kernel
  obtain ⟨length, k, hlength, htext, hsize, -⟩ := identifiers_are_first_free "p" .none ticketEvents
    (lengthSet "4") 3 0 _ "p_1" _ _ rfl (Prod.ext hid rfl)
  exact ⟨hid, length, k, hlength, htext, hsize⟩

/-! ## When an identifier can be handed out -/

/-- Every suffix of a size turns up in a source. -/
def TurnsUp (draw : σ → Nat × σ) (size : Nat) (d : σ) : Prop :=
  ∀ cs, IsSuffix size cs → ∃ k, candidate draw size k d = cs

theorem reserveFrom_exhausted_iff {r : Register R} {s : Surroundings} {length : Int}
    (h : lengthFor r.suffixLength s = .ok length) {tries : Nat} {d : σ} :
    (r.reserveFrom draw tries s d).1 = .error .exhausted ↔
      ∀ k < tries, r.journal.uses r.lead (candidate draw (suffixSize length) k d) = true := by
  obtain ⟨r', hanswer⟩ := reserveFrom_of_length draw h tries d
  rw [hanswer, ← drawFree_eq_none_iff]
  cases drawFree draw r.journal r.lead length tries d <;> simp

/-- As long as one suffix is left over, it is handed out if no other one is. -/
theorem reservation_ends {r : Register R} {s : Surroundings} {length : Int} {d : σ} {cs : List Char}
    (h : lengthFor r.suffixLength s = .ok length) (hturns : TurnsUp draw (suffixSize length) d)
    (hsuffix : IsSuffix (suffixSize length) cs) (hfree : r.journal.uses r.lead cs = false) :
    ∃ tries id, (r.reserveFrom draw tries s d).1 = .ok id := by
  obtain ⟨k, rfl⟩ := hturns cs hsuffix
  obtain ⟨r', hanswer⟩ := reserveFrom_of_length draw h (k + 1) d
  cases hdraw : drawFree draw r.journal r.lead length (k + 1) d with
  | none => simp [drawFree_eq_none_iff.1 hdraw k (Nat.lt_succ_self k)] at hfree
  | some x => exact ⟨k + 1, x.1, by rw [hanswer, hdraw]⟩

/-- **An identifier is handed out in the end exactly if one is left over**, or else the length can
    not be read, and that is the answer.  There is one left over if there are fewer records than
    suffixes.  Otherwise candidates are drawn without end. -/
theorem reservation_ends_iff (draw : σ → Nat × σ) (r : Register R) (s : Surroundings) (d : σ)
    (hturns : ∀ length, lengthFor r.suffixLength s = .ok length → TurnsUp draw (suffixSize length) d) :
    ((∃ tries, (r.reserveFrom draw tries s d).1 ≠ .error .exhausted) ↔
      ∀ length, lengthFor r.suffixLength s = .ok length →
        ∃ cs, IsSuffix (suffixSize length) cs ∧
          r.journal.contains (.ofText (identifierOf r.lead cs)) = false) ∧
    (∀ tries id, (r.reserveFrom draw tries s d).1 = .ok id → r.journal.contains (.ofText id) = false) ∧
    ∀ length, lengthFor r.suffixLength s = .ok length → r.journal.size < 36 ^ suffixSize length →
      ∃ tries id, (r.reserveFrom draw tries s d).1 = .ok id := by
  refine ⟨⟨?_, ?_⟩, ?_, ?_⟩
  · rintro ⟨tries, hends⟩ length hlength
    rw [ne_eq, reserveFrom_exhausted_iff hlength] at hends
    push Not at hends
    obtain ⟨k, -, hfree⟩ := hends
    exact ⟨_, candidate_isSuffix draw _ k d, by simpa [Journal.uses] using hfree⟩
  · intro hleft
    cases hlength : lengthFor r.suffixLength s with
    | error f => exact ⟨0, by simp [reserveFrom, hlength]⟩
    | ok length =>
      obtain ⟨cs, hsuffix, hfree⟩ := hleft length hlength
      obtain ⟨tries, id, hid⟩ := reservation_ends hlength (hturns length hlength) hsuffix hfree
      exact ⟨tries, by simp [hid]⟩
  · intro tries id hid
    obtain ⟨length, -, hdraw⟩ := reserveFrom_eq_ok (Prod.ext hid rfl)
    exact drawFree_free hdraw
  · intro length hlength hfew
    obtain ⟨cs, hsuffix, hfree⟩ := r.journal.exists_free r.lead hfew
    exact reservation_ends hlength (hturns length hlength) hsuffix hfree

/-- A register for suffixes of one character, which are all in use. -/
def fullRegister : Register Unit where
  lead := "p"
  suffixLength := .int 1
  journal := {
    entries := suffixAlphabet.map fun c => (.ofText (identifierOf "p" [c]), ())
    nodup := by decide +kernel }

theorem after_counter (n d : Nat) : after counter n d = d + n := by
  induction n generalizing d with
  | zero => rfl
  | succ n ih =>
    have hnext : after counter (n + 1) d = after counter n (d + 1) := rfl
    rw [hnext, ih]
    omega

theorem turnsUp_counter : TurnsUp counter 1 0 := by
  rintro cs ⟨hlength, halphabet⟩
  obtain ⟨c, rfl⟩ := List.length_eq_one_iff.1 hlength
  obtain ⟨i, hi, rfl⟩ := List.getElem_of_mem (halphabet c (List.mem_singleton_self c))
  have hsmall : i < 36 := hi
  refine ⟨i, ?_⟩
  have hdrawn : drawn counter i 0 = i := by
    simp only [drawn, after_counter, counter, Nat.zero_add, Nat.mod_eq_of_lt hsmall]
  simp only [candidate, List.range_one, List.map_cons, List.map_nil, Nat.mul_one, Nat.add_zero, hdrawn,
    suffixChar, List.getElem?_eq_getElem hi, Option.getD_some]

/-- Every suffix keeps turning up, and no identifier is handed out. -/
theorem full_register_keeps_drawing :
    TurnsUp counter 1 0 ∧ ∀ tries, (fullRegister.reserveFrom counter tries {} 0).1 = .error .exhausted := by
  have hone : lengthFor fullRegister.suffixLength {} = .ok 1 := rfl
  have hiff := (reservation_ends_iff counter fullRegister {} 0 (by
    rintro length ⟨⟩
    exact turnsUp_counter)).1
  refine ⟨turnsUp_counter, fun tries => ?_⟩
  by_contra hends
  obtain ⟨cs, ⟨hlength, halphabet⟩, hfree⟩ := hiff.1 ⟨tries, hends⟩ 1 hone
  obtain ⟨c, rfl⟩ := List.length_eq_one_iff.1 hlength
  have hused : ∀ c ∈ suffixAlphabet,
      fullRegister.journal.contains (.ofText (identifierOf "p" [c])) = true := by
    intro c hc
    simp only [Journal.contains, fullRegister, decide_eq_true_eq, List.map_map]
    exact List.mem_map_of_mem (f := fun c => Key.ofText (identifierOf "p" [c])) hc
  have htaken := hused c (halphabet c (List.mem_singleton_self c))
  exact Bool.false_ne_true (hfree.symm.trans htaken)

/-! ## Dice come round -/

/-- What is repeated on so many states has been through all that it comes to after so many times. -/
theorem iterate_recurs {α : Type} (f : α → α) (x : α) (code : α → Nat) {N : Nat}
    (hcode : ∀ n, code (f^[n] x) < N)
    (hinj : ∀ m n, code (f^[m] x) = code (f^[n] x) → f^[m] x = f^[n] x) (k : Nat) :
    ∃ k' < N, f^[k'] x = f^[k] x := by
  induction k using Nat.strong_induction_on with
  | _ k ih =>
    by_cases hk : k < N
    · exact ⟨k, hk, rfl⟩
    · -- Two of the first states are the same, and what lies between them can be left out.
      obtain ⟨i, hi, j, hj, hne, hsame⟩ := Finset.exists_ne_map_eq_of_card_lt_of_maps_to
        (s := Finset.range (N + 1)) (t := Finset.range N) (by simp)
        (f := fun n => code (f^[n] x)) (fun n _ => by simpa using hcode n)
      have hstate := hinj i j hsame
      rw [Finset.mem_range] at hi hj
      wlog hij : i < j generalizing i j
      · exact this j hj i hi hne.symm hsame.symm hstate.symm (by omega)
      have hshort : f^[k - j + i] x = f^[k] x := by
        rw [Function.iterate_add_apply, hstate, ← Function.iterate_add_apply]
        congr 1
        omega
      obtain ⟨k', hk', hsame'⟩ := ih (k - j + i) (by omega)
      exact ⟨k', hk', hsame'.trans hshort⟩

theorem after_picks (n : Nat) (d : Dice) : (after Dice.draw n d).picks = d.picks.drop n := by
  induction n generalizing d with
  | zero => rfl
  | succ n ih =>
    have hnext : after Dice.draw (n + 1) d = after Dice.draw n d.draw.2 := rfl
    obtain ⟨picks, state⟩ := d
    rw [hnext, ih]
    cases picks <;> simp [Dice.draw]

/-- The picks are used up, and the congruence has begun. -/
structure Rolling (d : Dice) : Prop where
  picks : d.picks = []
  nonneg : 0 ≤ d.state
  small : d.state < 0x80000000

/-- After more draws than there are picks. -/
theorem after_rolling {n : Nat} {d : Dice} (h : d.picks.length < n) : Rolling (after Dice.draw n d) := by
  obtain ⟨n, rfl⟩ := Nat.exists_eq_succ_of_ne_zero (Nat.ne_of_gt (Nat.zero_lt_of_lt h))
  have hlast : after Dice.draw (n + 1) d = (after Dice.draw n d).draw.2 :=
    (after_add n 1 d).symm
  have hpicks : (after Dice.draw n d).picks = [] := by
    rw [after_picks, List.drop_eq_nil_of_le (Nat.le_of_lt_succ h)]
  rw [Nat.succ_eq_add_one, hlast]
  generalize after Dice.draw n d = e at hpicks ⊢
  obtain ⟨picks, state⟩ := e
  obtain rfl : picks = [] := hpicks
  exact ⟨rfl, Int.emod_nonneg _ (by decide), Int.emod_lt_of_pos _ (by decide)⟩

theorem Rolling.ext {d e : Dice} (hd : Rolling d) (he : Rolling e)
    (h : d.state.toNat = e.state.toNat) : d = e := by
  obtain ⟨picks, state⟩ := d
  obtain ⟨picks', state'⟩ := e
  obtain rfl : picks = [] := hd.picks
  obtain rfl : picks' = [] := he.picks
  have hnonneg := hd.nonneg
  have hnonneg' := he.nonneg
  simp only [Dice.mk.injEq, true_and]
  dsimp only at h hnonneg hnonneg'
  omega

/-- Whatever candidate dice come to, it is one of the first ones. -/
theorem candidate_recurs {size : Nat} (hsize : 0 < size) (d : Dice) (k : Nat) :
    ∃ k' < allTries d, candidate Dice.draw size k' d = candidate Dice.draw size k d := by
  have hfirst (k : Nat) : candidate Dice.draw size k d =
      candidate Dice.draw size 0 (after Dice.draw (k * size) d) := by
    unfold candidate
    refine List.map_congr_left fun i _ => ?_
    rw [drawn_add, Nat.zero_mul, Nat.zero_add]
  have hstates (k : Nat) : (after Dice.draw size)^[k] (after Dice.draw ((d.picks.length + 1) * size) d) =
      after Dice.draw ((d.picks.length + 1 + k) * size) d := by
    have hpower : (after Dice.draw size)^[k] = after Dice.draw (size * k) :=
      (Function.iterate_mul _ size k).symm
    rw [hpower, after_add, Nat.add_mul _ k, Nat.mul_comm size k]
  have hrolling (k : Nat) : Rolling (after Dice.draw ((d.picks.length + 1 + k) * size) d) := by
    refine after_rolling (Nat.lt_of_lt_of_le ?_ (Nat.le_mul_of_pos_right _ hsize))
    omega
  -- Behind the picks that are given the dice roll through their states, which come again.
  by_cases hk : k < d.picks.length + 1
  · exact ⟨k, by unfold allTries; omega, rfl⟩
  · obtain ⟨k', hk', hsame⟩ := iterate_recurs (after Dice.draw size)
      (after Dice.draw ((d.picks.length + 1) * size) d) (fun e => e.state.toNat) (N := 0x80000000)
      (fun n => by
        have hsmall := (hrolling n).small
        rw [hstates]
        omega)
      (fun m n hcode => by
        rw [hstates, hstates] at hcode ⊢
        exact (hrolling m).ext (hrolling n) hcode)
      (k - (d.picks.length + 1))
    rw [hstates, hstates] at hsame
    refine ⟨d.picks.length + 1 + k', by unfold allTries; omega, ?_⟩
    rw [hfirst, hsame, hfirst k]
    congr 3
    omega

/-- **Dice are given up only if they would be cast without end.** -/
theorem reserve_exhausted_iff (r : Register R) (s : Surroundings) (d : Dice) :
    (r.reserve s d).1 = .error .exhausted ↔
      ∀ tries, (r.reserveFrom Dice.draw tries s d).1 = .error .exhausted := by
  refine ⟨fun hgiven tries => ?_, fun hall => hall _⟩
  cases hlength : lengthFor r.suffixLength s with
  | error f => simp [reserve, reserveFrom, hlength] at hgiven
  | ok length =>
    have hsize : 0 < suffixSize length := by
      unfold suffixSize
      omega
    rw [reserveFrom_exhausted_iff hlength]
    intro k _
    obtain ⟨k', hk', hsame⟩ := candidate_recurs hsize d k
    rw [← hsame]
    exact (reserveFrom_exhausted_iff hlength).1 hgiven k' hk'

end Register

end Graft
