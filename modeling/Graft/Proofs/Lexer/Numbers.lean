import Graft.Syntax.Number
import Mathlib.Order.Nat
import Mathlib.Data.List.Basic

set_option autoImplicit false

/-! # Numbers stay on their line

What a scan for a number makes of a line does not depend on the lines behind it, and a literal does
not reach over the end of its line. -/

namespace Graft.Syntax

namespace NumberScan

/-- Scans that give the same whatever the text behind the line is, and whose literals have between
    `lo` and `hi` characters. -/
def Settled (lo hi : Nat) (f : List Char → NumberScan) : Prop :=
  ∃ r, (∀ cs, f cs = r) ∧ ∀ n, r = .literal n → lo ≤ n ∧ n ≤ hi

namespace Settled

variable {lo hi : Nat} {f g : List Char → NumberScan}

theorem literal {n : Nat} (hlo : lo ≤ n) (hhi : n ≤ hi) : Settled lo hi fun _ => .literal n :=
  ⟨_, fun _ => rfl, by rintro _ ⟨⟩; exact ⟨hlo, hhi⟩⟩

theorem bad (message : String) (n : Nat) : Settled lo hi fun _ => .bad message n :=
  ⟨_, fun _ => rfl, by rintro _ ⟨⟩⟩

theorem leadingZeros : Settled lo hi fun _ => .leadingZeros :=
  ⟨_, fun _ => rfl, by rintro _ ⟨⟩⟩

theorem ite {p : Prop} [Decidable p] (hf : Settled lo hi f) (hg : Settled lo hi g) :
    Settled lo hi fun cs => if p then f cs else g cs := by
  by_cases hp : p
  · simpa only [if_pos hp] using hf
  · simpa only [if_neg hp] using hg

theorem ite_of {b : List Char → Bool} {value : Bool} (hb : ∀ cs, b cs = value)
    (hf : Settled lo hi f) (hg : Settled lo hi g) :
    Settled lo hi fun cs => if b cs then f cs else g cs := by
  simp only [hb]
  exact .ite hf hg

theorem mono {lo' hi' : Nat} (h : Settled lo hi f) (hlo : lo' ≤ lo) (hhi : hi ≤ hi') :
    Settled lo' hi' f := by
  obtain ⟨r, hr, hbounds⟩ := h
  exact ⟨r, hr, fun n hn => ⟨hlo.trans (hbounds n hn).1, (hbounds n hn).2.trans hhi⟩⟩

end Settled

/-! ## Words behind a number -/

theorem mayFollow_eq (rest : List Char) : mayFollow rest =
    [['a', 'n', 'd'], ['e', 'l', 's', 'e'], ['f', 'o', 'r'], ['i', 'f'], ['i', 'n'], ['i', 's'],
      ['o', 'r'], ['n', 'o', 't']].any (·.isPrefixOf rest) := by
  fun_cases mayFollow rest with
  | case9 _ h1 h2 h3 h4 h5 h6 h7 h8 =>
    symm
    rw [List.any_eq_false]
    intro w hw hleads
    obtain ⟨t, rfl⟩ := List.isPrefixOf_iff_prefix.1 hleads
    simp only [List.mem_cons, List.not_mem_nil, or_false] at hw
    rcases hw with rfl | rfl | rfl | rfl | rfl | rfl | rfl | rfl
    · exact h1 t rfl
    · exact h2 t rfl
    · exact h3 t rfl
    · exact h4 t rfl
    · exact h5 t rfl
    · exact h6 t rfl
    · exact h7 t rfl
    · exact h8 t rfl
  | _ => simp [List.isPrefixOf]

theorem isPrefixOf_line {w : List Char} (hw : '\n' ∉ w) (c cs : List Char) :
    w.isPrefixOf (c ++ '\n' :: cs) = w.isPrefixOf c := by
  induction w generalizing c with
  | nil => simp
  | cons a w ih =>
    rw [List.mem_cons, not_or] at hw
    rcases c with _ | ⟨b, c⟩
    · simp [List.isPrefixOf, Ne.symm hw.1]
    · simp [List.isPrefixOf, ih hw.2]

theorem mayFollow_line (c cs : List Char) : mayFollow (c ++ '\n' :: cs) = mayFollow c := by
  simp only [mayFollow_eq]
  simp [isPrefixOf_line]

/-! ## Digits -/

theorem digits_cons {p : Char → Bool} {x : Char} (hx : x ≠ '_') (rest : List Char) (n : Nat) :
    digits p (x :: rest) n = if p x then digits p rest (n + 1) else (n, false, x :: rest) := by
  rw [digits]
  exact hx

theorem digits_line {p : Char → Bool} (hp : p '\n' = false) (c : List Char) (n : Nat) :
    ∃ k b, k ≤ c.length ∧ (∀ d rest, c = d :: rest → d ≠ '_' → p d = true → 1 ≤ k)
      ∧ ∀ cs, digits p (c ++ '\n' :: cs) n = (n + k, b, c.drop k ++ '\n' :: cs) := by
  induction c generalizing n with
  | nil =>
    refine ⟨0, false, le_rfl, nofun, fun cs => ?_⟩
    rw [List.nil_append, digits_cons (by decide), hp]
    rfl
  | cons x c ih =>
    -- An underscore is taken only if a digit follows, which is one more character of the line.
    by_cases hx : x = '_'
    · subst hx
      rcases c with _ | ⟨d, c⟩
      · exact ⟨1, true, le_rfl, fun _ _ _ _ _ => le_rfl, fun cs => by simp [digits, hp]⟩
      · by_cases hd : p d = true
        · obtain ⟨k, b, hk, -, hdigits⟩ := ih (n + 1)
          refine ⟨k + 1, b, by simpa using hk, fun _ _ _ _ _ => Nat.le_add_left 1 k, fun cs => ?_⟩
          have := hdigits cs
          simp only [List.cons_append] at this ⊢
          rw [digits]
          simp only [hd, if_true, this]
          simp [Nat.add_right_comm, Nat.add_assoc]
        · exact ⟨1, true, by simp, fun _ _ _ _ _ => le_rfl, fun cs => by simp [digits, hd]⟩
    · by_cases hpx : p x = true
      · obtain ⟨k, b, hk, -, hdigits⟩ := ih (n + 1)
        refine ⟨k + 1, b, by simpa using hk, fun _ _ _ _ _ => Nat.le_add_left 1 k, fun cs => ?_⟩
        rw [List.cons_append, digits_cons hx, if_pos hpx, hdigits cs]
        simp [Nat.add_right_comm, Nat.add_assoc]
      · refine ⟨0, false, Nat.zero_le _, ?_, fun cs => ?_⟩
        · rintro d rest ⟨rfl, rfl⟩ - hd
          exact absurd hd hpx
        · rw [List.cons_append, digits_cons hx, if_neg hpx]
          rfl

/-! ## The parts of a number -/

/-- Digits, and what follows them unless a low line stands behind them. -/
theorem Settled.digits {p : Char → Bool} (hp : p '\n' = false) {c : List Char} {n hi : Nat}
    {message : String} {g : Nat → List Char → NumberScan}
    (h : ∀ k ≤ c.length, Settled (n + k) hi fun cs => g (n + k) (c.drop k ++ '\n' :: cs)) :
    Settled n hi fun cs => match digits p (c ++ '\n' :: cs) n with
      | (m, true, _) => .bad message m
      | (m, false, rest) => g m rest := by
  obtain ⟨k, b, hk, -, hdigits⟩ := digits_line hp c n
  simp only [hdigits]
  cases b with
  | true => exact .bad message (n + k)
  | false => exact (h k hk).mono (Nat.le_add_right n k) le_rfl

theorem finish_settled (kind : String) (taken : Nat) (c : List Char) :
    Settled taken (taken + c.length) fun cs => finish kind taken (c ++ '\n' :: cs) := by
  have hlit : Settled taken (taken + c.length) fun _ => .literal taken :=
    .literal le_rfl (Nat.le_add_right _ _)
  rcases c with _ | ⟨x, c⟩
  · simpa [finish, nameLike] using hlit
  · have hline := fun cs => mayFollow_line (x :: c) cs
    simp only [List.cons_append] at hline
    simp only [List.cons_append, finish, hline]
    exact .ite hlit (.ite (.bad _ _) hlit)

theorem unit_settled (taken : Nat) (c : List Char) :
    Settled taken (taken + c.length) fun cs => unit taken (c ++ '\n' :: cs) := by
  have hdecimal := finish_settled "decimal" taken c
  rcases c with _ | ⟨x, c⟩
  · simpa [unit] using hdecimal
  · have himaginary := (finish_settled "imaginary" (taken + 1) c).mono (Nat.le_succ taken)
      (show _ ≤ taken + (x :: c).length by rw [List.length_cons]; omega)
    by_cases hx : x = 'j' ∨ x = 'J'
    · rcases hx with rfl | rfl <;> exact himaginary
    · rw [not_or] at hx
      simp only [List.cons_append] at hdecimal ⊢
      simpa [unit, hx.1, hx.2] using hdecimal

theorem exponent_settled (taken : Nat) (c : List Char) :
    Settled taken (taken + c.length) fun cs => exponent taken (c ++ '\n' :: cs) := by
  have hunit := unit_settled taken c
  have hdecimal := finish_settled "decimal" taken c
  have hpowers : ∀ (n : Nat) (ds : List Char), Settled n (n + ds.length) fun cs =>
      match digits Char.isDigit (ds ++ '\n' :: cs) n with
      | (n, true, _) => .bad "invalid decimal literal" n
      | (n, false, rest) => unit n rest := fun n ds =>
    .digits rfl fun k hk => (unit_settled (n + k) (ds.drop k)).mono le_rfl
      (by rw [List.length_drop]; omega)
  rcases c with _ | ⟨x, c⟩
  · simpa [exponent] using hunit
  · simp only [List.cons_append] at hunit hdecimal ⊢
    simp only [exponent, List.drop_one, List.tail_cons]
    refine .ite ?_ hunit
    rcases c with _ | ⟨s, c⟩
    · simpa using hdecimal
    · simp only [List.cons_append] at hdecimal ⊢
      refine .ite ?_ (.ite ?_ hdecimal)
      · rcases c with _ | ⟨d, c⟩
        · simpa using Settled.bad _ _
        · simp only [List.cons_append]
          refine .ite ((hpowers (taken + 2) (d :: c)).mono (by omega) ?_) (.bad _ _)
          simp only [List.length_cons]
          omega
      · refine (hpowers (taken + 1) (s :: c)).mono (by omega) ?_
        simp only [List.length_cons]
        omega

theorem fraction_settled (taken : Nat) (c : List Char) :
    Settled taken (taken + c.length) fun cs => fraction taken (c ++ '\n' :: cs) := by
  have hexponent := exponent_settled taken c
  rcases c with _ | ⟨d, c⟩
  · simpa [fraction] using hexponent
  · simp only [List.cons_append] at hexponent ⊢
    simp only [fraction]
    refine .ite (.digits rfl fun k hk => (exponent_settled (taken + k) ((d :: c).drop k)).mono le_rfl ?_)
      hexponent
    rw [List.length_drop]
    omega

theorem tail_settled (nonzero : Bool) (n : Nat) (c : List Char) :
    Settled n (n + c.length) fun cs => zeros.tail nonzero n (c ++ '\n' :: cs) := by
  have hexponent := exponent_settled n c
  have hunit := unit_settled n c
  have hdecimal := finish_settled "decimal" n c
  rcases c with _ | ⟨x, c⟩
  · cases nonzero with
    | true => simpa [zeros.tail] using Settled.leadingZeros
    | false => simpa [zeros.tail] using hdecimal
  · by_cases hx : x = '.'
    · subst hx
      exact (fraction_settled (n + 1) c).mono (Nat.le_succ n) (by rw [List.length_cons]; omega)
    · simp only [List.cons_append] at hexponent hunit hdecimal ⊢
      simp only [zeros.tail]
      exact .ite hexponent (.ite hunit (.ite .leadingZeros hdecimal))

theorem zeros_settled (c : List Char) :
    Settled 1 (c.length + 1) fun cs => zeros ('0' :: c ++ '\n' :: cs) := by
  obtain ⟨k, b, hk, hpos, hdigits⟩ := digits_line (p := (· == '0')) rfl ('0' :: c) 0
  have hk1 := hpos '0' c rfl (by decide) rfl
  have htail : ∀ nonzero, Settled 1 (c.length + 1) fun cs =>
      zeros.tail nonzero (0 + k) (('0' :: c).drop k ++ '\n' :: cs) := fun nonzero =>
    (tail_settled nonzero _ _).mono (by omega) (by rw [List.length_drop]; simp at hk ⊢; omega)
  have hdigit : Settled 1 (c.length + 1) fun cs =>
      match digits Char.isDigit (('0' :: c).drop k ++ '\n' :: cs) (0 + k) with
      | (n, true, _) => .bad "invalid decimal literal" n
      | (n, false, rest) => zeros.tail true n rest := by
    refine (Settled.digits rfl fun j hj => (tail_settled true _ _).mono le_rfl ?_).mono
      (show 1 ≤ 0 + k by omega) le_rfl
    simp only [List.length_drop, List.length_cons] at hj hk ⊢
    omega
  simp only [zeros, hdigits]
  rcases hrest : ('0' :: c).drop k with _ | ⟨d, rest⟩ <;> rw [hrest] at htail hdigit
  · cases b with
    | true => exact .ite hdigit (.bad _ _)
    | false => exact .ite hdigit (htail false)
  · cases b with
    | true => exact .ite hdigit (.bad _ _)
    | false => exact .ite hdigit (htail false)

theorem stray_settled (kind : String) (c : List Char) (n : Nat) (d : Char) :
    Settled 1 (c.length + 2) fun _ =>
      if kind != "hexadecimal" && d.isDigit then
        .bad ("invalid digit '" ++ d.toString ++ "' in " ++ kind ++ " literal") (n + 1)
      else .bad ("invalid " ++ kind ++ " literal") n :=
  .ite (.bad _ _) (.bad _ _)

/-- What comes of digits after `0x`, `0o` or `0b`. -/
theorem radix_digits_settled (kind : String) {p : Char → Bool} (hp : p '\n' = false)
    (c : List Char) :
    Settled 1 (c.length + 2) fun cs => match digits p (c ++ '\n' :: cs) 2 with
      | (n, true, d :: _) =>
        if kind != "hexadecimal" && d.isDigit then
          .bad ("invalid digit '" ++ d.toString ++ "' in " ++ kind ++ " literal") (n + 1)
        else .bad ("invalid " ++ kind ++ " literal") n
      | (n, true, []) => .bad ("invalid " ++ kind ++ " literal") n
      | (n, false, rest) => match rest with
        | d :: _ =>
          if kind != "hexadecimal" && d.isDigit then
            .bad ("invalid digit '" ++ d.toString ++ "' in " ++ kind ++ " literal") (n + 1)
          else finish kind n rest
        | [] => .literal n := by
  obtain ⟨k, b, hk, -, hdigits⟩ := digits_line hp c 2
  have hfinish := (finish_settled kind (2 + k) (c.drop k)).mono (show 1 ≤ 2 + k by omega)
    (show _ ≤ c.length + 2 by rw [List.length_drop]; omega)
  simp only [hdigits]
  rcases hrest : c.drop k with _ | ⟨d, rest⟩ <;> rw [hrest] at hfinish <;> cases b
  · exact .ite (.bad _ _) hfinish
  · exact stray_settled kind c _ _
  · exact .ite (.bad _ _) hfinish
  · exact stray_settled kind c _ _

/-- What comes of something else there. -/
theorem radix_stray_settled (kind : String) (c : List Char) :
    Settled 1 (c.length + 2) fun cs => match c ++ '\n' :: cs with
      | '_' :: d :: _ =>
        if kind != "hexadecimal" && d.isDigit then
          .bad ("invalid digit '" ++ d.toString ++ "' in " ++ kind ++ " literal") (3 + 1)
        else .bad ("invalid " ++ kind ++ " literal") 3
      | d :: _ =>
        if kind != "hexadecimal" && d.isDigit then
          .bad ("invalid digit '" ++ d.toString ++ "' in " ++ kind ++ " literal") (2 + 1)
        else .bad ("invalid " ++ kind ++ " literal") 2
      | [] => .bad ("invalid " ++ kind ++ " literal") 2 := by
  have hstray := stray_settled kind c
  rcases c with _ | ⟨x, _ | ⟨d, c⟩⟩
  · exact hstray 2 '\n'
  · by_cases hx : x = '_'
    · subst hx
      exact hstray 3 '\n'
    · simpa [hx] using hstray 2 x
  · by_cases hx : x = '_'
    · subst hx
      exact hstray 3 d
    · simpa [hx] using hstray 2 x

/-- Whether digits begin there is told by the line. -/
theorem radix_begins (p : Char → Bool) (c : List Char) :
    ∃ begins : Bool, ∀ cs, (match c ++ '\n' :: cs with
      | '_' :: d :: _ => p d
      | d :: _ => p d
      | [] => false) = begins := by
  rcases c with _ | ⟨x, _ | ⟨d, c⟩⟩
  · exact ⟨_, fun _ => rfl⟩
  · by_cases hx : x = '_'
    · subst hx
      exact ⟨_, fun _ => rfl⟩
    · exact ⟨p x, fun _ => by simp [hx]⟩
  · by_cases hx : x = '_'
    · subst hx
      exact ⟨_, fun _ => rfl⟩
    · exact ⟨p x, fun _ => by simp [hx]⟩

theorem radix_settled (kind : String) {p : Char → Bool} (hp : p '\n' = false) (c : List Char) :
    Settled 1 (c.length + 2) fun cs => radix kind p (c ++ '\n' :: cs) := by
  obtain ⟨begins, hbegins⟩ := radix_begins p c
  exact .ite_of hbegins (radix_digits_settled kind hp c) (radix_stray_settled kind c)

end NumberScan

open NumberScan

theorem scanNumber_of_ne {x : Char} (hdot : x ≠ '.') (hzero : x ≠ '0') (rest : List Char) :
    scanNumber (x :: rest) = match digits Char.isDigit (x :: rest) 0 with
      | (n, true, _) => .bad "invalid decimal literal" n
      | (n, false, '.' :: rest) => fraction (n + 1) rest
      | (n, false, rest) => exponent n rest :=
  scanNumber.eq_3 (x :: rest) (fun _ h => hdot (List.cons.inj h).1)
    fun _ _ h => hzero (List.cons.inj h).1

/-- What the scan for a number makes of a line does not depend on the lines behind it. -/
theorem scanNumber_settled {x : Char} (c : List Char) (hx : x.isDigit = true ∨ x = '.') :
    Settled 1 (c.length + 1) fun cs => scanNumber (x :: c ++ '\n' :: cs) := by
  by_cases hdot : x = '.'
  · subst hdot
    exact (fraction_settled 1 c).mono le_rfl (by omega)
  have hdigit : x.isDigit = true := hx.resolve_right hdot
  -- The digits end within the line, and so do a fraction and an exponent behind them.
  have hdecimal : Settled 1 (c.length + 1) fun cs =>
      match digits Char.isDigit (x :: c ++ '\n' :: cs) 0 with
      | (n, true, _) => .bad "invalid decimal literal" n
      | (n, false, '.' :: rest) => fraction (n + 1) rest
      | (n, false, rest) => exponent n rest := by
    obtain ⟨k, b, hk, hpos, hdigits⟩ := digits_line (p := Char.isDigit) rfl (x :: c) 0
    have hk1 := hpos x c rfl (by rintro rfl; exact absurd hdigit (by decide)) hdigit
    simp only [hdigits]
    cases b with
    | true => exact .bad _ _
    | false =>
      rcases hrest : (x :: c).drop k with _ | ⟨d, rest⟩
      · have := exponent_settled (0 + k) []
        refine this.mono (by omega) ?_
        simp at hk ⊢
        omega
      · have hlength := congrArg List.length hrest
        simp only [List.length_drop, List.length_cons] at hlength hk
        by_cases hd : d = '.'
        · subst hd
          exact (fraction_settled (0 + k + 1) rest).mono (by omega) (by omega)
        · have := exponent_settled (0 + k) (d :: rest)
          simpa [hd] using this.mono (show 1 ≤ 0 + k by omega)
            (show _ ≤ c.length + 1 by rw [List.length_cons]; omega)
  by_cases hzero : x = '0'
  · subst hzero
    have hzeros := zeros_settled c
    rcases c with _ | ⟨d, c⟩
    · exact hzeros
    · exact .ite (radix_settled _ (by decide) c) (.ite (radix_settled _ (by decide) c)
        (.ite (radix_settled _ (by decide) c) hzeros))
  · simp only [List.cons_append, scanNumber_of_ne hdot hzero]
    exact hdecimal

end Graft.Syntax
