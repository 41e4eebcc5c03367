import Graft.Proofs.Grammar.Natural

set_option autoImplicit false

/-! # Readings that run side by side

Two rows of tokens are read side by side where they have the same kinds and texts.  What a rule
matches in the one it matches in the other, and the nodes are the same up to places. -/

namespace Graft.Syntax

/-- Two texts in which the same things stand at different places, and a view of each through which
    they look the same. -/
structure Vantage where
  left : View
  right : View
  /-- Which places in the two texts belong together. -/
  same : Nat × Nat → Nat × Nat → Prop
  place : ∀ {p p'}, same p p' → left.place p = right.place p'
  /-- What stands the same number of lines further on, in columns that are found alike, belongs
      together too. -/
  further : ∀ {p p'}, same p p' → ∀ (n : Nat) (column : Nat → Nat),
    same (p.1 + n, column p.2) (p'.1 + n, column p'.2)

/-- Tokens of one kind and text that, if they are no layout, stand at the same place. -/
structure Token.Alike (V : Vantage) (t t' : Token) : Prop where
  kind : t'.kind = t.kind
  text : t'.text = t.text
  start : t.isLayout = false → V.same (t.line, t.column.getD 0) (t'.line, t'.column.getD 0)
  stop : t.isLayout = false →
    V.same (t.endLine, t.endColumn.getD 0) (t'.endLine, t'.endColumn.getD 0)

namespace Token.Alike

variable {V : Vantage} {t t' : Token}

theorem isLayout (h : t.Alike V t') : t'.isLayout = t.isLayout := by
  unfold Token.isLayout
  rw [h.kind]

theorem span (h : t.Alike V t') (hsolid : t.isLayout = false) :
    V.left.span t.span = V.right.span t'.span := by
  simp only [View.span, Token.span, V.place (h.start hsolid), V.place (h.stop hsolid)]

theorem view (h : t.Alike V t') (hsolid : t.isLayout = false) :
    (Node.token t).view V.left = (Node.token t').view V.right := by
  simp only [Node.view, View.token, h.kind, h.text, h.span hsolid]

end Token.Alike

namespace Reading

/-- Two readings of tokens that are alike up to the index `hi` of the first one, where the second
    has `k` tokens before them.  There the tokens end in both, or the first can not be read on, or
    the first ends while the second may close a block that the first has not opened. -/
structure Parallel (rd rd' : Reading) (V : Vantage) (k hi : Nat) : Prop where
  plain : rd.diagnosing = false
  plain' : rd'.diagnosing = false
  whole : rd.source.broken = none → rd'.source.broken = none
  tokens : ∀ i, i < hi → ∃ t t', rd.source.tokens[i]? = some t
    ∧ rd'.source.tokens[i + k]? = some t' ∧ t.Alike V t'
  frontier : (rd.source.tokens[hi]? = none ∧ rd'.source.tokens[hi + k]? = none)
    ∨ (∃ t, rd.source.tokens[hi]? = some t ∧ t.kind = .broken ∧ rd.source.broken ≠ none)
    ∨ ∃ t t', rd.source.tokens[hi]? = some t ∧ rd'.source.tokens[hi + k]? = some t'
      ∧ t.kind = .endMarker ∧ (t'.kind = .endMarker
        ∨ (t'.kind = .dedent ∧ rd.level hi ≤ 0 ∧ ∀ a ≤ hi, 0 ≤ rd.level a))

namespace Parallel

variable {rd rd' : Reading} {V : Vantage} {k hi : Nat}

theorem hi_le_size (h : rd.Parallel rd' V k hi) : hi ≤ rd.source.tokens.size := by
  rcases hi with _ | n
  · exact Nat.zero_le _
  · obtain ⟨t, -, ht, -⟩ := h.tokens n (Nat.lt_succ_self n)
    exact (Array.getElem?_eq_some_iff.1 ht).1

theorem hi_le_size' (h : rd.Parallel rd' V k hi) : hi ≤ rd'.source.tokens.size := by
  rcases hi with _ | n
  · exact Nat.zero_le _
  · obtain ⟨-, t', -, ht', -⟩ := h.tokens n (Nat.lt_succ_self n)
    have := (Array.getElem?_eq_some_iff.1 ht').1
    omega

/-- The last token that is no layout is found at the same place in both. -/
theorem place_back (h : rd.Parallel rd' V k hi) {a : Nat} (ha : rd.SolidAt a)
    (line column line' column' : Nat) : ∀ c, a < c → c ≤ hi → ∀ n n', c - a ≤ n → c - a ≤ n' →
      V.left.place (spanFrom.back rd line column n c) =
        V.right.place (spanFrom.back rd' line' column' n' (c + k)) := by
  intro c
  induction c with
  | zero => exact fun hac => absurd hac (Nat.not_lt_zero a)
  | succ c ih =>
    intro hac hc n n' hn hn'
    obtain ⟨n, rfl⟩ : ∃ m, n = m + 1 := ⟨n - 1, by omega⟩
    obtain ⟨n', rfl⟩ : ∃ m, n' = m + 1 := ⟨n' - 1, by omega⟩
    obtain ⟨t, t', ht, ht', halike⟩ := h.tokens c (by omega)
    have hindex : c + 1 + k - 1 = c + k := by omega
    have hne : c + 1 + k ≠ 0 := by omega
    simp only [spanFrom.back, Nat.add_sub_cancel, hindex, ht, ht', beq_iff_eq,
      Nat.succ_ne_zero, hne, if_false, halike.isLayout]
    by_cases hlayout : t.isLayout = true
    · -- The first token is no layout, so there are more tokens to go back over.
      have hne : c ≠ a := by
        rintro rfl
        obtain ⟨u, hu, hsolid⟩ := ha
        obtain rfl := Option.some.inj (ht.symm.trans hu)
        exact absurd (hlayout.symm.trans hsolid) (by decide)
      rw [if_pos hlayout, if_pos hlayout]
      exact ih (by omega) (by omega) n n' (by omega) (by omega)
    · rw [if_neg hlayout, if_neg hlayout]
      exact V.place (halike.stop (by simpa using hlayout))

theorem span_spanFrom (h : rd.Parallel rd' V k hi) {a b : Nat} (ha : rd.SolidAt a)
    (hab : a < b) (hb : b ≤ hi) :
    V.left.span (rd.spanFrom a b) = V.right.span (rd'.spanFrom (a + k) (b + k)) := by
  obtain ⟨t, t', ht, ht', halike⟩ := h.tokens a (by omega)
  obtain ⟨u, hu, hsolid⟩ := ha
  obtain rfl := Option.some.inj (ht.symm.trans hu)
  have hspan := halike.span hsolid
  simp only [View.span, Token.span, Span.mk.injEq] at hspan
  have hback := h.place_back ⟨t, ht, hsolid⟩ t.line (t.column.getD 0) t'.line
    (t'.column.getD 0) b hab hb b (b + k) (by omega) (by omega)
  simp only [View.span, spanFrom, ht, ht', Option.map_some, Option.getD_some, Option.bind_some,
    Span.mk.injEq]
  exact ⟨hspan.1, hspan.2.1, congrArg Prod.fst hback, congrArg Prod.snd hback⟩

end Parallel

end Reading

end Graft.Syntax
