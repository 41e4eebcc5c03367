import Graft.Proofs.Grammar.Lockstep
import Graft.Proofs.Lexer.Runs

set_option autoImplicit false

/-! # String literals side by side

String literals of the same texts amount to the same expression up to places, if the fields of
formatted strings do. -/

namespace Graft.Syntax

/-! ## Computations that succeed alike -/

/-- If the first computation has a result then so has the second, and the two are related. -/
def Follows {ε ε' α β : Type} (R : α → β → Prop) (x : Except ε α) (y : Except ε' β) : Prop :=
  ∀ a, x = .ok a → ∃ b, y = .ok b ∧ R a b

namespace Follows

variable {ε ε' α β γ δ : Type} {R : α → β → Prop} {S : γ → δ → Prop}

theorem ok {a : α} {b : β} (h : R a b) : Follows R (.ok a : Except ε α) (.ok b : Except ε' β) := by
  rintro _ ⟨⟩
  exact ⟨b, rfl, h⟩

theorem error (e : ε) (y : Except ε' β) : Follows R (.error e) y := by
  rintro a ⟨⟩

theorem refl (x : Except ε α) : Follows Eq x x := fun a h => ⟨a, h, rfl⟩

theorem bind {x : Except ε α} {y : Except ε' β} {f : α → Except ε γ} {g : β → Except ε' δ}
    (h : Follows R x y) (hfg : ∀ a b, R a b → Follows S (f a) (g b)) :
    Follows S (x >>= f) (y >>= g) := by
  rcases x with e | a
  · exact fun _ h => nomatch h
  · obtain ⟨b, rfl, hab⟩ := h a rfl
    exact hfg a b hab

/-- Both computations go on with what the first step of both gives. -/
theorem bind_same {x : Except ε α} {f g : α → Except ε γ} {S : γ → γ → Prop}
    (hfg : ∀ a, Follows S (f a) (g a)) : Follows S (x >>= f) (x >>= g) :=
  (refl x).bind fun a _ h => h ▸ hfg a

theorem ite {p : Prop} [Decidable p] {x x' : Except ε α} {y y' : Except ε' β}
    (h : Follows R x y) (h' : Follows R x' y') :
    Follows R (if p then x else x') (if p then y else y') := by
  split_ifs
  · exact h
  · exact h'

end Follows

namespace FormatString

/-! ## Parts of formatted strings -/

mutual

/-- A part with its spans changed. -/
def Part.mapSpan (f : Span → Span) : Part → Part
  | .text cs => .text cs
  | .field e c none => .field (e.mapSpan f) c none
  | .field e c (some parts) => .field (e.mapSpan f) c (some (Part.mapAll f parts))

/-- Parts with their spans changed. -/
def Part.mapAll (f : Span → Span) : List Part → List Part
  | [] => []
  | p :: ps => p.mapSpan f :: Part.mapAll f ps

end

theorem Part.mapAll_eq_map (f : Span → Span) (ps : List Part) :
    Part.mapAll f ps = ps.map (Part.mapSpan f) := by
  induction ps with
  | nil => rfl
  | cons p ps ih => rw [mapAll, ih, List.map_cons]

section MapSpan

variable (f : Span → Span)

theorem map_addText (acc : List Part) (cs : List Char) :
    (addText acc cs).map (Part.mapSpan f) = addText (acc.map (Part.mapSpan f)) cs := by
  rcases cs with _ | ⟨c, cs⟩
  · rfl
  · rcases acc with _ | ⟨⟨before⟩ | ⟨e, c', _ | ps⟩, rest⟩ <;> simp [addText, Part.mapSpan]

theorem map_append (a b : List Part) :
    (append a b).map (Part.mapSpan f) = append (a.map (Part.mapSpan f)) (b.map (Part.mapSpan f)) := by
  unfold append
  rw [← List.map_reverse]
  rcases a.reverse with _ | ⟨⟨x⟩ | ⟨e, c, _ | ps⟩, front⟩ <;>
    rcases b with _ | ⟨⟨y⟩ | ⟨e', c', _ | qs⟩, rest⟩ <;> simp [Part.mapSpan]

theorem exprs_mapAll (sp : Span) : ∀ (mark : Bool) (ps : List Part),
    exprs (f sp) mark (Part.mapAll f ps) = (exprs sp mark ps).map (Expr.mapSpan f)
  | mark, [] => by simp only [Part.mapAll, exprs, List.map_nil]
  | mark, .text cs :: rest => by
    simp only [Part.mapAll, Part.mapSpan, exprs, List.map_cons, Expr.mapSpan,
      exprs_mapAll sp mark rest]
  | mark, .field e c none :: rest => by
    simp only [Part.mapAll, Part.mapSpan, exprs, List.map_cons, Expr.mapSpan, mapSpan?,
      exprs_mapAll sp mark rest]
  | mark, .field e c (some parts) :: rest => by
    simp only [Part.mapAll, Part.mapSpan, exprs, List.map_cons, Expr.mapSpan, mapSpan?,
      exprs_mapAll sp mark rest, exprs_mapAll sp false parts, mapSpans_eq_map]

end MapSpan

/-! ## Taking parts -/

variable {f f' : Span → Span}

/-- Parts that are the same when the spans are changed in both. -/
def SameParts (f f' : Span → Span) (ps ps' : List Part) : Prop :=
  ps.map (Part.mapSpan f) = ps'.map (Part.mapSpan f')

namespace SameParts

variable {ps ps' qs qs' : List Part}

theorem nil : SameParts f f' [] [] := rfl

theorem addText (h : SameParts f f' ps ps') (cs : List Char) :
    SameParts f f' (addText ps cs) (addText ps' cs) := by
  unfold SameParts
  rw [map_addText, map_addText, h]

theorem append (h : SameParts f f' ps ps') (hq : SameParts f f' qs qs') :
    SameParts f f' (append ps qs) (append ps' qs') := by
  unfold SameParts
  rw [map_append, map_append, h, hq]

theorem reverse (h : SameParts f f' ps ps') : SameParts f f' ps.reverse ps'.reverse := by
  unfold SameParts
  rw [List.map_reverse, List.map_reverse, h]

theorem field (h : SameParts f f' ps ps') {e e' : Expr} (he : e.mapSpan f = e'.mapSpan f')
    (c : Conversion) {format format' : Option (List Part)}
    (hformat : Option.Rel (SameParts f f') format format') :
    SameParts f f' (.field e c format :: ps) (.field e' c format' :: ps') := by
  unfold SameParts at h ⊢
  cases hformat with
  | none => simp only [List.map_cons, Part.mapSpan, he, h]
  | some hqs =>
    unfold SameParts at hqs
    simp only [List.map_cons, Part.mapSpan, he, h, Part.mapAll_eq_map, hqs]

theorem exprs (h : SameParts f f' ps ps') {sp sp' : Span} (hsp : f sp = f' sp') (mark : Bool) :
    (exprs sp mark ps).map (Expr.mapSpan f) = (exprs sp' mark ps').map (Expr.mapSpan f') := by
  rw [← exprs_mapAll, ← exprs_mapAll, hsp, Part.mapAll_eq_map, Part.mapAll_eq_map, h]

end SameParts

/-- Parts that are the same but for spans, with the same text behind them. -/
def SameTaken (f f' : Span → Span) (x x' : List Part × List Char) : Prop :=
  SameParts f f' x.1 x'.1 ∧ x'.2 = x.2

/-- Ways to read a field that give the same expressions but for spans. -/
def SameFields (f f' : Span → Span) (read read' : FieldReader) : Prop :=
  ∀ before source, Follows (fun e e' : Expr => e.mapSpan f = e'.mapSpan f') (read before source)
    (read' before source)

theorem takeFormat?_follows {parts parts' : List Char → Except StringFault (List Part × List Char)}
    (hparts : ∀ cs, Follows (SameTaken f f') (parts cs) (parts' cs)) (rest : List Char) :
    Follows (fun x x' => Option.Rel (SameParts f f') x.1 x'.1 ∧ x'.2 = x.2)
      (takeFormat? parts rest) (takeFormat? parts' rest) := by
  unfold takeFormat?
  split
  · refine .ite (.error _ _) ((hparts _).bind fun x x' hx => .ok ⟨.some hx.1, hx.2⟩)
  · exact .ok ⟨.none, rfl⟩

theorem conversionOf_congr {format format' : Option (List Part)} (written : Option Conversion)
    (shown : List Char) (h : Option.Rel (SameParts f f') format format') :
    conversionOf written shown format = conversionOf written shown format' := by
  cases h <;> rfl

theorem takeField_follows {read read' : FieldReader} (hread : SameFields f f' read read')
    {parts parts' : List Char → Except StringFault (List Part × List Char)}
    (hparts : ∀ cs, Follows (SameTaken f f') (parts cs) (parts' cs)) (total : Nat)
    (inner : List Char) {acc acc' : List Part} (hacc : SameParts f f' acc acc') :
    Follows (SameTaken f f') (takeField total read parts inner acc)
      (takeField total read' parts' inner acc') := by
  unfold takeField
  refine .bind_same fun ⟨source, rest⟩ => ?_
  refine .ite (.error _ _) (.ite (.error _ _) ?_)
  refine (hread _ source).bind fun value value' hvalue => ?_
  refine .bind_same fun ⟨written, rest'⟩ => ?_
  refine (takeFormat?_follows hparts rest').bind fun ⟨format, after⟩ ⟨format', after'⟩ hformat => ?_
  obtain ⟨hformat, rfl⟩ := hformat
  dsimp only
  rw [conversionOf_congr written _ hformat]
  split
  · exact .ok ⟨(hacc.addText _).field hvalue _ hformat, rfl⟩
  · exact .error _ _

theorem endParts_follows (top : Bool) {acc acc' : List Part} (hacc : SameParts f f' acc acc')
    (rest : List Char) :
    Follows (SameTaken f f') (endParts top acc rest) (endParts top acc' rest) := by
  cases top <;> rcases rest with _ | ⟨c, rest⟩
  · exact .error _ _
  · exact .ok ⟨hacc.reverse, rfl⟩
  · exact .ok ⟨hacc.reverse, rfl⟩
  · exact .error _ _

theorem takeParts_follows {read read' : FieldReader} (hread : SameFields f f' read read')
    (raw : Bool) (total : Nat) : ∀ (n levels : Nat) (top : Bool) (cs : List Char)
    {acc acc' : List Part}, SameParts f f' acc acc' →
    Follows (SameTaken f f') (takeParts raw total read n levels top cs acc)
      (takeParts raw total read' n levels top cs acc') := by
  intro n
  induction n with
  | zero => exact fun _ _ cs _ _ hacc => .ok ⟨hacc.reverse, rfl⟩
  | succ n ih =>
    intro levels top cs acc acc' hacc
    rw [takeParts, takeParts]
    refine .bind_same fun ⟨text, how, rest⟩ => ?_
    refine .bind_same fun text => ?_
    dsimp only
    split
    · exact ih levels top _ (hacc.addText text)
    · refine .ite (.error _ _) ?_
      refine (takeField_follows hread (fun more => ih (levels - 1) false more .nil) total _
        (hacc.addText text)).bind fun x x' hx => ?_
      obtain ⟨acc, rest⟩ := x
      obtain ⟨acc', rest'⟩ := x'
      obtain ⟨hacc, rfl⟩ := hx
      exact ih levels top _ hacc
    · exact endParts_follows top (hacc.addText text) _

end FormatString

/-! ## Literals in a row -/

open FormatString

variable {f f' : Span → Span}

/-- Literals that amount to the same so far but for spans. -/
inductive Joined.Same (f f' : Span → Span) : Joined → Joined → Prop
  | text (formatted : Bool) {ps ps' : List Part} (h : SameParts f f' ps ps') :
    Joined.Same f f' (.text formatted ps) (.text formatted ps')
  | bytes (bs : List UInt8) : Joined.Same f f' (.bytes bs) (.bytes bs)

/-- A literal that is no bytes behind the parts of those before it. -/
def Joined.addText (call : RuleMatcher) (t : Token) (formatted : Bool) (before : List Part) :
    Except StringFault Joined := do
  let l := StringLiteral.ofText t.text.toList
  if l.isFormatted then
    let (parts, _) ← takeParts l.isRaw l.body.length (readField call t l.bodyStart)
      (2 * l.body.length + 2) 2 true l.body []
    .ok (.text true (append before parts))
  else
    match l.text with
    | .ok [] => .ok (.text formatted before)
    | .ok cs => .ok (.text formatted (append before [.text cs]))
    | .error message => .error (.here message)

section Follows

variable {call call' : RuleMatcher} {t t' : Token} (htext : t'.text = t.text)
  (hread : ∀ start, SameFields f f' (readField call t start) (readField call' t' start))

include htext hread

theorem Joined.addText_follows (formatted : Bool) {ps ps' : List Part}
    (h : SameParts f f' ps ps') :
    Follows (Joined.Same f f') (Joined.addText call t formatted ps)
      (Joined.addText call' t' formatted ps') := by
  unfold Joined.addText
  rw [htext]
  refine .ite ?_ ?_
  · exact (takeParts_follows (hread _) _ _ _ _ _ _ .nil).bind fun x x' hx =>
      .ok (.text true (h.append hx.1))
  · split
    · exact .ok (.text formatted h)
    · exact .ok (.text formatted (h.append rfl))
    · exact .error _ _

theorem Joined.add_follows {so so' : Option Joined}
    (hso : Option.Rel (Joined.Same f f') so so') :
    Follows (Joined.Same f f') (Joined.add call t so) (Joined.add call' t' so') := by
  have htail := @Joined.addText_follows f f' call call' t t' htext hread
  unfold Joined.add
  unfold Joined.addText at htail
  rw [htext] at htail ⊢
  refine .ite (.ite (.error _ _) ?_) ?_
  · rcases (StringLiteral.ofText t.text.toList).bytes with message | bs
    · exact .error _ _
    · cases hso with
      | none => exact .ok (.bytes bs)
      | some h =>
        cases h with
        | text formatted h => exact .error _ _
        | bytes before => exact .ok (.bytes _)
  · cases hso with
    | none => exact htail false .nil
    | some h =>
      cases h with
      | text formatted h => exact htail formatted h
      | bytes before => exact .error _ _

end Follows

theorem Joined.addAll_follows {call call' : RuleMatcher} {ts ts' : List Token}
    (h : List.Forall₂ (fun t t' => t'.text = t.text ∧
      ∀ start, SameFields f f' (readField call t start) (readField call' t' start)) ts ts') :
    ∀ {so so' : Option Joined}, Option.Rel (Joined.Same f f') so so' →
    Follows (Option.Rel (Joined.Same f f')) (Joined.addAll call ts so)
      (Joined.addAll call' ts' so') := by
  induction h with
  | nil => exact fun hso => .ok hso
  | @cons t t' ts ts' ht _ ih =>
    intro so so' hso
    have hadd := Joined.add_follows ht.1 ht.2 hso
    rw [Joined.addAll, Joined.addAll]
    rcases hj : Joined.add call t so with e | j
    · exact .error _ _
    · obtain ⟨j', hj', hsame⟩ := hadd j hj
      rw [hj']
      exact ih (.some hsame)

theorem Joined.Same.expr {j j' : Joined} (h : Joined.Same f f' j j') {sp sp' : Span}
    (hsp : f sp = f' sp') (mark : Bool) :
    (j.expr sp mark).mapSpan f = (j'.expr sp' mark).mapSpan f' := by
  cases h with
  | bytes bs => simp only [Joined.expr, Expr.mapSpan, hsp]
  | @text formatted ps ps' h =>
    cases formatted with
    | true => simp only [Joined.expr, Expr.mapSpan, hsp, mapSpans_eq_map, h.exprs hsp mark]
    | false =>
      unfold SameParts at h
      rcases ps with _ | ⟨⟨cs⟩ | ⟨e, c, _ | qs⟩, ps⟩ <;>
        rcases ps' with _ | ⟨⟨cs'⟩ | ⟨e', c', _ | qs'⟩, ps'⟩ <;>
        simp_all [Joined.expr, Part.mapSpan]

theorem Joined.span_expr (j : Joined) (sp : Span) (mark : Bool) : (j.expr sp mark).span = sp := by
  rcases j with ⟨_ | _, _ | ⟨⟨cs⟩ | _, ps⟩⟩ | bs <;> rfl

theorem Joined.add_ne_none {call : RuleMatcher} : ∀ {ts : List Token} {so : Option Joined},
    (ts ≠ [] ∨ so ≠ none) → Joined.addAll call ts so ≠ .ok none
  | [], _, h => fun heq => (h.resolve_left fun h => h rfl) (Except.ok.inj heq)
  | t :: ts, so, _ => by
    rw [Joined.addAll]
    rcases Joined.add call t so with e | j
    · exact fun heq => nomatch heq
    · exact Joined.add_ne_none (.inr (Option.some_ne_none j))

theorem exists_head_of_forall₂ {α β : Type} {R : α → β → Prop} {l : List α} {l' : List β}
    (h : List.Forall₂ R l l') (hne : l ≠ []) :
    ∃ a b, l.head? = some a ∧ l'.head? = some b ∧ R a b := by
  cases h with
  | nil => exact absurd rfl hne
  | cons hab _ => exact ⟨_, _, rfl, rfl, hab⟩

theorem exists_getLast_of_forall₂ {α β : Type} {R : α → β → Prop} {l : List α} {l' : List β}
    (h : List.Forall₂ R l l') (hne : l ≠ []) :
    ∃ a b, l.getLast? = some a ∧ l'.getLast? = some b ∧ R a b := by
  rw [← List.head?_reverse, ← List.head?_reverse]
  exact exists_head_of_forall₂ (List.rel_reverse h) (by simpa using hne)

namespace Lockstep

variable (L : Lockstep)

/-- Joining string literals goes in step if the fields of formatted strings are read alike. -/
theorem joins_joinStrings {call call' : RuleMatcher}
    (hread : ∀ t t' : Token, t.kind = .string → t.Alike L.vantage t' → ∀ start,
      SameFields L.vantage.left.span L.vantage.right.span (readField call t start)
        (readField call' t' start)) : L.Joins (joinStrings call) (joinStrings call') := by
  intro ts ts' st st' hsync hne hkind halike
  have hall : List.Forall₂ (fun t t' => t'.text = t.text ∧ ∀ start,
      SameFields L.vantage.left.span L.vantage.right.span (readField call t start)
        (readField call' t' start)) ts ts' := by
    clear hne
    induction halike with
    | nil => exact .nil
    | cons h _ ih =>
      exact .cons ⟨h.text, hread _ _ (hkind _ List.mem_cons_self) h⟩
        (ih fun t ht => hkind t (List.mem_cons_of_mem _ ht))
  -- What the literals hold is joined alike; the place of the whole is that of the first and the
  -- last.
  have hadd := Joined.addAll_follows hall .none
  unfold joinStrings
  rcases hj : Joined.addAll call ts none with ⟨t, fault⟩ | _ | j
  · exact .fault (by simp) _
  · exact absurd hj (Joined.add_ne_none (.inl hne))
  · obtain ⟨so', hj', hsame⟩ := hadd _ hj
    rw [hj']
    cases hsame with
    | @some j j' hsame =>
      obtain ⟨first, first', hfirst, hfirst', hf⟩ := exists_head_of_forall₂ halike hne
      obtain ⟨last, last', hlast, hlast', hl⟩ := exists_getLast_of_forall₂ halike hne
      simp only [hfirst, hfirst', hlast, hlast', hf.text]
      have hsolid : ∀ t ∈ ts, t.isLayout = false := fun t ht => by
        simp [Token.isLayout, hkind t ht]
      have hspan : L.vantage.left.span (first.span.to last.span) =
          L.vantage.right.span (first'.span.to last'.span) := by
        rw [View.span_to, View.span_to, hf.span (hsolid _ (List.mem_of_head? hfirst)),
          hl.span (hsolid _ (List.mem_of_getLast? hlast))]
      exact .done hsync ⟨rfl, congrArg Node.expr (hsame.expr hspan _), _, first, last, rfl, rfl,
        rfl, Joined.span_expr _ _ _⟩

end Lockstep

/-! ## Fields of formatted strings -/

theorem Reading.run_ok {call : RuleMatcher} {rd : Reading} {start : Rule} {n : Node}
    (h : Reading.run call rd start = .ok n) :
    ∃ st, call rd start {} = (some n, st) ∧ st.fault = none := by
  unfold Reading.run at h
  rcases hcall : call rd start {} with ⟨_ | m, ⟨mark, seen, memo, _ | f⟩⟩ <;> rw [hcall] at h
  · dsimp only at h
    split at h <;> exact nomatch h
  · exact nomatch h
  · obtain rfl := Except.ok.inj h
    exact ⟨_, rfl, rfl⟩
  · exact nomatch h

theorem Reading.run_of_call {call : RuleMatcher} {rd : Reading} {start : Rule} {n : Node}
    {st : ReadState} (h : call rd start {} = (some n, st)) (hclean : st.fault = none) :
    Reading.run call rd start = .ok n := by
  obtain ⟨mark, seen, memo, fault⟩ := st
  obtain rfl : fault = none := hclean
  simp only [Reading.run, h]

/-- The reading of the expression in a field. -/
def fieldReading (t : Token) (before source : List Char) : Reading where
  source := { Tokens.ofText ('(' :: source ++ [')']) with
    tokens := (Tokens.ofText ('(' :: source ++ [')'])).tokens.map
      (Token.moved (fieldOrigin t before source).1 (fieldOrigin t before source).2) }
  origin := some (fieldOrigin t before source)

theorem readField_eq (call : RuleMatcher) (t : Token) (start before : Nat) (source : List Char) :
    readField call t start before source =
      match Reading.run call (fieldReading t (t.text.toList.take (start + before)) source)
        .fragment with
      | .ok n => .ok n.toExpr
      | .error f => .error (.field f) := rfl

theorem Token.moved_alike {V : Vantage} {t t' u : Token} (halike : t.Alike V t')
    (hsolid : t.isLayout = false) (before source : List Char)
    (hu : u.isLayout = false → 1 ≤ u.line ∧ 1 ≤ u.endLine) :
    (u.moved (fieldOrigin t before source).1 (fieldOrigin t before source).2).Alike V
      (u.moved (fieldOrigin t' before source).1 (fieldOrigin t' before source).2) := by
  have hplace := halike.start hsolid
  -- The place of a token in a field is found in the same way from where the literal begins.
  have hmoved : ∀ (line : Nat) (column : Option Nat), 1 ≤ line →
      V.same (line + (fieldOrigin t before source).1 - 1,
          (if line == 1 then column.map (· + (fieldOrigin t before source).2) else column).getD 0)
        (line + (fieldOrigin t' before source).1 - 1,
          (if line == 1 then column.map (· + (fieldOrigin t' before source).2) else column).getD 0) := by
    intro line column hline
    have hfurther := V.further hplace (before.countP (· == '\n') + (line - 1)) fun x =>
      (if line == 1 then column.map (· + if before.countP (· == '\n') == 0 then
          x + (if (source.dropWhile (fun c => c == ' ' || c == '\t' || c == '\x0c')).head? == some '\n'
            then 0 else byteLength (before.reverse.takeWhile (· != '\n')))
        else (if (source.dropWhile (fun c => c == ' ' || c == '\t' || c == '\x0c')).head? == some '\n'
            then 0 else byteLength (before.reverse.takeWhile (· != '\n')))) else column).getD 0
    have hsum : ∀ l n : Nat, line + (l + n) - 1 = l + (n + (line - 1)) := fun l n => by omega
    simp only [fieldOrigin, hsum]
    exact hfurther
  exact ⟨rfl, rfl, fun hs => hmoved u.line u.column (hu hs).1,
    fun hs => hmoved u.endLine u.endColumn (hu hs).2⟩

namespace Lockstep

theorem parallel_field {V : Vantage} {t t' : Token} (halike : t.Alike V t')
    (hsolid : t.isLayout = false) (before source : List Char) :
    (fieldReading t before source).Parallel (fieldReading t' before source) V 0
      ((Tokens.ofText ('(' :: source ++ [')'])).tokens.size -
        if (Tokens.ofText ('(' :: source ++ [')'])).broken = none then 0 else 1) := by
  obtain ⟨last, hlast, hpos, hfront, hends, hbreaks⟩ := Tokens.exists_last ('(' :: source ++ [')'])
  generalize hcs : '(' :: source ++ [')'] = cs at hlast hpos hfront hends hbreaks ⊢
  have hleft : (fieldReading t before source).source.tokens = (Tokens.ofText cs).tokens.map
      (Token.moved (fieldOrigin t before source).1 (fieldOrigin t before source).2) := by
    rw [← hcs]; rfl
  have hright : (fieldReading t' before source).source.tokens = (Tokens.ofText cs).tokens.map
      (Token.moved (fieldOrigin t' before source).1 (fieldOrigin t' before source).2) := by
    rw [← hcs]; rfl
  have hbroken : (fieldReading t before source).source.broken = (Tokens.ofText cs).broken := by
    rw [← hcs]; rfl
  refine ⟨rfl, rfl, fun h => h, fun i hi => ?_, ?_⟩
  · have hisize : i < (Tokens.ofText cs).tokens.size := by omega
    have hget := Array.getElem?_eq_getElem hisize
    refine ⟨_, _, by rw [hleft, Array.getElem?_map, hget]; rfl,
      by rw [hright, Array.getElem?_map, Nat.add_zero, hget]; rfl,
      Token.moved_alike halike hsolid before source fun hs => ?_⟩
    -- Only the last token can be broken, and it stands behind the stretch.
    have hkind : (Tokens.ofText cs).tokens[i].kind ≠ .broken := by
      split_ifs at hi with hnone
      · rcases Nat.lt_or_ge (i + 1) (Tokens.ofText cs).tokens.size with hlt | hge
        · exact (hfront i _ hlt hget).2
        · have hindex : i = (Tokens.ofText cs).tokens.size - 1 := by omega
          rw [← hindex, hget] at hlast
          rw [Option.some.inj hlast, hends hnone]
          exact nofun
      · exact (hfront i _ (by omega) hget).2
    have := Tokens.one_le_line hget hs hkind
    exact ⟨this.1, this.1.trans this.2⟩
  · by_cases hnone : (Tokens.ofText cs).broken = none
    · rw [if_pos hnone]
      refine .inl ⟨?_, ?_⟩
      · rw [hleft, Array.getElem?_map]
        simp
      · rw [hright, Array.getElem?_map]
        simp
    · rw [if_neg hnone]
      refine .inr (.inl ⟨last.moved _ _, by rw [hleft, Array.getElem?_map, hlast]; rfl,
        hbreaks hnone, ?_⟩)
      rwa [hbroken]

/-- The readings of a field in two literals that are alike. -/
def field {V : Vantage} {t t' : Token} (halike : t.Alike V t') (hsolid : t.isLayout = false)
    (before source : List Char) : Lockstep where
  left := fieldReading t before source
  right := fieldReading t' before source
  vantage := V
  shift := 0
  top := _
  taken r a b _ := (fieldReading t before source).Stretch r a b
  elsewhere := .leaf
  parallel := parallel_field halike hsolid before source
  stretch := id
  closed hr h := Rule.stretch_of_takes id hr h

/-- Two readings that begin. -/
theorem synced_start {L : Lockstep} (hshift : L.shift = 0) (helsewhere : L.elsewhere = .leaf) :
    L.Synced {} {} where
  clean := rfl
  clean' := rfl
  entry r a _ := by
    simp only [Memo.get?_leaf]
    exact .absent
  frame r a _ := by rw [helsewhere]
  le := Nat.zero_le _
  mark := by rw [hshift]

theorem sameFields_readField {V : Vantage} {call call' : RuleMatcher}
    (hcall : ∀ L : Lockstep, L.vantage = V → L.Matches call call') {t t' : Token}
    (halike : t.Alike V t') (hsolid : t.isLayout = false) (start : Nat) :
    SameFields V.left.span V.right.span (readField call t start) (readField call' t' start) := by
  intro before source e he
  rw [readField_eq] at he ⊢
  rw [halike.text]
  generalize t.text.toList.take (start + before) = ahead at he ⊢
  rcases hrun : Reading.run call (fieldReading t ahead source) .fragment with f | n <;>
    rw [hrun] at he
  · exact nomatch he
  obtain rfl := Except.ok.inj he
  obtain ⟨st, hn, hclean⟩ := Reading.run_ok hrun
  have hagree := hcall (field halike hsolid ahead source) rfl .fragment {} {} (by decide)
    (synced_start rfl rfl)
  change Agree _ _ (call (fieldReading t ahead source) .fragment {})
    (call' (fieldReading t' ahead source) .fragment {}) at hagree
  rw [hn] at hagree
  generalize hm : call' (fieldReading t' ahead source) .fragment {} = m' at hagree
  cases hagree with
  | @done _ st' _ n' hsync hq =>
    rw [Reading.run_of_call hm hsync.clean']
    refine ⟨_, rfl, ?_⟩
    have hlooks : n.view V.left = n'.view V.right := hq.2
    change n.toExpr.mapSpan V.left.span = n'.toExpr.mapSpan V.right.span
    rw [← Node.toExpr_view, hlooks, Node.toExpr_view]

/-- Matching rules goes in step, also if the second reading may nest rules more deeply. -/
theorem matches_matchRules (j m : Nat) :
    ∀ L : Lockstep, L.Matches (matchRules m) (matchRules (m + j)) := by
  induction m with
  | zero =>
    intro L r st st' _ _
    exact .fault (by simp) _
  | succ m ih =>
    intro L r st st' hr hsync
    rw [Nat.add_right_comm]
    refine matchRule_agree (ih L) (L.joins_joinStrings fun t t' hkind halike start => ?_) hr hsync
    exact sameFields_readField (fun L' _ => ih L') halike (by simp [Token.isLayout, hkind]) start

end Lockstep

end Graft.Syntax
