import Graft.Syntax.MapSpan

set_option autoImplicit false

/-! # Changing spans, and changing them again

A tree whose spans are left as they are is the same tree, and spans that are changed twice are
changed at once. -/

namespace Graft.Syntax

/-- Leaving all spans of an expression, and of what it is made of, as they are. -/
theorem mapSpan_id_parts : (∀ e : Expr, e.mapSpan id = e) ∧ (∀ ks, mapKeywordSpans id ks = ks)
    ∧ (∀ cs, mapComparandSpans id cs = cs) ∧ (∀ o, mapSpan? id o = o)
    ∧ (∀ cs, mapClauseSpans id cs = cs) ∧ (∀ es, mapSpans id es = es)
    ∧ (∀ is, mapItemSpans id is = is) ∧ (∀ ps : Parameters, ps.mapSpan id = ps)
    ∧ (∀ o, mapParameterSpan? id o = o) ∧ (∀ p : Parameter, p.mapSpan id = p)
    ∧ (∀ ps, mapDefaultSpans id ps = ps) := by
  apply Expr.mapSpan.mutual_induct
  all_goals
    intros
    simp only [Expr.mapSpan, mapKeywordSpans, mapComparandSpans, mapSpan?, mapClauseSpans, mapSpans,
      mapItemSpans, Parameters.mapSpan, mapParameterSpan?, Parameter.mapSpan, mapDefaultSpans, id_eq,
      *]

theorem mapPatternSpan_id_parts :
    (∀ p : Pattern, p.mapSpan id = p) ∧ ∀ ps, mapPatternSpans id ps = ps := by
  have hexpr := mapSpan_id_parts.1
  have hexprs := mapSpan_id_parts.2.2.2.2.2.1
  apply Pattern.mapSpan.mutual_induct
  all_goals
    intros
    simp only [Pattern.mapSpan, mapPatternSpans, id_eq, *]

theorem Alias.mapSpan_id (a : Alias) : a.mapSpan id = a := rfl

theorem WithItem.mapSpan_id (w : WithItem) : w.mapSpan id = w := by
  rw [WithItem.mapSpan, mapSpan_id_parts.1, mapSpan_id_parts.2.2.2.1]

theorem mapStmtSpan_id_parts : (∀ s : Stmt, s.mapSpan id = s) ∧ (∀ hs, mapHandlerSpans id hs = hs)
    ∧ (∀ ss, mapStmtSpans id ss = ss) ∧ ∀ cs, mapCaseSpans id cs = cs := by
  obtain ⟨hexpr, hkeywords, -, hoption, -, hexprs, -, hparams, -⟩ := mapSpan_id_parts
  have hpattern := mapPatternSpan_id_parts.1
  apply Stmt.mapSpan.mutual_induct
  all_goals
    intros
    simp only [Stmt.mapSpan, mapStmtSpans, mapHandlerSpans, mapCaseSpans, Alias.mapSpan_id,
      WithItem.mapSpan_id, List.map_id', id_eq, *]

theorem Stmt.mapSpan_id (s : Stmt) : s.mapSpan id = s := mapStmtSpan_id_parts.1 s

section Again

variable (f g : Span → Span)

/-- Changing the spans of an expression, and of what it is made of, twice. -/
theorem mapSpan_again_parts : (∀ e : Expr, (e.mapSpan f).mapSpan g = e.mapSpan (g ∘ f))
    ∧ (∀ ks, mapKeywordSpans g (mapKeywordSpans f ks) = mapKeywordSpans (g ∘ f) ks)
    ∧ (∀ cs, mapComparandSpans g (mapComparandSpans f cs) = mapComparandSpans (g ∘ f) cs)
    ∧ (∀ o, mapSpan? g (mapSpan? f o) = mapSpan? (g ∘ f) o)
    ∧ (∀ cs, mapClauseSpans g (mapClauseSpans f cs) = mapClauseSpans (g ∘ f) cs)
    ∧ (∀ es, mapSpans g (mapSpans f es) = mapSpans (g ∘ f) es)
    ∧ (∀ is, mapItemSpans g (mapItemSpans f is) = mapItemSpans (g ∘ f) is)
    ∧ (∀ ps : Parameters, (ps.mapSpan f).mapSpan g = ps.mapSpan (g ∘ f))
    ∧ (∀ o, mapParameterSpan? g (mapParameterSpan? f o) = mapParameterSpan? (g ∘ f) o)
    ∧ (∀ p : Parameter, (p.mapSpan f).mapSpan g = p.mapSpan (g ∘ f))
    ∧ (∀ ps, mapDefaultSpans g (mapDefaultSpans f ps) = mapDefaultSpans (g ∘ f) ps) := by
  apply Expr.mapSpan.mutual_induct
  all_goals
    intros
    simp only [Expr.mapSpan, mapKeywordSpans, mapComparandSpans, mapSpan?, mapClauseSpans, mapSpans,
      mapItemSpans, Parameters.mapSpan, mapParameterSpan?, Parameter.mapSpan, mapDefaultSpans,
      Function.comp_apply, *]

theorem mapPatternSpan_again_parts : (∀ p : Pattern, (p.mapSpan f).mapSpan g = p.mapSpan (g ∘ f))
    ∧ ∀ ps, mapPatternSpans g (mapPatternSpans f ps) = mapPatternSpans (g ∘ f) ps := by
  have hexpr := (mapSpan_again_parts f g).1
  have hexprs := (mapSpan_again_parts f g).2.2.2.2.2.1
  apply Pattern.mapSpan.mutual_induct
  all_goals
    intros
    simp only [Pattern.mapSpan, mapPatternSpans, Function.comp_apply, *]

theorem WithItem.mapSpan_mapSpan (w : WithItem) : (w.mapSpan f).mapSpan g = w.mapSpan (g ∘ f) := by
  simp only [WithItem.mapSpan, (mapSpan_again_parts f g).1, (mapSpan_again_parts f g).2.2.2.1]

theorem Alias.mapSpan_mapSpan (a : Alias) : (a.mapSpan f).mapSpan g = a.mapSpan (g ∘ f) := rfl

theorem mapStmtSpan_again_parts : (∀ s : Stmt, (s.mapSpan f).mapSpan g = s.mapSpan (g ∘ f))
    ∧ (∀ hs, mapHandlerSpans g (mapHandlerSpans f hs) = mapHandlerSpans (g ∘ f) hs)
    ∧ (∀ ss, mapStmtSpans g (mapStmtSpans f ss) = mapStmtSpans (g ∘ f) ss)
    ∧ ∀ cs, mapCaseSpans g (mapCaseSpans f cs) = mapCaseSpans (g ∘ f) cs := by
  obtain ⟨hexpr, hkeywords, -, hoption, -, hexprs, -, hparams, -⟩ := mapSpan_again_parts f g
  have hpattern := (mapPatternSpan_again_parts f g).1
  apply Stmt.mapSpan.mutual_induct
  all_goals
    intros
    simp only [Stmt.mapSpan, mapStmtSpans, mapHandlerSpans, mapCaseSpans, List.map_map,
      Function.comp_apply, Function.comp_def, Alias.mapSpan_mapSpan, WithItem.mapSpan_mapSpan, *]

theorem Stmt.mapSpan_mapSpan (s : Stmt) : (s.mapSpan f).mapSpan g = s.mapSpan (g ∘ f) :=
  (mapStmtSpan_again_parts f g).1 s

end Again

end Graft.Syntax
