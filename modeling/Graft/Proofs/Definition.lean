import Graft.Splice.Fragment

set_option autoImplicit false

/-! # Definitions up to positions

Two definitions are alike if they differ in spans alone: then they have the same name and are both
`async` or not, and their parameters, bodies, decorators and result types are the same up to spans,
statement by statement. -/

namespace Graft.Syntax

/-- What every span becomes when spans are forgotten. -/
def noSpan (_ : Span) : Span := default

theorem mapStmtSpans_eq_map (f : Span → Span) (ss : List Stmt) :
    mapStmtSpans f ss = ss.map (Stmt.mapSpan f) := by
  induction ss with
  | nil => rfl
  | cons s ss ih => rw [mapStmtSpans, ih, List.map_cons]

theorem mapSpans_eq_map (f : Span → Span) (es : List Expr) :
    mapSpans f es = es.map (Expr.mapSpan f) := by
  induction es with
  | nil => rfl
  | cons e es ih => rw [mapSpans, ih, List.map_cons]

end Graft.Syntax

namespace Graft.Splice.Definition

open Graft.Syntax

/-- Definitions that differ in spans alone. -/
structure Alike (d e : Definition) : Prop where
  isAsync : d.isAsync = e.isAsync
  name : d.name = e.name
  params : d.params.mapSpan noSpan = e.params.mapSpan noSpan
  body : d.body.map Stmt.erase = e.body.map Stmt.erase
  decorators : d.decorators.map (Expr.mapSpan noSpan) = e.decorators.map (Expr.mapSpan noSpan)
  returns : mapSpan? noSpan d.returns = mapSpan? noSpan e.returns

/-- Definitions are alike exactly if they are the same statement without spans. -/
theorem alike_iff {d e : Definition} : d.Alike e ↔ d.toStmt.erase = e.toStmt.erase := by
  have hbody : ∀ ss : List Stmt, mapStmtSpans noSpan ss = ss.map Stmt.erase :=
    mapStmtSpans_eq_map noSpan
  change _ ↔ Stmt.mapSpan noSpan d.toStmt = Stmt.mapSpan noSpan e.toStmt
  simp only [toStmt, Stmt.mapSpan, Stmt.functionDef.injEq, hbody, mapSpans_eq_map]
  constructor
  · rintro ⟨hasync, hname, hparams, hbody, hdecorators, hreturns⟩
    exact ⟨rfl, hasync, hname, hparams, hbody, hdecorators, hreturns⟩
  · rintro ⟨-, hasync, hname, hparams, hbody, hdecorators, hreturns⟩
    exact ⟨hasync, hname, hparams, hbody, hdecorators, hreturns⟩

theorem Alike.refl (d : Definition) : d.Alike d := ⟨rfl, rfl, rfl, rfl, rfl, rfl⟩

theorem Alike.symm {d e : Definition} (h : d.Alike e) : e.Alike d :=
  ⟨h.isAsync.symm, h.name.symm, h.params.symm, h.body.symm, h.decorators.symm, h.returns.symm⟩

theorem Alike.trans {d e f : Definition} (h : d.Alike e) (h' : e.Alike f) : d.Alike f :=
  alike_iff.2 ((alike_iff.1 h).trans (alike_iff.1 h'))

end Graft.Splice.Definition
