import Graft.Syntax.Tree

set_option autoImplicit false

/-! # Changing the spans of a tree

`Stmt.mapSpan f` applies `f` to every span and leaves the rest of the tree alone.  Forgetting the
spans gives what two trees have in common when they are the same program. -/

namespace Graft.Syntax

variable (f : Span → Span)

mutual

/-- Changes the spans of an expression. -/
def Expr.mapSpan : Expr → Expr
  | .boolOp sp op es => .boolOp (f sp) op (mapSpans es)
  | .named sp t v => .named (f sp) t.mapSpan v.mapSpan
  | .binary sp l op r => .binary (f sp) l.mapSpan op r.mapSpan
  | .unary sp op e => .unary (f sp) op e.mapSpan
  | .lambda sp ps b => .lambda (f sp) ps.mapSpan b.mapSpan
  | .ifElse sp t b o => .ifElse (f sp) t.mapSpan b.mapSpan o.mapSpan
  | .dict sp items => .dict (f sp) (mapItemSpans items)
  | .set sp es => .set (f sp) (mapSpans es)
  | .listComp sp e cs => .listComp (f sp) e.mapSpan (mapClauseSpans cs)
  | .setComp sp e cs => .setComp (f sp) e.mapSpan (mapClauseSpans cs)
  | .dictComp sp k v cs => .dictComp (f sp) k.mapSpan v.mapSpan (mapClauseSpans cs)
  | .generator sp e cs => .generator (f sp) e.mapSpan (mapClauseSpans cs)
  | .await sp e => .await (f sp) e.mapSpan
  | .yield sp e => .yield (f sp) (mapSpan? e)
  | .yieldFrom sp e => .yieldFrom (f sp) e.mapSpan
  | .compare sp l cs => .compare (f sp) l.mapSpan (mapComparandSpans cs)
  | .call sp g as ks => .call (f sp) g.mapSpan (mapSpans as) (mapKeywordSpans ks)
  | .formatted sp v c fmt => .formatted (f sp) v.mapSpan c (mapSpan? fmt)
  | .joined sp es => .joined (f sp) (mapSpans es)
  | .constant sp c => .constant (f sp) c
  | .attribute sp v a => .attribute (f sp) v.mapSpan a
  | .subscript sp v i => .subscript (f sp) v.mapSpan i.mapSpan
  | .starred sp v => .starred (f sp) v.mapSpan
  | .name sp x => .name (f sp) x
  | .list sp es => .list (f sp) (mapSpans es)
  | .tuple sp es => .tuple (f sp) (mapSpans es)
  | .slice sp l u s => .slice (f sp) (mapSpan? l) (mapSpan? u) (mapSpan? s)

/-- Changes the spans of expressions. -/
def mapSpans : List Expr → List Expr
  | [] => []
  | e :: es => e.mapSpan :: mapSpans es

/-- Changes the spans of an expression, if there is one. -/
def mapSpan? : Option Expr → Option Expr
  | none => none
  | some e => some e.mapSpan

/-- Changes the spans of comparisons. -/
def mapComparandSpans : List Comparand → List Comparand
  | [] => []
  | .mk op e :: cs => .mk op e.mapSpan :: mapComparandSpans cs

/-- Changes the spans of dictionary items. -/
def mapItemSpans : List DictItem → List DictItem
  | [] => []
  | .pair k v :: is => .pair k.mapSpan v.mapSpan :: mapItemSpans is
  | .unpack v :: is => .unpack v.mapSpan :: mapItemSpans is

/-- Changes the spans of comprehension clauses. -/
def mapClauseSpans : List Clause → List Clause
  | [] => []
  | .mk a t i cs :: rest => .mk a t.mapSpan i.mapSpan (mapSpans cs) :: mapClauseSpans rest

/-- Changes the spans of keyword arguments. -/
def mapKeywordSpans : List Keyword → List Keyword
  | [] => []
  | .mk sp n v :: ks => .mk (f sp) n v.mapSpan :: mapKeywordSpans ks

/-- Changes the spans of a parameter. -/
def Parameter.mapSpan : Parameter → Parameter
  | .mk sp n a => .mk (f sp) n (mapSpan? a)

/-- Changes the spans of a parameter, if there is one. -/
def mapParameterSpan? : Option Parameter → Option Parameter
  | none => none
  | some p => some p.mapSpan

/-- Changes the spans of parameters with defaults. -/
def mapDefaultSpans : List DefaultParameter → List DefaultParameter
  | [] => []
  | .mk p d :: ps => .mk p.mapSpan (mapSpan? d) :: mapDefaultSpans ps

/-- Changes the spans of a parameter list. -/
def Parameters.mapSpan : Parameters → Parameters
  | .mk po pl s ko ds =>
    .mk (mapDefaultSpans po) (mapDefaultSpans pl) (mapParameterSpan? s) (mapDefaultSpans ko)
      (mapParameterSpan? ds)

end

mutual

/-- Changes the spans of a pattern. -/
def Pattern.mapSpan : Pattern → Pattern
  | .value sp v => .value (f sp) (v.mapSpan f)
  | .singleton sp c => .singleton (f sp) c
  | .sequence sp ps => .sequence (f sp) (mapPatternSpans ps)
  | .mapping sp ks ps r => .mapping (f sp) (mapSpans f ks) (mapPatternSpans ps) r
  | .cls sp c ps ns qs => .cls (f sp) (c.mapSpan f) (mapPatternSpans ps) ns (mapPatternSpans qs)
  | .star sp n => .star (f sp) n
  | .capture sp none n => .capture (f sp) none n
  | .capture sp (some p) n => .capture (f sp) (some p.mapSpan) n
  | .alternatives sp ps => .alternatives (f sp) (mapPatternSpans ps)

/-- Changes the spans of patterns. -/
def mapPatternSpans : List Pattern → List Pattern
  | [] => []
  | p :: ps => p.mapSpan :: mapPatternSpans ps

end

/-- Changes the span of an imported name. -/
def Alias.mapSpan (a : Alias) : Alias := { a with span := f a.span }

/-- Changes the spans of a context manager. -/
def WithItem.mapSpan (w : WithItem) : WithItem :=
  { context := w.context.mapSpan f, target := mapSpan? f w.target }

mutual

/-- Changes the spans of a statement. -/
def Stmt.mapSpan : Stmt → Stmt
  | .functionDef sp a n ps b ds r =>
    .functionDef (f sp) a n (ps.mapSpan f) (mapStmtSpans b) (mapSpans f ds) (mapSpan? f r)
  | .classDef sp n bs ks b ds =>
    .classDef (f sp) n (mapSpans f bs) (mapKeywordSpans f ks) (mapStmtSpans b) (mapSpans f ds)
  | .ret sp v => .ret (f sp) (mapSpan? f v)
  | .delete sp ts => .delete (f sp) (mapSpans f ts)
  | .assign sp ts v => .assign (f sp) (mapSpans f ts) (v.mapSpan f)
  | .augAssign sp t op v => .augAssign (f sp) (t.mapSpan f) op (v.mapSpan f)
  | .annAssign sp t a v s => .annAssign (f sp) (t.mapSpan f) (a.mapSpan f) (mapSpan? f v) s
  | .forLoop sp a t i b o =>
    .forLoop (f sp) a (t.mapSpan f) (i.mapSpan f) (mapStmtSpans b) (mapStmtSpans o)
  | .whileLoop sp t b o => .whileLoop (f sp) (t.mapSpan f) (mapStmtSpans b) (mapStmtSpans o)
  | .cond sp t b o => .cond (f sp) (t.mapSpan f) (mapStmtSpans b) (mapStmtSpans o)
  | .withBlock sp a is b => .withBlock (f sp) a (is.map (·.mapSpan f)) (mapStmtSpans b)
  | .matchBlock sp s cs => .matchBlock (f sp) (s.mapSpan f) (mapCaseSpans cs)
  | .raise sp e c => .raise (f sp) (mapSpan? f e) (mapSpan? f c)
  | .tryBlock sp st b hs o fb =>
    .tryBlock (f sp) st (mapStmtSpans b) (mapHandlerSpans hs) (mapStmtSpans o) (mapStmtSpans fb)
  | .assert sp t m => .assert (f sp) (t.mapSpan f) (mapSpan? f m)
  | .importNames sp ns => .importNames (f sp) (ns.map (·.mapSpan f))
  | .importFrom sp m ns l => .importFrom (f sp) m (ns.map (·.mapSpan f)) l
  | .global sp ns => .global (f sp) ns
  | .nonlocal sp ns => .nonlocal (f sp) ns
  | .expr sp v => .expr (f sp) (v.mapSpan f)
  | .pass sp => .pass (f sp)
  | .break sp => .break (f sp)
  | .continue sp => .continue (f sp)

/-- Changes the spans of statements. -/
def mapStmtSpans : List Stmt → List Stmt
  | [] => []
  | s :: ss => s.mapSpan :: mapStmtSpans ss

/-- Changes the spans of `except` clauses. -/
def mapHandlerSpans : List Handler → List Handler
  | [] => []
  | .mk sp t n b :: hs => .mk (f sp) (mapSpan? f t) n (mapStmtSpans b) :: mapHandlerSpans hs

/-- Changes the spans of `case` clauses. -/
def mapCaseSpans : List MatchCase → List MatchCase
  | [] => []
  | .mk p g b :: cs => .mk (p.mapSpan f) (mapSpan? f g) (mapStmtSpans b) :: mapCaseSpans cs

end

/-- The span seen from a text in which the first `n` lines do not count. -/
def Span.shiftLines (n : Nat) (sp : Span) : Span :=
  { sp with line := sp.line - n, endLine := sp.endLine - n }

/-- The statement without its spans. -/
def Stmt.erase (s : Stmt) : Stmt := s.mapSpan fun _ => default

end Graft.Syntax
