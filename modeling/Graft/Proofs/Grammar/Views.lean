import Graft.Syntax.Parser
import Graft.Syntax.MapSpan
import Graft.Proofs.Definition

set_option autoImplicit false

/-! # Nodes seen from elsewhere

Two texts that differ in where their tokens stand give trees that differ in their spans.  A view
moves the places in a node; two nodes are compared by what they look like through two views. -/

namespace Graft.Syntax

/-! ## Parts of trees -/

section MapSpan

variable (f : Span → Span)

/-- Changes the spans of a comparison. -/
def Comparand.mapSpan : Comparand → Comparand
  | .mk op e => .mk op (e.mapSpan f)

/-- Changes the spans of a dictionary item. -/
def DictItem.mapSpan : DictItem → DictItem
  | .pair k v => .pair (k.mapSpan f) (v.mapSpan f)
  | .unpack v => .unpack (v.mapSpan f)

/-- Changes the spans of a comprehension clause. -/
def Clause.mapSpan : Clause → Clause
  | .mk a t i cs => .mk a (t.mapSpan f) (i.mapSpan f) (mapSpans f cs)

/-- Changes the spans of a keyword argument. -/
def Keyword.mapSpan : Keyword → Keyword
  | .mk sp n v => .mk (f sp) n (v.mapSpan f)

/-- Changes the spans of a parameter with its default. -/
def DefaultParameter.mapSpan : DefaultParameter → DefaultParameter
  | .mk p d => .mk (p.mapSpan f) (mapSpan? f d)

/-- Changes the spans of an `except` clause. -/
def Handler.mapSpan : Handler → Handler
  | .mk sp t n b => .mk (f sp) (mapSpan? f t) n (mapStmtSpans f b)

/-- Changes the spans of a `case` clause. -/
def MatchCase.mapSpan : MatchCase → MatchCase
  | .mk p g b => .mk (p.mapSpan f) (mapSpan? f g) (mapStmtSpans f b)

@[simp] theorem mapSpan?_eq_map (o : Option Expr) : mapSpan? f o = o.map (Expr.mapSpan f) := by
  cases o <;> rfl

@[simp] theorem mapParameterSpan?_eq_map (o : Option Parameter) :
    mapParameterSpan? f o = o.map (Parameter.mapSpan f) := by
  cases o <;> rfl

@[simp] theorem mapComparandSpans_eq_map (cs : List Comparand) :
    mapComparandSpans f cs = cs.map (Comparand.mapSpan f) := by
  induction cs with
  | nil => rfl
  | cons c cs ih => obtain ⟨op, e⟩ := c; rw [mapComparandSpans, ih]; rfl

@[simp] theorem mapItemSpans_eq_map (is : List DictItem) :
    mapItemSpans f is = is.map (DictItem.mapSpan f) := by
  induction is with
  | nil => rfl
  | cons i is ih => cases i <;> rw [mapItemSpans, ih] <;> rfl

@[simp] theorem mapClauseSpans_eq_map (cs : List Clause) :
    mapClauseSpans f cs = cs.map (Clause.mapSpan f) := by
  induction cs with
  | nil => rfl
  | cons c cs ih => obtain ⟨a, t, i, conditions⟩ := c; rw [mapClauseSpans, ih]; rfl

@[simp] theorem mapKeywordSpans_eq_map (ks : List Keyword) :
    mapKeywordSpans f ks = ks.map (Keyword.mapSpan f) := by
  induction ks with
  | nil => rfl
  | cons k ks ih => obtain ⟨sp, n, v⟩ := k; rw [mapKeywordSpans, ih]; rfl

@[simp] theorem mapDefaultSpans_eq_map (ps : List DefaultParameter) :
    mapDefaultSpans f ps = ps.map (DefaultParameter.mapSpan f) := by
  induction ps with
  | nil => rfl
  | cons p ps ih => obtain ⟨p, d⟩ := p; rw [mapDefaultSpans, ih]; rfl

@[simp] theorem mapPatternSpans_eq_map (ps : List Pattern) :
    mapPatternSpans f ps = ps.map (Pattern.mapSpan f) := by
  induction ps with
  | nil => rfl
  | cons p ps ih => rw [mapPatternSpans, ih]; rfl

@[simp] theorem mapHandlerSpans_eq_map (hs : List Handler) :
    mapHandlerSpans f hs = hs.map (Handler.mapSpan f) := by
  induction hs with
  | nil => rfl
  | cons h hs ih => obtain ⟨sp, t, n, b⟩ := h; rw [mapHandlerSpans, ih]; rfl

@[simp] theorem mapCaseSpans_eq_map (cs : List MatchCase) :
    mapCaseSpans f cs = cs.map (MatchCase.mapSpan f) := by
  induction cs with
  | nil => rfl
  | cons c cs ih => obtain ⟨p, g, b⟩ := c; rw [mapCaseSpans, ih]; rfl

@[simp] theorem Expr.span_mapSpan (e : Expr) : (e.mapSpan f).span = f e.span := by
  cases e <;> rfl

@[simp] theorem Pattern.span_mapSpan (p : Pattern) : (p.mapSpan f).span = f p.span := by
  rcases p with _ | _ | _ | _ | _ | _ | ⟨sp, _ | p, n⟩ | _ <;> rfl

@[simp] theorem Stmt.span_mapSpan (s : Stmt) : (s.mapSpan f).span = f s.span := by
  cases s <;> rfl

end MapSpan

attribute [simp] mapSpans_eq_map mapStmtSpans_eq_map Expr.mapSpan Parameter.mapSpan
  Parameters.mapSpan Pattern.mapSpan Stmt.mapSpan Alias.mapSpan WithItem.mapSpan Comparand.mapSpan
  DictItem.mapSpan Clause.mapSpan Keyword.mapSpan DefaultParameter.mapSpan Handler.mapSpan
  MatchCase.mapSpan

/-! ## Views -/

/-- A way to move places, given by line and column.  The place that stands for none stays. -/
structure View where
  place : Nat × Nat → Nat × Nat
  place_zero : place (0, 0) = (0, 0)

namespace View

variable (v : View)

/-- The span between the places that the ends of a span are moved to. -/
def span (sp : Span) : Span :=
  ⟨(v.place (sp.line, sp.column)).1, (v.place (sp.line, sp.column)).2,
    (v.place (sp.endLine, sp.endColumn)).1, (v.place (sp.endLine, sp.endColumn)).2⟩

@[simp] theorem span_default : v.span default = default := by
  change (⟨_, _, _, _⟩ : Span) = ⟨0, 0, 0, 0⟩
  simp only [show (default : Span) = ⟨0, 0, 0, 0⟩ from rfl, v.place_zero]

@[simp] theorem span_to (a b : Span) : v.span (a.to b) = (v.span a).to (v.span b) := rfl

/-- A token at the place that its own is moved to.  What it remembers of the reader is forgotten. -/
def token (t : Token) : Token where
  kind := t.kind
  text := t.text
  line := (v.span t.span).line
  column := some (v.span t.span).column
  endLine := (v.span t.span).endLine
  endColumn := some (v.span t.span).endColumn
  depth := 0
  reach := ⟨0, 0, 0⟩

@[simp] theorem token_span (t : Token) : (v.token t).span = v.span t.span := rfl

@[simp] theorem token_text (t : Token) : (v.token t).text = t.text := rfl

@[simp] theorem token_kind (t : Token) : (v.token t).kind = t.kind := rfl

end View

/-- A node through a view. -/
@[simp] def Node.view (v : View) : Node → Node
  | .absent => .absent
  | .token t => .token (v.token t)
  | .expr e => .expr (e.mapSpan v.span)
  | .stmt s => .stmt (s.mapSpan v.span)
  | .pattern p => .pattern (p.mapSpan v.span)
  | .alias a => .alias (a.mapSpan v.span)
  | .withItem w => .withItem (w.mapSpan v.span)
  | .handler h => .handler (h.mapSpan v.span)
  | .matchCase c => .matchCase (c.mapSpan v.span)
  | .clause c => .clause (c.mapSpan v.span)
  | .dictItem d => .dictItem (d.mapSpan v.span)
  | .keyword k => .keyword (k.mapSpan v.span)
  | .param p => .param (p.mapSpan v.span)
  | .defaultParam p => .defaultParam (p.mapSpan v.span)
  | .params p => .params (p.mapSpan v.span)
  | .comparand c => .comparand (c.mapSpan v.span)
  | .binaryOp op => .binaryOp op
  | .seq ns => .seq (viewAll v ns)
where
  /-- Several nodes through a view. -/
  viewAll (v : View) : List Node → List Node
    | [] => []
    | n :: ns => n.view v :: viewAll v ns

/-- What an action sees, through a view. -/
def Matched.view (v : View) (m : Matched) : Matched where
  span := v.span m.span
  bracketed := false
  nodes := m.nodes.map (Node.view v)

namespace Node

variable (v : View)

@[simp] theorem viewAll_eq_map (ns : List Node) : view.viewAll v ns = ns.map (view v) := by
  induction ns with
  | nil => rfl
  | cons n ns ih => rw [view.viewAll, ih, List.map_cons]

@[simp] theorem view_seq (ns : List Node) : (seq ns).view v = seq (ns.map (view v)) := by
  rw [view, viewAll_eq_map]

@[simp] theorem items_view (n : Node) : (n.view v).items = n.items.map (view v) := by
  cases n <;> simp [view, items]

@[simp] theorem token?_view (n : Node) : (n.view v).token? = n.token?.map v.token := by
  cases n <;> simp [view, token?]

@[simp] theorem expr?_view (n : Node) : (n.view v).expr? = n.expr?.map (Expr.mapSpan v.span) := by
  cases n <;> simp [view, expr?]

@[simp] theorem param?_view (n : Node) :
    (n.view v).param? = n.param?.map (Parameter.mapSpan v.span) := by
  cases n <;> simp [view, param?]

@[simp] theorem text_view (n : Node) : (n.view v).text = n.text := by
  simp [text, Function.comp_def]

@[simp] theorem mapSpan_default : (default : Expr).mapSpan v.span = default := by
  change Expr.constant (v.span default) .none = Expr.constant default .none
  rw [v.span_default]

@[simp] theorem toExpr_view (n : Node) : (n.view v).toExpr = n.toExpr.mapSpan v.span := by
  rw [toExpr, toExpr, expr?_view]
  cases n.expr? with
  | none => exact (mapSpan_default v).symm
  | some e => rfl

@[simp] theorem toPattern_view (n : Node) :
    (n.view v).toPattern = n.toPattern.mapSpan v.span := by
  cases n <;> simp [view, toPattern, Pattern.mapSpan]

/-- Parts of a kind are picked out before or behind a view alike. -/
theorem filterMap_view {α : Type} {pick : Node → Option α} {g : α → α}
    (h : ∀ n : Node, pick (n.view v) = (pick n).map g) (ns : List Node) :
    (ns.map (view v)).filterMap pick = (ns.filterMap pick).map g := by
  rw [List.filterMap_map, List.map_filterMap]
  exact congrArg (fun k => ns.filterMap k) (funext h)

@[simp] theorem exprs_view (n : Node) : (n.view v).exprs = n.exprs.map (Expr.mapSpan v.span) := by
  rw [exprs, exprs, items_view, filterMap_view v (expr?_view v)]

@[simp] theorem tokens_view (n : Node) : (n.view v).tokens = n.tokens.map v.token := by
  rw [tokens, tokens, items_view, filterMap_view v (token?_view v)]

@[simp] theorem patterns_view (n : Node) :
    (n.view v).patterns = n.patterns.map (Pattern.mapSpan v.span) := by
  rw [patterns, patterns, items_view, filterMap_view v fun n => ?_]
  cases n <;> simp [view]

@[simp] theorem aliases_view (n : Node) :
    (n.view v).aliases = n.aliases.map (Alias.mapSpan v.span) := by
  rw [aliases, aliases, items_view, filterMap_view v fun n => ?_]
  cases n <;> simp [view]

@[simp] theorem withItems_view (n : Node) :
    (n.view v).withItems = n.withItems.map (WithItem.mapSpan v.span) := by
  rw [withItems, withItems, items_view, filterMap_view v fun n => ?_]
  cases n <;> simp [view]

@[simp] theorem handlers_view (n : Node) :
    (n.view v).handlers = n.handlers.map (Handler.mapSpan v.span) := by
  rw [handlers, handlers, items_view, filterMap_view v fun n => ?_]
  cases n <;> simp [view]

@[simp] theorem matchCases_view (n : Node) :
    (n.view v).matchCases = n.matchCases.map (MatchCase.mapSpan v.span) := by
  rw [matchCases, matchCases, items_view, filterMap_view v fun n => ?_]
  cases n <;> simp [view]

@[simp] theorem clauses_view (n : Node) :
    (n.view v).clauses = n.clauses.map (Clause.mapSpan v.span) := by
  rw [clauses, clauses, items_view, filterMap_view v fun n => ?_]
  cases n <;> simp [view]

@[simp] theorem dictItems_view (n : Node) :
    (n.view v).dictItems = n.dictItems.map (DictItem.mapSpan v.span) := by
  rw [dictItems, dictItems, items_view, filterMap_view v fun n => ?_]
  cases n <;> simp [view]

@[simp] theorem comparands_view (n : Node) :
    (n.view v).comparands = n.comparands.map (Comparand.mapSpan v.span) := by
  rw [comparands, comparands, items_view, filterMap_view v fun n => ?_]
  cases n <;> simp [view]

@[simp] theorem defaultParams_view (n : Node) :
    (n.view v).defaultParams = n.defaultParams.map (DefaultParameter.mapSpan v.span) := by
  rw [defaultParams, defaultParams, items_view, filterMap_view v fun n => ?_]
  cases n <;> simp [view, DefaultParameter.mapSpan, mapSpan?]

mutual

theorem stmts_view : (n : Node) → (n.view v).stmts = n.stmts.map (Stmt.mapSpan v.span)
  | .stmt s => by simp [view, stmts]
  | .seq ns => by
    rw [view_seq, stmts, stmts]
    exact stmtsOf_view ns
  | .absent | .token _ | .expr _ | .pattern _ | .alias _ | .withItem _ | .handler _
  | .matchCase _ | .clause _ | .dictItem _ | .keyword _ | .param _ | .defaultParam _
  | .params _ | .comparand _ | .binaryOp _ => by simp [view, stmts]

theorem stmtsOf_view :
    (ns : List Node) → stmts.stmtsOf (ns.map (view v)) = (stmts.stmtsOf ns).map (Stmt.mapSpan v.span)
  | [] => rfl
  | n :: ns => by
    rw [List.map_cons, stmts.stmtsOf, stmts.stmtsOf, stmts_view n, stmtsOf_view ns, List.map_append]

end

attribute [simp] stmts_view

@[simp] theorem nameExpr_view (n : Node) : nameExpr (n.view v) = (nameExpr n).view v := by
  cases n <;> simp [view, nameExpr, Expr.mapSpan]

end Node

namespace Matched

variable (v : View) (m : Matched)

@[simp] theorem view_span : (m.view v).span = v.span m.span := rfl

@[simp] theorem view_nodes : (m.view v).nodes = m.nodes.map (Node.view v) := rfl

@[simp] theorem view_get (i : Nat) : (m.view v).get i = (m.get i).view v := by
  rw [get, get, view_nodes, List.getElem?_map]
  cases m.nodes[i]? <;> rfl

@[simp] theorem view_expr (i : Nat) : (m.view v).expr i = (m.expr i).mapSpan v.span := by
  simp [expr]

@[simp] theorem view_expr? (i : Nat) :
    (m.view v).expr? i = (m.expr? i).map (Expr.mapSpan v.span) := by
  simp [expr?]

@[simp] theorem view_exprs (i : Nat) :
    (m.view v).exprs i = (m.exprs i).map (Expr.mapSpan v.span) := by
  simp [exprs]

@[simp] theorem view_stmts (i : Nat) :
    (m.view v).stmts i = (m.stmts i).map (Stmt.mapSpan v.span) := by
  simp [stmts]

@[simp] theorem view_orelse (i : Nat) :
    (m.view v).orelse i = (m.orelse i).map (Stmt.mapSpan v.span) := by
  simp [orelse]

@[simp] theorem view_text (i : Nat) : (m.view v).text i = m.text i := by
  simp [text]

@[simp] theorem view_text? (i : Nat) : (m.view v).text? i = m.text? i := by
  simp [text?, Function.comp_def]

@[simp] theorem view_token? (i : Nat) : (m.view v).token? i = (m.token? i).map v.token := by
  simp [token?]

@[simp] theorem view_doubleStar? (i : Nat) :
    (m.view v).doubleStar? i = (m.doubleStar? i).map (Parameter.mapSpan v.span) := by
  simp [doubleStar?]

@[simp] theorem view_params (i : Nat) : (m.view v).params i = (m.params i).mapSpan v.span := by
  rw [params, params, view_get]
  cases m.get i <;> rfl

end Matched

end Graft.Syntax
