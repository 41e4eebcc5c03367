import Graft.Proofs.Grammar.Views
import Graft.Proofs.Grammar.Taking

set_option autoImplicit false

/-! # Actions do not depend on places

What an action makes of moved nodes is what it makes of the nodes, moved.  Where an alternative may
begin with layout its action does not look at the span at all. -/

namespace Graft.Syntax

/-- What becomes of an alternative: a fault, no match, or a node. -/
def Outcome.upshot : Outcome → Option (Option Node)
  | .node n => some (some n)
  | .reject => some none
  | .fault .. => none

/-! ## Layout among the items -/

/-- The nodes of items in a row, with nothing where the item may be layout. -/
def Item.mask : List Item → List Node → List Node
  | [], ns => ns
  | i :: rest, ns =>
    if i.isSilent then Item.mask rest ns
    else match ns with
      | [] => []
      | n :: ns => (if i.isStrict then n else .absent) :: Item.mask rest ns

theorem Item.mask_of_all {items : List Item} (h : items.all Item.isStrict = true) :
    ∀ ns, Item.mask items ns = ns := by
  induction items with
  | nil => exact fun _ => rfl
  | cons i rest ih =>
    intro ns
    simp only [List.all_cons, Bool.and_eq_true] at h
    rcases ns with _ | ⟨n, ns⟩ <;> simp [mask, h.1, ih h.2]

/-- Whether the node with an index is that of an item that is never layout. -/
def Item.strictAt : List Item → Nat → Bool
  | [], _ => true
  | i :: rest, j =>
    if i.isSilent then Item.strictAt rest j
    else match j with
      | 0 => i.isStrict
      | j + 1 => Item.strictAt rest j

theorem Item.getElem?_mask {items : List Item} {j : Nat} (h : Item.strictAt items j = true)
    (ns : List Node) : (Item.mask items ns)[j]? = ns[j]? := by
  induction items generalizing j ns with
  | nil => simp [mask]
  | cons i rest ih =>
    by_cases hsilent : i.isSilent = true
    · simp only [strictAt, hsilent, if_true] at h
      simpa [mask, hsilent] using ih h ns
    · simp only [strictAt, hsilent] at h
      rcases ns with _ | ⟨n, ns⟩
      · simp [mask, hsilent]
      · rcases j with _ | j
        · have hstrict : i.isStrict = true := by simpa using h
          simp [mask, hsilent, hstrict]
        · simpa [mask, hsilent] using ih (by simpa using h) ns

namespace Action

/-- An action that commutes with views. -/
def Natural (act : Action) : Prop :=
  ∀ (v : View) (m : Matched),
    (act (m.view v)).upshot = (act m).upshot.map fun o => o.map (Node.view v)

/-- An action that does not look at the span. -/
def Spanless (act : Action) : Prop :=
  ∀ (m : Matched) (sp : Span), act { m with span := sp } = act m

/-- An action that does not look at the nodes of items that may be layout. -/
def Blind (items : List Item) (act : Action) : Prop :=
  ∀ m : Matched, act { m with nodes := Item.mask items m.nodes } = act m

/-- A natural action makes the same of matches that look the same where it looks at them. -/
theorem Natural.upshot_eq {act : Action} (h : act.Natural) (items : List Item) {v v' : View}
    {m m' : Matched} (hspan : v.span m.span = v'.span m'.span ∨ act.Spanless)
    (hnodes : m.nodes.map (Node.view v) = m'.nodes.map (Node.view v')
      ∨ (act.Blind items ∧ (Item.mask items m.nodes).map (Node.view v) =
        (Item.mask items m'.nodes).map (Node.view v'))) :
    ((act m).upshot.map fun o => o.map (Node.view v)) =
      (act m').upshot.map fun o => o.map (Node.view v') := by
  obtain ⟨sp, sp', hsp, hactsp, hactsp'⟩ : ∃ sp sp', v.span sp = v'.span sp'
      ∧ act { m with span := sp } = act m ∧ act { m' with span := sp' } = act m' := by
    rcases hspan with hspan | hspan
    · exact ⟨m.span, m'.span, hspan, rfl, rfl⟩
    · exact ⟨default, default, by simp, hspan m _, hspan m' _⟩
  rw [← hactsp, ← hactsp']
  obtain ⟨ns, ns', hns, hactns, hactns'⟩ : ∃ ns ns', ns.map (Node.view v) = ns'.map (Node.view v')
      ∧ act { m with span := sp, nodes := ns } = act { m with span := sp }
      ∧ act { m' with span := sp', nodes := ns' } = act { m' with span := sp' } := by
    rcases hnodes with hnodes | ⟨hblind, hnodes⟩
    · exact ⟨m.nodes, m'.nodes, hnodes, rfl, rfl⟩
    · exact ⟨_, _, hnodes, hblind { m with span := sp }, hblind { m' with span := sp' }⟩
  rw [← hactns, ← hactns', ← h v, ← h v']
  congr 2
  simp only [Matched.view, hsp, hns]

@[simp] theorem natural_node_iff {f : Matched → Node} :
    Natural (fun m => .node (f m)) ↔ ∀ v m, f (m.view v) = (f m).view v := by
  simp [Natural, Outcome.upshot]

@[simp] theorem natural_expr_iff {f : Matched → Expr} :
    Natural (expr f) ↔ ∀ v m, f (m.view v) = (f m).mapSpan v.span := by
  simp [Natural, expr, Outcome.upshot, Node.view]

@[simp] theorem natural_stmt_iff {f : Matched → Stmt} :
    Natural (stmt f) ↔ ∀ v m, f (m.view v) = (f m).mapSpan v.span := by
  simp [Natural, stmt, Outcome.upshot, Node.view]

@[simp] theorem natural_pat_iff {f : Matched → Pattern} :
    Natural (pat f) ↔ ∀ v m, f (m.view v) = (f m).mapSpan v.span := by
  simp [Natural, pat, Outcome.upshot, Node.view]

@[simp] theorem natural_pick (i : Nat) : Natural (pick i) :=
  natural_node_iff.2 fun v m => m.view_get v i

@[simp] theorem spanless_pick (i : Nat) : Spanless (pick i) := fun _ _ => rfl

@[simp] theorem natural_matched : Natural matched := natural_node_iff.2 fun _ _ => rfl

@[simp] theorem spanless_matched : Spanless matched := fun _ _ => rfl

@[simp] theorem blind_matched (items : List Item) : Blind items matched := fun _ => rfl

theorem get_mask {items : List Item} {i : Nat} (h : Item.strictAt items i = true) (m : Matched) :
    Matched.get { m with nodes := Item.mask items m.nodes } i = m.get i := by
  simp only [Matched.get, Item.getElem?_mask h]

@[simp] theorem blind_pick {items : List Item} {i : Nat} (h : Item.strictAt items i = true) :
    Blind items (pick i) := fun m => congrArg Outcome.node (get_mask h m)

@[simp] theorem natural_asName : Natural asName := by
  unfold asName
  simp

@[simp] theorem natural_asConstant (c : Constant) : Natural (asConstant c) := by simp [asConstant]

@[simp] theorem natural_asNumber : Natural asNumber := by
  intro v m
  unfold asNumber
  rw [m.view_token? v 0]
  rcases m.token? 0 with _ | t
  · rfl
  · simp only [Option.map_some, View.token_text]
    cases numberValue t.text.toList <;> rfl

@[simp] theorem natural_numberOf (accept : Constant → Bool) (message : String) :
    Natural (numberOf accept message) := by
  intro v m
  unfold numberOf asNumber
  rw [m.view_token? v 0]
  rcases m.token? 0 with _ | t
  · rfl
  · simp only [Option.map_some, View.token_text]
    cases numberValue t.text.toList with
    | error message' => rfl
    | ok c =>
      simp only
      cases accept c <;> rfl

@[simp] theorem natural_consSeq : Natural consSeq := by
  unfold consSeq
  simp

@[simp] theorem natural_connective (op : BoolOp) : Natural (connective op) := by simp [connective]

@[simp] theorem natural_binary (op : BinaryOp) : Natural (binary op) := by simp [binary]

@[simp] theorem natural_unary (op : UnaryOp) : Natural (unary op) := by simp [unary]

@[simp] theorem natural_complexOf (op : BinaryOp) : Natural (complexOf op) := natural_binary op

@[simp] theorem natural_comparand (op : Comparison) (n : Nat) : Natural (comparand op n) := by
  unfold comparand
  simp [Node.view]

@[simp] theorem natural_functionOf (isAsync : Bool) (d : Nat) : Natural (functionOf isAsync d) := by
  simp [functionOf]

@[simp] theorem natural_loopOf (isAsync : Bool) (d : Nat) : Natural (loopOf isAsync d) := by
  simp [loopOf]

@[simp] theorem natural_aliasOf : Natural aliasOf := by
  unfold aliasOf
  simp [Node.view]

@[simp] theorem natural_handlerOf (i : Nat) : Natural (handlerOf i) := by
  unfold handlerOf
  simp [Node.view]

@[simp] theorem natural_tryOf (isStar : Bool) : Natural (tryOf isStar) := by simp [tryOf]

@[simp] theorem natural_withValue : Natural ParamRules.defaulted.withValue := by
  intro v m
  unfold ParamRules.defaulted.withValue
  rw [m.view_get v 0]
  cases m.get 0 with
  | param q => simp [Node.view, Outcome.upshot]
  | _ => rfl

@[simp] theorem view_paramsOf (v : View) (posOnly plain : List DefaultParameter) (rest : Node) :
    (paramsOf posOnly plain rest).view v =
      paramsOf (posOnly.map (DefaultParameter.mapSpan v.span))
        (plain.map (DefaultParameter.mapSpan v.span)) (rest.view v) := by
  rcases rest with _ | _ | _ | _ | _ | _ | _ | _ | _ | _ | _ | _ | _ | _ |
      ⟨⟨posOnly', plain', star, keywordOnly, doubleStar⟩⟩ | _ | _ | _ <;>
    simp [paramsOf, Node.view]

@[simp] theorem view_decorate (v : View) (decorators : List Expr) (n : Node) :
    (decorate decorators n).view v = decorate (decorators.map (Expr.mapSpan v.span)) (n.view v) := by
  cases n with
  | stmt s => cases s <;> simp [decorate, Node.view]
  | _ => simp [decorate, Node.view]

@[simp] theorem mapSpan_callOf (v : View) (sp : Span) (func : Expr) (args : List Expr)
    (rest : List Node) :
    (callOf sp func args rest).mapSpan v.span =
      callOf (v.span sp) (func.mapSpan v.span) (args.map (Expr.mapSpan v.span))
        (rest.map (Node.view v)) := by
  simp only [callOf, Expr.mapSpan, mapSpans_eq_map, mapKeywordSpans_eq_map,
    Node.filterMap_view v (Node.expr?_view v), List.map_append]
  congr 1
  exact (Node.filterMap_view v (fun n => by cases n <;> simp [Node.view]) rest).symm

@[simp] theorem mapSpan_applyTo (v : View) (sp : Span) (func : Expr) (arguments : Node) :
    (applyTo sp func arguments).mapSpan v.span =
      applyTo (v.span sp) (func.mapSpan v.span) (arguments.view v) := by
  cases arguments with
  | expr e => cases e <;> simp [applyTo, Node.view]
  | _ => simp [applyTo, Node.view]

@[simp] theorem dotCount_view (v : View) (ns : List Node) :
    dotCount (ns.map (Node.view v)) = dotCount ns := by
  simp [dotCount, List.foldl_map]

@[simp] theorem natural_classOf (positional named : Nat) : Natural (classOf positional named) := by
  refine natural_pat_iff.2 fun v m => ?_
  simp only [Matched.view_get, Node.items_view]
  rw [Node.filterMap_view v (g := Prod.map id (Pattern.mapSpan v.span)) fun n => ?_]
  · simp [Function.comp_def]
  · rcases n with _ | _ | _ | _ | _ | _ | _ | _ | _ | _ | _ | _ | _ | _ | _ | _ | _ |
      ⟨_ | ⟨x, _ | ⟨y, _ | _⟩⟩⟩ <;> try rfl
    · cases x <;> rfl
    · cases x <;> first | rfl | (cases y <;> rfl)
    · cases x <;> first | rfl | (cases y <;> rfl)

@[simp] theorem natural_mappingOf (pairs rest : Nat) : Natural (mappingOf pairs rest) := by
  refine natural_pat_iff.2 fun v m => ?_
  simp only [Matched.view_get, Node.items_view]
  rw [Node.filterMap_view v (g := Prod.map (Expr.mapSpan v.span) (Pattern.mapSpan v.span))
    fun n => ?_]
  · simp [Function.comp_def]
  · rcases n with _ | _ | _ | _ | _ | _ | _ | _ | _ | _ | _ | _ | _ | _ | _ | _ | _ |
      ⟨_ | ⟨x, _ | ⟨y, _ | _⟩⟩⟩ <;> try rfl
    · cases x <;> rfl
    · cases x <;> first | rfl | (cases y <;> rfl)
    · cases x <;> first | rfl | (cases y <;> rfl)

theorem natural_dictComp : Natural fun m =>
    match m.get 1 with
    | .dictItem (.pair k v) => .node (.expr (.dictComp m.span k v (m.get 2).clauses))
    | _ => .reject := by
  intro v m
  simp only [Matched.view_get]
  cases m.get 1 with
  | dictItem d => cases d <;> simp [Outcome.upshot, Node.view]
  | _ => rfl

theorem natural_augAssign : Natural fun m =>
    match m.get 1 with
    | .binaryOp op => .node (.stmt (.augAssign m.span (m.expr 0) op (m.expr 2)))
    | _ => .reject := by
  intro v m
  simp only [Matched.view_get]
  cases m.get 1 <;> simp [Outcome.upshot, Node.view]

theorem natural_dottedName : Natural fun m =>
    match m.token? 0, m.token? 2 with
    | some a, some b =>
      .node (.token { a with text := a.text ++ "." ++ b.text, endLine := b.endLine,
                             endColumn := b.endColumn })
    | _, _ => .reject := by
  intro v m
  simp only [Matched.view_token?]
  cases m.token? 0 <;> cases m.token? 2 <;> rfl

theorem natural_orPattern : Natural fun m =>
    match (m.get 0).patterns with
    | [p] => .node (.pattern p)
    | ps => .node (.pattern (.alternatives m.span ps)) := by
  intro v m
  simp only [Matched.view_get, Node.patterns_view]
  rcases (m.get 0).patterns with _ | ⟨p, _ | ⟨q, ps⟩⟩ <;> simp [Outcome.upshot, Node.view]

end Action

/-! ## The actions of the grammar -/

mutual

/-- Whether the actions within an item are natural. -/
def Item.Natural : Item → Prop
  | .opt i | .many i | .many1 i | .ahead i | .notAhead i => i.Natural
  | .sepBy s e => s.Natural ∧ e.Natural
  | .group alts => Alt.AllNatural alts
  | _ => True

/-- Whether the actions within items in a row are natural. -/
def Item.AllNatural : List Item → Prop
  | [] => True
  | i :: rest => i.Natural ∧ Item.AllNatural rest

/-- Whether the actions of alternatives are natural, do not look at the span where the match may
    begin with layout, and do not look at layout. -/
def Alt.AllNatural : List Alt → Prop
  | [] => True
  | .mk items act :: rest =>
    act.Natural ∧ (Item.beginSolid items = true ∨ act.Spanless)
      ∧ (items.all Item.isStrict = true ∨ act.Blind items) ∧ Item.AllNatural items
      ∧ Alt.AllNatural rest

end

theorem Alt.allNatural_append {alts alts' : List Alt} :
    Alt.AllNatural (alts ++ alts') ↔ Alt.AllNatural alts ∧ Alt.AllNatural alts' := by
  induction alts with
  | nil => simp [Alt.AllNatural]
  | cons alt rest ih =>
    obtain ⟨items, action⟩ := alt
    simp only [List.cons_append, Alt.AllNatural, ih, and_assoc]

section Rules

variable {r : Rule} {b : RuleBody}

theorem expressionRule_natural (h : expressionRule? r = some b) : Alt.AllNatural b.alts := by
  cases r <;> cases h
  all_goals simp [RuleBody.alts, Alt.AllNatural, Item.AllNatural, Item.Natural, Item.isStrict, Item.beginSolid,
    Item.isSolid, Item.isTaking, Item.isSilent, Alt.allTaking, Alt.allSolid, Item.someTaking,
    Node.view, trailers, expressionForms, plainArgument, expressionRule?.targetForms,
    expressionRule?.partTargets]
  case dictcomp => exact Action.natural_dictComp

theorem statementRule_natural (h : statementRule? r = some b) : Alt.AllNatural b.alts := by
  cases r <;> cases h
  all_goals simp [RuleBody.alts, Alt.AllNatural, Item.AllNatural, Item.Natural, Item.isStrict, Item.beginSolid,
    Item.isSolid, Item.isTaking, Item.isSilent, Alt.allTaking, Alt.allSolid, Item.someTaking,
    Node.view, assigned, asTarget, statementRule?.branches, statementRule?.dots, functionItems,
    loopItems, bracketedWith, bareWith, augmentedOps, Item.strictAt]
  case assignment => exact Action.natural_augAssign
  case dottedName => exact Action.natural_dottedName
  case classDefRaw =>
    intro v m
    cases m.get 2 with
    | expr e => cases e <;> simp [Node.view]
    | _ => simp [Node.view]

theorem parameterRule_natural (h : parameterRule? r = some b) : Alt.AllNatural b.alts := by
  cases r <;> cases h
  all_goals simp [RuleBody.alts, Alt.AllNatural, Item.AllNatural, Item.Natural, Item.isStrict, Item.beginSolid,
    Item.isSolid, Item.isTaking, Item.isSilent, Node.view, ParamRules.definition,
    ParamRules.anonymous, ParamRules.lists, ParamRules.slashesNoDefault,
    ParamRules.slashesWithDefault, ParamRules.stars, ParamRules.doubleStars, ParamRules.plain,
    ParamRules.defaulted, ParamRules.maybeDefaulted]

theorem patternRule_natural (h : patternRule? r = some b) : Alt.AllNatural b.alts := by
  cases r <;> cases h
  all_goals simp [RuleBody.alts, Alt.AllNatural, Item.AllNatural, Item.Natural, Item.isStrict, Item.beginSolid,
    Item.isSolid, Item.isTaking, Item.isSilent, Alt.allTaking, Alt.allSolid, Item.someTaking,
    Node.view, literalForms, signed, dottedStep, notPartOfName]
  case matchStmt =>
    intro m
    simp only [stmt, Matched.expr]
    rw [Action.get_mask (by rfl), Action.get_mask (by rfl)]
  case orPattern => exact Action.natural_orPattern

/-- The actions of ordinary rules are natural. -/
theorem Rule.natural_of_isOrdinary (hr : r.isOrdinary = true) : Alt.AllNatural r.body.alts := by
  have hmistake : mistakeRule? r = none := by
    simp only [isOrdinary, isMistake, Bool.and_eq_true, Bool.not_eq_true'] at hr
    exact Option.isSome_eq_false_iff.1 hr.1 |> Option.isNone_iff_eq_none.1
  unfold Rule.body
  rcases hexpression : expressionRule? r with _ | b
  · rcases hstatement : statementRule? r with _ | b
    · rcases hparameter : parameterRule? r with _ | b
      · rcases hpattern : patternRule? r with _ | b
        · rw [hmistake]
          trivial
        · exact patternRule_natural hpattern
      · exact parameterRule_natural hparameter
    · exact statementRule_natural hstatement
  · exact expressionRule_natural hexpression

end Rules

end Graft.Syntax
