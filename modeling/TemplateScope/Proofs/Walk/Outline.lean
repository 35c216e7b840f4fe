import TemplateScope.Walk.Visitor

/-!
# Outlines

The kinds of node of a template differ in what they hold, and yet a walk treats them alike: it
calls the hook of a node around the visits of what lies below. An outline keeps of a tree only this
shape, so that what is said of every node of a walk is proved once, and not once for each kind.
`Visitor.visitTemplate_eq_walk` says that no visitor can tell the two apart.
-/

namespace TemplateScope

/-- What a hook is called for. The children of an element count as a node of their own. -/
inductive Node (ℓ : Type) where
  | template (t : Template ℓ)
  | block (b : Block ℓ)
  | statement (s : Statement ℓ)
  | mustache (m : Mustache ℓ)
  | blockStatement (b : BlockStatement ℓ)
  | element (e : Element ℓ)
  | elementChildren (e : Element ℓ)
  | attr (a : Attribute ℓ)
  | modifier (m : Modifier ℓ)
  | text (t : TextRun ℓ)
  | mustacheComment (c : Comment ℓ)
  | comment (c : Comment ℓ)
  | expression (e : Expression ℓ)
  | subExpression (c : Call ℓ) (loc : ℓ)
  | path (p : Path) (loc : ℓ)
  | literal (l : Literal) (loc : ℓ)
  | hash (h : Hash ℓ)

/-- A node and the outlines of what lies below it, in document order. -/
inductive Outline (ℓ : Type) where
  | node (head : Node ℓ) (below : List (Outline ℓ))

variable {ℓ : Type}

/-! ## The outline of a tree -/

mutual

def Expression.outline : Expression ℓ → Outline ℓ
  | e@(.path p loc) => .node (.expression e) [.node (.path p loc) []]
  | e@(.call c loc) => .node (.expression e) [.node (.subExpression c loc) c.outlines]
  | e@(.literal l loc) => .node (.expression e) [.node (.literal l loc) []]

def Call.outlines : Call ℓ → List (Outline ℓ)
  | ⟨callee, params, hash⟩ => callee.outline :: (Expression.outlines params ++ [hash.outline])

def Hash.outline : Hash ℓ → Outline ℓ
  | h@⟨pairs, _⟩ => .node (.hash h) (HashPair.outlines pairs)

def Expression.outlines : List (Expression ℓ) → List (Outline ℓ)
  | [] => []
  | e :: rest => e.outline :: Expression.outlines rest

def HashPair.outlines : List (HashPair ℓ) → List (Outline ℓ)
  | [] => []
  | ⟨_, value, _⟩ :: rest => value.outline :: HashPair.outlines rest

end

def TextRun.outline (t : TextRun ℓ) : Outline ℓ := .node (.text t) []

def Comment.outline (c : Comment ℓ) : Outline ℓ := .node (.mustacheComment c) []

def Mustache.outline (m : Mustache ℓ) : Outline ℓ := .node (.mustache m) m.call.outlines

def Modifier.outline (m : Modifier ℓ) : Outline ℓ := .node (.modifier m) m.call.outlines

def ConcatPart.outline : ConcatPart ℓ → Outline ℓ
  | .text t => t.outline
  | .mustache m => m.outline

def AttributeValue.outlines : AttributeValue ℓ → List (Outline ℓ)
  | .text t => [t.outline]
  | .mustache m => [m.outline]
  | .concat parts _ => parts.map ConcatPart.outline

def Attribute.outline (a : Attribute ℓ) : Outline ℓ := .node (.attr a) a.value.outlines

mutual

def Statement.outline : Statement ℓ → Outline ℓ
  | s@(.mustache m) => .node (.statement s) [m.outline]
  | s@(.block b) => .node (.statement s) [b.outline]
  | s@(.element e) => .node (.statement s) [e.outline]
  | s@(.text t) => .node (.statement s) [t.outline]
  | s@(.mustacheComment c) => .node (.statement s) [c.outline]
  | s@(.comment c) => .node (.statement s) [.node (.comment c) []]

def BlockStatement.outline : BlockStatement ℓ → Outline ℓ
  | b@⟨call, program, none, _⟩ =>
      .node (.blockStatement b) (call.outlines ++ [program.outline])
  | b@⟨call, program, some inverse, _⟩ =>
      .node (.blockStatement b) (call.outlines ++ [program.outline, inverse.outline])

def Block.outline : Block ℓ → Outline ℓ
  | b@⟨_, body, _⟩ => .node (.block b) (Statement.outlines body)

def Element.outline : Element ℓ → Outline ℓ
  | e@⟨_, attributes, _, modifiers, comments, children, _, _⟩ =>
      .node (.element e) (attributes.map Attribute.outline ++ (modifiers.map Modifier.outline ++
        (.node (.elementChildren e) (Statement.outlines children) ::
          comments.map Comment.outline)))

def Statement.outlines : List (Statement ℓ) → List (Outline ℓ)
  | [] => []
  | s :: rest => s.outline :: Statement.outlines rest

end

def Template.outline (t : Template ℓ) : Outline ℓ :=
  .node (.template t) (Statement.outlines t.body)

namespace Outline

mutual

def nodes : Outline ℓ → List (Node ℓ)
  | .node head below => head :: nodesAll below

def nodesAll : List (Outline ℓ) → List (Node ℓ)
  | [] => []
  | o :: rest => nodes o ++ nodesAll rest

end

mutual

def map (g : Node ℓ → Node ℓ) : Outline ℓ → Outline ℓ
  | .node head below => .node (g head) (mapAll g below)

def mapAll (g : Node ℓ → Node ℓ) : List (Outline ℓ) → List (Outline ℓ)
  | [] => []
  | o :: rest => map g o :: mapAll g rest

end

theorem mapAll_eq_map (g : Node ℓ → Node ℓ) (os : List (Outline ℓ)) :
    mapAll g os = os.map (map g) := by
  induction os with
  | nil => rfl
  | cons o rest ih => rw [mapAll, ih, List.map_cons]

theorem map_map_of_fixed {α : Type} {g : Node ℓ → Node ℓ} {outline : α → Outline ℓ}
    (h : ∀ x, (outline x).map g = outline x) (xs : List α) :
    (xs.map outline).map (map g) = xs.map outline := by
  rw [List.map_map]
  exact List.map_congr_left fun x _ => h x

mutual

theorem nodes_map (g : Node ℓ → Node ℓ) : ∀ o : Outline ℓ, (o.map g).nodes = o.nodes.map g
  | .node _ below => by rw [map, nodes, nodes, nodesAll_mapAll g below, List.map_cons]

theorem nodesAll_mapAll (g : Node ℓ → Node ℓ) :
    ∀ os : List (Outline ℓ), nodesAll (mapAll g os) = (nodesAll os).map g
  | [] => rfl
  | o :: rest => by
      rw [mapAll, nodesAll, nodesAll, nodes_map g o, nodesAll_mapAll g rest, List.map_append]

end

end Outline

/-! ## Walking an outline -/

namespace Visitor

variable {σ ε : Type} (v : Visitor ℓ σ ε)

/-- The hook of a node. A hook that is not given what lies below is called ahead of it; in the
outline of a template nothing lies below such a node. -/
def hook : Node ℓ → Visit σ ε Unit → Visit σ ε Unit
  | .template t, below => v.template t below
  | .block b, below => v.block b below
  | .statement s, below => v.statement s below
  | .mustache m, below => v.mustache m below
  | .blockStatement b, below => v.blockStatement b below
  | .element e, below => v.element e below
  | .elementChildren e, below => v.elementChildren e below
  | .attr a, below => v.attr a below
  | .modifier m, below => v.modifier m below
  | .text t, below => do v.text t; below
  | .mustacheComment c, below => do v.mustacheComment c; below
  | .comment c, below => do v.comment c; below
  | .expression e, below => v.expression e below
  | .subExpression c loc, below => v.subExpression c loc below
  | .path p loc, below => do v.path p loc; below
  | .literal l loc, below => do v.literal l loc; below
  | .hash h, below => v.hash h below

mutual

def walk : Outline ℓ → Visit σ ε Unit
  | .node head below => v.hook head (walkAll below)

def walkAll : List (Outline ℓ) → Visit σ ε Unit
  | [] => pure ()
  | o :: rest => do
      walk o
      walkAll rest

end

theorem walkAll_append (os others : List (Outline ℓ)) :
    v.walkAll (os ++ others) = (do v.walkAll os; v.walkAll others) := by
  induction os with
  | nil => simp [walkAll]
  | cons o rest ih => simp [walkAll, ih]

theorem walkAll_cons (o : Outline ℓ) (rest : List (Outline ℓ)) :
    v.walkAll (o :: rest) = (do v.walk o; v.walkAll rest) := by
  rw [walkAll]

theorem walkAll_singleton (o : Outline ℓ) : v.walkAll [o] = v.walk o := by
  simp [walkAll]

mutual

theorem visitExpression_eq_walk : ∀ e, v.visitExpression e = v.walk e.outline
  | .path _ _ => by simp [visitExpression, Expression.outline, walk, walkAll, hook]
  | .call c loc => by
      rw [visitExpression, Expression.outline, walk, walkAll_singleton, walk, hook, hook,
        walkCall_eq_walkAll c]
  | .literal _ _ => by simp [visitExpression, Expression.outline, walk, walkAll, hook]

theorem walkCall_eq_walkAll : ∀ c, v.walkCall c = v.walkAll c.outlines
  | ⟨callee, params, hash⟩ => by
      rw [walkCall, Call.outlines, walkAll, walkAll_append, walkAll_singleton,
        visitExpression_eq_walk callee, visitExpressions_eq_walkAll params, visitHash_eq_walk hash]

theorem visitHash_eq_walk : ∀ h, v.visitHash h = v.walk h.outline
  | ⟨pairs, _⟩ => by rw [visitHash, Hash.outline, walk, hook, visitPairs_eq_walkAll pairs]

theorem visitExpressions_eq_walkAll :
    ∀ es, v.visitExpressions es = v.walkAll (Expression.outlines es)
  | [] => rfl
  | e :: rest => by
      rw [visitExpressions, Expression.outlines, walkAll, visitExpression_eq_walk e,
        visitExpressions_eq_walkAll rest]

theorem visitPairs_eq_walkAll : ∀ ps, v.visitPairs ps = v.walkAll (HashPair.outlines ps)
  | [] => rfl
  | ⟨_, value, _⟩ :: rest => by
      rw [visitPairs, HashPair.outlines, walkAll, visitExpression_eq_walk value,
        visitPairs_eq_walkAll rest]

end

theorem visitText_eq_walk (t : TextRun ℓ) : v.text t = v.walk t.outline := by
  simp [TextRun.outline, walk, walkAll, hook]

theorem visitComment_eq_walk (c : Comment ℓ) : v.mustacheComment c = v.walk c.outline := by
  simp [Comment.outline, walk, walkAll, hook]

theorem visitMustache_eq_walk (m : Mustache ℓ) : v.visitMustache m = v.walk m.outline := by
  rw [visitMustache, Mustache.outline, walk, hook, walkCall_eq_walkAll]

theorem visitModifiers_eq_walkAll (ms : List (Modifier ℓ)) :
    v.visitModifiers ms = v.walkAll (ms.map Modifier.outline) := by
  induction ms with
  | nil => rfl
  | cons m rest ih =>
      rw [visitModifiers, visitModifier, List.map_cons, walkAll, ih, Modifier.outline, walk, hook,
        walkCall_eq_walkAll]

theorem visitConcatParts_eq_walkAll (parts : List (ConcatPart ℓ)) :
    v.visitConcatParts parts = v.walkAll (parts.map ConcatPart.outline) := by
  induction parts with
  | nil => rfl
  | cons part rest ih =>
      rw [visitConcatParts, List.map_cons, walkAll, ih]
      cases part with
      | text t => rw [visitConcatPart, ConcatPart.outline, visitText_eq_walk]
      | mustache m => rw [visitConcatPart, ConcatPart.outline, visitMustache_eq_walk]

theorem walkAttributeValue_eq_walkAll (value : AttributeValue ℓ) :
    v.walkAttributeValue value = v.walkAll value.outlines := by
  cases value with
  | text t => rw [walkAttributeValue, AttributeValue.outlines, walkAll_singleton, visitText_eq_walk]
  | mustache m =>
      rw [walkAttributeValue, AttributeValue.outlines, walkAll_singleton, visitMustache_eq_walk]
  | concat parts _ =>
      rw [walkAttributeValue, AttributeValue.outlines, visitConcatParts_eq_walkAll]

theorem visitAttributes_eq_walkAll (as : List (Attribute ℓ)) :
    v.visitAttributes as = v.walkAll (as.map Attribute.outline) := by
  induction as with
  | nil => rfl
  | cons a rest ih =>
      rw [visitAttributes, visitAttribute, List.map_cons, walkAll, ih, Attribute.outline, walk,
        hook, walkAttributeValue_eq_walkAll]

theorem visitComments_eq_walkAll (cs : List (Comment ℓ)) :
    v.visitComments cs = v.walkAll (cs.map Comment.outline) := by
  induction cs with
  | nil => rfl
  | cons c rest ih => rw [visitComments, List.map_cons, walkAll, ih, visitComment_eq_walk]

mutual

theorem visitStatement_eq_walk : ∀ s, v.visitStatement s = v.walk s.outline
  | .mustache m => by
      rw [visitStatement, Statement.outline, walk, hook, walkAll_singleton, visitMustache_eq_walk]
  | .block b => by
      rw [visitStatement, Statement.outline, walk, hook, walkAll_singleton,
        visitBlockStatement_eq_walk b]
  | .element e => by
      rw [visitStatement, Statement.outline, walk, hook, walkAll_singleton, visitElement_eq_walk e]
  | .text t => by
      rw [visitStatement, Statement.outline, walk, hook, walkAll_singleton, visitText_eq_walk]
  | .mustacheComment c => by
      rw [visitStatement, Statement.outline, walk, hook, walkAll_singleton, visitComment_eq_walk]
  | .comment _ => by simp [visitStatement, Statement.outline, walk, walkAll, hook]

theorem visitBlockStatement_eq_walk : ∀ b, v.visitBlockStatement b = v.walk b.outline
  | ⟨call, program, none, _⟩ => by
      rw [visitBlockStatement, BlockStatement.outline, walk, hook, walkAll_append,
        walkAll_singleton, walkCall_eq_walkAll, visitBlock_eq_walk program]
  | ⟨call, program, some inverse, _⟩ => by
      rw [visitBlockStatement, BlockStatement.outline, walk, hook, walkAll_append,
        walkAll_cons, walkAll_singleton, walkCall_eq_walkAll, visitBlock_eq_walk program,
        visitBlock_eq_walk inverse]

theorem visitBlock_eq_walk : ∀ b, v.visitBlock b = v.walk b.outline
  | ⟨_, body, _⟩ => by rw [visitBlock, Block.outline, walk, hook, visitStatements_eq_walkAll body]

theorem visitElement_eq_walk : ∀ e, v.visitElement e = v.walk e.outline
  | ⟨_, attributes, _, modifiers, comments, children, _, _⟩ => by
      rw [visitElement, Element.outline, walk, hook, walkAll_append, walkAll_append,
        walkAll_cons, walk, hook, visitAttributes_eq_walkAll, visitModifiers_eq_walkAll,
        visitComments_eq_walkAll, visitStatements_eq_walkAll children]

theorem visitStatements_eq_walkAll : ∀ ss, v.visitStatements ss = v.walkAll (Statement.outlines ss)
  | [] => rfl
  | s :: rest => by
      rw [visitStatements, Statement.outlines, walkAll, visitStatement_eq_walk s,
        visitStatements_eq_walkAll rest]

end

/-- Visiting a template is walking its outline. -/
theorem visitTemplate_eq_walk (t : Template ℓ) : v.visitTemplate t = v.walk t.outline := by
  rw [visitTemplate, Template.outline, walk, hook, visitStatements_eq_walkAll]

end Visitor

end TemplateScope
