import TemplateScope.Proofs.Walk.Outline
import TemplateScope.Shadowing.Invocation

/-!
# Scopes of an outline

Three kinds of node bind names, and three kinds invoke something. `Node.frame?` and
`Node.invocation?` say which, and from them alone `Outline.invocations` finds every invocation of
an outline with the names around it. On the outline of a template it finds what
`Template.invocations` lists (`Template.invocations_outline`).
-/

namespace TemplateScope

variable {ℓ : Type}

namespace Node

/-- The names that a node binds over all that lies below it. -/
def frame? : Node ℓ → Option (List String)
  | .template t => some t.blockParams
  | .block b => some b.blockParams
  | .elementChildren e => some e.blockParams
  | _ => none

def names (n : Node ℓ) : List String := n.frame?.getD []

/-- The invocation that a node is by itself, whatever lies below it. -/
def invocation? (visible : List String) : Node ℓ → Option (Invocation ℓ)
  | .mustache m =>
      if m.call.hasArguments then some ⟨m.call.callee.headName?, .helper, m.loc, visible⟩ else none
  | .subExpression c loc => some ⟨c.callee.headName?, .helper, loc, visible⟩
  | .modifier m => some ⟨m.call.callee.headName?, .modifier, m.loc, visible⟩
  | _ => none

end Node

namespace Outline

mutual

def invocations (visible : List String) : Outline ℓ → List (Invocation ℓ)
  | .node n below => (n.invocation? visible).toList ++ invocationsAll (n.names ++ visible) below

def invocationsAll (visible : List String) : List (Outline ℓ) → List (Invocation ℓ)
  | [] => []
  | o :: rest => invocations visible o ++ invocationsAll visible rest

end

variable {visible : List String}

/-- A node that neither binds nor invokes anything passes on what is found below it. -/
theorem invocations_of_frame?_eq_none {n : Node ℓ} (hframe : n.frame? = none)
    (hcall : n.invocation? visible = none) (below : List (Outline ℓ)) :
    (node n below).invocations visible = invocationsAll visible below := by
  rw [invocations, hcall, Node.names, hframe]
  rfl

theorem invocationsAll_append (os others : List (Outline ℓ)) :
    invocationsAll visible (os ++ others) =
      invocationsAll visible os ++ invocationsAll visible others := by
  induction os with
  | nil => rfl
  | cons o rest ih => rw [List.cons_append, invocationsAll, invocationsAll, ih, List.append_assoc]

theorem invocationsAll_singleton (o : Outline ℓ) :
    invocationsAll visible [o] = o.invocations visible := by
  rw [invocationsAll, invocationsAll, List.append_nil]

theorem invocationsAll_map {α : Type} (outline : α → Outline ℓ) (xs : List α) :
    invocationsAll visible (xs.map outline) =
      xs.flatMap fun x => (outline x).invocations visible := by
  induction xs with
  | nil => rfl
  | cons x rest ih => rw [List.map_cons, invocationsAll, ih, List.flatMap_cons]

end Outline

/-! ## Trees and their outlines -/

open Outline

mutual

theorem Expression.invocations_outline (visible : List String) :
    ∀ e : Expression ℓ, e.outline.invocations visible = e.invocations visible
  | .path _ _ => rfl
  | .call c loc => by
      rw [Expression.outline, invocations_of_frame?_eq_none rfl rfl, invocationsAll_singleton,
        Outline.invocations, Expression.invocations, ← Call.invocations_outlines visible c]
      rfl
  | .literal _ _ => rfl

theorem Call.invocations_outlines (visible : List String) :
    ∀ c : Call ℓ, invocationsAll visible c.outlines = c.invocations visible
  | ⟨callee, params, hash⟩ => by
      rw [Call.outlines, invocationsAll, invocationsAll_append, invocationsAll_singleton,
        Expression.invocations_outline visible callee,
        Expression.invocations_outlines visible params, Hash.invocations_outline visible hash,
        Call.invocations]

theorem Hash.invocations_outline (visible : List String) :
    ∀ h : Hash ℓ, h.outline.invocations visible = h.invocations visible
  | ⟨pairs, _⟩ => by
      rw [Hash.outline, invocations_of_frame?_eq_none rfl rfl,
        HashPair.invocations_outlines visible pairs, Hash.invocations]

theorem Expression.invocations_outlines (visible : List String) : ∀ es : List (Expression ℓ),
    invocationsAll visible (Expression.outlines es) = Expression.invocationsAll visible es
  | [] => rfl
  | e :: rest => by
      rw [Expression.outlines, Outline.invocationsAll, Expression.invocationsAll,
        Expression.invocations_outline visible e, Expression.invocations_outlines visible rest]

theorem HashPair.invocations_outlines (visible : List String) : ∀ ps : List (HashPair ℓ),
    invocationsAll visible (HashPair.outlines ps) = HashPair.invocationsAll visible ps
  | [] => rfl
  | ⟨_, value, _⟩ :: rest => by
      rw [HashPair.outlines, Outline.invocationsAll, HashPair.invocationsAll,
        Expression.invocations_outline visible value, HashPair.invocations_outlines visible rest]

end

theorem Mustache.invocations_outline (visible : List String) (m : Mustache ℓ) :
    m.outline.invocations visible = m.invocations visible := by
  rw [Mustache.outline, Outline.invocations, Mustache.invocations, Node.invocation?,
    ← Call.invocations_outlines visible m.call]
  by_cases hargs : m.call.hasArguments
  · rw [if_pos hargs, if_pos hargs]
    rfl
  · rw [if_neg hargs, if_neg hargs]
    rfl

theorem Modifier.invocations_outline (visible : List String) (m : Modifier ℓ) :
    m.outline.invocations visible = m.invocations visible := by
  rw [Modifier.outline, Outline.invocations, Modifier.invocations,
    ← Call.invocations_outlines visible m.call]
  rfl

theorem ConcatPart.invocations_outline (visible : List String) (part : ConcatPart ℓ) :
    part.outline.invocations visible = part.invocations visible := by
  cases part with
  | text t => rfl
  | mustache m => exact Mustache.invocations_outline visible m

theorem AttributeValue.invocations_outlines (visible : List String) (value : AttributeValue ℓ) :
    invocationsAll visible value.outlines = value.invocations visible := by
  cases value with
  | text t => rfl
  | mustache m =>
      rw [AttributeValue.outlines, invocationsAll_singleton, Mustache.invocations_outline]
      rfl
  | concat parts _ =>
      rw [AttributeValue.outlines, invocationsAll_map]
      simp only [ConcatPart.invocations_outline]
      rfl

theorem Attribute.invocations_outline (visible : List String) (a : Attribute ℓ) :
    a.outline.invocations visible = a.invocations visible := by
  rw [Attribute.outline, invocations_of_frame?_eq_none rfl rfl,
    AttributeValue.invocations_outlines, Attribute.invocations]

/-- Nothing is invoked in the comments of a tag, which come after the children. -/
theorem Comment.invocationsAll_outline (visible : List String) (cs : List (Comment ℓ)) :
    invocationsAll visible (cs.map Comment.outline) = [] := by
  rw [invocationsAll_map]
  exact List.flatMap_eq_nil_iff.2 fun c _ => rfl

mutual

theorem Statement.invocations_outline (visible : List String) :
    ∀ s : Statement ℓ, s.outline.invocations visible = s.invocations visible
  | .mustache m => by
      rw [Statement.outline, invocations_of_frame?_eq_none rfl rfl, invocationsAll_singleton,
        Mustache.invocations_outline visible m, Statement.invocations]
  | .block b => by
      rw [Statement.outline, invocations_of_frame?_eq_none rfl rfl, invocationsAll_singleton,
        BlockStatement.invocations_outline visible b, Statement.invocations]
  | .element e => by
      rw [Statement.outline, invocations_of_frame?_eq_none rfl rfl, invocationsAll_singleton,
        Element.invocations_outline visible e, Statement.invocations]
  | .text _ => rfl
  | .mustacheComment _ => rfl
  | .comment _ => rfl

theorem BlockStatement.invocations_outline (visible : List String) :
    ∀ b : BlockStatement ℓ, b.outline.invocations visible = b.invocations visible
  | ⟨call, program, none, _⟩ => by
      rw [BlockStatement.outline, invocations_of_frame?_eq_none rfl rfl, invocationsAll_append,
        invocationsAll_singleton, Call.invocations_outlines visible call,
        Block.invocations_outline visible program, BlockStatement.invocations]
  | ⟨call, program, some inverse, _⟩ => by
      rw [BlockStatement.outline, invocations_of_frame?_eq_none rfl rfl, invocationsAll_append,
        invocationsAll, invocationsAll_singleton, Call.invocations_outlines visible call,
        Block.invocations_outline visible program, Block.invocations_outline visible inverse,
        BlockStatement.invocations]

theorem Block.invocations_outline (visible : List String) :
    ∀ b : Block ℓ, b.outline.invocations visible = b.invocations visible
  | ⟨blockParams, body, _⟩ => Statement.invocations_outlines (blockParams ++ visible) body

theorem Element.invocations_outline (visible : List String) :
    ∀ e : Element ℓ, e.outline.invocations visible = e.invocations visible
  | ⟨tag, attributes, blockParams, modifiers, comments, children, selfClosing, loc⟩ => by
      have hchildren : (node (.elementChildren ⟨tag, attributes, blockParams, modifiers, comments,
          children, selfClosing, loc⟩) (Statement.outlines children)).invocations visible =
            Statement.invocationsAll (blockParams ++ visible) children :=
        Statement.invocations_outlines (blockParams ++ visible) children
      rw [Element.outline, invocations_of_frame?_eq_none rfl rfl, invocationsAll_append,
        invocationsAll_append, invocationsAll_map, invocationsAll_map, invocationsAll, hchildren,
        Comment.invocationsAll_outline, List.append_nil, Element.invocations]
      simp only [Attribute.invocations_outline, Modifier.invocations_outline]

theorem Statement.invocations_outlines (visible : List String) : ∀ ss : List (Statement ℓ),
    invocationsAll visible (Statement.outlines ss) = Statement.invocationsAll visible ss
  | [] => rfl
  | s :: rest => by
      rw [Statement.outlines, Outline.invocationsAll, Statement.invocationsAll,
        Statement.invocations_outline visible s, Statement.invocations_outlines visible rest]

end

/-- Every invocation of a template is one of its nodes, and sees what the nodes above it bind. -/
theorem Template.invocations_outline (t : Template ℓ) :
    t.outline.invocations [] = t.invocations := by
  have hnames : (Node.template t).names ++ [] = t.blockParams := List.append_nil _
  rw [Template.outline, Outline.invocations, hnames, Statement.invocations_outlines]
  rfl

/-! ## Names in a template -/

/-- What a node calls, whether or not the check looks at it. -/
def Node.callee? : Node ℓ → Option (Expression ℓ)
  | .mustache m => some m.call.callee
  | .blockStatement b => some b.call.callee
  | .subExpression c _ => some c.callee
  | .modifier m => some m.call.callee
  | _ => none

def Node.calleeName? (n : Node ℓ) : Option String := n.callee?.bind Expression.headName?

theorem Node.calleeName?_of_invocation? {n : Node ℓ} {visible : List String} {i : Invocation ℓ}
    (h : n.invocation? visible = some i) :
    n.calleeName? = i.name? ∧ i.visible = visible := by
  cases n with
  | mustache m =>
      rw [Node.invocation?] at h
      split at h
      · cases h
        exact ⟨rfl, rfl⟩
      · cases h
  | subExpression c loc => cases h; exact ⟨rfl, rfl⟩
  | modifier m => cases h; exact ⟨rfl, rfl⟩
  | _ => cases h

mutual

theorem Outline.mem_invocations {visible : List String} {i : Invocation ℓ} :
    ∀ {o : Outline ℓ}, i ∈ o.invocations visible →
      (∃ n ∈ o.nodes, n.calleeName? = i.name?) ∧
        ∀ name ∈ i.visible, name ∈ visible ∨ name ∈ o.nodes.flatMap Node.names
  | .node n below, h => by
      rw [Outline.invocations, List.mem_append, Option.mem_toList] at h
      rw [Outline.nodes, List.flatMap_cons]
      rcases h with h | h
      · obtain ⟨hname, hvisible⟩ := Node.calleeName?_of_invocation? h
        refine ⟨⟨n, List.mem_cons_self, hname⟩, fun name hmem => .inl (hvisible ▸ hmem)⟩
      · obtain ⟨⟨n', hn', hname⟩, hvisible⟩ := Outline.mem_invocationsAll h
        refine ⟨⟨n', List.mem_cons_of_mem n hn', hname⟩, fun name hmem => ?_⟩
        rcases hvisible name hmem with hmem | hmem
        · rcases List.mem_append.1 hmem with hmem | hmem
          · exact .inr (List.mem_append_left _ hmem)
          · exact .inl hmem
        · exact .inr (List.mem_append_right _ hmem)

theorem Outline.mem_invocationsAll {visible : List String} {i : Invocation ℓ} :
    ∀ {os : List (Outline ℓ)}, i ∈ invocationsAll visible os →
      (∃ n ∈ nodesAll os, n.calleeName? = i.name?) ∧
        ∀ name ∈ i.visible, name ∈ visible ∨ name ∈ (nodesAll os).flatMap Node.names
  | [], h => nomatch h
  | o :: rest, h => by
      rw [nodesAll, List.flatMap_append]
      rcases List.mem_append.1 h with h | h
      · obtain ⟨⟨n, hn, hname⟩, hvisible⟩ := Outline.mem_invocations h
        exact ⟨⟨n, List.mem_append_left _ hn, hname⟩,
          fun name hmem => (hvisible name hmem).imp_right (List.mem_append_left _)⟩
      · obtain ⟨⟨n, hn, hname⟩, hvisible⟩ := Outline.mem_invocationsAll h
        exact ⟨⟨n, List.mem_append_right _ hn, hname⟩,
          fun name hmem => (hvisible name hmem).imp_right (List.mem_append_right _)⟩

end

end TemplateScope
