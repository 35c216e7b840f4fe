import TemplateScope.Walk.Visitor

/-!
# What every visit of a walk has

A walk is put together from hooks, from doing nothing and from doing one thing after another. A
property of visits that survives these (`Visitor.Preserves`) holds of the walk over any tree.
-/

namespace TemplateScope

variable {ℓ σ ε : Type}

/-- The property `P` holds of doing nothing, of a sequence if it holds of its parts, and of every
hook call if it holds of what lies below. -/
structure Visitor.Preserves (v : Visitor ℓ σ ε) (P : Visit σ ε Unit → Prop) : Prop where
  nothing : P (pure ())
  sequence : ∀ {x y : Visit σ ε Unit}, P x → P y → P (do x; y)
  template : ∀ t {below}, P below → P (v.template t below)
  block : ∀ b {below}, P below → P (v.block b below)
  statement : ∀ s {below}, P below → P (v.statement s below)
  mustache : ∀ m {below}, P below → P (v.mustache m below)
  blockStatement : ∀ b {below}, P below → P (v.blockStatement b below)
  element : ∀ e {below}, P below → P (v.element e below)
  elementChildren : ∀ e {below}, P below → P (v.elementChildren e below)
  attr : ∀ a {below}, P below → P (v.attr a below)
  modifier : ∀ m {below}, P below → P (v.modifier m below)
  text : ∀ t, P (v.text t)
  mustacheComment : ∀ c, P (v.mustacheComment c)
  comment : ∀ c, P (v.comment c)
  expression : ∀ e {below}, P below → P (v.expression e below)
  subExpression : ∀ c loc {below}, P below → P (v.subExpression c loc below)
  path : ∀ p loc, P (v.path p loc)
  literal : ∀ l loc, P (v.literal l loc)
  hash : ∀ h {below}, P below → P (v.hash h below)

namespace Visitor.Preserves

variable {v : Visitor ℓ σ ε} {P : Visit σ ε Unit → Prop} (h : v.Preserves P)

include h

mutual

theorem visitExpression : ∀ e, P (v.visitExpression e)
  | .path p loc => h.expression _ (h.path p loc)
  | .call c loc => h.expression _ (h.subExpression c loc (walkCall c))
  | .literal l loc => h.expression _ (h.literal l loc)

theorem walkCall : ∀ c, P (v.walkCall c)
  | ⟨callee, params, hash⟩ =>
      h.sequence (visitExpression callee) (h.sequence (visitExpressions params) (visitHash hash))

theorem visitHash : ∀ hash, P (v.visitHash hash)
  | ⟨pairs, _⟩ => h.hash _ (visitPairs pairs)

theorem visitExpressions : ∀ es, P (v.visitExpressions es)
  | [] => h.nothing
  | e :: rest => h.sequence (visitExpression e) (visitExpressions rest)

theorem visitPairs : ∀ pairs, P (v.visitPairs pairs)
  | [] => h.nothing
  | ⟨_, value, _⟩ :: rest => h.sequence (visitExpression value) (visitPairs rest)

end

theorem visitMustache (m : Mustache ℓ) : P (v.visitMustache m) :=
  h.mustache m (h.walkCall m.call)

theorem visitModifiers (ms : List (Modifier ℓ)) : P (v.visitModifiers ms) := by
  induction ms with
  | nil => exact h.nothing
  | cons m rest ih => exact h.sequence (h.modifier m (h.walkCall m.call)) ih

theorem visitConcatParts (parts : List (ConcatPart ℓ)) : P (v.visitConcatParts parts) := by
  induction parts with
  | nil => exact h.nothing
  | cons part rest ih =>
      cases part with
      | text t => exact h.sequence (h.text t) ih
      | mustache m => exact h.sequence (h.visitMustache m) ih

theorem walkAttributeValue (value : AttributeValue ℓ) : P (v.walkAttributeValue value) := by
  cases value with
  | text t => exact h.text t
  | mustache m => exact h.visitMustache m
  | concat parts _ => exact h.visitConcatParts parts

theorem visitAttributes (as : List (Attribute ℓ)) : P (v.visitAttributes as) := by
  induction as with
  | nil => exact h.nothing
  | cons a rest ih => exact h.sequence (h.attr a (h.walkAttributeValue a.value)) ih

theorem visitComments (cs : List (Comment ℓ)) : P (v.visitComments cs) := by
  induction cs with
  | nil => exact h.nothing
  | cons c rest ih => exact h.sequence (h.mustacheComment c) ih

mutual

theorem visitStatement : ∀ s, P (v.visitStatement s)
  | .mustache m => h.statement _ (h.visitMustache m)
  | .block b => h.statement _ (visitBlockStatement b)
  | .element e => h.statement _ (visitElement e)
  | .text t => h.statement _ (h.text t)
  | .mustacheComment c => h.statement _ (h.mustacheComment c)
  | .comment c => h.statement _ (h.comment c)

theorem visitBlockStatement : ∀ b, P (v.visitBlockStatement b)
  | ⟨call, program, none, _⟩ =>
      h.blockStatement _ (h.sequence (h.walkCall call) (visitBlock program))
  | ⟨call, program, some inverse, _⟩ =>
      h.blockStatement _ (h.sequence (h.walkCall call)
        (h.sequence (visitBlock program) (visitBlock inverse)))

theorem visitBlock : ∀ b, P (v.visitBlock b)
  | ⟨_, body, _⟩ => h.block _ (visitStatements body)

theorem visitElement : ∀ e, P (v.visitElement e)
  | ⟨_, attributes, _, modifiers, comments, children, _, _⟩ =>
      h.element _ (h.sequence (h.visitAttributes attributes)
        (h.sequence (h.visitModifiers modifiers)
          (h.sequence (h.elementChildren _ (visitStatements children)) (h.visitComments comments))))

theorem visitStatements : ∀ ss, P (v.visitStatements ss)
  | [] => h.nothing
  | s :: rest => h.sequence (visitStatement s) (visitStatements rest)

end

theorem visitTemplate (t : Template ℓ) : P (v.visitTemplate t) :=
  h.template t (h.visitStatements t.body)

end Visitor.Preserves

end TemplateScope
