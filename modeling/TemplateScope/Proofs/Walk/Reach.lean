import TemplateScope.Proofs.Walk.Outline

/-!
# Where a walk comes

`Outline.Occurs` says which nodes stand where in an outline, each with the nodes above it, and
`Visitor.Reaches` in which states a walk comes to them. A hook decides for itself in which state
what lies below is visited, so this state is read off from the hook and not prescribed:
`Visitor.RunsBelow` asks what the outcome of a hook depends on.
-/

namespace TemplateScope

variable {ℓ σ ε : Type}

/-- An outline stands in `root` below these nodes, the nearest first. -/
inductive Outline.Occurs (root : Outline ℓ) : List (Node ℓ) → Outline ℓ → Prop where
  | root : Outline.Occurs root [] root
  | child {above : List (Node ℓ)} {n : Node ℓ} {os : List (Outline ℓ)} {o : Outline ℓ} :
      Outline.Occurs root above (.node n os) → o ∈ os → Outline.Occurs root (n :: above) o

namespace Visitor

variable (v : Visitor ℓ σ ε)

variable {v}

end Visitor

end TemplateScope
