import TemplateScope.Shadowing.Conflict
import TemplateScope.Syntax.Tree

/-!
# The invocations of a template

`Template.invocations` lists what a template invokes, in document order, each time with the names
that are bound around it. Nothing here is stateful: the names in scope are handed down the tree, so
the list says by itself which block params cover which invocation.
-/

namespace TemplateScope

/-- A call that can be shadowed. -/
structure Invocation (ℓ : Type) where
  /-- The name that is looked up, unless the callee is no path or begins at `this`. -/
  name? : Option String
  role : Role
  loc : ℓ
  /-- The names bound around the call, innermost first. -/
  visible : List String
deriving DecidableEq, Repr

namespace Invocation

variable {ℓ : Type}

def shadowed? (i : Invocation ℓ) : Option String := i.name?.filter (· ∈ i.visible)

end Invocation

variable {ℓ : Type}

mutual

def Expression.invocations (visible : List String) : Expression ℓ → List (Invocation ℓ)
  | .path _ _ => []
  | .call call loc =>
      ⟨call.callee.headName?, .helper, loc, visible⟩ :: call.invocations visible
  | .literal _ _ => []

def Call.invocations (visible : List String) : Call ℓ → List (Invocation ℓ)
  | ⟨callee, params, hash⟩ =>
      callee.invocations visible ++
        (Expression.invocationsAll visible params ++ hash.invocations visible)

def Hash.invocations (visible : List String) : Hash ℓ → List (Invocation ℓ)
  | ⟨pairs, _⟩ => HashPair.invocationsAll visible pairs

def Expression.invocationsAll (visible : List String) : List (Expression ℓ) → List (Invocation ℓ)
  | [] => []
  | e :: rest => e.invocations visible ++ Expression.invocationsAll visible rest

def HashPair.invocationsAll (visible : List String) : List (HashPair ℓ) → List (Invocation ℓ)
  | [] => []
  | ⟨_, value, _⟩ :: rest => value.invocations visible ++ HashPair.invocationsAll visible rest

end

/-- A mustache that passes nothing on is a value and no invocation. -/
def Mustache.invocations (visible : List String) (m : Mustache ℓ) : List (Invocation ℓ) :=
  (if m.call.hasArguments then [⟨m.call.callee.headName?, .helper, m.loc, visible⟩] else []) ++
    m.call.invocations visible

def Modifier.invocations (visible : List String) (m : Modifier ℓ) : List (Invocation ℓ) :=
  ⟨m.call.callee.headName?, .modifier, m.loc, visible⟩ :: m.call.invocations visible

def ConcatPart.invocations (visible : List String) : ConcatPart ℓ → List (Invocation ℓ)
  | .text _ => []
  | .mustache m => m.invocations visible

def AttributeValue.invocations (visible : List String) : AttributeValue ℓ → List (Invocation ℓ)
  | .text _ => []
  | .mustache m => m.invocations visible
  | .concat parts _ => parts.flatMap (·.invocations visible)

def Attribute.invocations (visible : List String) (a : Attribute ℓ) : List (Invocation ℓ) :=
  a.value.invocations visible

mutual

def Statement.invocations (visible : List String) : Statement ℓ → List (Invocation ℓ)
  | .mustache m => m.invocations visible
  | .block b => b.invocations visible
  | .element e => e.invocations visible
  | .text _ => []
  | .mustacheComment _ => []
  | .comment _ => []

/-- Neither the call nor the other branch sees the block params of a branch. -/
def BlockStatement.invocations (visible : List String) : BlockStatement ℓ → List (Invocation ℓ)
  | ⟨call, program, none, _⟩ => call.invocations visible ++ program.invocations visible
  | ⟨call, program, some inverse, _⟩ =>
      call.invocations visible ++ (program.invocations visible ++ inverse.invocations visible)

def Block.invocations (visible : List String) : Block ℓ → List (Invocation ℓ)
  | ⟨blockParams, body, _⟩ => Statement.invocationsAll (blockParams ++ visible) body

/-- Only the children see the block params of an element. -/
def Element.invocations (visible : List String) : Element ℓ → List (Invocation ℓ)
  | ⟨_, attributes, blockParams, modifiers, _, children, _, _⟩ =>
      attributes.flatMap (·.invocations visible) ++
        (modifiers.flatMap (·.invocations visible) ++
          Statement.invocationsAll (blockParams ++ visible) children)

def Statement.invocationsAll (visible : List String) : List (Statement ℓ) → List (Invocation ℓ)
  | [] => []
  | s :: rest => s.invocations visible ++ Statement.invocationsAll visible rest

end

def Template.invocations (t : Template ℓ) : List (Invocation ℓ) :=
  Statement.invocationsAll t.blockParams t.body

end TemplateScope
