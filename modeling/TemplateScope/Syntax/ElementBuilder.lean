import TemplateScope.Syntax.Tree

/-!
# Building an element step by step

The parts of an element can be given one call at a time and in any interleaving. Every step only
appends to the list of its own kind, so the order between steps of different kinds is lost.
-/

namespace TemplateScope

variable {ℓ : Type}

inductive ElementStep (ℓ : Type) where
  | attr (attr : Attribute ℓ)
  | blockParams (names : List String)
  | modifier (modifier : Modifier ℓ)
  | comment (comment : Comment ℓ)
  | child (statement : Statement ℓ)
  | children (statements : List (Statement ℓ))
  | selfClosing

/-- One call for each part of an element, and one for all its children. -/
def ElementStep.inTurn (attributes : List (Attribute ℓ)) (blockParams : List String)
    (modifiers : List (Modifier ℓ)) (comments : List (Comment ℓ)) (children : List (Statement ℓ))
    (selfClosing : Bool) : List (ElementStep ℓ) :=
  attributes.map .attr ++ [.blockParams blockParams] ++ modifiers.map .modifier ++
    comments.map .comment ++ [.children children] ++ if selfClosing then [.selfClosing] else []

namespace Element

def bare (tag : String) (loc : ℓ) : Element ℓ :=
  { tag, attributes := [], blockParams := [], modifiers := [], comments := [], children := [],
    selfClosing := false, loc }

def extend (e : Element ℓ) : ElementStep ℓ → Element ℓ
  | .attr a => { e with attributes := e.attributes ++ [a] }
  | .blockParams names => { e with blockParams := e.blockParams ++ names }
  | .modifier m => { e with modifiers := e.modifiers ++ [m] }
  | .comment c => { e with comments := e.comments ++ [c] }
  | .child s => { e with children := e.children ++ [s] }
  | .children ss => { e with children := e.children ++ ss }
  | .selfClosing => { e with selfClosing := true }

/-- The element that the steps describe, taken in order. -/
def ofSteps (tag : String) (loc : ℓ) (steps : List (ElementStep ℓ)) : Element ℓ :=
  steps.foldl extend (bare tag loc)

end Element

end TemplateScope
