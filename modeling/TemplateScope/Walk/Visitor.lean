import TemplateScope.Syntax.Tree

/-!
# Visitors and the walk

A visitor has one hook for each kind of node. A hook of an inner node is given the visit of what
lies below and decides whether, and around what, to run it; by default it just runs it. The walk
calls the hooks in document order and ends at the first error.

An element's block params cover its children alone, so the children have a hook of their own.
-/

namespace TemplateScope

/-- A visit may change a state `σ`, and may end the whole walk with an `ε`. What it did to the
state before it ended stays. -/
abbrev Visit (σ ε : Type) := ExceptT ε (StateM σ)

/-- A visit that ends hides the visits after it; any other hands its state on. -/
theorem Visit.seq_apply {σ ε : Type} (x y : Visit σ ε Unit) (s : σ) :
    (do x; y : Visit σ ε Unit) s =
      match x s with
      | (.ok (), s') => y s'
      | (.error e, s') => (.error e, s') := by
  change (ExceptT.bindCont (fun _ => y) (x s).1) (x s).2 = _
  rcases x s with ⟨_ | _, _⟩ <;> rfl

/-- The hooks of a traversal. -/
structure Visitor (ℓ σ ε : Type) where
  template : Template ℓ → Visit σ ε Unit → Visit σ ε Unit := fun _ below => below
  block : Block ℓ → Visit σ ε Unit → Visit σ ε Unit := fun _ below => below
  statement : Statement ℓ → Visit σ ε Unit → Visit σ ε Unit := fun _ below => below
  mustache : Mustache ℓ → Visit σ ε Unit → Visit σ ε Unit := fun _ below => below
  blockStatement : BlockStatement ℓ → Visit σ ε Unit → Visit σ ε Unit := fun _ below => below
  element : Element ℓ → Visit σ ε Unit → Visit σ ε Unit := fun _ below => below
  elementChildren : Element ℓ → Visit σ ε Unit → Visit σ ε Unit := fun _ below => below
  attr : Attribute ℓ → Visit σ ε Unit → Visit σ ε Unit := fun _ below => below
  modifier : Modifier ℓ → Visit σ ε Unit → Visit σ ε Unit := fun _ below => below
  text : TextRun ℓ → Visit σ ε Unit := fun _ => pure ()
  mustacheComment : Comment ℓ → Visit σ ε Unit := fun _ => pure ()
  comment : Comment ℓ → Visit σ ε Unit := fun _ => pure ()
  expression : Expression ℓ → Visit σ ε Unit → Visit σ ε Unit := fun _ below => below
  subExpression : Call ℓ → ℓ → Visit σ ε Unit → Visit σ ε Unit := fun _ _ below => below
  path : Path → ℓ → Visit σ ε Unit := fun _ _ => pure ()
  literal : Literal → ℓ → Visit σ ε Unit := fun _ _ => pure ()
  hash : Hash ℓ → Visit σ ε Unit → Visit σ ε Unit := fun _ below => below

namespace Visitor

variable {ℓ σ ε : Type} (v : Visitor ℓ σ ε)

mutual

def visitExpression : Expression ℓ → Visit σ ε Unit
  | e@(.path path loc) => v.expression e (v.path path loc)
  | e@(.call call loc) => v.expression e (v.subExpression call loc (walkCall call))
  | e@(.literal value loc) => v.expression e (v.literal value loc)

/-- The callee, then the positional and then the named arguments. -/
def walkCall : Call ℓ → Visit σ ε Unit
  | ⟨callee, params, hash⟩ => do
      visitExpression callee
      visitExpressions params
      visitHash hash

def visitHash : Hash ℓ → Visit σ ε Unit
  | h@⟨pairs, _⟩ => v.hash h (visitPairs pairs)

def visitExpressions : List (Expression ℓ) → Visit σ ε Unit
  | [] => pure ()
  | e :: rest => do
      visitExpression e
      visitExpressions rest

/-- Keys are part of the hash; only the values are visited. -/
def visitPairs : List (HashPair ℓ) → Visit σ ε Unit
  | [] => pure ()
  | ⟨_, value, _⟩ :: rest => do
      visitExpression value
      visitPairs rest

end

def visitMustache (m : Mustache ℓ) : Visit σ ε Unit :=
  v.mustache m (v.walkCall m.call)

def visitModifier (m : Modifier ℓ) : Visit σ ε Unit :=
  v.modifier m (v.walkCall m.call)

def visitModifiers : List (Modifier ℓ) → Visit σ ε Unit
  | [] => pure ()
  | m :: rest => do
      v.visitModifier m
      visitModifiers rest

def visitConcatPart : ConcatPart ℓ → Visit σ ε Unit
  | .text t => v.text t
  | .mustache m => v.visitMustache m

def visitConcatParts : List (ConcatPart ℓ) → Visit σ ε Unit
  | [] => pure ()
  | part :: rest => do
      v.visitConcatPart part
      visitConcatParts rest

def walkAttributeValue : AttributeValue ℓ → Visit σ ε Unit
  | .text t => v.text t
  | .mustache m => v.visitMustache m
  | .concat parts _ => v.visitConcatParts parts

def visitAttribute (a : Attribute ℓ) : Visit σ ε Unit :=
  v.attr a (v.walkAttributeValue a.value)

def visitAttributes : List (Attribute ℓ) → Visit σ ε Unit
  | [] => pure ()
  | a :: rest => do
      v.visitAttribute a
      visitAttributes rest

/-- Comments inside a tag are of the curly kind. -/
def visitComments : List (Comment ℓ) → Visit σ ε Unit
  | [] => pure ()
  | c :: rest => do
      v.mustacheComment c
      visitComments rest

mutual

def visitStatement : Statement ℓ → Visit σ ε Unit
  | s@(.mustache m) => v.statement s (v.visitMustache m)
  | s@(.block b) => v.statement s (visitBlockStatement b)
  | s@(.element e) => v.statement s (visitElement e)
  | s@(.text t) => v.statement s (v.text t)
  | s@(.mustacheComment c) => v.statement s (v.mustacheComment c)
  | s@(.comment c) => v.statement s (v.comment c)

def visitBlockStatement : BlockStatement ℓ → Visit σ ε Unit
  | b@⟨call, program, none, _⟩ => v.blockStatement b do
      v.walkCall call
      visitBlock program
  | b@⟨call, program, some inverse, _⟩ => v.blockStatement b do
      v.walkCall call
      visitBlock program
      visitBlock inverse

def visitBlock : Block ℓ → Visit σ ε Unit
  | b@⟨_, body, _⟩ => v.block b (visitStatements body)

def visitElement : Element ℓ → Visit σ ε Unit
  | e@⟨_, attributes, _, modifiers, comments, children, _, _⟩ => v.element e do
      v.visitAttributes attributes
      v.visitModifiers modifiers
      v.elementChildren e (visitStatements children)
      v.visitComments comments

def visitStatements : List (Statement ℓ) → Visit σ ε Unit
  | [] => pure ()
  | s :: rest => do
      visitStatement s
      visitStatements rest

end

def visitTemplate (t : Template ℓ) : Visit σ ε Unit :=
  v.template t (v.visitStatements t.body)

def run (t : Template ℓ) (start : σ) : Except ε Unit × σ :=
  v.visitTemplate t start

end Visitor

end TemplateScope
