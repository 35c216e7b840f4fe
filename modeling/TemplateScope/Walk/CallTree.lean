import TemplateScope.Walk.Events

/-!
# The hook calls that a tree calls for

Every node of a template calls for certain hooks, and a hook that has something below it encloses
the calls for what is below. `Template.callTree` says which calls these are and how they nest, and
`CallTree.preorder` lists them, leaving out what a skipped hook encloses.
-/

namespace TemplateScope

/-- A hook call and the calls that it encloses, in order. -/
inductive CallTree where
  | node (event : Event) (below : List CallTree)

namespace CallTree

def leaf (hook : Hook) (label : String) : CallTree := .node ⟨hook, label⟩ []

mutual

/-- The call itself, and then those below it unless its hook is skipped. -/
def preorder (skip : List Hook) : CallTree → List Event
  | .node event below => event :: if event.hook ∈ skip then [] else preorderAll skip below

def preorderAll (skip : List Hook) : List CallTree → List Event
  | [] => []
  | tree :: rest => preorder skip tree ++ preorderAll skip rest

end

end CallTree

variable {ℓ : Type}

mutual

def Expression.callTree : Expression ℓ → CallTree
  | .path p _ => .node ⟨.expression, "path"⟩ [.leaf .path p.spelling]
  | .call call _ =>
      .node ⟨.expression, "sub"⟩ [.node ⟨.subExpression, call.callee.calleeLabel⟩ call.callTrees]
  | .literal value _ => .node ⟨.expression, "literal"⟩ [.leaf .literal value.label]

def Call.callTrees : Call ℓ → List CallTree
  | ⟨callee, params, hash⟩ =>
      callee.callTree :: (Expression.callTrees params ++ [hash.callTree])

def Hash.callTree : Hash ℓ → CallTree
  | ⟨pairs, loc⟩ =>
      .node ⟨.hash, (⟨pairs, loc⟩ : Hash ℓ).label⟩ (HashPair.callTrees pairs)

def Expression.callTrees : List (Expression ℓ) → List CallTree
  | [] => []
  | e :: rest => e.callTree :: Expression.callTrees rest

def HashPair.callTrees : List (HashPair ℓ) → List CallTree
  | [] => []
  | ⟨_, value, _⟩ :: rest => value.callTree :: HashPair.callTrees rest

end

def TextRun.callTree (t : TextRun ℓ) : CallTree := .leaf .text t.chars

def Comment.callTree (c : Comment ℓ) : CallTree := .leaf .mustacheComment c.value

def Mustache.callTree (m : Mustache ℓ) : CallTree :=
  .node ⟨.mustache, m.call.callee.calleeLabel⟩ m.call.callTrees

def Modifier.callTree (m : Modifier ℓ) : CallTree :=
  .node ⟨.elementModifier, m.call.callee.calleeLabel⟩ m.call.callTrees

def ConcatPart.callTree : ConcatPart ℓ → CallTree
  | .text t => t.callTree
  | .mustache m => m.callTree

def AttributeValue.callTrees : AttributeValue ℓ → List CallTree
  | .text t => [t.callTree]
  | .mustache m => [m.callTree]
  | .concat parts _ => parts.map ConcatPart.callTree

def Attribute.callTree (a : Attribute ℓ) : CallTree := .node ⟨.attr, a.name⟩ a.value.callTrees

mutual

def Statement.callTree : Statement ℓ → CallTree
  | .mustache m => .node ⟨.statement, "mustache"⟩ [m.callTree]
  | .block b => .node ⟨.statement, "block"⟩ [b.callTree]
  | .element e => .node ⟨.statement, "element"⟩ [e.callTree]
  | .text t => .node ⟨.statement, "text"⟩ [t.callTree]
  | .mustacheComment c => .node ⟨.statement, "mustacheComment"⟩ [c.callTree]
  | .comment c => .node ⟨.statement, "comment"⟩ [.leaf .comment c.value]

def BlockStatement.callTree : BlockStatement ℓ → CallTree
  | ⟨call, program, none, _⟩ =>
      .node ⟨.blockStatement, call.callee.calleeLabel⟩ (call.callTrees ++ [program.callTree])
  | ⟨call, program, some inverse, _⟩ =>
      .node ⟨.blockStatement, call.callee.calleeLabel⟩
        (call.callTrees ++ [program.callTree, inverse.callTree])

def Block.callTree : Block ℓ → CallTree
  | ⟨blockParams, body, _⟩ =>
      .node ⟨.block, ",".intercalate blockParams⟩ (Statement.callTrees body)

def Element.callTree : Element ℓ → CallTree
  | ⟨tag, attributes, _, modifiers, comments, children, _, _⟩ =>
      .node ⟨.element, tag⟩ (attributes.map Attribute.callTree ++
        modifiers.map Modifier.callTree ++
        .node ⟨.elementChildren, tag⟩ (Statement.callTrees children) ::
        comments.map Comment.callTree)

def Statement.callTrees : List (Statement ℓ) → List CallTree
  | [] => []
  | s :: rest => s.callTree :: Statement.callTrees rest

end

def Template.callTree (t : Template ℓ) : CallTree :=
  .node ⟨.template, ",".intercalate t.blockParams⟩ (Statement.callTrees t.body)

end TemplateScope
