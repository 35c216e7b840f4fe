import TemplateScope.Syntax.Tree

/-!
# Annotations of a tree

Two ways to look at the annotations of a tree: `locs` lists those of its nodes, and `mapLoc` replaces
them together with those of its hash pairs.
-/

namespace TemplateScope

variable {ℓ κ π ρ : Type}

/-! ## Listing -/

mutual

def Expression.locs : Expression ℓ π → List ℓ
  | .path _ loc => [loc]
  | .call call loc => loc :: call.locs
  | .literal _ loc => [loc]

def Call.locs : Call ℓ π → List ℓ
  | ⟨callee, params, hash⟩ => callee.locs ++ Expression.locsAll params ++ hash.locs

def Hash.locs : Hash ℓ π → List ℓ
  | ⟨pairs, loc⟩ => loc :: HashPair.locsAll pairs

def HashPair.locs : HashPair ℓ π → List ℓ
  | ⟨_, value, _⟩ => value.locs

def Expression.locsAll : List (Expression ℓ π) → List ℓ
  | [] => []
  | e :: rest => e.locs ++ Expression.locsAll rest

def HashPair.locsAll : List (HashPair ℓ π) → List ℓ
  | [] => []
  | p :: rest => p.locs ++ HashPair.locsAll rest

end

def Mustache.locs (m : Mustache ℓ π) : List ℓ := m.loc :: m.call.locs

def Modifier.locs (m : Modifier ℓ π) : List ℓ := m.loc :: m.call.locs

def ConcatPart.locs : ConcatPart ℓ π → List ℓ
  | .text t => [t.loc]
  | .mustache m => m.locs

def AttributeValue.locs : AttributeValue ℓ π → List ℓ
  | .text t => [t.loc]
  | .mustache m => m.locs
  | .concat parts loc => loc :: parts.flatMap ConcatPart.locs

def Attribute.locs (a : Attribute ℓ π) : List ℓ := a.loc :: a.value.locs

mutual

def Statement.locs : Statement ℓ π → List ℓ
  | .mustache m => m.locs
  | .block b => b.locs
  | .element e => e.locs
  | .text t => [t.loc]
  | .mustacheComment c => [c.loc]
  | .comment c => [c.loc]

def BlockStatement.locs : BlockStatement ℓ π → List ℓ
  | ⟨call, program, none, loc⟩ => loc :: (call.locs ++ program.locs)
  | ⟨call, program, some inverse, loc⟩ => loc :: (call.locs ++ program.locs ++ inverse.locs)

def Block.locs : Block ℓ π → List ℓ
  | ⟨_, body, loc⟩ => loc :: Statement.locsAll body

def Element.locs : Element ℓ π → List ℓ
  | ⟨_, attributes, _, modifiers, comments, children, _, loc⟩ =>
      loc :: (attributes.flatMap Attribute.locs ++ modifiers.flatMap Modifier.locs ++
        comments.map Comment.loc ++ Statement.locsAll children)

def Statement.locsAll : List (Statement ℓ π) → List ℓ
  | [] => []
  | s :: rest => s.locs ++ Statement.locsAll rest

end

def Template.locs (t : Template ℓ π) : List ℓ := t.loc :: Statement.locsAll t.body

/-! ## Replacing -/

mutual

def Expression.mapLoc (f : ℓ → κ) (g : π → ρ) : Expression ℓ π → Expression κ ρ
  | .path p loc => .path p (f loc)
  | .call call loc => .call (call.mapLoc f g) (f loc)
  | .literal value loc => .literal value (f loc)

def Call.mapLoc (f : ℓ → κ) (g : π → ρ) : Call ℓ π → Call κ ρ
  | ⟨callee, params, hash⟩ =>
      ⟨callee.mapLoc f g, Expression.mapLocAll f g params, hash.mapLoc f g⟩

def Hash.mapLoc (f : ℓ → κ) (g : π → ρ) : Hash ℓ π → Hash κ ρ
  | ⟨pairs, loc⟩ => ⟨HashPair.mapLocAll f g pairs, f loc⟩

def HashPair.mapLoc (f : ℓ → κ) (g : π → ρ) : HashPair ℓ π → HashPair κ ρ
  | ⟨key, value, loc⟩ => ⟨key, value.mapLoc f g, g loc⟩

def Expression.mapLocAll (f : ℓ → κ) (g : π → ρ) : List (Expression ℓ π) → List (Expression κ ρ)
  | [] => []
  | e :: rest => e.mapLoc f g :: Expression.mapLocAll f g rest

def HashPair.mapLocAll (f : ℓ → κ) (g : π → ρ) : List (HashPair ℓ π) → List (HashPair κ ρ)
  | [] => []
  | p :: rest => p.mapLoc f g :: HashPair.mapLocAll f g rest

end

def TextRun.mapLoc (f : ℓ → κ) (t : TextRun ℓ) : TextRun κ := ⟨t.chars, f t.loc⟩

def Comment.mapLoc (f : ℓ → κ) (c : Comment ℓ) : Comment κ := ⟨c.value, f c.loc⟩

def Mustache.mapLoc (f : ℓ → κ) (g : π → ρ) (m : Mustache ℓ π) : Mustache κ ρ :=
  ⟨m.call.mapLoc f g, m.trusting, f m.loc⟩

def Modifier.mapLoc (f : ℓ → κ) (g : π → ρ) (m : Modifier ℓ π) : Modifier κ ρ :=
  ⟨m.call.mapLoc f g, f m.loc⟩

def ConcatPart.mapLoc (f : ℓ → κ) (g : π → ρ) : ConcatPart ℓ π → ConcatPart κ ρ
  | .text t => .text (t.mapLoc f)
  | .mustache m => .mustache (m.mapLoc f g)

def AttributeValue.mapLoc (f : ℓ → κ) (g : π → ρ) : AttributeValue ℓ π → AttributeValue κ ρ
  | .text t => .text (t.mapLoc f)
  | .mustache m => .mustache (m.mapLoc f g)
  | .concat parts loc => .concat (parts.map (·.mapLoc f g)) (f loc)

def Attribute.mapLoc (f : ℓ → κ) (g : π → ρ) (a : Attribute ℓ π) : Attribute κ ρ :=
  ⟨a.name, a.value.mapLoc f g, f a.loc⟩

mutual

def Statement.mapLoc (f : ℓ → κ) (g : π → ρ) : Statement ℓ π → Statement κ ρ
  | .mustache m => .mustache (m.mapLoc f g)
  | .block b => .block (b.mapLoc f g)
  | .element e => .element (e.mapLoc f g)
  | .text t => .text (t.mapLoc f)
  | .mustacheComment c => .mustacheComment (c.mapLoc f)
  | .comment c => .comment (c.mapLoc f)

def BlockStatement.mapLoc (f : ℓ → κ) (g : π → ρ) : BlockStatement ℓ π → BlockStatement κ ρ
  | ⟨call, program, none, loc⟩ => ⟨call.mapLoc f g, program.mapLoc f g, none, f loc⟩
  | ⟨call, program, some inverse, loc⟩ =>
      ⟨call.mapLoc f g, program.mapLoc f g, some (inverse.mapLoc f g), f loc⟩

def Block.mapLoc (f : ℓ → κ) (g : π → ρ) : Block ℓ π → Block κ ρ
  | ⟨blockParams, body, loc⟩ => ⟨blockParams, Statement.mapLocAll f g body, f loc⟩

def Element.mapLoc (f : ℓ → κ) (g : π → ρ) : Element ℓ π → Element κ ρ
  | ⟨tag, attributes, blockParams, modifiers, comments, children, selfClosing, loc⟩ =>
      ⟨tag, attributes.map (·.mapLoc f g), blockParams, modifiers.map (·.mapLoc f g),
        comments.map (·.mapLoc f), Statement.mapLocAll f g children, selfClosing, f loc⟩

def Statement.mapLocAll (f : ℓ → κ) (g : π → ρ) : List (Statement ℓ π) → List (Statement κ ρ)
  | [] => []
  | s :: rest => s.mapLoc f g :: Statement.mapLocAll f g rest

end

def Template.mapLoc (f : ℓ → κ) (g : π → ρ) (t : Template ℓ π) : Template κ ρ :=
  ⟨t.blockParams, Statement.mapLocAll f g t.body, f t.loc⟩

end TemplateScope
