import TemplateScope.Syntax.Path

/-!
# Template trees

The tree of a template, from the root down to paths and literals. Each node carries an annotation
of type `ℓ`, and each hash pair one of type `π`, which is `ℓ` as well where it is not given. So a tree
of locations is a `Template Location`. A tree that is only described is a `Template Place Unit`: it
may say of any node where it is to stand, but not of a pair.
-/

namespace TemplateScope

/-- A literal value. A number is kept as the bits of a double, so that no two numbers that print
alike are confused. -/
inductive Literal where
  | string (value : String)
  | number (bits : UInt64)
  | boolean (value : Bool)
  | null
  | undefined
deriving DecidableEq, Repr

mutual

inductive Expression (ℓ : Type) (π : Type := ℓ) where
  | path (path : Path) (loc : ℓ)
  | call (call : Call ℓ π) (loc : ℓ)
  | literal (value : Literal) (loc : ℓ)

structure Call (ℓ : Type) (π : Type := ℓ) where
  callee : Expression ℓ π
  params : List (Expression ℓ π)
  hash : Hash ℓ π

/-- Named arguments in source order; a key may come twice. -/
structure Hash (ℓ : Type) (π : Type := ℓ) where
  pairs : List (HashPair ℓ π)
  loc : ℓ

structure HashPair (ℓ : Type) (π : Type := ℓ) where
  key : String
  value : Expression ℓ π
  loc : π

end

variable {ℓ : Type}

namespace Expression

def loc : Expression ℓ → ℓ
  | .path _ loc => loc
  | .call _ loc => loc
  | .literal _ loc => loc

def path? : Expression ℓ → Option Path
  | .path p _ => some p
  | .call _ _ => none
  | .literal _ _ => none

/-- The name under which a callee is looked up: only paths have one, and not those from `this`. -/
def headName? (e : Expression ℓ) : Option String := e.path?.bind Path.headName?

end Expression

/-- Whether anything is passed, by position or by name. -/
def Call.hasArguments (c : Call ℓ) : Bool := !c.params.isEmpty || !c.hash.pairs.isEmpty

structure TextRun (ℓ : Type) where
  chars : String
  loc : ℓ

/-- The text of a comment, in curly braces or in markup. -/
structure Comment (ℓ : Type) where
  value : String
  loc : ℓ

/-- A call in curly braces, of which `trusting` ones have three. -/
structure Mustache (ℓ : Type) (π : Type := ℓ) where
  call : Call ℓ π
  trusting : Bool
  loc : ℓ

structure Modifier (ℓ : Type) (π : Type := ℓ) where
  call : Call ℓ π
  loc : ℓ

inductive ConcatPart (ℓ : Type) (π : Type := ℓ) where
  | text (text : TextRun ℓ)
  | mustache (mustache : Mustache ℓ π)

inductive AttributeValue (ℓ : Type) (π : Type := ℓ) where
  | text (text : TextRun ℓ)
  | mustache (mustache : Mustache ℓ π)
  | concat (parts : List (ConcatPart ℓ π)) (loc : ℓ)

structure Attribute (ℓ : Type) (π : Type := ℓ) where
  name : String
  value : AttributeValue ℓ π
  loc : ℓ

mutual

inductive Statement (ℓ : Type) (π : Type := ℓ) where
  | mustache (mustache : Mustache ℓ π)
  | block (block : BlockStatement ℓ π)
  | element (element : Element ℓ π)
  | text (text : TextRun ℓ)
  | mustacheComment (comment : Comment ℓ)
  | comment (comment : Comment ℓ)

structure BlockStatement (ℓ : Type) (π : Type := ℓ) where
  call : Call ℓ π
  program : Block ℓ π
  inverse : Option (Block ℓ π)
  loc : ℓ

/-- A body and the names that are bound over it. -/
structure Block (ℓ : Type) (π : Type := ℓ) where
  blockParams : List String
  body : List (Statement ℓ π)
  loc : ℓ

/-- A tag. Its block params are bound over its children and over nothing else of it. -/
structure Element (ℓ : Type) (π : Type := ℓ) where
  tag : String
  attributes : List (Attribute ℓ π)
  blockParams : List String
  modifiers : List (Modifier ℓ π)
  comments : List (Comment ℓ)
  children : List (Statement ℓ π)
  selfClosing : Bool
  loc : ℓ

end

/-- The root of a tree, with names bound over the whole body. -/
structure Template (ℓ : Type) (π : Type := ℓ) where
  blockParams : List String
  body : List (Statement ℓ π)
  loc : ℓ

end TemplateScope
