import TemplateScope.Source.Location
import TemplateScope.Syntax.ElementBuilder

/-!
# Building a tree

A builder stamps one location on every node that it makes. Moving it gives another builder, so that
the location of one node is not that of the next. Only a hash pair is not stamped: it is put where
its value stands. A described tree is built node by node, by a builder that is moved for each node
of which the description says where it is to stand.
-/

namespace TemplateScope

structure TemplateBuilder where
  loc : Location

/-- Where a node is to stand, if that is said. -/
abbrev Place := Option Coords

namespace TemplateBuilder

def new : TemplateBuilder := ⟨.synthetic⟩

def moved (b : TemplateBuilder) (loc : Location) : TemplateBuilder := { b with loc }

def movedToCoords (b : TemplateBuilder) (c : Coords) : Except LocationError TemplateBuilder :=
  return b.moved (← Location.ofCoords c)

def movedTo (b : TemplateBuilder) : Place → Except LocationError TemplateBuilder
  | none => return b
  | some c => b.movedToCoords c

variable (b : TemplateBuilder)

/-! ## Expressions -/

def pathOf (p : Path) : Expression Location := .path p b.loc

def path (original : String) : Expression Location := b.pathOf (Path.parse original)

def subExpression (call : Call Location) : Expression Location := .call call b.loc

def literal (value : Literal) : Expression Location := .literal value b.loc

def string (value : String) : Expression Location := b.literal (.string value)

def number (bits : UInt64) : Expression Location := b.literal (.number bits)

def hash (pairs : List (String × Expression Location)) : Hash Location :=
  -- The pair takes the location of its value, not the builder's.
  ⟨pairs.map fun (key, value) => ⟨key, value, value.loc⟩, b.loc⟩

/-! ## Parts of elements -/

def textNode (chars : String) : TextRun Location := ⟨chars, b.loc⟩

def mustacheCommentNode (value : String) : Comment Location := ⟨value, b.loc⟩

def mustacheNode (call : Call Location) : Mustache Location := ⟨call, false, b.loc⟩

def concat (parts : List (ConcatPart Location)) : AttributeValue Location := .concat parts b.loc

def attr (name : String) (value : AttributeValue Location) : Attribute Location :=
  ⟨name, value, b.loc⟩

def modifier (call : Call Location) : Modifier Location := ⟨call, b.loc⟩

/-! ## Statements -/

def mustache (call : Call Location) : Statement Location := .mustache (b.mustacheNode call)

def tripleCurly (call : Call Location) : Statement Location :=
  .mustache { b.mustacheNode call with trusting := true }

def blockStatement (call : Call Location) (program : Block Location)
    (inverse : Option (Block Location)) : Statement Location :=
  .block ⟨call, program, inverse, b.loc⟩

def element (tag : String) (steps : List (ElementStep Location)) : Statement Location :=
  .element (Element.ofSteps tag b.loc steps)

def text (chars : String) : Statement Location := .text (b.textNode chars)

def mustacheComment (value : String) : Statement Location :=
  .mustacheComment (b.mustacheCommentNode value)

def comment (value : String) : Statement Location := .comment ⟨value, b.loc⟩

/-! ## Programs -/

def block (blockParams : List String) (body : List (Statement Location)) : Block Location :=
  ⟨blockParams, body, b.loc⟩

def template (body : List (Statement Location)) : Template Location := ⟨[], body, b.loc⟩

end TemplateBuilder

/-! ## Building what is described -/

section Build

variable (b : TemplateBuilder)

def Literal.build : Literal → Expression Location
  | .string value => b.string value
  | .number bits => b.number bits
  | value => b.literal value

mutual

def Expression.build : Expression Place Unit → Except LocationError (Expression Location)
  | .path p place => return (← b.movedTo place).pathOf p
  | .call call place => return (← b.movedTo place).subExpression (← call.build)
  | .literal value place => return value.build (← b.movedTo place)

def Call.build : Call Place Unit → Except LocationError (Call Location)
  | ⟨callee, params, hash⟩ =>
      return ⟨← callee.build, ← Expression.buildAll params, ← hash.build⟩

def Hash.build : Hash Place Unit → Except LocationError (Hash Location)
  | ⟨pairs, place⟩ => return (← b.movedTo place).hash (← HashPair.buildAll pairs)

def HashPair.build : HashPair Place Unit → Except LocationError (String × Expression Location)
  | ⟨key, value, _⟩ => return (key, ← value.build)

def Expression.buildAll :
    List (Expression Place Unit) → Except LocationError (List (Expression Location))
  | [] => return []
  | e :: rest => return (← e.build) :: (← Expression.buildAll rest)

def HashPair.buildAll :
    List (HashPair Place Unit) → Except LocationError (List (String × Expression Location))
  | [] => return []
  | p :: rest => return (← p.build) :: (← HashPair.buildAll rest)

end

def TextRun.build (t : TextRun Place) : Except LocationError (TextRun Location) :=
  return (← b.movedTo t.loc).textNode t.chars

def Comment.build (c : Comment Place) : Except LocationError (Comment Location) :=
  return (← b.movedTo c.loc).mustacheCommentNode c.value

def Mustache.build (m : Mustache Place Unit) : Except LocationError (Mustache Location) :=
  return { (← b.movedTo m.loc).mustacheNode (← m.call.build b) with trusting := m.trusting }

def Modifier.build (m : Modifier Place Unit) : Except LocationError (Modifier Location) :=
  return (← b.movedTo m.loc).modifier (← m.call.build b)

def ConcatPart.build : ConcatPart Place Unit → Except LocationError (ConcatPart Location)
  | .text t => return .text (← t.build b)
  | .mustache m => return .mustache (← m.build b)

def AttributeValue.build :
    AttributeValue Place Unit → Except LocationError (AttributeValue Location)
  | .text t => return .text (← t.build b)
  | .mustache m => return .mustache (← m.build b)
  | .concat parts place => return (← b.movedTo place).concat (← parts.mapM (·.build b))

def Attribute.build (a : Attribute Place Unit) : Except LocationError (Attribute Location) :=
  return (← b.movedTo a.loc).attr a.name (← a.value.build b)

mutual

def Statement.build : Statement Place Unit → Except LocationError (Statement Location)
  | .mustache ⟨call, trusting, place⟩ => do
      let builder ← b.movedTo place
      let call ← call.build b
      return if trusting then builder.tripleCurly call else builder.mustache call
  | .block s => s.build
  | .element e => e.build
  | .text ⟨chars, place⟩ => return (← b.movedTo place).text chars
  | .mustacheComment ⟨value, place⟩ => return (← b.movedTo place).mustacheComment value
  | .comment ⟨value, place⟩ => return (← b.movedTo place).comment value

def BlockStatement.build : BlockStatement Place Unit → Except LocationError (Statement Location)
  | ⟨call, program, none, place⟩ =>
      return (← b.movedTo place).blockStatement (← call.build b) (← program.build) none
  | ⟨call, program, some inverse, place⟩ =>
      return (← b.movedTo place).blockStatement (← call.build b) (← program.build)
        (some (← inverse.build))

def Block.build : Block Place Unit → Except LocationError (Block Location)
  | ⟨blockParams, body, place⟩ =>
      return (← b.movedTo place).block blockParams (← Statement.buildAll body)

def Element.build : Element Place Unit → Except LocationError (Statement Location)
  | ⟨tag, attributes, blockParams, modifiers, comments, children, selfClosing, place⟩ => do
      let builder ← b.movedTo place
      let attributes ← attributes.mapM (·.build b)
      let modifiers ← modifiers.mapM (·.build b)
      let comments ← comments.mapM (·.build b)
      let children ← Statement.buildAll children
      return builder.element tag
        (ElementStep.inTurn attributes blockParams modifiers comments children selfClosing)

def Statement.buildAll :
    List (Statement Place Unit) → Except LocationError (List (Statement Location))
  | [] => return []
  | s :: rest => return (← s.build) :: (← Statement.buildAll rest)

end

/-- The names over the body are set on the finished root, for no builder takes them. -/
def Template.build (t : Template Place Unit) : Except LocationError (Template Location) :=
  return { (← b.movedTo t.loc).template (← Statement.buildAll b t.body) with
    blockParams := t.blockParams }

end Build

end TemplateScope
