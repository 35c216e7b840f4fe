import TemplateScope.Syntax.Tree

/-!
# Trees that bind other names

`Rebound` relates trees that differ in nothing but their block params. Each list of these is related
to the one that stands in its place, in a way that is left open.
-/

namespace TemplateScope

variable {ℓ : Type}

mutual

/-- The statements differ in block params alone, and each list of them is related by `R` to the one
in its place. -/
inductive Statement.Rebound (R : List String → List String → Prop) :
    Statement ℓ → Statement ℓ → Prop where
  | mustache (m : Mustache ℓ) : Statement.Rebound R (.mustache m) (.mustache m)
  | block {b b' : BlockStatement ℓ} : BlockStatement.Rebound R b b' →
      Statement.Rebound R (.block b) (.block b')
  | element {e e' : Element ℓ} : Element.Rebound R e e' →
      Statement.Rebound R (.element e) (.element e')
  | text (t : TextRun ℓ) : Statement.Rebound R (.text t) (.text t)
  | mustacheComment (c : Comment ℓ) :
      Statement.Rebound R (.mustacheComment c) (.mustacheComment c)
  | comment (c : Comment ℓ) : Statement.Rebound R (.comment c) (.comment c)

inductive BlockStatement.Rebound (R : List String → List String → Prop) :
    BlockStatement ℓ → BlockStatement ℓ → Prop where
  | withoutInverse (call : Call ℓ) {program program' : Block ℓ} (loc : ℓ) :
      Block.Rebound R program program' →
      BlockStatement.Rebound R ⟨call, program, none, loc⟩ ⟨call, program', none, loc⟩
  | withInverse (call : Call ℓ) {program program' inverse inverse' : Block ℓ} (loc : ℓ) :
      Block.Rebound R program program' → Block.Rebound R inverse inverse' →
      BlockStatement.Rebound R ⟨call, program, some inverse, loc⟩
        ⟨call, program', some inverse', loc⟩

inductive Block.Rebound (R : List String → List String → Prop) : Block ℓ → Block ℓ → Prop where
  | mk {names names' : List String} {body body' : List (Statement ℓ)} (loc : ℓ) :
      R names names' → Statement.ReboundAll R body body' →
      Block.Rebound R ⟨names, body, loc⟩ ⟨names', body', loc⟩

inductive Element.Rebound (R : List String → List String → Prop) :
    Element ℓ → Element ℓ → Prop where
  | mk (tag : String) (attributes : List (Attribute ℓ)) {names names' : List String}
      (modifiers : List (Modifier ℓ)) (comments : List (Comment ℓ))
      {children children' : List (Statement ℓ)} (selfClosing : Bool) (loc : ℓ) :
      R names names' → Statement.ReboundAll R children children' →
      Element.Rebound R ⟨tag, attributes, names, modifiers, comments, children, selfClosing, loc⟩
        ⟨tag, attributes, names', modifiers, comments, children', selfClosing, loc⟩

inductive Statement.ReboundAll (R : List String → List String → Prop) :
    List (Statement ℓ) → List (Statement ℓ) → Prop where
  | nil : Statement.ReboundAll R [] []
  | cons {s s' : Statement ℓ} {rest rest' : List (Statement ℓ)} : Statement.Rebound R s s' →
      Statement.ReboundAll R rest rest' → Statement.ReboundAll R (s :: rest) (s' :: rest')

end

inductive Template.Rebound (R : List String → List String → Prop) :
    Template ℓ → Template ℓ → Prop where
  | mk {names names' : List String} {body body' : List (Statement ℓ)} (loc : ℓ) :
      R names names' → Statement.ReboundAll R body body' →
      Template.Rebound R ⟨names, body, loc⟩ ⟨names', body', loc⟩

end TemplateScope
