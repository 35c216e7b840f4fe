import TemplateScope.Proofs.Walk.Outline

/-!
# Renaming block params in a tree

`Template.renameParams` renames block params wherever they are bound, and nothing else. The outline
keeps its shape: only its nodes are renamed (`Template.outline_renameParams`).
-/

namespace TemplateScope

variable {ℓ : Type}

mutual

def Statement.renameParams (ρ : String → String) : Statement ℓ → Statement ℓ
  | .mustache m => .mustache m
  | .block b => .block (b.renameParams ρ)
  | .element e => .element (e.renameParams ρ)
  | .text t => .text t
  | .mustacheComment c => .mustacheComment c
  | .comment c => .comment c

def BlockStatement.renameParams (ρ : String → String) : BlockStatement ℓ → BlockStatement ℓ
  | ⟨call, program, none, loc⟩ => ⟨call, program.renameParams ρ, none, loc⟩
  | ⟨call, program, some inverse, loc⟩ =>
      ⟨call, program.renameParams ρ, some (inverse.renameParams ρ), loc⟩

def Block.renameParams (ρ : String → String) : Block ℓ → Block ℓ
  | ⟨blockParams, body, loc⟩ => ⟨blockParams.map ρ, Statement.renameParamsAll ρ body, loc⟩

def Element.renameParams (ρ : String → String) : Element ℓ → Element ℓ
  | ⟨tag, attributes, blockParams, modifiers, comments, children, selfClosing, loc⟩ =>
      ⟨tag, attributes, blockParams.map ρ, modifiers, comments,
        Statement.renameParamsAll ρ children, selfClosing, loc⟩

def Statement.renameParamsAll (ρ : String → String) : List (Statement ℓ) → List (Statement ℓ)
  | [] => []
  | s :: rest => s.renameParams ρ :: Statement.renameParamsAll ρ rest

end

/-- Rename the block params of a template wherever they are bound, and nothing else. -/
def Template.renameParams (ρ : String → String) (t : Template ℓ) : Template ℓ :=
  ⟨t.blockParams.map ρ, Statement.renameParamsAll ρ t.body, t.loc⟩

def Node.renameParams (ρ : String → String) : Node ℓ → Node ℓ
  | .template t => .template (t.renameParams ρ)
  | .block b => .block (b.renameParams ρ)
  | .statement s => .statement (s.renameParams ρ)
  | .blockStatement b => .blockStatement (b.renameParams ρ)
  | .element e => .element (e.renameParams ρ)
  | .elementChildren e => .elementChildren (e.renameParams ρ)
  | n => n

/-! ## The outline of a renamed tree -/

open Outline

mutual

theorem Expression.map_outline (ρ : String → String) :
    ∀ e : Expression ℓ, e.outline.map (Node.renameParams ρ) = e.outline
  | .path _ _ => rfl
  | .call c loc => by
      rw [Expression.outline, Outline.map, mapAll, mapAll, Outline.map,
        Call.mapAll_outlines ρ c]
      rfl
  | .literal _ _ => rfl

theorem Call.mapAll_outlines (ρ : String → String) :
    ∀ c : Call ℓ, mapAll (Node.renameParams ρ) c.outlines = c.outlines
  | ⟨callee, params, hash⟩ => by
      have hparams := Expression.mapAll_outlines ρ params
      rw [mapAll_eq_map] at hparams
      rw [Call.outlines, mapAll, Expression.map_outline ρ callee, mapAll_eq_map, List.map_append,
        hparams, List.map_singleton, Hash.map_outline ρ hash]

theorem Hash.map_outline (ρ : String → String) :
    ∀ h : Hash ℓ, h.outline.map (Node.renameParams ρ) = h.outline
  | ⟨pairs, _⟩ => by
      rw [Hash.outline, Outline.map, HashPair.mapAll_outlines ρ pairs]
      rfl

theorem Expression.mapAll_outlines (ρ : String → String) : ∀ es : List (Expression ℓ),
    mapAll (Node.renameParams ρ) (Expression.outlines es) = Expression.outlines es
  | [] => rfl
  | e :: rest => by
      rw [Expression.outlines, mapAll, Expression.map_outline ρ e,
        Expression.mapAll_outlines ρ rest]

theorem HashPair.mapAll_outlines (ρ : String → String) : ∀ ps : List (HashPair ℓ),
    mapAll (Node.renameParams ρ) (HashPair.outlines ps) = HashPair.outlines ps
  | [] => rfl
  | ⟨_, value, _⟩ :: rest => by
      rw [HashPair.outlines, mapAll, Expression.map_outline ρ value,
        HashPair.mapAll_outlines ρ rest]

end

theorem Mustache.map_outline (ρ : String → String) (m : Mustache ℓ) :
    m.outline.map (Node.renameParams ρ) = m.outline := by
  rw [Mustache.outline, Outline.map, Call.mapAll_outlines]
  rfl

theorem Modifier.map_outline (ρ : String → String) (m : Modifier ℓ) :
    m.outline.map (Node.renameParams ρ) = m.outline := by
  rw [Modifier.outline, Outline.map, Call.mapAll_outlines]
  rfl

theorem ConcatPart.map_outline (ρ : String → String) (part : ConcatPart ℓ) :
    part.outline.map (Node.renameParams ρ) = part.outline := by
  cases part with
  | text t => rfl
  | mustache m => exact Mustache.map_outline ρ m

theorem Attribute.map_outline (ρ : String → String) (a : Attribute ℓ) :
    a.outline.map (Node.renameParams ρ) = a.outline := by
  have hvalue : mapAll (Node.renameParams ρ) a.value.outlines = a.value.outlines := by
    rw [mapAll_eq_map]
    cases a.value with
    | text t => rfl
    | mustache m => rw [AttributeValue.outlines, List.map_singleton, Mustache.map_outline]
    | concat parts _ =>
        rw [AttributeValue.outlines, map_map_of_fixed (ConcatPart.map_outline ρ)]
  rw [Attribute.outline, Outline.map, hvalue]
  rfl

mutual

theorem Statement.outline_renameParams (ρ : String → String) :
    ∀ s : Statement ℓ, (s.renameParams ρ).outline = s.outline.map (Node.renameParams ρ)
  | .mustache m => by
      rw [Statement.outline, Outline.map, mapAll, mapAll, Mustache.map_outline]
      rfl
  | .block b => by
      rw [Statement.outline, Outline.map, mapAll, mapAll,
        ← BlockStatement.outline_renameParams ρ b]
      rfl
  | .element e => by
      rw [Statement.outline, Outline.map, mapAll, mapAll, ← Element.outline_renameParams ρ e]
      rfl
  | .text _ => rfl
  | .mustacheComment _ => rfl
  | .comment _ => rfl

theorem BlockStatement.outline_renameParams (ρ : String → String) :
    ∀ b : BlockStatement ℓ, (b.renameParams ρ).outline = b.outline.map (Node.renameParams ρ)
  | ⟨call, program, none, _⟩ => by
      have hcall := Call.mapAll_outlines ρ call
      rw [mapAll_eq_map] at hcall
      rw [BlockStatement.outline, Outline.map, mapAll_eq_map, List.map_append, hcall,
        List.map_singleton, ← Block.outline_renameParams ρ program]
      rfl
  | ⟨call, program, some inverse, _⟩ => by
      have hcall := Call.mapAll_outlines ρ call
      rw [mapAll_eq_map] at hcall
      rw [BlockStatement.outline, Outline.map, mapAll_eq_map, List.map_append, hcall,
        List.map_cons, List.map_singleton, ← Block.outline_renameParams ρ program,
        ← Block.outline_renameParams ρ inverse]
      rfl

theorem Block.outline_renameParams (ρ : String → String) :
    ∀ b : Block ℓ, (b.renameParams ρ).outline = b.outline.map (Node.renameParams ρ)
  | ⟨_, body, _⟩ => by
      rw [Block.outline, Outline.map, ← Statement.outlines_renameParams ρ body]
      rfl

theorem Element.outline_renameParams (ρ : String → String) :
    ∀ e : Element ℓ, (e.renameParams ρ).outline = e.outline.map (Node.renameParams ρ)
  | ⟨_, attributes, _, modifiers, comments, children, _, _⟩ => by
      rw [Element.outline, Outline.map, mapAll_eq_map, List.map_append, List.map_append,
        List.map_cons, map_map_of_fixed (Attribute.map_outline ρ),
        map_map_of_fixed (Modifier.map_outline ρ), map_map_of_fixed (fun c => rfl), Outline.map,
        ← Statement.outlines_renameParams ρ children]
      rfl

theorem Statement.outlines_renameParams (ρ : String → String) : ∀ ss : List (Statement ℓ),
    Statement.outlines (Statement.renameParamsAll ρ ss) =
      mapAll (Node.renameParams ρ) (Statement.outlines ss)
  | [] => rfl
  | s :: rest => by
      rw [Statement.renameParamsAll, Statement.outlines, Statement.outlines, mapAll,
        Statement.outline_renameParams ρ s, Statement.outlines_renameParams ρ rest]

end

theorem Template.outline_renameParams (ρ : String → String) (t : Template ℓ) :
    (t.renameParams ρ).outline = t.outline.map (Node.renameParams ρ) := by
  rw [Template.outline, Template.outline, Outline.map, ← Statement.outlines_renameParams]
  rfl

end TemplateScope
