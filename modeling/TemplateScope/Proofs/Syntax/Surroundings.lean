import TemplateScope.Proofs.Shadowing.Scoping
import TemplateScope.Proofs.Walk.Reach

/-!
# Scopes and what stands around them

Surroundings are a template out of which one scope is cut, and `fill` puts a scope back in. No node
that binds names is missed: wherever it stands in a template, its block params and its body fill
some surroundings (`exists_fill_of_occurs`).
-/

namespace TemplateScope

variable {ℓ : Type}

/-- A statement out of which a scope is cut. -/
inductive ScopeHolder (ℓ : Type) where
  | programOf (call : Call ℓ) (programLoc : ℓ) (inverse : Option (Block ℓ)) (loc : ℓ)
  /-- A block statement without its inverse, which it has. -/
  | inverseOf (call : Call ℓ) (program : Block ℓ) (inverseLoc loc : ℓ)
  | childrenOf (tag : String) (attributes : List (Attribute ℓ)) (modifiers : List (Modifier ℓ))
      (comments : List (Comment ℓ)) (selfClosing : Bool) (loc : ℓ)

def ScopeHolder.fill (names : List String) (body : List (Statement ℓ)) :
    ScopeHolder ℓ → Statement ℓ
  | .programOf call programLoc inverse loc =>
      .block ⟨call, ⟨names, body, programLoc⟩, inverse, loc⟩
  | .inverseOf call program inverseLoc loc =>
      .block ⟨call, program, some ⟨names, body, inverseLoc⟩, loc⟩
  | .childrenOf tag attributes modifiers comments selfClosing loc =>
      .element ⟨tag, attributes, names, modifiers, comments, body, selfClosing, loc⟩

/-- A template out of which a scope is cut. -/
inductive Surroundings (ℓ : Type) where
  | root (loc : ℓ)
  /-- The scope of a statement in the body of an outer scope, which binds names of its own. -/
  | inside (outer : Surroundings ℓ) (names : List String) (before : List (Statement ℓ))
      (holder : ScopeHolder ℓ) (after : List (Statement ℓ))

/-- The template that has a scope there with these block params and this body. -/
def Surroundings.fill (names : List String) (body : List (Statement ℓ)) :
    Surroundings ℓ → Template ℓ
  | .root loc => ⟨names, body, loc⟩
  | .inside outer outerNames before holder after =>
      outer.fill outerNames (before ++ holder.fill names body :: after)

/-! ## Where no scope is -/

/-- No node of the outline binds names. -/
inductive Outline.Scopeless : Outline ℓ → Prop where
  | node {n : Node ℓ} {os : List (Outline ℓ)} :
      n.frame? = none → (∀ o ∈ os, o.Scopeless) → Scopeless (.node n os)

theorem Outline.scopeless_leaf {n : Node ℓ} (h : n.frame? = none) :
    (Outline.node n []).Scopeless :=
  .node h nofun

mutual

theorem Expression.scopeless_outline : ∀ e : Expression ℓ, e.outline.Scopeless
  | .path _ _ => .node rfl (List.forall_mem_singleton.2 (Outline.scopeless_leaf rfl))
  | .call c _ => .node rfl (List.forall_mem_singleton.2 (.node rfl (Call.scopeless_outlines c)))
  | .literal _ _ => .node rfl (List.forall_mem_singleton.2 (Outline.scopeless_leaf rfl))

theorem Call.scopeless_outlines : ∀ c : Call ℓ, ∀ o ∈ c.outlines, o.Scopeless
  | ⟨callee, params, hash⟩ =>
      List.forall_mem_cons.2 ⟨Expression.scopeless_outline callee,
        List.forall_mem_append.2 ⟨Expression.scopeless_outlines params,
          List.forall_mem_singleton.2 (Hash.scopeless_outline hash)⟩⟩

theorem Hash.scopeless_outline : ∀ h : Hash ℓ, h.outline.Scopeless
  | ⟨pairs, _⟩ => .node rfl (HashPair.scopeless_outlines pairs)

theorem Expression.scopeless_outlines :
    ∀ es : List (Expression ℓ), ∀ o ∈ Expression.outlines es, o.Scopeless
  | [] => nofun
  | e :: rest =>
      List.forall_mem_cons.2 ⟨Expression.scopeless_outline e, Expression.scopeless_outlines rest⟩

theorem HashPair.scopeless_outlines :
    ∀ ps : List (HashPair ℓ), ∀ o ∈ HashPair.outlines ps, o.Scopeless
  | [] => nofun
  | ⟨_, value, _⟩ :: rest =>
      List.forall_mem_cons.2 ⟨Expression.scopeless_outline value, HashPair.scopeless_outlines rest⟩

end

theorem Mustache.scopeless_outline (m : Mustache ℓ) : m.outline.Scopeless :=
  .node rfl (Call.scopeless_outlines m.call)

theorem Modifier.scopeless_outline (m : Modifier ℓ) : m.outline.Scopeless :=
  .node rfl (Call.scopeless_outlines m.call)

theorem ConcatPart.scopeless_outline (part : ConcatPart ℓ) : part.outline.Scopeless := by
  cases part with
  | text t => exact Outline.scopeless_leaf rfl
  | mustache m => exact m.scopeless_outline

theorem Attribute.scopeless_outline (a : Attribute ℓ) : a.outline.Scopeless := by
  refine .node rfl ?_
  cases a.value with
  | text t => exact List.forall_mem_singleton.2 (Outline.scopeless_leaf rfl)
  | mustache m => exact List.forall_mem_singleton.2 m.scopeless_outline
  | concat parts _ => exact List.forall_mem_map.2 fun part _ => part.scopeless_outline

/-! ## Every scope has surroundings -/

/-- What stands somewhere in `t`: a part of one of its scopes, or nothing that has a scope in it. -/
inductive Template.Part (t : Template ℓ) : Outline ℓ → Prop where
  | whole : t.Part t.outline
  | statement {c : Surroundings ℓ} {names : List String} {before after : List (Statement ℓ)}
      {s : Statement ℓ} : t = c.fill names (before ++ s :: after) → t.Part s.outline
  | blockStatement {c : Surroundings ℓ} {names : List String} {before after : List (Statement ℓ)}
      {b : BlockStatement ℓ} : t = c.fill names (before ++ .block b :: after) → t.Part b.outline
  | block {c : Surroundings ℓ} {params : List String} {body : List (Statement ℓ)} (loc : ℓ) :
      t = c.fill params body → t.Part (Block.outline ⟨params, body, loc⟩)
  | element {c : Surroundings ℓ} {names : List String} {before after : List (Statement ℓ)}
      {e : Element ℓ} : t = c.fill names (before ++ .element e :: after) → t.Part e.outline
  | children {c : Surroundings ℓ} {e : Element ℓ} : t = c.fill e.blockParams e.children →
      t.Part (.node (.elementChildren e) (Statement.outlines e.children))
  | scopeless {o : Outline ℓ} : o.Scopeless → t.Part o

theorem Statement.outlines_eq_map (ss : List (Statement ℓ)) :
    Statement.outlines ss = ss.map Statement.outline := by
  induction ss with
  | nil => rfl
  | cons s rest ih => rw [Statement.outlines, ih, List.map_cons]

theorem Template.part_of_mem_body {t : Template ℓ} {c : Surroundings ℓ} {names : List String}
    {body : List (Statement ℓ)} (ht : t = c.fill names body) {o : Outline ℓ}
    (ho : o ∈ Statement.outlines body) : t.Part o := by
  rw [Statement.outlines_eq_map] at ho
  obtain ⟨s, hs, rfl⟩ := List.mem_map.1 ho
  obtain ⟨before, after, rfl⟩ := List.append_of_mem hs
  exact .statement ht

theorem Template.Part.child {t : Template ℓ} {n : Node ℓ} {os : List (Outline ℓ)}
    (h : t.Part (.node n os)) {o : Outline ℓ} (ho : o ∈ os) : t.Part o := by
  generalize hnode : Outline.node n os = root at h
  cases h with
  | whole =>
      cases hnode
      exact part_of_mem_body (c := .root t.loc) rfl ho
  | @statement c names before after s ht =>
      cases s with
      | block b =>
          cases hnode
          rw [List.mem_singleton.1 ho]
          exact .blockStatement ht
      | element e =>
          cases hnode
          rw [List.mem_singleton.1 ho]
          exact .element ht
      | mustache m =>
          cases hnode
          rw [List.mem_singleton.1 ho]
          exact .scopeless m.scopeless_outline
      | _ =>
          cases hnode
          rw [List.mem_singleton.1 ho]
          exact .scopeless (Outline.scopeless_leaf rfl)
  | @blockStatement c names before after b ht =>
      obtain ⟨call, ⟨params, body, programLoc⟩, inverse, loc⟩ := b
      have hcall : ∀ o ∈ call.outlines, t.Part o := fun o ho =>
        .scopeless (Call.scopeless_outlines call o ho)
      have hprogram : t.Part (Block.outline ⟨params, body, programLoc⟩) :=
        .block (c := c.inside names before (.programOf call programLoc inverse loc) after)
          programLoc ht
      cases inverse with
      | none =>
          cases hnode
          rcases List.mem_append.1 ho with ho | ho
          · exact hcall o ho
          · exact List.mem_singleton.1 ho ▸ hprogram
      | some inverse =>
          cases hnode
          rcases List.mem_append.1 ho with ho | ho
          · exact hcall o ho
          · rcases List.mem_cons.1 ho with rfl | ho
            · exact hprogram
            · obtain ⟨params', body', inverseLoc⟩ := inverse
              rw [List.mem_singleton.1 ho]
              exact .block (c := c.inside names before
                (.inverseOf call ⟨params, body, programLoc⟩ inverseLoc loc) after) inverseLoc ht
  | block _ ht =>
      cases hnode
      exact part_of_mem_body ht ho
  | @element c names before after e ht =>
      obtain ⟨tag, attributes, params, modifiers, comments, children, selfClosing, loc⟩ := e
      cases hnode
      rcases List.mem_append.1 ho with ho | ho
      · obtain ⟨a, _, rfl⟩ := List.mem_map.1 ho
        exact .scopeless a.scopeless_outline
      · rcases List.mem_append.1 ho with ho | ho
        · obtain ⟨m, _, rfl⟩ := List.mem_map.1 ho
          exact .scopeless m.scopeless_outline
        · rcases List.mem_cons.1 ho with rfl | ho
          · exact .children (c := c.inside names before
              (.childrenOf tag attributes modifiers comments selfClosing loc) after) ht
          · obtain ⟨comment, _, rfl⟩ := List.mem_map.1 ho
            exact .scopeless (Outline.scopeless_leaf rfl)
  | children ht =>
      cases hnode
      exact part_of_mem_body ht ho
  | scopeless hnone =>
      cases hnode
      cases hnone with
      | node _ hbelow => exact .scopeless (hbelow o ho)

theorem Template.part_of_occurs {t : Template ℓ} {above : List (Node ℓ)} {o : Outline ℓ}
    (h : t.outline.Occurs above o) : t.Part o := by
  induction h with
  | root => exact .whole
  | child _ ho ih => exact ih.child ho

/-- A node that binds names is a scope of the template, wherever it stands: cut out and filled in
again it gives the template back, and below it is the body of the scope. -/
theorem exists_fill_of_occurs {t : Template ℓ} {above : List (Node ℓ)} {n : Node ℓ}
    {os : List (Outline ℓ)} (h : t.outline.Occurs above (.node n os)) {names : List String}
    (hn : n.frame? = some names) :
    ∃ (c : Surroundings ℓ) (body : List (Statement ℓ)),
      t = c.fill names body ∧ os = Statement.outlines body := by
  have hpart := Template.part_of_occurs h
  generalize hnode : Outline.node n os = root at hpart
  cases hpart with
  | whole =>
      cases hnode
      cases hn
      exact ⟨.root t.loc, t.body, rfl, rfl⟩
  | @statement _ _ _ _ s ht =>
      cases s <;> cases hnode <;> cases hn
  | @blockStatement _ _ _ _ b ht =>
      obtain ⟨_, _, _ | _, _⟩ := b <;> cases hnode <;> cases hn
  | block _ ht =>
      cases hnode
      cases hn
      exact ⟨_, _, ht, rfl⟩
  | @element _ _ _ _ e ht =>
      obtain ⟨_, _, _, _, _, _, _, _⟩ := e
      cases hnode
      cases hn
  | children ht =>
      cases hnode
      cases hn
      exact ⟨_, _, ht, rfl⟩
  | scopeless hnone =>
      cases hnode
      cases hnone with
      | node hframe _ => exact nomatch hframe.symm.trans hn

end TemplateScope
